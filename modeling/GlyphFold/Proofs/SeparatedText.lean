import Mathlib.Algebra.Group.Nat.Even
import GlyphFold.Proofs.TextOccurrences

/-!
# Text in separate parts

A character that is in no source and in no word keeps what stands on its two sides apart: no match
runs across it, and next to it a word ends as it does at an end of the text. Where the quotes before
it are closed as well, text mode folds the two sides as if each were a text of its own.

1. `Region.shift`, `Span.shift`: the same place in a text that has more before it
2. `Munch.append`, `Munch.shift`: the walk over two separate parts is the walk over each
3. `quotedSpans_lineFeed`, `quotedSpans_quotes`: closed quotes before a part do not reach into it
4. `resolveText_append_of_even`: line feeds and quoted parts separate what text mode finds
-/

namespace GlyphFold

open Text (byteSize byteSize_append byteSize_cons byteSize_nil isWord wordBoundary)

/-! ## Places behind more text -/

/-- The region in a text with `n` more bytes at its start. -/
def Region.shift (n : Nat) (f : Region) : Region :=
  { f with
    start := f.start + n
    stop := f.stop + n
    start_le_stop := Nat.add_le_add_right f.start_le_stop n }

def Span.shift (n : Nat) (s : Span) : Span := ⟨s.start + n, s.stop + n⟩

theorem Region.range_shift (n : Nat) (f : Region) : (f.shift n).range = f.range.shift n := rfl

theorem Region.shift_shift (m n : Nat) (f : Region) : (f.shift m).shift n = f.shift (m + n) := by
  simp only [shift, Nat.add_assoc]

theorem Region.shift_token {start stop : Nat} (h : start ≤ stop) (n : Nat) (glyph : String) :
    (token ⟨start, stop⟩ glyph).shift n = token ⟨start + n, stop + n⟩ glyph := by
  simp only [shift, token, ofRange, Nat.min_eq_left, Nat.max_eq_right, h, Nat.add_le_add_right h n]

theorem Span.holds_shift (n : Nat) (s range : Span) :
    (s.shift n).holds (range.shift n) = s.holds range := by
  simp only [holds, shift, Nat.add_le_add_iff_right]

/-! ## Separators -/

/-- The character is in no source of the table, and it is no word character. -/
structure Separates (t : Table) (x : Char) : Prop where
  notIn_source : ∀ s m, t.find? s = some m → x ∉ s.toList
  not_isWord : isWord x = false

/-- Whether a source is fenced depends on its neighbours only in so far as they are word characters. -/
theorem fenced_congr {before before' own after after' : List Char} (hown : own ≠ [])
    (hbefore : before.getLast?.any isWord = before'.getLast?.any isWord)
    (hafter : after.head?.any isWord = after'.head?.any isWord) :
    Fenced before own after ↔ Fenced before' own after' := by
  obtain ⟨c, cs, rfl⟩ := List.exists_cons_of_ne_nil hown
  have hstarts : boundaryBetween before (c :: cs ++ after) =
      boundaryBetween before' (c :: cs ++ after') := by
    simp only [boundaryBetween, wordBoundary, hbefore, List.cons_append, List.head?_cons]
  have hends : boundaryBetween (before ++ c :: cs) after =
      boundaryBetween (before' ++ c :: cs) after' := by
    simp only [boundaryBetween, wordBoundary, hafter, List.getLast?_append, List.getLast?_cons,
      Option.some_or]
  constructor
  · intro h
    exact ⟨hstarts ▸ h.starts, hends ▸ h.ends⟩
  · intro h
    exact ⟨hstarts ▸ h.starts, hends ▸ h.ends⟩

section Separated

variable {t : Table} (ht : t.Consistent)

include ht

theorem admissible_congr {before before' after after' : List Char} {m : Mapping}
    (hbefore : before.getLast?.any isWord = before'.getLast?.any isWord)
    (hafter : after.head?.any isWord = after'.head?.any isWord) :
    Admissible t before m after ↔ Admissible t before' m after' := by
  constructor
  · rintro ⟨hm, hc, hfenced⟩
    exact ⟨hm, hc, (fenced_congr (ht.source_ne_nil hm) hbefore hafter).1 hfenced⟩
  · rintro ⟨hm, hc, hfenced⟩
    exact ⟨hm, hc, (fenced_congr (ht.source_ne_nil hm) hbefore hafter).2 hfenced⟩

variable {x : Char} (hx : Separates t x)

include hx

theorem admissible_append_iff {before after b : List Char} {m : Mapping} :
    Admissible t before m (after ++ x :: b) ↔ Admissible t before m after := by
  refine admissible_congr ht rfl ?_
  cases after with
  | nil => simp [hx.not_isWord]
  | cons c cs => rfl

/-- A source that is admissible in front of a separator ends in front of it. -/
theorem Admissible.in_front {before a b after' : List Char} {m : Mapping}
    (hm : Admissible t before m after') (hcs : a ++ x :: b = m.source.toList ++ after') :
    ∃ after, a = m.source.toList ++ after ∧ Admissible t before m after := by
  have hnot := hx.notIn_source _ _ hm.found
  rcases List.append_eq_append_iff.1 hcs with ⟨rest, hsource, hrest⟩ | ⟨after, ha, hafter⟩
  · cases rest with
    | nil =>
      refine ⟨[], by rw [hsource, List.append_nil, List.append_nil], ?_⟩
      rw [List.nil_append] at hrest
      exact (admissible_append_iff ht hx).1 (hrest ▸ hm)
    | cons c rest =>
      obtain ⟨rfl, -⟩ := List.cons.inj hrest
      exact absurd (hsource ▸ List.mem_append_right a List.mem_cons_self) hnot
  · exact ⟨after, ha, (admissible_append_iff ht hx).1 (hafter ▸ hm)⟩

/-- The walk over a text and the walk behind a separator after it make the walk over the whole. -/
theorem Munch.append {before a b : List Char} {out out' : List Region} (h : Munch t before a out)
    (h' : Munch t (before ++ a ++ [x]) b out') : Munch t before (a ++ x :: b) (out ++ out') := by
  induction h with
  | done before =>
    rw [List.append_nil] at h'
    refine .pass (fun m after hcs hm => ?_) h'
    obtain ⟨after, hnil, -⟩ := hm.in_front ht hx (a := []) hcs
    exact ht.source_ne_nil hm.found (List.append_eq_nil_iff.1 hnil.symm).1
  | @fold before cs after m out hcs hm longest _ ih =>
    subst hcs
    refine .fold (List.append_assoc ..) ((admissible_append_iff ht hx).2 hm) ?_ ?_
    · intro m' after' hcs' hm'
      obtain ⟨after, hsplit, hadm⟩ := hm'.in_front ht hx hcs'
      exact longest m' after hsplit hadm
    · rw [← List.append_assoc before] at h'
      exact ih h'
  | @pass before after c out hnone _ ih =>
    refine .pass (fun m after' hcs' hm' => ?_) (ih ?_)
    · obtain ⟨after, hsplit, hadm⟩ := hm'.in_front ht hx (a := c :: after) hcs'
      exact hnone m after hsplit hadm
    · rwa [List.append_cons before] at h'

omit hx in
/-- The walk is the same behind more text that does not end in a word. -/
theorem Munch.shift {lead before cs : List Char} {out : List Region}
    (hlead : lead.getLast?.any isWord = false) (h : Munch t before cs out) :
    Munch t (lead ++ before) cs (out.map (Region.shift (byteSize lead))) := by
  have hadm : ∀ {before after m}, Admissible t (lead ++ before) m after ↔
      Admissible t before m after := by
    intro before after m
    refine admissible_congr ht ?_ rfl
    cases before with
    | nil => simp [hlead]
    | cons c cs => simp [List.getLast?_append, List.getLast?_cons]
  induction h with
  | done before => exact .done _
  | @fold before cs after m out hcs hm longest _ ih =>
    rw [List.map_cons, Region.shift_token (Nat.le_add_right _ _), Nat.add_right_comm,
      Nat.add_comm (byteSize before), ← byteSize_append]
    rw [← List.append_assoc] at ih
    exact .fold hcs (hadm.2 hm) (fun m' after' hcs' hm' => longest m' after' hcs' (hadm.1 hm')) ih
  | @pass before after c out hnone _ ih =>
    rw [← List.append_assoc] at ih
    exact .pass (fun m after' hcs' hm' => hnone m after' hcs' (hadm.1 hm')) ih

/-- The walk over two parts with a separator in between. -/
theorem Munch.separated {a b : List Char} {out out' : List Region} (h : Munch t [] a out)
    (h' : Munch t [] b out') : Munch t [] (a ++ x :: b)
      (out ++ out'.map (Region.shift (byteSize a + x.utf8Size))) := by
  have hlead : (a ++ [x]).getLast?.any isWord = false := by
    rw [List.getLast?_concat, Option.any_some, hx.not_isWord]
  have hshift := h'.shift ht hlead
  rw [List.append_nil, byteSize_append, byteSize_cons, byteSize_nil, Nat.add_zero] at hshift
  exact h.append ht hx hshift

end Separated

/-! ## Quoted spans -/

theorem quotedSpansFrom_shift (n : Nat) (cs : List Char) (offset : Nat) (opening : Option Nat) :
    quotedSpansFrom (offset + n) (opening.map (· + n)) cs =
      (quotedSpansFrom offset opening cs).map (Span.shift n) := by
  induction cs generalizing offset opening with
  | nil => cases opening <;> rfl
  | cons c cs ih =>
    cases opening with
    | none =>
      have := ih (offset + c.utf8Size) (if c = '"' then some offset else none)
      rw [Nat.add_right_comm, apply_ite (Option.map (· + n))] at this
      exact this
    | some q =>
      simp only [quotedSpansFrom, Option.map_some]
      by_cases hc : c = '"'
      · rw [if_pos hc, if_pos hc, List.map_cons, ← ih (offset + 1) none]
        simp only [Span.shift, Option.map_none, Nat.add_right_comm]
      · rw [if_neg hc, if_neg hc, ← ih (offset + c.utf8Size) (some q), Nat.add_right_comm]
        rfl

/-- Behind an even number of quotes none is open, one that was open before counted in. -/
theorem quotedSpansFrom_append (a b : List Char) (offset : Nat) (opening : Option Nat)
    (heven : Even (a.count '"' + opening.toList.length)) :
    quotedSpansFrom offset opening (a ++ b) =
      quotedSpansFrom offset opening a ++ quotedSpansFrom (offset + byteSize a) none b := by
  induction a generalizing offset opening with
  | nil =>
    cases opening with
    | none => rfl
    | some q => exact absurd heven (by simp)
  | cons c a ih =>
    rw [List.cons_append, byteSize_cons, ← Nat.add_assoc]
    cases opening with
    | none =>
      refine ih (offset + c.utf8Size) (if c = '"' then some offset else none) ?_
      by_cases hc : c = '"'
      · simpa [hc, List.count_cons] using heven
      · simpa [hc, List.count_cons] using heven
    | some q =>
      simp only [quotedSpansFrom]
      by_cases hc : c = '"'
      · subst hc
        rw [if_pos rfl, if_pos rfl, List.cons_append]
        refine congrArg _ (ih (offset + 1) none ?_)
        simpa [Nat.even_add_one] using heven
      · rw [if_neg hc, if_neg hc]
        refine ih (offset + c.utf8Size) (some q) ?_
        simpa [hc, List.count_cons] using heven

/-- Text without a quote goes into the span of the quote that is open. -/
theorem quotedSpansFrom_open {q : List Char} (hq : '"' ∉ q) (b : List Char) (offset opening : Nat) :
    quotedSpansFrom offset (some opening) (q ++ '"' :: b) =
      ⟨opening, offset + byteSize q + 1⟩ :: quotedSpansFrom (offset + byteSize q + 1) none b := by
  induction q generalizing offset with
  | nil => rfl
  | cons c q ih =>
    rw [List.mem_cons, not_or] at hq
    rw [List.cons_append, quotedSpansFrom, if_neg (Ne.symm hq.1), ih hq.2, byteSize_cons,
      ← Nat.add_assoc]

theorem quotedSpansFrom_eq_nil {cs : List Char} (h : '"' ∉ cs) (offset : Nat)
    {opening : Option Nat} : quotedSpansFrom offset opening cs = [] := by
  induction cs generalizing offset with
  | nil => cases opening <;> rfl
  | cons c cs ih =>
    rw [List.mem_cons, not_or] at h
    cases opening with
    | none => rw [quotedSpansFrom, if_neg (Ne.symm h.1), ih h.2]
    | some q => rw [quotedSpansFrom, if_neg (Ne.symm h.1), ih h.2]

theorem stop_le_of_mem_quotedSpansFrom {cs : List Char} {offset : Nat} {opening : Option Nat}
    {s : Span} (hs : s ∈ quotedSpansFrom offset opening cs) : s.stop ≤ offset + byteSize cs := by
  induction cs generalizing offset opening with
  | nil => cases opening <;> cases hs
  | cons c cs ih =>
    rw [byteSize_cons, ← Nat.add_assoc]
    cases opening with
    | none => exact ih hs
    | some q =>
      rw [quotedSpansFrom] at hs
      split at hs
      · next hc =>
        subst hc
        rcases List.mem_cons.1 hs with rfl | hs
        · exact Nat.le_add_right _ _
        · exact ih hs
      · exact ih hs

theorem toList_lineFeed (s₁ s₂ : String) :
    (s₁ ++ "\n" ++ s₂).toList = s₁.toList ++ '\n' :: s₂.toList := by simp

theorem toList_quotes (s₁ q s₂ : String) : (s₁ ++ "\"" ++ q ++ "\"" ++ s₂).toList =
    s₁.toList ++ '"' :: (q.toList ++ '"' :: s₂.toList) := by simp

section Quotes

variable (s₁ s₂ : String) (heven : Even (s₁.toList.count '"'))

include heven

theorem quotedSpans_lineFeed : quotedSpans (s₁ ++ "\n" ++ s₂) =
    quotedSpans s₁ ++ (quotedSpans s₂).map (Span.shift (byteSize s₁.toList + 1)) := by
  have hshift := quotedSpansFrom_shift (byteSize s₁.toList + 1) s₂.toList 0 none
  unfold quotedSpans
  rw [toList_lineFeed, quotedSpansFrom_append _ _ 0 none heven, ← hshift, Nat.zero_add, Nat.zero_add]
  rfl

theorem quotedSpans_quotes {q : String} (hq : '"' ∉ q.toList) :
    quotedSpans (s₁ ++ "\"" ++ q ++ "\"" ++ s₂) =
      quotedSpans s₁ ++ ⟨byteSize s₁.toList, byteSize s₁.toList + byteSize q.toList + 2⟩ ::
        (quotedSpans s₂).map (Span.shift (byteSize s₁.toList + byteSize q.toList + 2)) := by
  have hshift := quotedSpansFrom_shift (byteSize s₁.toList + byteSize q.toList + 2) s₂.toList 0 none
  have hopen : quotedSpansFrom (0 + byteSize s₁.toList) none
        ('"' :: (q.toList ++ '"' :: s₂.toList)) =
      quotedSpansFrom (byteSize s₁.toList + 1) (some (byteSize s₁.toList))
        (q.toList ++ '"' :: s₂.toList) := by
    rw [Nat.zero_add]
    rfl
  unfold quotedSpans
  rw [toList_quotes, quotedSpansFrom_append _ _ 0 none heven, hopen, quotedSpansFrom_open hq, ← hshift,
    Nat.zero_add, Nat.add_right_comm (byteSize s₁.toList) 1]
  rfl

end Quotes

/-! ## Regions outside of quotes -/

/-- The regions that none of the spans holds. -/
def unquoted (spans : List Span) (out : List Region) : List Region :=
  out.filter fun f => !spans.any (·.holds f.range)

theorem unquoted_append (spans : List Span) (out out' : List Region) :
    unquoted spans (out ++ out') = unquoted spans out ++ unquoted spans out' :=
  List.filter_append ..

theorem unquoted_shift (n : Nat) (spans : List Span) (out : List Region) :
    unquoted (spans.map (Span.shift n)) (out.map (Region.shift n)) =
      (unquoted spans out).map (Region.shift n) := by
  unfold unquoted
  rw [List.filter_map]
  simp only [Function.comp_def, List.any_map, Region.range_shift, Span.holds_shift]

theorem any_holds_eq_false {spans : List Span} {f : Region}
    (h : ∀ s ∈ spans, f.start < s.start ∨ s.stop < f.stop) :
    spans.any (·.holds f.range) = false := by
  refine List.any_eq_false.2 fun s hs hholds => ?_
  obtain ⟨hstart, hstop⟩ : s.start ≤ f.start ∧ f.stop ≤ s.stop := Span.holds_iff.1 hholds
  have hout := h s hs
  omega

/-- Spans that start behind the start of a region do not hold it. -/
theorem unquoted_of_later {spans later : List Span} {out : List Region}
    (h : ∀ f ∈ out, ∀ s ∈ later, f.start < s.start) :
    unquoted (spans ++ later) out = unquoted spans out := by
  refine List.filter_congr fun f hf => ?_
  have hlater := any_holds_eq_false fun s hs => .inl (h f hf s hs)
  rw [List.any_append, hlater, Bool.or_false]

/-- Spans that stop before the end of a region do not hold it. -/
theorem unquoted_of_earlier {earlier spans : List Span} {out : List Region}
    (h : ∀ f ∈ out, ∀ s ∈ earlier, s.stop < f.stop) :
    unquoted (earlier ++ spans) out = unquoted spans out := by
  refine List.filter_congr fun f hf => ?_
  have hearlier := any_holds_eq_false fun s hs => .inr (h f hf s hs)
  rw [List.any_append, hearlier, Bool.false_or]

theorem unquoted_eq_nil {spans : List Span} {out : List Region} {s : Span} (hs : s ∈ spans)
    (h : ∀ f ∈ out, s.start ≤ f.start ∧ f.stop ≤ s.stop) : unquoted spans out = [] := by
  refine List.filter_eq_nil_iff.2 fun f hf => ?_
  have hany : spans.any (·.holds f.range) = true :=
    List.any_eq_true.2 ⟨s, hs, Span.holds_iff.2 (h f hf)⟩
  rw [hany]
  exact Bool.false_ne_true

/-- Of the regions in front of a span, inside of it and behind it the first know only the spans
before it, and the last only those behind it. -/
theorem unquoted_around {earlier later : List Span} {s : Span} {front inner back : List Region}
    (hfront : ∀ f ∈ front, ∀ s' ∈ s :: later, f.start < s'.start)
    (hinner : ∀ f ∈ inner, s.start ≤ f.start ∧ f.stop ≤ s.stop)
    (hback : ∀ f ∈ back, ∀ s' ∈ earlier ++ [s], s'.stop < f.stop) :
    unquoted (earlier ++ s :: later) (front ++ (inner ++ back)) =
      unquoted earlier front ++ unquoted later back := by
  have hs : s ∈ earlier ++ s :: later := List.mem_append_right earlier List.mem_cons_self
  rw [unquoted_append, unquoted_append, unquoted_of_later hfront, unquoted_eq_nil hs hinner,
    List.nil_append, List.append_cons, unquoted_of_earlier hback]

/-! ## Text mode -/

namespace Resolver

section Parts

variable {engine : Engine} {t : Table} {ev : Evaluator} {r : Resolver} (ht : t.Consistent)
  (hr : new engine t ev = .ok r)

include ht hr

theorem resolveText_eq_unquoted {text : String} {out : List Region}
    (h : Munch t [] text.toList out) : r.resolveText text = unquoted (quotedSpans text) out := by
  obtain ⟨out', hout', htext⟩ := exists_munch ht hr text
  rw [htext, h.unique ht hout']
  rfl

omit hr in
/-- Regions of the walk over a text end inside of it, and not at its start. -/
theorem bounds_of_munch {text : String} {out : List Region} (h : Munch t [] text.toList out)
    {f : Region} (hf : f ∈ out) : f.start < f.stop ∧ f.stop ≤ byteSize text.toList :=
  ⟨(h.inOrder ht).nonempty f hf, ((h.inOrder ht).boundaries f hf).2.le_byteSize⟩

variable (s₁ s₂ : String) (heven : Even (s₁.toList.count '"'))

include heven

theorem resolveText_lineFeed (hfeed : Separates t '\n') :
    r.resolveText (s₁ ++ "\n" ++ s₂) =
      r.resolveText s₁ ++ (r.resolveText s₂).map (Region.shift (byteSize s₁.toList + 1)) := by
  obtain ⟨out₁, hout₁, -⟩ := exists_munch ht hr s₁
  obtain ⟨out₂, hout₂, -⟩ := exists_munch ht hr s₂
  have hwhole : Munch t [] (s₁ ++ "\n" ++ s₂).toList
      (out₁ ++ out₂.map (Region.shift (byteSize s₁.toList + 1))) := by
    rw [toList_lineFeed]
    exact hout₁.separated ht hfeed hout₂
  rw [resolveText_eq_unquoted ht hr hwhole, resolveText_eq_unquoted ht hr hout₁,
    resolveText_eq_unquoted ht hr hout₂, quotedSpans_lineFeed s₁ s₂ heven, unquoted_append,
    unquoted_of_later, unquoted_of_earlier, unquoted_shift]
  · intro f hf s hs
    obtain ⟨f, -, rfl⟩ := List.mem_map.1 hf
    have hstop := stop_le_of_mem_quotedSpansFrom hs
    show s.stop < f.stop + (byteSize s₁.toList + 1)
    omega
  · intro f hf s hs
    obtain ⟨s, -, rfl⟩ := List.mem_map.1 hs
    obtain ⟨hlt, hstop⟩ := bounds_of_munch ht hout₁ hf
    show f.start < s.start + (byteSize s₁.toList + 1)
    omega

theorem resolveText_quotes (hquote : Separates t '"') {q : String} (hq : '"' ∉ q.toList) :
    r.resolveText (s₁ ++ "\"" ++ q ++ "\"" ++ s₂) =
      r.resolveText s₁ ++ (r.resolveText s₂).map
        (Region.shift (byteSize s₁.toList + byteSize q.toList + 2)) := by
  obtain ⟨out₁, hout₁, -⟩ := exists_munch ht hr s₁
  obtain ⟨out₂, hout₂, -⟩ := exists_munch ht hr s₂
  obtain ⟨inner, hinner, -⟩ := exists_munch ht hr q
  have hwhole : Munch t [] (s₁ ++ "\"" ++ q ++ "\"" ++ s₂).toList
      (out₁ ++ (inner.map (Region.shift (byteSize s₁.toList + 1)) ++
        out₂.map (Region.shift (byteSize s₁.toList + byteSize q.toList + 2)))) := by
    have hparts := hout₁.separated ht hquote (hinner.separated ht hquote hout₂)
    have hshift : Region.shift (byteSize s₁.toList + 1) ∘ Region.shift (byteSize q.toList + 1) =
        Region.shift (byteSize s₁.toList + byteSize q.toList + 2) := by
      funext f
      show (f.shift (byteSize q.toList + 1)).shift (byteSize s₁.toList + 1) = _
      rw [Region.shift_shift]
      congr 1
      omega
    rw [toList_quotes]
    rwa [← hshift, ← List.map_map, ← List.map_append]
  rw [resolveText_eq_unquoted ht hr hwhole, resolveText_eq_unquoted ht hr hout₁,
    resolveText_eq_unquoted ht hr hout₂, quotedSpans_quotes s₁ s₂ heven hq, unquoted_around,
    unquoted_shift]
  · intro f hf s hs
    obtain ⟨hlt, hstop⟩ := bounds_of_munch ht hout₁ hf
    rcases List.mem_cons.1 hs with rfl | hs
    · show f.start < byteSize s₁.toList
      omega
    · obtain ⟨s, -, rfl⟩ := List.mem_map.1 hs
      show f.start < s.start + (byteSize s₁.toList + byteSize q.toList + 2)
      omega
  · intro f hf
    obtain ⟨f, hf', rfl⟩ := List.mem_map.1 hf
    have hstop := (bounds_of_munch ht hinner hf').2
    show byteSize s₁.toList ≤ f.start + (byteSize s₁.toList + 1) ∧
      f.stop + (byteSize s₁.toList + 1) ≤ byteSize s₁.toList + byteSize q.toList + 2
    omega
  · intro f hf s hs
    obtain ⟨f, hf', rfl⟩ := List.mem_map.1 hf
    have hpos := (bounds_of_munch ht hout₂ hf').1
    show s.stop < f.stop + (byteSize s₁.toList + byteSize q.toList + 2)
    rcases List.mem_append.1 hs with hs | hs
    · have hstop := stop_le_of_mem_quotedSpansFrom hs
      omega
    · rw [List.mem_singleton.1 hs]
      show byteSize s₁.toList + byteSize q.toList + 2 < _
      omega

end Parts

/-- **Separate parts.** With a table whose sources are free of double quotes and line feeds, a text
whose quotes are all closed folds the same in front of a line feed or of a quoted part, and what is
behind folds as a text of its own. Between the quotes nothing folds, whatever is there. -/
theorem resolveText_append_of_even (engine : Engine) (edits : List Table.Edit) (ev : Evaluator)
    {r : Resolver} (hr : new engine (Table.empty.run edits) ev = .ok r)
    (hfree : ∀ s m, (Table.empty.run edits).find? s = some m → '"' ∉ s.toList ∧ '\n' ∉ s.toList)
    (s₁ s₂ : String) (heven : Even (s₁.toList.count '"')) :
    r.resolveText (s₁ ++ "\n" ++ s₂) =
      r.resolveText s₁ ++ (r.resolveText s₂).map (Region.shift (byteSize s₁.toList + 1)) ∧
    ∀ q : String, '"' ∉ q.toList →
      r.resolveText (s₁ ++ "\"" ++ q ++ "\"" ++ s₂) =
        r.resolveText s₁ ++ (r.resolveText s₂).map
          (Region.shift (byteSize s₁.toList + byteSize q.toList + 2)) ∧
      ∀ f ∈ r.resolveText (s₁ ++ "\"" ++ q ++ "\"" ++ s₂),
        f.stop ≤ byteSize s₁.toList ∨ byteSize s₁.toList + byteSize q.toList + 2 ≤ f.start := by
  have ht := Table.consistent_run edits
  have hquote : Separates (Table.empty.run edits) '"' := ⟨fun s m hm => (hfree s m hm).1, rfl⟩
  have hfeed : Separates (Table.empty.run edits) '\n' := ⟨fun s m hm => (hfree s m hm).2, rfl⟩
  refine ⟨resolveText_lineFeed ht hr s₁ s₂ heven hfeed, fun q hq => ?_⟩
  have hparts := resolveText_quotes ht hr s₁ s₂ heven hquote hq
  refine ⟨hparts, fun f hf => ?_⟩
  rw [hparts] at hf
  rcases List.mem_append.1 hf with hf | hf
  · exact .inl ((inOrder_resolveText ht hr s₁).boundaries f hf).2.le_byteSize
  · obtain ⟨f, -, rfl⟩ := List.mem_map.1 hf
    exact .inr (Nat.le_add_left _ _)

/-- Of three comparisons the one in quotes does not fold, with a line feed in the quotes or without. -/
theorem resolveText_quoted_comparison :
    (∀ s m, (Table.empty.run comparisonEdits).find? s = some m → '"' ∉ s.toList ∧ '\n' ∉ s.toList) ∧
    Even ("a<=\"<\"".toList.count '"') ∧ '"' ∉ "x<=\ny".toList ∧
    ∃ r, new .willing (Table.empty.run comparisonEdits) .builtin = .ok r ∧
      r.resolveText ("a<=\"<\"" ++ "\"" ++ "x<=\ny" ++ "\"" ++ "<=b") =
        [.token ⟨1, 3⟩ "≤", .token ⟨13, 15⟩ "≤"] := by
  have ht := Table.consistent_run comparisonEdits
  have hall : ∀ m ∈ (Table.empty.run comparisonEdits).all,
      '"' ∉ m.source.toList ∧ '\n' ∉ m.source.toList := by decide +kernel
  have hfree : ∀ s m, (Table.empty.run comparisonEdits).find? s = some m →
      '"' ∉ s.toList ∧ '\n' ∉ s.toList := by
    intro s m hm
    obtain ⟨hmem, rfl⟩ := (Table.find?_eq_some_iff ht).1 hm
    exact hall m hmem
  have heven : Even ("a<=\"<\"".toList.count '"') := by decide +kernel
  have hq : '"' ∉ "x<=\ny".toList := by decide +kernel
  have hpattern : Pattern.ofTable (Table.empty.run comparisonEdits) = .ofSources ["<not", "<=", "<"] :=
    Pattern.ofTable_eq_ofSources (by decide +kernel) (by decide +kernel)
  refine ⟨hfree, heven, hq, _, rfl, ?_⟩
  have happend := resolveText_append_of_even .willing comparisonEdits .builtin rfl hfree _ "<=b" heven
  rw [(happend.2 _ hq).1, hpattern]
  decide +kernel

end Resolver

end GlyphFold
