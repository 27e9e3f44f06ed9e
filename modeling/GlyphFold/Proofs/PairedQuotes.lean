import GlyphFold.Proofs.QuotedText
import GlyphFold.Proofs.SeparatedText

/-!
# Pairs of quotes

The quotes of a text are paired in order, and what stands between the two of a pair is quoted.

1. `quoteOffsets`: where the quotes of a text are (`mem_quoteOffsetsFrom_iff`,
   `quoteOffsetsFrom_increasing`)
2. `quotedSpansFrom_eq_paired`: the quoted spans are those of the quotes taken two by two
3. `Searched`: what a search from left to right finds, which is the same spans (`searched_iff`)
4. `quotedSpans_pairs`: all of it, with the test whether a range is quoted
-/

namespace GlyphFold

open Text

/-! ## Quotes -/

/-- The offsets of the double quotes of a text that starts at `offset`. -/
def quoteOffsetsFrom : (offset : Nat) → List Char → List Nat
  | _, [] => []
  | offset, c :: cs =>
    if c = '"' then offset :: quoteOffsetsFrom (offset + c.utf8Size) cs
    else quoteOffsetsFrom (offset + c.utf8Size) cs

def quoteOffsets (text : String) : List Nat := quoteOffsetsFrom 0 text.toList

theorem mem_quoteOffsetsFrom_iff {offset n : Nat} {cs : List Char} :
    n ∈ quoteOffsetsFrom offset cs ↔
      ∃ before after, cs = before ++ '"' :: after ∧ offset + byteSize before = n := by
  induction cs generalizing offset with
  | nil => simp [quoteOffsetsFrom]
  | cons c cs ih =>
    have hbehind : n ∈ quoteOffsetsFrom (offset + c.utf8Size) cs ↔ ∃ before after,
        c :: cs = (c :: before) ++ '"' :: after ∧ offset + byteSize (c :: before) = n := by
      simp only [ih, List.cons_append, List.cons.injEq, true_and, byteSize_cons, Nat.add_assoc]
    rw [quoteOffsetsFrom]
    constructor
    · intro h
      split at h
      · next hc =>
        rcases List.mem_cons.1 h with rfl | h
        · exact ⟨[], cs, by rw [hc, List.nil_append], rfl⟩
        · obtain ⟨before, after, hcs⟩ := hbehind.1 h
          exact ⟨c :: before, after, hcs⟩
      · obtain ⟨before, after, hcs⟩ := hbehind.1 h
        exact ⟨c :: before, after, hcs⟩
    · rintro ⟨before, after, hcs, hn⟩
      cases before with
      | nil =>
        rw [List.nil_append, List.cons.injEq] at hcs
        rw [if_pos hcs.1, ← hn]
        exact List.mem_cons_self
      | cons d before =>
        obtain rfl : c = d := (List.cons.inj hcs).1
        have h := hbehind.2 ⟨before, after, hcs, hn⟩
        split
        · exact List.mem_cons_of_mem _ h
        · exact h

theorem quoteOffsetsFrom_increasing (offset : Nat) (cs : List Char) :
    (quoteOffsetsFrom offset cs).Pairwise (· < ·) := by
  induction cs generalizing offset with
  | nil => exact .nil
  | cons c cs ih =>
    rw [quoteOffsetsFrom]
    split
    · refine List.pairwise_cons.2 ⟨fun n hn => ?_, ih _⟩
      obtain ⟨before, after, -, rfl⟩ := mem_quoteOffsetsFrom_iff.1 hn
      have := c.utf8Size_pos
      omega
    · exact ih _

/-! ## Pairs -/

/-- Each opening quote with its closing one, for quotes that are taken two by two. -/
def pairedSpans : List Nat → List Span
  | opening :: closing :: quotes => ⟨opening, closing + 1⟩ :: pairedSpans quotes
  | _ => []

/-- A quote that is still open comes before those of the text. -/
theorem quotedSpansFrom_eq_paired (offset : Nat) (opening : Option Nat) (cs : List Char) :
    quotedSpansFrom offset opening cs =
      pairedSpans (opening.toList ++ quoteOffsetsFrom offset cs) := by
  induction cs generalizing offset opening with
  | nil => cases opening <;> rfl
  | cons c cs ih =>
    cases opening with
    | none =>
      rw [quotedSpansFrom, ih, quoteOffsetsFrom]
      by_cases hc : c = '"'
      · rw [if_pos hc, if_pos hc]
        rfl
      · rw [if_neg hc, if_neg hc]
    | some q =>
      rw [quotedSpansFrom, quoteOffsetsFrom]
      by_cases hc : c = '"'
      · subst hc
        rw [if_pos rfl, if_pos rfl, ih]
        rfl
      · rw [if_neg hc, if_neg hc, ih]

theorem getElem?_pairedSpans (quotes : List Nat) (k : Nat) (s : Span) :
    (pairedSpans quotes)[k]? = some s ↔ ∃ opening closing,
      quotes[2 * k]? = some opening ∧ quotes[2 * k + 1]? = some closing ∧
        s = ⟨opening, closing + 1⟩ := by
  induction quotes using pairedSpans.induct generalizing k with
  | case1 opening closing quotes ih =>
    rw [pairedSpans]
    cases k with
    | zero => simp [eq_comm]
    | succ k => exact ih k
  | case2 quotes hshort =>
    match quotes, hshort with
    | [], _ => simp [pairedSpans]
    | [q], _ => simp [pairedSpans]
    | opening :: closing :: quotes, hshort => exact absurd rfl (hshort opening closing quotes)

/-! ## Searching -/

/-- Between the two parts of the text there is a quote, text without quotes and a quote. -/
def Quotes (cs before inner after : List Char) : Prop :=
  cs = before ++ '"' :: (inner ++ '"' :: after) ∧ '"' ∉ inner

/-- What a search from left to right finds in a text that starts at `offset`: the leftmost quoted
text, then what there is behind it, until nothing is found. -/
inductive Searched : (offset : Nat) → List Char → List Span → Prop
  | stop {offset : Nat} {cs : List Char}
      (hnone : ∀ before inner after, ¬ Quotes cs before inner after) : Searched offset cs []
  | next {offset : Nat} {cs before inner after : List Char} {spans : List Span}
      (hfound : Quotes cs before inner after)
      (hleftmost : ∀ before' inner' after', Quotes cs before' inner' after' →
        byteSize before ≤ byteSize before')
      (hrest : Searched (offset + byteSize before + byteSize inner + 2) after spans) :
      Searched offset cs
        (⟨offset + byteSize before, offset + byteSize before + byteSize inner + 2⟩ :: spans)

/-- Text without quotes before a text has no part in what is found. -/
theorem quotedSpansFrom_append_of_notMem {before : List Char} (h : '"' ∉ before) (offset : Nat)
    (cs : List Char) : quotedSpansFrom offset none (before ++ cs) =
      quotedSpansFrom (offset + byteSize before) none cs := by
  have heven : Even (before.count '"' + (none : Option Nat).toList.length) := by
    rw [List.count_eq_zero.2 h]
    exact Even.zero
  rw [quotedSpansFrom_append before cs offset none heven, quotedSpansFrom_eq_nil h, List.nil_append]

theorem quotedSpansFrom_of_quotes {cs before inner after : List Char}
    (h : Quotes cs before inner after) (hbefore : '"' ∉ before) (offset : Nat) :
    quotedSpansFrom offset none cs =
      ⟨offset + byteSize before, offset + byteSize before + byteSize inner + 2⟩ ::
        quotedSpansFrom (offset + byteSize before + byteSize inner + 2) none after := by
  obtain ⟨rfl, hinner⟩ := h
  have hsize : offset + byteSize before + 1 + byteSize inner + 1 =
      offset + byteSize before + byteSize inner + 2 := by omega
  rw [quotedSpansFrom_append_of_notMem hbefore, quotedSpansFrom, if_pos rfl,
    show ('"' : Char).utf8Size = 1 from rfl, quotedSpansFrom_open hinner, hsize]

/-- The first quote opens the leftmost quoted text. -/
theorem notMem_iff_leftmost {cs before inner after : List Char} (h : Quotes cs before inner after) :
    '"' ∉ before ↔ ∀ before' inner' after', Quotes cs before' inner' after' →
      byteSize before ≤ byteSize before' := by
  obtain ⟨hcs, hinner⟩ := h
  constructor
  · rintro hbefore before' inner' after' ⟨hcs', -⟩
    refine Nat.le_of_not_lt fun hlt => ?_
    obtain ⟨m, rfl, hm⟩ := append_of_byteSize_le (hcs'.symm.trans hcs) (Nat.le_of_lt hlt)
    cases m with
    | nil => simp at hlt
    | cons c m =>
      obtain rfl : '"' = c := (List.cons.inj hm).1
      exact hbefore (List.mem_append_right _ List.mem_cons_self)
  · intro hleftmost hmem
    obtain ⟨first, behind, rfl, -⟩ := List.eq_append_cons_of_mem hmem
    have hnext : '"' ∈ behind ++ '"' :: (inner ++ '"' :: after) := by simp
    obtain ⟨inner', after', hsplit, hinner'⟩ := List.eq_append_cons_of_mem hnext
    have hle := hleftmost first inner' after'
      ⟨by rw [hcs, List.append_assoc, List.cons_append, hsplit], hinner'⟩
    rw [byteSize_append, byteSize_cons] at hle
    have := ('"' : Char).utf8Size_pos
    omega

/-- A text has quoted text behind its first quote, or nothing is found in it. -/
theorem exists_quotes_or (cs : List Char) (offset : Nat) :
    (∃ before inner after, Quotes cs before inner after ∧ '"' ∉ before) ∨
      (∀ before inner after, ¬ Quotes cs before inner after) ∧
        quotedSpansFrom offset none cs = [] := by
  by_cases hquote : '"' ∈ cs
  · obtain ⟨before, behind, rfl, hbefore⟩ := List.eq_append_cons_of_mem hquote
    by_cases hclosing : '"' ∈ behind
    · obtain ⟨inner, after, rfl, hinner⟩ := List.eq_append_cons_of_mem hclosing
      exact .inl ⟨before, inner, after, ⟨rfl, hinner⟩, hbefore⟩
    · refine .inr ⟨fun before' inner after h => ?_, ?_⟩
      · -- two quotes cannot both be the one that the text has
        have hcount := congrArg (List.count '"') h.1
        simp [List.count_eq_zero.2 hbefore, List.count_eq_zero.2 hclosing] at hcount
        omega
      · rw [quotedSpansFrom_append_of_notMem hbefore, quotedSpansFrom, if_pos rfl,
          quotedSpansFrom_eq_nil hclosing]
  · refine .inr ⟨fun before inner after h => hquote ?_, quotedSpansFrom_eq_nil hquote offset⟩
    rw [h.1]
    exact List.mem_append_right _ List.mem_cons_self

/-- The spans of a text are what the search finds. -/
theorem searched_iff {offset : Nat} {cs : List Char} {spans : List Span} :
    Searched offset cs spans ↔ spans = quotedSpansFrom offset none cs := by
  constructor
  · intro h
    induction h with
    | stop hnone =>
      rcases exists_quotes_or _ _ with ⟨before, inner, after, hquotes, -⟩ | ⟨-, hnil⟩
      · exact absurd hquotes (hnone before inner after)
      · exact hnil.symm
    | next hfound hleftmost hrest ih =>
      rw [quotedSpansFrom_of_quotes hfound ((notMem_iff_leftmost hfound).2 hleftmost), ih]
  · rintro rfl
    induction hlength : cs.length using Nat.strong_induction_on generalizing offset cs with
    | _ length ih =>
      rcases exists_quotes_or cs offset with ⟨before, inner, after, hquotes, hbefore⟩ | ⟨hnone, hnil⟩
      · have hshorter : after.length < length := by
          rw [← hlength, hquotes.1]
          simp
          omega
        rw [quotedSpansFrom_of_quotes hquotes hbefore]
        exact .next hquotes ((notMem_iff_leftmost hquotes).1 hbefore) (ih _ hshorter rfl)
      · rw [hnil]
        exact .stop hnone

/-! ## Quoted ranges -/

/-- **Pairs of quotes.** Let the quotes of a text be at increasing offsets. Its quoted spans go from
the first quote to the end of the second, from the third to the end of the fourth and so on, one for
each complete pair; these are the spans that a search for quoted text finds from left to right. They
are nonempty, disjoint and in increasing order. Any range, be it reversed or outside of the text,
counts as quoted exactly if one of the spans starts at or before it and ends at or behind it. -/
theorem quotedSpans_pairs (text : String) :
    let quotes := quoteOffsets text
    let spans := quotedSpans text
    (quotes.Pairwise (· < ·) ∧ ∀ n, n ∈ quotes ↔
      ∃ before after, text.toList = before ++ '"' :: after ∧ byteSize before = n) ∧
    (∀ k s, spans[k]? = some s ↔ ∃ opening closing, quotes[2 * k]? = some opening ∧
      quotes[2 * k + 1]? = some closing ∧ s = ⟨opening, closing + 1⟩) ∧
    (∀ found, Searched 0 text.toList found ↔ found = spans) ∧
    ((∀ s ∈ spans, s.start < s.stop) ∧ spans.Pairwise fun s s' => s.stop ≤ s'.start) ∧
    ∀ range : Span, insideQuotes spans range = true ↔
      ∃ s ∈ spans, s.start ≤ range.start ∧ range.stop ≤ s.stop := by
  intro quotes spans
  have hpaired : spans = pairedSpans quotes := quotedSpansFrom_eq_paired 0 none text.toList
  have hordered : OrderedSpans spans := ordered_quotedSpans text
  refine ⟨⟨quoteOffsetsFrom_increasing 0 text.toList, fun n => ?_⟩, fun k s => ?_,
    fun found => searched_iff, ⟨hordered.nonempty, hordered.disjoint⟩, fun range => ?_⟩
  · rw [show quotes = quoteOffsetsFrom 0 text.toList from rfl, mem_quoteOffsetsFrom_iff]
    simp only [Nat.zero_add]
  · rw [hpaired, getElem?_pairedSpans]
  · rw [hordered.insideQuotes_eq_any, List.any_eq_true]
    simp only [Span.holds_iff]

end GlyphFold
