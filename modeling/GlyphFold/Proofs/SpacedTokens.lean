import Mathlib.Data.List.Induction
import Mathlib.Data.List.TakeWhile
import GlyphFold.Proofs.SeparatedText
import GlyphFold.Proofs.TreeMode
import GlyphFold.Text.CodePoints

/-!
# Tokens between blanks

Tree mode looks a leaf's text up in the table, and text mode searches for sources between word
boundaries. The two can be compared on a text whose tokens stand between blanks, each of them a
leaf: a token that is a source folds in tree mode, and in text mode it does if its ends are word
characters where they are word-like.

1. `Run`, `runs`: the maximal parts of a text without blanks, and their spans (`mem_runs_iff`)
2. `spacedTree`: the tree with a leaf for each run
3. `mem_resolve_spacedTree_iff`: tree mode folds the runs that are sources
4. `Run.fenced_iff`: between blanks a source is fenced if its ends allow it
5. `Munch.mem_of_admissible`: a source that is admissible between separators folds
6. `mem_resolveText_iff_of_foldsRun`, `resolveText_spacedTree`: what text mode finds of the regions of
   tree mode
-/

namespace GlyphFold

open Text (byteSize byteSize_append byteSize_cons byteSize_nil isBlank isWord isWordLike)

/-! ## Runs -/

/-- A part of a text without blanks that blanks or the ends of the text are next to. -/
structure Run (before own after : List Char) : Prop where
  nonempty : own ≠ []
  solid : ∀ c ∈ own, isBlank c = false
  starts : before.getLast?.all isBlank = true
  ends : after.head?.all isBlank = true

/-- The span of a part of a text. -/
def spanOf (before own : List Char) : Span := ⟨byteSize before, byteSize before + byteSize own⟩

/-- The spans of the runs in the text that starts at `offset`; `fresh` tells that no run goes on
there. -/
def runsFrom : (offset : Nat) → (fresh : Bool) → List Char → List Span
  | _, _, [] => []
  | offset, fresh, c :: cs =>
    if isBlank c then runsFrom (offset + c.utf8Size) true cs
    else if fresh then
      ⟨offset, offset + byteSize ((c :: cs).takeWhile (!isBlank ·))⟩ ::
        runsFrom (offset + c.utf8Size) false cs
    else runsFrom (offset + c.utf8Size) false cs

def runs (text : String) : List Span := runsFrom 0 true text.toList

theorem Run.takeWhile_eq {before own after : List Char} (h : Run before own after) :
    (own ++ after).takeWhile (!isBlank ·) = own := by
  have hafter : after.takeWhile (!isBlank ·) = [] := by
    cases after with
    | nil => rfl
    | cons c after =>
      have hc : isBlank c = true := h.ends
      rw [List.takeWhile_cons, hc]
      rfl
  rw [List.takeWhile_append_of_pos fun c hc => by rw [h.solid c hc]; rfl, hafter, List.append_nil]

/-- At most one run starts at a place, and it takes all up to the next blank. -/
theorem exists_run_iff {before : List Char} {c : Char} {cs : List Char} {s : Span} :
    (∃ own after, c :: cs = own ++ after ∧ Run before own after ∧ s = spanOf before own) ↔
      isBlank c = false ∧ before.getLast?.all isBlank = true ∧
        s = spanOf before ((c :: cs).takeWhile (!isBlank ·)) := by
  constructor
  · rintro ⟨own, after, hcs, hrun, rfl⟩
    rw [hcs, hrun.takeWhile_eq]
    refine ⟨?_, hrun.starts, rfl⟩
    obtain ⟨d, own, rfl⟩ := List.exists_cons_of_ne_nil hrun.nonempty
    rw [(List.cons.inj hcs).1]
    exact hrun.solid d List.mem_cons_self
  · rintro ⟨hc, hstarts, rfl⟩
    refine ⟨_, (c :: cs).dropWhile (!isBlank ·), List.takeWhile_append_dropWhile.symm,
      ⟨?_, fun d hd => ?_, hstarts, ?_⟩, rfl⟩
    · rw [List.takeWhile_cons, hc]
      exact List.cons_ne_nil _ _
    · simpa using List.mem_takeWhile_imp hd
    · cases hrest : (c :: cs).dropWhile (!isBlank ·) with
      | nil => rfl
      | cons d rest =>
        have hd := List.head?_dropWhile_not (!isBlank ·) (c :: cs)
        simpa [hrest] using hd

/-- The spans that are found behind some text are those of the runs that start there. -/
theorem mem_runsFrom_iff (before : List Char) {cs : List Char} {s : Span} :
    s ∈ runsFrom (byteSize before) (before.getLast?.all isBlank) cs ↔
      ∃ skipped own after, cs = skipped ++ (own ++ after) ∧ Run (before ++ skipped) own after ∧
        s = spanOf (before ++ skipped) own := by
  induction cs generalizing before with
  | nil =>
    refine iff_of_false List.not_mem_nil ?_
    rintro ⟨skipped, own, after, hcs, hrun, -⟩
    exact hrun.nonempty (List.append_eq_nil_iff.1 (List.append_eq_nil_iff.1 hcs.symm).2).1
  | cons c cs ih =>
    -- a run starts here, or it is one of those that start behind the next character
    have hsplit : (∃ skipped own after, c :: cs = skipped ++ (own ++ after) ∧
          Run (before ++ skipped) own after ∧ s = spanOf (before ++ skipped) own) ↔
        (∃ own after, c :: cs = own ++ after ∧ Run before own after ∧ s = spanOf before own) ∨
          s ∈ runsFrom (byteSize before + c.utf8Size) (isBlank c) cs := by
      have hnext := ih (before ++ [c])
      rw [byteSize_append, byteSize_cons, byteSize_nil, Nat.add_zero, List.getLast?_concat,
        Option.all_some] at hnext
      rw [hnext]
      constructor
      · rintro ⟨_ | ⟨d, skipped⟩, own, after, hcs, hrun, rfl⟩
        · rw [List.append_nil] at hrun ⊢
          exact .inl ⟨own, after, hcs, hrun, rfl⟩
        · obtain ⟨rfl, rfl⟩ := List.cons.inj hcs
          rw [List.append_cons] at hrun ⊢
          exact .inr ⟨skipped, own, after, rfl, hrun, rfl⟩
      · rintro (⟨own, after, hcs, hrun, rfl⟩ | ⟨skipped, own, after, rfl, hrun, rfl⟩)
        · exact ⟨[], own, after, hcs, by rwa [List.append_nil], by rw [List.append_nil]⟩
        · rw [← List.append_cons] at hrun ⊢
          exact ⟨c :: skipped, own, after, rfl, hrun, rfl⟩
    rw [hsplit, exists_run_iff, runsFrom]
    cases isBlank c with
    | true => simp
    | false => cases before.getLast?.all isBlank <;> simp [spanOf]

theorem mem_runs_iff {text : String} {s : Span} :
    s ∈ runs text ↔ ∃ before own after, text.toList = before ++ (own ++ after) ∧
      Run before own after ∧ s = spanOf before own :=
  mem_runsFrom_iff []

/-- A text without blanks is a run. -/
theorem runs_ne_nil {text : String} (hne : text.toList ≠ [])
    (hsolid : ∀ c ∈ text.toList, isBlank c = false) : runs text ≠ [] := by
  have hrun : Run [] text.toList [] := ⟨hne, hsolid, rfl, rfl⟩
  have hmem : spanOf [] text.toList ∈ runs text :=
    mem_runs_iff.2 ⟨[], text.toList, [], by rw [List.append_nil, List.nil_append], hrun, rfl⟩
  exact List.ne_nil_of_mem hmem

/-! ## The tree of the runs -/

/-- The leaf of a run. -/
def runLeaf (kind : Span → String) (run : Span) : Node := ⟨kind run, run, some 0, []⟩

/-- Pushes a leaf for each of some runs under the root. -/
def pushRuns (kind : Span → String) (t : TokenTree) (spans : List Span) : TokenTree :=
  spans.foldl (fun t run => t.push 0 (kind run) run) t

/-- The tree of a text whose root has a leaf for each run. -/
def spacedTree (text rootKind : String) (kind : Span → String) : TokenTree :=
  pushRuns kind (.ofSource text rootKind) (runs text)

section Spaced

variable (text rootKind : String) (kind : Span → String)

theorem pushRuns_ofSource (spans : List Span) :
    pushRuns kind (.ofSource text rootKind) spans =
      ⟨text, (⟨rootKind, ⟨0, byteSize text.toList⟩, none, List.range' 1 spans.length⟩ ::
        spans.map (runLeaf kind)).toArray⟩ := by
  induction spans using List.reverseRecOn with
  | nil => rfl
  | append_singleton spans run ih =>
    unfold pushRuns at ih ⊢
    rw [List.foldl_append, ih]
    simp [TokenTree.push, TokenTree.size, runLeaf, List.range'_concat, Nat.add_comm]

theorem grown_pushRuns {t : TokenTree} (ht : t.Grown) (spans : List Span) :
    (pushRuns kind t spans).Grown := by
  induction spans generalizing t with
  | nil => exact ht
  | cons run spans ih => exact ih (ht.push ht.pushed.size_pos (kind run) run)

theorem grown_spacedTree : (spacedTree text rootKind kind).Grown :=
  grown_pushRuns kind (.ofSource text rootKind) (runs text)

theorem spacedTree_eq : spacedTree text rootKind kind =
    ⟨text, (⟨rootKind, ⟨0, byteSize text.toList⟩, none, List.range' 1 (runs text).length⟩ ::
      (runs text).map (runLeaf kind)).toArray⟩ :=
  pushRuns_ofSource text rootKind kind (runs text)

theorem source_spacedTree : (spacedTree text rootKind kind).source = text := by
  rw [spacedTree_eq]

theorem node?_spacedTree_zero : (spacedTree text rootKind kind).node? 0 =
    some ⟨rootKind, ⟨0, byteSize text.toList⟩, none, List.range' 1 (runs text).length⟩ := by
  rw [spacedTree_eq]
  rfl

theorem node?_spacedTree_succ (i : Nat) : (spacedTree text rootKind kind).node? (i + 1) =
    (runs text)[i]?.map (runLeaf kind) := by
  rw [spacedTree_eq]
  simp [TokenTree.node?]

theorem text?_root : (spacedTree text rootKind kind).text?
    ⟨rootKind, ⟨0, byteSize text.toList⟩, none, List.range' 1 (runs text).length⟩ = some text := by
  have hslice : Text.slice? text.toList 0 (byteSize text.toList) = some text.toList :=
    Text.slice?_eq_some_iff.2 ⟨[], [], by simp, rfl, Nat.zero_add _⟩
  unfold TokenTree.text?
  rw [source_spacedTree, hslice, Option.map_some, String.ofList_toList]

theorem parentKind?_runLeaf (run : Span) :
    (spacedTree text rootKind kind).parentKind? (runLeaf kind run) = some rootKind := by
  show ((spacedTree text rootKind kind).node? 0).map Node.kind = some rootKind
  rw [node?_spacedTree_zero]
  rfl

/-- What the leaves of the tree give is what the leaves of the runs give, one by one. -/
theorem mem_gather_spacedTree {α : Type} (find : Node → Option α) (hruns : runs text ≠ []) {x : α} :
    x ∈ TokenTree.gather (grown_spacedTree text rootKind kind) find 0 ↔
      ∃ run ∈ runs text, find (runLeaf kind run) = some x := by
  have hroot : (spacedTree text rootKind kind).children 0 = List.range' 1 (runs text).length :=
    TokenTree.children_of_node? (node?_spacedTree_zero text rootKind kind)
  have hinner : (spacedTree text rootKind kind).children 0 ≠ [] := by
    rw [hroot, ne_eq, List.range'_eq_nil_iff, List.length_eq_zero_iff]
    exact hruns
  have hleaf : ∀ i, x ∈ TokenTree.gather (grown_spacedTree text rootKind kind) find (i + 1) ↔
      ∃ run, (runs text)[i]? = some run ∧ find (runLeaf kind run) = some x := by
    intro i
    have hnode := node?_spacedTree_succ text rootKind kind i
    have hchildren : (spacedTree text rootKind kind).children (i + 1) = [] := by
      unfold TokenTree.children
      rw [hnode]
      cases (runs text)[i]? <;> rfl
    rw [TokenTree.gather_of_leaf _ find hchildren, hnode, Option.mem_toList, Option.bind_map]
    exact Option.bind_eq_some_iff
  rw [TokenTree.gather_of_children _ find hinner, List.mem_flatMap, hroot]
  constructor
  · rintro ⟨id, hid, hx⟩
    obtain ⟨i, -, rfl⟩ := List.mem_range'.1 hid
    rw [Nat.one_mul, Nat.add_comm, hleaf] at hx
    obtain ⟨run, hrun, hfind⟩ := hx
    exact ⟨run, List.mem_of_getElem? hrun, hfind⟩
  · rintro ⟨run, hrun, hfind⟩
    obtain ⟨i, hi⟩ := List.mem_iff_getElem?.1 hrun
    have hlt := (List.getElem?_eq_some_iff.1 hi).1
    refine ⟨i + 1, List.mem_range'.2 ⟨i, hlt, ?_⟩, (hleaf i).2 ⟨run, hi, hfind⟩⟩
    rw [Nat.one_mul, Nat.add_comm]

end Spaced

/-! ## Tree mode -/

/-- Every mapping of the table is unconditional, and no source has a blank. -/
def SolidEntries (table : Table) : Prop :=
  ∀ s m, table.find? s = some m → m.condition = .always ∧ ∀ c ∈ s.toList, isBlank c = false

/-- The region folds a run that is a source of the table. -/
def FoldsRun (table : Table) (cs : List Char) (m : Mapping) (f : Region) : Prop :=
  ∃ before after, cs = before ++ (m.source.toList ++ after) ∧ Run before m.source.toList after ∧
    table.find? m.source = some m ∧ f = .token (spanOf before m.source.toList) m.glyph

theorem FoldsRun.found {table : Table} {cs : List Char} {m : Mapping} {f : Region}
    (h : FoldsRun table cs m f) : table.find? m.source = some m := by
  obtain ⟨before, after, -, -, hfound, -⟩ := h
  exact hfound

namespace Resolver

section TreeMode

variable {r : Resolver} (ht : r.table.Consistent) {g : Grammar} {text rootKind : String}
  {kind : Span → String}

/-- The leaf of a run gives the region of the run, if that is a source whose condition holds. -/
theorem leafFolds_runLeaf_iff {before own after : List Char}
    (hcs : text.toList = before ++ (own ++ after)) {m : Mapping} (hc : m.condition = .always)
    (hkind : g.isStringLiteral (kind (spanOf before own)) = false) :
    LeafFolds r.table r.evaluator (spacedTree text rootKind kind) g
        (runLeaf kind (spanOf before own)) m ↔
      g.isStringLiteral rootKind = false ∧ r.table.find? m.source = some m ∧
        m.source.toList = own := by
  have hown : (spacedTree text rootKind kind).text? (runLeaf kind (spanOf before own)) =
      some (String.ofList own) := by
    have hslice : Text.slice? text.toList (byteSize before) (byteSize before + byteSize own) =
        some own :=
      Text.slice?_eq_some_iff.2 ⟨before, after, by rw [hcs, List.append_assoc], rfl, rfl⟩
    unfold TokenTree.text?
    rw [source_spacedTree]
    exact congrArg (Option.map String.ofList) hslice
  constructor
  · intro h
    have hsource := h.text
    rw [hown] at hsource
    refine ⟨h.parentKind rootKind (parentKind?_runLeaf ..), h.found, ?_⟩
    rw [← Option.some.inj hsource, String.toList_ofList]
  · rintro ⟨hroot, hm, rfl⟩
    refine ⟨by rw [hown, String.ofList_toList], hm, hkind, ?_, .inl hc⟩
    rw [parentKind?_runLeaf]
    intro k hk
    rwa [← Option.some.inj hk]

include ht

/-- The root of a tree without runs does not fold: its text is the whole text, and as a source it
would be a run. -/
theorem resolve_spacedTree_of_nil (hsolid : SolidEntries r.table) (hruns : runs text = []) :
    r.resolve (spacedTree text rootKind kind) g 0 = [] := by
  have hroot : (spacedTree text rootKind kind).children 0 = [] := by
    rw [TokenTree.children_of_node? (node?_spacedTree_zero text rootKind kind), hruns]
    rfl
  rw [resolve_eq_gather _ (grown_spacedTree text rootKind kind) g
    (grown_spacedTree text rootKind kind).pushed.size_pos, TokenTree.gather_of_leaf _ _ hroot,
    node?_spacedTree_zero, Option.bind_some]
  refine List.eq_nil_iff_forall_not_mem.2 fun f hf => ?_
  obtain ⟨m, hm, -⟩ := (resolveLeaf_eq_some_iff_leafFolds ht).1 (Option.mem_toList.1 hf)
  obtain rfl : text = m.source :=
    Option.some.inj ((text?_root text rootKind kind).symm.trans hm.text)
  exact runs_ne_nil (ht.source_ne_nil hm.found) (hsolid _ m hm.found).2 hruns

/-- **Tree mode folds the runs that are sources.** -/
theorem mem_resolve_spacedTree_iff (hsolid : SolidEntries r.table)
    (hkind : ∀ run ∈ runs text, g.isStringLiteral (kind run) = false) {f : Region} :
    f ∈ r.resolve (spacedTree text rootKind kind) g 0 ↔
      g.isStringLiteral rootKind = false ∧ ∃ m, FoldsRun r.table text.toList m f := by
  by_cases hruns : runs text = []
  · rw [resolve_spacedTree_of_nil ht hsolid hruns]
    refine iff_of_false List.not_mem_nil ?_
    rintro ⟨-, m, before, after, hcs, hrun, -, -⟩
    have hmem := mem_runs_iff.2 ⟨before, _, after, hcs, hrun, rfl⟩
    rw [hruns] at hmem
    cases hmem
  · rw [resolve_eq_gather _ (grown_spacedTree text rootKind kind) g
      (grown_spacedTree text rootKind kind).pushed.size_pos, mem_gather_spacedTree _ _ _ _ hruns]
    constructor
    · rintro ⟨run, hmem, hfind⟩
      obtain ⟨before, own, after, hcs, hrun, rfl⟩ := mem_runs_iff.1 hmem
      obtain ⟨m, hm, rfl⟩ := (resolveLeaf_eq_some_iff_leafFolds ht).1 hfind
      obtain ⟨hroot, hfound, rfl⟩ :=
        (leafFolds_runLeaf_iff hcs (hsolid m.source m hm.found).1 (hkind _ hmem)).1 hm
      exact ⟨hroot, m, before, after, hcs, hrun, hfound, rfl⟩
    · rintro ⟨hroot, m, before, after, hcs, hrun, hfound, rfl⟩
      have hmem := mem_runs_iff.2 ⟨before, _, after, hcs, hrun, rfl⟩
      refine ⟨_, hmem, (resolveLeaf_eq_some_iff_leafFolds ht).2 ⟨m, ?_, rfl⟩⟩
      exact (leafFolds_runLeaf_iff hcs (hsolid m.source m hfound).1 (hkind _ hmem)).2
        ⟨hroot, hfound, rfl⟩

end TreeMode

end Resolver

/-! ## Text mode -/

/-- The ends of a source are word characters where they are word-like. -/
structure WordEnds (own : List Char) : Prop where
  first : ∀ c, own.head? = some c → isWordLike c = true → isWord c = true
  last : ∀ c, own.getLast? = some c → isWordLike c = true → isWord c = true

theorem isWord_of_isBlank {c : Char} (h : isBlank c = true) : isWord c = false := by
  have hapart : ∀ b ∈ Text.blankRanges, ∀ w ∈ Text.wordRanges, b.2 < w.1 ∨ w.2 < b.1 := by
    decide +kernel
  by_contra hword
  obtain ⟨b, hb, hlow, hhigh⟩ := Text.exists_range_of_covers h
  obtain ⟨w, hw, hlow', hhigh'⟩ := Text.exists_range_of_covers (Bool.not_eq_false _ ▸ hword)
  have hbw := hapart b hb w hw
  omega

theorem any_isWord_of_all_isBlank {c : Option Char} (h : c.all isBlank = true) :
    c.any isWord = false := by
  cases c with
  | none => rfl
  | some c => exact isWord_of_isBlank h

/-- Between blanks and the ends of a text a source is fenced, unless one of its ends is word-like
and no word character. -/
theorem Run.fenced_iff {before own after : List Char} (h : Run before own after) :
    Fenced before own after ↔ WordEnds own := by
  have halone : Fenced before own after ↔ Fenced [] own [] :=
    fenced_congr h.nonempty (any_isWord_of_all_isBlank h.starts) (any_isWord_of_all_isBlank h.ends)
  have hleft : boundaryBetween [] (own ++ []) = own.head?.any isWord := by
    rw [List.append_nil]
    exact Bool.false_bne _
  have hright : boundaryBetween ([] ++ own) [] = own.getLast?.any isWord := Bool.bne_false _
  rw [halone]
  constructor
  · rintro ⟨hfirst, hlast⟩
    rw [hleft] at hfirst
    rw [hright] at hlast
    exact ⟨fun c hc => by simpa [hc] using hfirst, fun c hc => by simpa [hc] using hlast⟩
  · rintro ⟨hfirst, hlast⟩
    refine ⟨fun hlike => ?_, fun hlike => ?_⟩
    · obtain ⟨c, hc, hlike⟩ := (Option.any_eq_true ..).1 hlike
      rw [hleft, hc]
      exact hfirst c hc hlike
    · obtain ⟨c, hc, hlike⟩ := (Option.any_eq_true ..).1 hlike
      rw [hright, hc]
      exact hlast c hc hlike

/-- A region that folds an occurrence folds the one in its own place. -/
theorem Occurs.admissible_of_token {t : Table} {before own after : List Char} {m : Mapping}
    {glyph : String} (h : Occurs t (before ++ (own ++ after)) m (.token (spanOf before own) glyph)) :
    m.source.toList = own ∧ Admissible t before m after := by
  have hle : byteSize before ≤ byteSize before + byteSize own := Nat.le_add_right _ _
  obtain ⟨before', after', hcs, hadmissible, hstart, hstop⟩ := h.split
  rw [spanOf, Region.start_token hle] at hstart
  rw [spanOf, Region.stop_token hle, byteSize_append, ← hstart] at hstop
  rw [List.append_assoc] at hcs
  obtain ⟨rfl, hrest⟩ := Text.append_inj_of_byteSize hcs hstart
  obtain ⟨hsource, rfl⟩ := Text.append_inj_of_byteSize hrest (Nat.add_left_cancel hstop)
  exact ⟨hsource.symm, hadmissible⟩

section Found

variable {t : Table} (ht : t.Consistent)

include ht

/-- Between separators, or ends of the text, an admissible source folds: no source runs across its
ends, so the walk comes to its start, and it is the longest that is admissible there. -/
theorem Munch.mem_of_admissible {before after : List Char} {m : Mapping} {out : List Region}
    (h : Munch t [] (before ++ (m.source.toList ++ after)) out) (hm : Admissible t before m after)
    (hbefore : ∀ x, before.getLast? = some x → Separates t x)
    (hafter : ∀ x, after.head? = some x → Separates t x) :
    .token (spanOf before m.source.toList) m.glyph ∈ out := by
  have hsorted := Pattern.longestFirst_mergeSort ht
  have hlongest : ∀ m' after', m.source.toList ++ after = m'.source.toList ++ after' →
      Admissible t before m' after' → byteSize m'.source.toList ≤ byteSize m.source.toList := by
    intro m' after' hcs hm'
    have hprefix : ∃ rest, m.source.toList = m'.source.toList ++ rest := by
      cases after with
      | nil => exact ⟨after', by rw [← hcs, List.append_nil]⟩
      | cons x after =>
        obtain ⟨rest, hrest, -⟩ := hm'.in_front ht (hafter x rfl) hcs
        exact ⟨rest, hrest⟩
    obtain ⟨rest, hrest⟩ := hprefix
    rw [hrest, byteSize_append]
    exact Nat.le_add_right _ _
  have hfold := Munch.fold rfl hm hlongest (Pattern.munch_matchesBehind ht hsorted _ after)
  rcases List.eq_nil_or_concat' before with rfl | ⟨lead, x, rfl⟩
  · rw [h.unique ht hfold]
    exact List.mem_cons_self
  · have hx : Separates t x := hbefore x List.getLast?_concat
    have hlead := Pattern.munch_matchesBehind ht hsorted [] lead
    have hwhole := hlead.append ht hx hfold
    rw [List.append_assoc] at h
    rw [h.unique ht hwhole]
    exact List.mem_append_right _ List.mem_cons_self

end Found

namespace Resolver

section TextMode

variable {engine : Engine} {t : Table} (ht : t.Consistent) {ev : Evaluator} {r : Resolver}
  (hr : new engine t ev = .ok r) {text : String} (hquotes : '"' ∉ text.toList)

include ht hr hquotes

/-- A text without quotes folds as the walk over it does. -/
theorem munch_resolveText : Munch t [] text.toList (r.resolveText text) := by
  obtain ⟨out, hout, htext⟩ := exists_munch ht hr text
  have hnone : quotedSpans text = [] := quotedSpansFrom_eq_nil hquotes 0
  rw [htext, hnone]
  simpa using hout

/-- A run that is a source folds in text mode exactly if its ends allow it. -/
theorem mem_resolveText_iff_of_foldsRun (hsolid : SolidEntries t) {m : Mapping} {f : Region}
    (hf : FoldsRun t text.toList m f) :
    f ∈ r.resolveText text ↔ WordEnds m.source.toList := by
  have hseparates : ∀ x, isBlank x = true → Separates t x := by
    intro x hx
    refine ⟨fun s m hm hmem => ?_, isWord_of_isBlank hx⟩
    exact absurd hx (Bool.eq_false_iff.1 ((hsolid s m hm).2 x hmem))
  obtain ⟨before, after, hcs, hrun, hm, rfl⟩ := hf
  rw [← hrun.fenced_iff]
  constructor
  · intro hmem
    obtain ⟨m', hoccurs⟩ := occurs_of_mem_resolveText ht hr text hmem
    rw [hcs] at hoccurs
    obtain ⟨hsource, hadmissible⟩ := hoccurs.admissible_of_token
    exact hsource ▸ hadmissible.fenced
  · intro hfenced
    have hwalk := munch_resolveText ht hr hquotes
    rw [hcs] at hwalk
    have hadmissible : Admissible t before m after := ⟨hm, (hsolid m.source m hm).1, hfenced⟩
    refine hwalk.mem_of_admissible ht hadmissible (fun x hx => ?_) fun x hx => ?_
    · have hblank := hrun.starts
      rw [hx] at hblank
      exact hseparates x hblank
    · have hblank := hrun.ends
      rw [hx] at hblank
      exact hseparates x hblank

end TextMode

/-- **Tokens between blanks.** For a table whose entries are unconditional and whose sources are
free of blanks, and for a text without quotes, take the tree whose root has a leaf for each run of
the text, no leaf being string material. Tree mode folds the runs that are sources, if the root is
no string material either. Text mode folds the same runs, apart from those whose first or last
character is word-like but no word character. So if no source has such an end, text mode finds all
that tree mode finds. -/
theorem resolveText_spacedTree (engine : Engine) (edits : List Table.Edit) (ev : Evaluator)
    {r : Resolver} (hr : new engine (Table.empty.run edits) ev = .ok r)
    (hsolid : SolidEntries (Table.empty.run edits)) {text : String} (hquotes : '"' ∉ text.toList)
    (g : Grammar) (rootKind : String) (kind : Span → String)
    (hkind : ∀ run ∈ runs text, g.isStringLiteral (kind run) = false) :
    (∀ f, f ∈ r.resolve (spacedTree text rootKind kind) g 0 ↔
      g.isStringLiteral rootKind = false ∧ ∃ m, FoldsRun (Table.empty.run edits) text.toList m f) ∧
    (∀ m f, FoldsRun (Table.empty.run edits) text.toList m f →
      (f ∈ r.resolveText text ↔ WordEnds m.source.toList)) ∧
    ((∀ s m, (Table.empty.run edits).find? s = some m → WordEnds s.toList) →
      ∀ f ∈ r.resolve (spacedTree text rootKind kind) g 0, f ∈ r.resolveText text) := by
  have ht := Table.consistent_run edits
  have htree : ∀ f, f ∈ r.resolve (spacedTree text rootKind kind) g 0 ↔
      g.isStringLiteral rootKind = false ∧
        ∃ m, FoldsRun (Table.empty.run edits) text.toList m f := by
    intro f
    rw [← (new_eq_ok hr).1] at ht hsolid ⊢
    exact mem_resolve_spacedTree_iff ht hsolid hkind
  have htext := fun m f (hf : FoldsRun (Table.empty.run edits) text.toList m f) =>
    mem_resolveText_iff_of_foldsRun ht hr hquotes hsolid hf
  refine ⟨htree, htext, fun hends f hf => ?_⟩
  obtain ⟨-, m, hm⟩ := (htree f).1 hf
  exact (htext m f hm).2 (hends m.source m hm.found)

def fractionEdits : List Table.Edit := [.upsert ⟨"½", "h", "fractions", .always⟩]

/-- A fraction is word-like and no word character, so text mode never finds it between blanks. -/
theorem resolveText_fraction :
    (∀ s m, (Table.empty.run fractionEdits).find? s = some m →
      m.condition = .always ∧ ∀ c ∈ s.toList, c ≠ '"' ∧ isBlank c = false) ∧
    '"' ∉ "a ½ b".toList ∧ Language.python.grammar.isStringLiteral "identifier" = false ∧
    ∃ r, new .willing (Table.empty.run fractionEdits) .builtin = .ok r ∧
      r.resolve (spacedTree "a ½ b" "module" fun _ => "identifier") Language.python.grammar 0 =
        [.token ⟨2, 4⟩ "h"] ∧
      r.resolveText "a ½ b" = [] := by
  have hall : ∀ m ∈ (Table.empty.run fractionEdits).all,
      m.condition = .always ∧ m.source.toList.all (fun c => c ≠ '"' && !isBlank c) = true := by
    decide +kernel
  have hpattern : Pattern.ofTable (Table.empty.run fractionEdits) = .ofSources ["½"] :=
    Pattern.ofTable_eq_ofSources (by decide +kernel) (by decide +kernel)
  refine ⟨fun s m hm => ?_, by decide, by decide +kernel, _, rfl, by decide +kernel, ?_⟩
  · obtain ⟨hmem, rfl⟩ := (Table.find?_eq_some_iff (Table.consistent_run fractionEdits)).1 hm
    obtain ⟨hc, hsource⟩ := hall m hmem
    exact ⟨hc, fun c hmem => by simpa using List.all_eq_true.1 hsource c hmem⟩
  · rw [hpattern]
    decide +kernel

def keywordEdits : List Table.Edit :=
  [.upsert ⟨"lambda", "λ", "keywords", .always⟩, .upsert ⟨"<=", "≤", "operators", .always⟩]

/-- The keyword and the operator fold in text mode, since they fold as leaves. -/
theorem resolveText_spacedTree_keyword :
    ∃ r, new .willing (Table.empty.run keywordEdits) .builtin = .ok r ∧
      .token ⟨2, 4⟩ "≤" ∈ r.resolveText "x <= lambda1 lambda" ∧
      .token ⟨13, 19⟩ "λ" ∈ r.resolveText "x <= lambda1 lambda" := by
  have hall : ∀ m ∈ (Table.empty.run keywordEdits).all, m.condition = .always ∧
      m.source.toList.all (fun c => !isBlank c && (!isWordLike c || isWord c)) = true := by
    decide +kernel
  have hentries : ∀ s m, (Table.empty.run keywordEdits).find? s = some m → m.condition = .always ∧
      ∀ c ∈ s.toList, isBlank c = false ∧ (isWordLike c = true → isWord c = true) := by
    intro s m hm
    obtain ⟨hmem, rfl⟩ := (Table.find?_eq_some_iff (Table.consistent_run keywordEdits)).1 hm
    obtain ⟨hc, hsource⟩ := hall m hmem
    refine ⟨hc, fun c hmem => ?_⟩
    have hchar := List.all_eq_true.1 hsource c hmem
    simp only [Bool.and_eq_true, Bool.or_eq_true, Bool.not_eq_true'] at hchar
    exact ⟨hchar.1, fun hlike => hchar.2.resolve_left (Bool.not_eq_false _ ▸ hlike)⟩
  have hquotes : '"' ∉ "x <= lambda1 lambda".toList := by decide
  have hends : ∀ s m, (Table.empty.run keywordEdits).find? s = some m → WordEnds s.toList := by
    intro s m hm
    exact ⟨fun c hc => ((hentries s m hm).2 c (List.mem_of_head? hc)).2,
      fun c hc => ((hentries s m hm).2 c (List.mem_of_getLast? hc)).2⟩
  have hsubset := (resolveText_spacedTree .willing keywordEdits .builtin rfl
    (fun s m hm => ⟨(hentries s m hm).1, fun c hc => ((hentries s m hm).2 c hc).1⟩) hquotes
    Language.python.grammar "module" (fun _ => "identifier")
    (fun _ _ => by decide +kernel)).2.2 hends
  exact ⟨_, rfl, hsubset _ (by decide +kernel), hsubset _ (by decide +kernel)⟩

end Resolver

end GlyphFold
