import Mathlib.Data.Prod.Lex
import GlyphFold.Fold

/-!
# Lines and columns of folds

A fold is reported with the line and the column that its region starts at. Lines come with the breaks
that end them, and a column counts the characters from the start of its line.

1. `IsLines`, `lines`: how a text is split into lines, and that it is the only way (`isLines_iff`)
2. `Position.plus`, `position_cons`: a position is reached character by character
3. `InLines`: a position in the lines of its text, with the characters before it
   (`inLines_position`)
4. `Position.key`: positions in order; the farther into a text, the later (`key_position_lt`)
5. `locateFolds_places`: all of it for located folds
-/

namespace GlyphFold

namespace Text

/-! ## Lines -/

/-- What ends a line: LF, CR, CR LF, VT, FF, NEL, and the line and paragraph separators. -/
def lineEndings : List (List Char) :=
  [['\n'], ['\r'], ['\r', '\n'], ['\x0b'], ['\x0c'], ['\u0085'], ['\u2028'], ['\u2029']]

/-- The text is split into lines at its breaks and nowhere else; the last line has no break. -/
inductive IsLines : List Char → List (List Char) → Prop
  | last {line : List Char} (hline : ∀ c ∈ line, isLineBreak c = false) : IsLines line [line]
  | cons {body ending cs : List Char} {ls : List (List Char)}
      (hbody : ∀ c ∈ body, isLineBreak c = false) (hending : ending ∈ lineEndings)
      (hwhole : ending = ['\r'] → cs.head? ≠ some '\n') (hrest : IsLines cs ls) :
      IsLines (body ++ ending ++ cs) ((body ++ ending) :: ls)

/-- A line ends behind the character, which `next` follows. CR before LF does not end it yet. -/
def endsLine (c : Char) (next : Option Char) : Bool :=
  isLineBreak c && !(c = '\r' && next = some '\n')

/-- The lines of a text, each with its break. -/
def lines : List Char → List (List Char)
  | [] => [[]]
  | c :: cs => if endsLine c cs.head? then [c] :: lines cs else (lines cs).modifyHead (c :: ·)

/-- The first line of a text starts with its first character. -/
theorem exists_lines_cons (c : Char) (cs : List Char) : ∃ l ls, lines (c :: cs) = (c :: l) :: ls := by
  induction cs generalizing c with
  | nil =>
    rw [lines]
    split
    · exact ⟨[], [[]], rfl⟩
    · exact ⟨[], [], rfl⟩
  | cons d cs ih =>
    obtain ⟨l, ls, h⟩ := ih d
    rw [lines, h]
    split
    · exact ⟨[], (d :: l) :: ls, rfl⟩
    · exact ⟨d :: l, ls, rfl⟩

theorem exists_lines_eq_cons (cs : List Char) : ∃ l ls, lines cs = l :: ls := by
  cases cs with
  | nil => exact ⟨[], [], rfl⟩
  | cons c cs =>
    obtain ⟨l, ls, h⟩ := exists_lines_cons c cs
    exact ⟨c :: l, ls, h⟩

theorem mem_lineEndings {c : Char} (h : isLineBreak c = true) : [c] ∈ lineEndings := by
  simpa [isLineBreak, lineEndings, or_assoc, or_comm, or_left_comm] using h

/-- A character that is no break goes into the first line. -/
theorem IsLines.modifyHead {cs : List Char} {ls : List (List Char)} (h : IsLines cs ls) {c : Char}
    (hc : isLineBreak c = false) : IsLines (c :: cs) (ls.modifyHead (c :: ·)) := by
  cases h with
  | last hline => exact .last (List.forall_mem_cons.2 ⟨hc, hline⟩)
  | cons hbody hending hwhole hrest =>
    exact .cons (List.forall_mem_cons.2 ⟨hc, hbody⟩) hending hwhole hrest

theorem isLines_lines : (cs : List Char) → IsLines cs (lines cs)
  | [] => .last nofun
  | c :: cs => by
    rw [lines]
    cases hbreak : isLineBreak c with
    | false =>
      rw [endsLine, hbreak, Bool.false_and, if_neg Bool.false_ne_true]
      exact (isLines_lines cs).modifyHead hbreak
    | true =>
      by_cases hcrlf : c = '\r' ∧ cs.head? = some '\n'
      · -- the CR goes into the line that the LF ends
        obtain ⟨rfl, hhead⟩ := hcrlf
        obtain ⟨cs, rfl⟩ := List.head?_eq_some_iff.1 hhead
        show IsLines ([] ++ ['\r', '\n'] ++ cs) (([] ++ ['\r', '\n']) :: lines cs)
        exact .cons nofun (by decide) nofun (isLines_lines cs)
      · rw [endsLine, hbreak, Bool.true_and, if_pos (by simpa using not_and_or.1 hcrlf)]
        show IsLines ([] ++ [c] ++ cs) (([] ++ [c]) :: lines cs)
        refine .cons nofun (mem_lineEndings hbreak) (fun hcr hhead => ?_) (isLines_lines cs)
        exact hcrlf ⟨List.singleton_inj.1 hcr, hhead⟩
termination_by cs => cs.length

/-- Text without breaks goes into the first line of what is behind it. -/
theorem lines_append {body : List Char} (hbody : ∀ c ∈ body, isLineBreak c = false)
    (cs : List Char) : lines (body ++ cs) = (lines cs).modifyHead (body ++ ·) := by
  induction body with
  | nil =>
    obtain ⟨l, ls, hlines⟩ := exists_lines_eq_cons cs
    rw [List.nil_append, hlines]
    rfl
  | cons c body ih =>
    obtain ⟨hc, hbody⟩ := List.forall_mem_cons.1 hbody
    obtain ⟨l, ls, hlines⟩ := exists_lines_eq_cons cs
    rw [List.cons_append, lines, endsLine, hc, Bool.false_and, if_neg Bool.false_ne_true, ih hbody,
      hlines]
    rfl

theorem lines_ending {ending cs : List Char} (hending : ending ∈ lineEndings)
    (hwhole : ending = ['\r'] → cs.head? ≠ some '\n') : lines (ending ++ cs) = ending :: lines cs := by
  by_cases hcr : ending = ['\r']
  · subst hcr
    have hends : endsLine '\r' cs.head? = true := by simpa [endsLine, isLineBreak] using hwhole rfl
    exact if_pos hends
  · simp only [lineEndings, List.mem_cons, List.not_mem_nil, or_false, hcr, false_or] at hending
    rcases hending with rfl | rfl | rfl | rfl | rfl | rfl | rfl <;> rfl

/-- A text is split into lines in one way. -/
theorem isLines_iff {cs : List Char} {ls : List (List Char)} : IsLines cs ls ↔ ls = lines cs := by
  constructor
  · intro h
    induction h with
    | last hline =>
      have hlines := lines_append hline []
      rw [List.append_nil] at hlines
      rw [hlines, lines, List.modifyHead_cons, List.append_nil]
    | cons hbody hending hwhole hrest ih =>
      rw [List.append_assoc, lines_append hbody, lines_ending hending hwhole, ih]
      rfl
  · rintro rfl
    exact isLines_lines cs

example : lines ['a', '\r', '\n', '\r', 'b'] = [['a', '\r', '\n'], ['\r'], ['b']] := by decide

/-! ## Positions -/

/-- The place that is reached from `p` by passing what is passed up to `q`. -/
def Position.plus (p q : Position) : Position :=
  if q.line = 0 then ⟨p.line, p.column + q.column⟩ else ⟨p.line + q.line, q.column⟩

namespace Position

theorem line_plus (p q : Position) : (p.plus q).line = p.line + q.line := by
  unfold plus
  split
  · next hq => rw [hq, Nat.add_zero]
  · rfl

theorem column_plus (p q : Position) :
    (p.plus q).column = if q.line = 0 then p.column + q.column else q.column := by
  unfold plus
  split
  · rfl
  · rfl

theorem eq_iff {p q : Position} : p = q ↔ p.line = q.line ∧ p.column = q.column := by
  cases p
  cases q
  exact Position.mk.injEq .. ▸ Iff.rfl

theorem plus_assoc (p q r : Position) : (p.plus q).plus r = p.plus (q.plus r) := by
  rw [eq_iff]
  simp only [line_plus, column_plus, Nat.add_assoc, Nat.add_eq_zero_iff, true_and]
  by_cases hr : r.line = 0
  · simp only [hr, and_true, if_true]
    split
    · exact Nat.add_assoc ..
    · rfl
  · simp only [hr, and_false, if_false]

theorem zero_plus (q : Position) : (⟨0, 0⟩ : Position).plus q = q := by
  rw [eq_iff]
  simp only [line_plus, column_plus, Nat.zero_add, ite_self, and_self]

/-- What passing one character adds to a place. -/
def step (c : Char) (next : Option Char) : Position := if endsLine c next then ⟨1, 0⟩ else ⟨0, 1⟩

theorem line_plus_eq (p : Position) : (⟨1, 0⟩ : Position).plus p = ⟨p.line + 1, p.column⟩ := by
  rw [eq_iff, line_plus, column_plus, Nat.zero_add, ite_self, Nat.add_comm]
  exact ⟨rfl, rfl⟩

theorem char_plus_eq (p : Position) :
    (⟨0, 1⟩ : Position).plus p = ⟨p.line, if p.line = 0 then p.column + 1 else p.column⟩ := by
  rw [eq_iff, line_plus, column_plus, Nat.zero_add, Nat.add_comm 1]
  exact ⟨rfl, rfl⟩

theorem after_eq_plus (p : Position) (c : Char) (next : Option Char) :
    p.after c next = p.plus (step c next) := by
  unfold after step endsLine
  split
  · rfl
  · rfl

end Position

theorem positionFrom_eq_plus (p : Position) (cs : List Char) (offset : Nat) :
    positionFrom p cs offset = p.plus (position cs offset) := by
  unfold position
  induction cs generalizing p offset with
  | nil => rfl
  | cons c cs ih =>
    rw [positionFrom, positionFrom]
    split
    · rw [ih, ih (Position.after _ c cs.head?), Position.after_eq_plus, Position.after_eq_plus,
        Position.zero_plus, Position.plus_assoc]
    · rfl

/-- A position behind the first character is one of the text behind it, moved by that character. -/
theorem position_cons (c : Char) (cs : List Char) (offset : Nat) :
    position (c :: cs) offset =
      if c.utf8Size ≤ offset then
        (Position.step c cs.head?).plus (position cs (offset - c.utf8Size))
      else ⟨0, 0⟩ := by
  unfold position
  rw [positionFrom, Position.after_eq_plus, Position.zero_plus, positionFrom_eq_plus]
  rfl

/-! ## The line of a position -/

/-- The position is in one of the lines, and `chars` characters are in the lines above and before it
in its line. Only at the end of the text it is behind all of its line. -/
structure InLines (ls : List (List Char)) (chars : Nat) (atEnd : Prop) (p : Position) : Prop where
  chars_eq : (ls.take p.line).flatten.length + p.column = chars
  inside : ∃ l, ls[p.line]? = some l ∧ p.column ≤ l.length ∧ (p.column = l.length → atEnd)

namespace InLines

variable {ls : List (List Char)} {l : List Char} {chars : Nat} {atEnd : Prop} {p : Position}

/-- With a line above the others. -/
theorem below (h : InLines ls chars atEnd p) (c : Char) :
    InLines ([c] :: ls) (chars + 1) atEnd ((⟨1, 0⟩ : Position).plus p) := by
  rw [Position.line_plus_eq]
  refine ⟨?_, h.inside⟩
  have hchars := h.chars_eq
  simp only [List.take_succ_cons, List.flatten_cons, List.length_append, List.length_singleton]
  omega

/-- With a character before the first line. -/
theorem behind (h : InLines (l :: ls) chars atEnd p) (c : Char) :
    InLines ((c :: l) :: ls) (chars + 1) atEnd ((⟨0, 1⟩ : Position).plus p) := by
  rw [Position.char_plus_eq]
  obtain ⟨line, column⟩ := p
  obtain ⟨hchars, l', hl', hcolumn, hend⟩ := h
  cases line with
  | zero =>
    obtain rfl : l = l' := Option.some.inj hl'
    exact ⟨congrArg (· + 1) hchars, c :: l, rfl, Nat.succ_le_succ hcolumn,
      fun hfull => hend (Nat.succ.inj hfull)⟩
  | succ line =>
    refine ⟨?_, l', hl', hcolumn, hend⟩
    simp only [List.take_succ_cons, List.flatten_cons, List.length_append, List.length_cons,
      Nat.add_one_ne_zero, if_false] at hchars ⊢
    omega

theorem step {c : Char} {cs : List Char} (h : InLines (lines cs) chars atEnd p) :
    InLines (lines (c :: cs)) (chars + 1) atEnd ((Position.step c cs.head?).plus p) := by
  obtain ⟨l, ls, hcs⟩ := exists_lines_eq_cons cs
  rw [lines, Position.step]
  split
  · exact h.below c
  · rw [hcs] at h ⊢
    exact h.behind c

end InLines

/-- Every offset has its position in the lines of the text. -/
theorem inLines_position (cs : List Char) (offset : Nat) :
    InLines (lines cs) (charsBefore cs offset).length (byteSize cs ≤ offset)
      (position cs offset) := by
  induction cs generalizing offset with
  | nil => exact ⟨rfl, [], rfl, Nat.le_refl 0, fun _ => Nat.zero_le offset⟩
  | cons c cs ih =>
    rw [position_cons, charsBefore, byteSize_cons]
    by_cases hle : c.utf8Size ≤ offset
    · have hsize : c.utf8Size + byteSize cs ≤ offset ↔ byteSize cs ≤ offset - c.utf8Size := by omega
      rw [if_pos hle, if_pos hle, hsize]
      exact (ih (offset - c.utf8Size)).step
    · -- the offset falls into the first character
      obtain ⟨l, ls, hlines⟩ := exists_lines_cons c cs
      rw [if_neg hle, if_neg hle, hlines]
      exact ⟨rfl, c :: l, rfl, Nat.zero_le _, fun hfull => absurd hfull (Nat.zero_ne_add_one _)⟩

/-- The number of characters above a line. -/
def charsAbove (cs : List Char) (line : Nat) : Nat := ((lines cs).take line).flatten.length

/-! ## Positions in order -/

/-- Places in the order of lines, and of columns on one line. -/
def Position.key (p : Position) : ℕ ×ₗ ℕ := toLex (p.line, p.column)

theorem Position.key_lt_key {p q : Position} :
    p.key < q.key ↔ p.line < q.line ∨ p.line = q.line ∧ p.column < q.column :=
  Prod.Lex.toLex_lt_toLex

/-- What is reached from a later place is later, whatever comes before both. -/
theorem Position.key_plus_lt {q q' : Position} (h : q.key < q'.key) (p : Position) :
    (p.plus q).key < (p.plus q').key := by
  rw [key_lt_key] at h ⊢
  rw [line_plus, line_plus, column_plus, column_plus]
  split
  · split
    · omega
    · omega
  · split
    · omega
    · omega

theorem Position.key_lt_step_plus (c : Char) (next : Option Char) (p : Position) :
    (⟨0, 0⟩ : Position).key < ((step c next).plus p).key := by
  rw [step]
  split
  · rw [line_plus_eq, key_lt_key]
    exact .inl (Nat.succ_pos _)
  · rw [char_plus_eq, key_lt_key]
    by_cases hp : p.line = 0
    · rw [if_pos hp]
      exact .inr ⟨hp.symm, Nat.succ_pos _⟩
    · exact .inl (Nat.pos_of_ne_zero hp)

/-- An offset with more characters before it has a later position. -/
theorem key_position_lt {cs : List Char} {m n : Nat}
    (h : (charsBefore cs m).length < (charsBefore cs n).length) :
    (position cs m).key < (position cs n).key := by
  induction cs generalizing m n with
  | nil => exact absurd h (Nat.lt_irrefl 0)
  | cons c cs ih =>
    rw [charsBefore, charsBefore] at h
    rw [position_cons, position_cons]
    by_cases hn : c.utf8Size ≤ n
    · rw [if_pos hn] at h ⊢
      by_cases hm : c.utf8Size ≤ m
      · rw [if_pos hm] at h ⊢
        exact Position.key_plus_lt (ih (Nat.lt_of_succ_lt_succ h)) _
      · rw [if_neg hm]
        exact Position.key_lt_step_plus c cs.head? _
    · rw [if_neg hn] at h
      exact absurd h (Nat.not_lt_zero _)

/-- Between two places where the text can be cut there is a character. -/
theorem length_charsBefore_lt {cs : List Char} {m n : Nat} (hm : IsBoundary cs m)
    (hn : IsBoundary cs n) (h : m < n) :
    (charsBefore cs m).length < (charsBefore cs n).length := by
  obtain ⟨a, b, rfl, rfl⟩ := hm
  obtain ⟨a', b', hcs, rfl⟩ := hn
  obtain ⟨mid, rfl, -⟩ := append_of_byteSize_le hcs (Nat.le_of_lt h)
  have hmid : mid ≠ [] := by
    rintro rfl
    simp at h
  rw [charsBefore_append, hcs, charsBefore_append, List.length_append]
  exact Nat.lt_add_of_pos_right (List.length_pos_iff.2 hmid)

theorem key_position_lt_iff {cs : List Char} {m n : Nat} (hm : IsBoundary cs m)
    (hn : IsBoundary cs n) : (position cs m).key < (position cs n).key ↔ m < n := by
  have hmono : StrictMonoOn (fun n => (position cs n).key) {n | IsBoundary cs n} :=
    fun m hm n hn h => key_position_lt (length_charsBefore_lt hm hn h)
  exact hmono.lt_iff_lt hm hn

theorem charsBefore_min (cs : List Char) (n : Nat) :
    charsBefore cs (min n (byteSize cs)) = charsBefore cs n := by
  induction cs generalizing n with
  | nil => rfl
  | cons c cs ih =>
    rw [charsBefore, charsBefore, byteSize_cons]
    by_cases hn : c.utf8Size ≤ n
    · have hmin : min n (c.utf8Size + byteSize cs) - c.utf8Size =
          min (n - c.utf8Size) (byteSize cs) := by omega
      rw [if_pos (by omega), if_pos hn, hmin, ih]
    · rw [if_neg (by omega), if_neg hn]

end Text

/-! ## Located folds -/

/-- **Lines and columns of folds.** The located folds are the regions in their order, each with its
place. The text is split into lines in one way: they end at LF, CR, CR LF, VT, FF, NEL and the line
and paragraph separators. Whatever the start of a region, with what lies past the end counted as the
end: the line of its fold is one of the text, the characters before that line and the column make up
the characters before the start, and the start is in that line, behind all of it at the end of the
text only. Of two regions that start between characters the earlier one has the earlier line, or the
smaller column on the same line. -/
theorem locateFolds_places (content : String) (regions : List Region) :
    let cs := content.toList
    let folds := locateFolds content regions
    folds.map Fold.region = regions ∧ (∀ ls, Text.IsLines cs ls ↔ ls = Text.lines cs) ∧
    (∀ fold ∈ folds,
      let start := min fold.region.start (Text.byteSize cs)
      1 ≤ fold.line ∧
      Text.charIndex? cs start = some (Text.charsAbove cs (fold.line - 1) + fold.column) ∧
      ∃ l, (Text.lines cs)[fold.line - 1]? = some l ∧ fold.column ≤ l.length ∧
        (fold.column = l.length → start = Text.byteSize cs)) ∧
    ∀ fold ∈ folds, ∀ fold' ∈ folds, Text.IsBoundary cs fold.region.start →
      Text.IsBoundary cs fold'.region.start →
      (fold.region.start < fold'.region.start ↔
        toLex (fold.line, fold.column) < toLex (fold'.line, fold'.column)) := by
  intro cs folds
  have hfold : ∀ fold ∈ folds, fold.line = (Text.position cs fold.region.start).line + 1 ∧
      fold.column = (Text.position cs fold.region.start).column := by
    intro fold hfold
    obtain ⟨f, -, rfl⟩ := List.mem_map.1 hfold
    exact ⟨rfl, rfl⟩
  refine ⟨map_region_locateFolds content regions, fun ls => Text.isLines_iff, fun fold hmem => ?_,
    fun fold hmem fold' hmem' hb hb' => ?_⟩
  · obtain ⟨hline, hcolumn⟩ := hfold fold hmem
    obtain ⟨hchars, l, hl, hle, hend⟩ := Text.inLines_position cs fold.region.start
    have hindex : fold.line - 1 = (Text.position cs fold.region.start).line := by
      rw [hline, Nat.add_sub_cancel]
    intro start
    rw [hindex, hcolumn]
    refine ⟨?_, ?_, l, hl, hle, fun hfull => Nat.min_eq_right (hend hfull)⟩
    · rw [hline]
      exact Nat.succ_pos _
    · rw [Text.charIndex?_of_le (Nat.min_le_right ..), Text.charsBefore_min, ← hchars]
      rfl
  · obtain ⟨hline, hcolumn⟩ := hfold fold hmem
    obtain ⟨hline', hcolumn'⟩ := hfold fold' hmem'
    rw [← Text.key_position_lt_iff hb hb', Text.Position.key_lt_key, Prod.Lex.toLex_lt_toLex,
      hline, hline', hcolumn, hcolumn']
    omega

end GlyphFold
