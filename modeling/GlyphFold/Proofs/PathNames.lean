import Mathlib.Data.List.Basic
import GlyphFold.FileTree
import GlyphFold.Settings

/-!
# Paths made of names

Directory entries have names without slashes. Joined to a path they add one component each, whatever
idle pieces the path has, so that a place below a directory can be read off the path that leads to it.

1. `pieces_append_slash`: pieces of joined texts
2. `mem_dropLast_pieces_iff`: where a piece stands in the text
3. `IsName`, `pieces_join`: what joining a name does to the pieces
4. `components_joinAll`: the components of a place below a path
5. `Before`: the order of places
6. `stripRoot?_joinAll`, `fileName?_join`: the place and the last name, seen from the path
-/

namespace GlyphFold.Path

/-! ## Pieces -/

theorem exists_pieces_eq_cons (cs : List Char) : ∃ p ps, pieces cs = p :: ps := by
  cases cs with
  | nil => exact ⟨[], [], rfl⟩
  | cons c cs =>
    unfold pieces
    split
    · exact ⟨[c], [], rfl⟩
    · split
      · exact ⟨_, _, rfl⟩
      · exact ⟨_, _, rfl⟩

theorem pieces_ne_nil (cs : List Char) : pieces cs ≠ [] := by
  obtain ⟨p, ps, h⟩ := exists_pieces_eq_cons cs
  rw [h]
  exact List.cons_ne_nil p ps

theorem pieces_cons {c : Char} {cs p : List Char} {ps : List (List Char)}
    (h : pieces cs = p :: ps) :
    pieces (c :: cs) = if c = '/' then [] :: p :: ps else (c :: p) :: ps := by
  rw [pieces, h]

theorem pieces_append_slash (a b : List Char) : pieces (a ++ '/' :: b) = pieces a ++ pieces b := by
  induction a with
  | nil =>
    obtain ⟨p, ps, h⟩ := exists_pieces_eq_cons b
    rw [List.nil_append, pieces_cons h, if_pos rfl, h]
    rfl
  | cons c a ih =>
    obtain ⟨p, ps, h⟩ := exists_pieces_eq_cons a
    have htail : pieces (a ++ '/' :: b) = p :: (ps ++ pieces b) := by rw [ih, h, List.cons_append]
    rw [List.cons_append, pieces_cons htail, pieces_cons h]
    split <;> rfl

theorem pieces_of_not_mem {cs : List Char} (h : '/' ∉ cs) : pieces cs = [cs] := by
  induction cs with
  | nil => rfl
  | cons c cs ih =>
    rw [List.mem_cons, not_or] at h
    rw [pieces_cons (ih h.2), if_neg (Ne.symm h.1)]

/-- Wherever the pieces of a text are parted, the text has a slash. -/
theorem exists_of_pieces_eq_append {cs : List Char} {xs ys : List (List Char)}
    (h : pieces cs = xs ++ ys) (hxs : xs ≠ []) (hys : ys ≠ []) :
    ∃ a b, cs = a ++ '/' :: b ∧ pieces a = xs ∧ pieces b = ys := by
  induction cs generalizing xs with
  | nil =>
    obtain ⟨x, xs, rfl⟩ := List.exists_cons_of_ne_nil hxs
    exact absurd (List.append_eq_nil_iff.1 (List.cons.inj h).2.symm).2 hys
  | cons c cs ih =>
    obtain ⟨q, qs, hcs⟩ := exists_pieces_eq_cons cs
    obtain ⟨x, xs, rfl⟩ := List.exists_cons_of_ne_nil hxs
    rw [pieces_cons hcs] at h
    split at h
    · next hc =>
      obtain ⟨rfl, hrest⟩ := List.cons.inj h
      by_cases hnil : xs = []
      · subst hnil
        exact ⟨[], cs, by rw [hc]; rfl, rfl, hcs.trans hrest⟩
      · obtain ⟨a, b, rfl, ha, hb⟩ := ih (hcs.trans hrest) hnil
        obtain ⟨p, ps, hp⟩ := exists_pieces_eq_cons a
        refine ⟨c :: a, b, rfl, ?_, hb⟩
        rw [pieces_cons hp, if_pos hc, ← hp, ha]
    · next hc =>
      obtain ⟨rfl, rfl⟩ := List.cons.inj h
      have hparted : pieces cs = (q :: xs) ++ ys := hcs
      obtain ⟨a, b, rfl, ha, hb⟩ := ih hparted (List.cons_ne_nil _ _)
      refine ⟨c :: a, b, rfl, ?_, hb⟩
      rw [pieces_cons ha, if_neg hc]

theorem eq_of_pieces_eq_singleton {cs p : List Char} (h : pieces cs = [p]) : cs = p := by
  by_cases hslash : '/' ∈ cs
  · obtain ⟨a, b, rfl⟩ := List.append_of_mem hslash
    obtain ⟨q, qs, ha⟩ := exists_pieces_eq_cons a
    obtain ⟨q', qs', hb⟩ := exists_pieces_eq_cons b
    rw [pieces_append_slash, ha, hb] at h
    simp at h
  · rw [pieces_of_not_mem hslash] at h
    exact (List.cons.inj h).1

/-- A piece with others behind it stands at the start of the text or behind a slash, and in front of
a slash. -/
theorem mem_dropLast_pieces_iff {cs p : List Char} (hp : '/' ∉ p) :
    p ∈ (pieces cs).dropLast ↔
      ∃ a b, cs = a ++ p ++ '/' :: b ∧ (a = [] ∨ ∃ front, a = front ++ ['/']) := by
  constructor
  · intro h
    obtain ⟨xs, ys, hsplit⟩ := List.append_of_mem h
    have hne := pieces_ne_nil cs
    have hpieces : pieces cs = (xs ++ [p]) ++ (ys ++ [(pieces cs).getLast hne]) := calc
      pieces cs = (pieces cs).dropLast ++ [(pieces cs).getLast hne] :=
        (List.dropLast_concat_getLast hne).symm
      _ = (xs ++ [p]) ++ (ys ++ [(pieces cs).getLast hne]) := by
        rw [hsplit]
        simp
    obtain ⟨a, b, rfl, ha, -⟩ := exists_of_pieces_eq_append hpieces (by simp) (by simp)
    by_cases hxs : xs = []
    · subst hxs
      exact ⟨[], b, by rw [eq_of_pieces_eq_singleton ha]; rfl, .inl rfl⟩
    · obtain ⟨front, behind, rfl, -, hbehind⟩ := exists_of_pieces_eq_append ha hxs (by simp)
      refine ⟨front ++ ['/'], b, ?_, .inr ⟨front, rfl⟩⟩
      rw [eq_of_pieces_eq_singleton hbehind]
      simp
  · rintro ⟨a, b, rfl, ha⟩
    obtain ⟨q, qs, hb⟩ := exists_pieces_eq_cons b
    have hpieces : pieces (p ++ '/' :: b) = p :: q :: qs := by
      rw [pieces_append_slash, pieces_of_not_mem hp, hb]
      rfl
    rcases ha with rfl | ⟨front, rfl⟩
    · rw [List.nil_append, hpieces]
      exact List.mem_cons_self
    · rw [List.append_assoc, List.append_assoc, List.singleton_append, pieces_append_slash, hpieces,
        List.dropLast_append_of_ne_nil (List.cons_ne_nil _ _)]
      exact List.mem_append_right _ List.mem_cons_self

/-! ## Names -/

/-- The name of a directory entry. -/
structure IsName (name : String) : Prop where
  notIdle : isIdle name.toList = false
  notParent : name ≠ ".."
  noSlash : '/' ∉ name.toList

instance (name : String) : Decidable (IsName name) :=
  decidable_of_iff (isIdle name.toList = false ∧ name ≠ ".." ∧ '/' ∉ name.toList)
    ⟨fun h => ⟨h.1, h.2.1, h.2.2⟩, fun h => ⟨h.notIdle, h.notParent, h.noSlash⟩⟩

theorem IsName.ne_nil {name : String} (h : IsName name) : name.toList ≠ [] := by
  intro hnil
  exact absurd h.notIdle (by rw [hnil]; decide)

theorem IsName.ne_dot {name : String} (h : IsName name) : name.toList ≠ ['.'] := by
  intro hdot
  exact absurd h.notIdle (by rw [hdot]; decide)

theorem IsName.pieces {name : String} (h : IsName name) :
    Path.pieces name.toList = [name.toList] :=
  pieces_of_not_mem h.noSlash

theorem IsName.isAbsolute {name : String} (h : IsName name) : Path.isAbsolute name = false := by
  rw [Path.isAbsolute, decide_eq_false_iff_not]
  exact fun hhead => h.noSlash (List.mem_of_head? hhead)

/-! ## Joining a name -/

/-- A name is joined by a slash, or behind the one that the path ends with. -/
theorem toList_join {base name : String} (hbase : base ≠ "") (hname : IsName name) :
    (join base name).toList = base.toList ++ '/' :: name.toList ∨
      ∃ front, base.toList = front ++ ['/'] ∧
        (join base name).toList = front ++ '/' :: name.toList := by
  unfold join
  rw [if_neg (by rw [hname.isAbsolute]; decide)]
  split
  · next hlast =>
    right
    have hne : base.toList ≠ [] := by simpa using hbase
    rw [List.getLast?_eq_some_getLast hne, Option.all_some, decide_eq_true_eq] at hlast
    refine ⟨base.toList.dropLast, ?_, ?_⟩
    · rw [← hlast, List.dropLast_concat_getLast]
    · conv => lhs; rw [String.toList_append, ← List.dropLast_concat_getLast hne, hlast]
      rw [List.append_assoc]
      rfl
  · left
    rw [String.toList_append, String.toList_append, List.append_assoc]
    rfl

/-- The name becomes the last piece. Only an empty piece may be lost before it. -/
theorem pieces_join {base name : String} (hbase : base ≠ "") (hname : IsName name) :
    ∃ front idle, pieces base.toList = front ++ idle ∧ (idle = [] ∨ idle = [[]]) ∧ front ≠ [] ∧
      pieces (join base name).toList = front ++ [name.toList] := by
  rcases toList_join hbase hname with h | ⟨front, hfront, h⟩
  · refine ⟨pieces base.toList, [], (List.append_nil _).symm, .inl rfl, pieces_ne_nil _, ?_⟩
    rw [h, pieces_append_slash, hname.pieces]
  · refine ⟨pieces front, [[]], ?_, .inr rfl, pieces_ne_nil _, ?_⟩
    · rw [hfront, pieces_append_slash]
      rfl
    · rw [h, pieces_append_slash, hname.pieces]

theorem getLast?_pieces_join {base name : String} (hbase : base ≠ "") (hname : IsName name) :
    (pieces (join base name).toList).getLast? ≠ some [] := by
  obtain ⟨front, idle, -, -, -, hjoined⟩ := pieces_join hbase hname
  rw [hjoined, List.getLast?_concat, ne_eq, Option.some.injEq]
  exact hname.ne_nil

theorem isAbsolute_join {base name : String} (hbase : base ≠ "") (hname : IsName name) :
    isAbsolute (join base name) = isAbsolute base := by
  obtain ⟨c, cs, hcs⟩ := List.exists_cons_of_ne_nil
    (show base.toList ≠ [] by simpa using hbase)
  unfold isAbsolute
  rcases toList_join hbase hname with h | ⟨front, hfront, h⟩
  · rw [h, hcs]
    rfl
  · rw [h, hfront]
    cases front <;> rfl

theorem join_ne_empty {base name : String} (hbase : base ≠ "") (hname : IsName name) :
    join base name ≠ "" := by
  intro h
  rcases toList_join hbase hname with h' | ⟨front, -, h'⟩
  · rw [h] at h'
    simp at h'
  · rw [h] at h'
    simp at h'

theorem lead_join {base name : String} (hbase : base ≠ "") (hname : IsName name) :
    lead (join base name) = lead base := by
  obtain ⟨front, idle, hpieces, -, hfront, hjoined⟩ := pieces_join hbase hname
  obtain ⟨p, ps, rfl⟩ := List.exists_cons_of_ne_nil hfront
  unfold lead
  rw [isAbsolute_join hbase hname, hpieces, hjoined]
  rfl

theorem filter_idle {idle : List (List Char)} (h : idle = [] ∨ idle = [[]]) :
    idle.filter (!isIdle ·) = [] := by
  rcases h with rfl | rfl <;> rfl

theorem names_join {base name : String} (hbase : base ≠ "") (hname : IsName name) :
    names (join base name) = names base ++ [name] := by
  obtain ⟨front, idle, hpieces, hidle, -, hjoined⟩ := pieces_join hbase hname
  unfold names
  rw [hpieces, hjoined, List.filter_append, List.filter_append, filter_idle hidle, List.append_nil,
    List.map_append, List.filter_cons, hname.notIdle]
  simp

@[simp] theorem components_join {base name : String} (hbase : base ≠ "") (hname : IsName name) :
    components (join base name) = components base ++ [name] := by
  rw [components, components, lead_join hbase hname, names_join hbase hname, List.append_assoc]

theorem components_of_isName {name : String} (hname : IsName name) : components name = [name] := by
  rw [components, lead, names, hname.isAbsolute, hname.pieces, List.filter_cons, hname.notIdle]
  simp [hname.ne_dot]

theorem fileName?_of_components {path name : String} {front : List String}
    (h : components path = front ++ [name]) (hname : IsName name) : fileName? path = some name := by
  have hslash : name ≠ "/" := by
    rintro rfl
    exact hname.noSlash (by decide)
  have hdot : name ≠ "." := by
    rintro rfl
    exact hname.ne_dot (by decide)
  unfold fileName?
  rw [h, List.getLast?_concat]
  simp [hslash, hdot, hname.notParent]

/-- The last component of a path to an entry is the name of the entry. -/
theorem fileName?_join {base name : String} (hbase : base ≠ "") (hname : IsName name) :
    fileName? (join base name) = fileName? name := by
  rw [fileName?_of_components (components_join hbase hname) hname,
    @fileName?_of_components name name [] (components_of_isName hname) hname]

/-! ## Places -/

/-- The path of what lies at a place below a directory. -/
def joinAll (base : String) (place : List String) : String := place.foldl join base

@[simp] theorem joinAll_nil (base : String) : joinAll base [] = base := rfl

@[simp] theorem joinAll_cons (base name : String) (place : List String) :
    joinAll base (name :: place) = joinAll (join base name) place := rfl

theorem joinAll_append (base : String) (above below : List String) :
    joinAll base (above ++ below) = joinAll (joinAll base above) below :=
  List.foldl_append

theorem joinAll_concat (base name : String) (above : List String) :
    joinAll base (above ++ [name]) = join (joinAll base above) name := by
  rw [joinAll_append, joinAll_cons, joinAll_nil]

theorem joinAll_ne_empty {base : String} {place : List String} (hbase : base ≠ "")
    (hplace : ∀ name ∈ place, IsName name) : joinAll base place ≠ "" := by
  induction place generalizing base with
  | nil => exact hbase
  | cons name place ih =>
    have hjoin := join_ne_empty hbase (hplace name List.mem_cons_self)
    exact ih hjoin fun n hn => hplace n (List.mem_cons_of_mem name hn)

/-- A place adds its names to the components of the path. -/
theorem components_joinAll {base : String} {place : List String} (hbase : base ≠ "")
    (hplace : ∀ name ∈ place, IsName name) :
    components (joinAll base place) = components base ++ place := by
  induction place generalizing base with
  | nil => rw [joinAll_nil, List.append_nil]
  | cons name place ih =>
    have hname := hplace name List.mem_cons_self
    rw [joinAll_cons,
      ih (join_ne_empty hbase hname) fun n hn => hplace n (List.mem_cons_of_mem name hn),
      components_join hbase hname, List.append_assoc]
    rfl

theorem lead_joinAll {base : String} {place : List String} (hbase : base ≠ "")
    (hplace : ∀ name ∈ place, IsName name) : lead (joinAll base place) = lead base := by
  induction place generalizing base with
  | nil => rfl
  | cons name place ih =>
    have hname := hplace name List.mem_cons_self
    rw [joinAll_cons,
      ih (join_ne_empty hbase hname) fun n hn => hplace n (List.mem_cons_of_mem name hn),
      lead_join hbase hname]

/-- Nothing is lost behind a path that does not end with a slash. -/
theorem pieces_joinAll {base : String} {place : List String} (hbase : base ≠ "")
    (hlast : (pieces base.toList).getLast? ≠ some []) (hplace : ∀ name ∈ place, IsName name) :
    pieces (joinAll base place).toList = pieces base.toList ++ place.map String.toList := by
  induction place generalizing base with
  | nil => rw [joinAll_nil, List.map_nil, List.append_nil]
  | cons name place ih =>
    have hname := hplace name List.mem_cons_self
    obtain ⟨front, idle, hpieces, hidle | hidle, -, hjoined⟩ := pieces_join hbase hname
    · rw [joinAll_cons, ih (join_ne_empty hbase hname) (getLast?_pieces_join hbase hname)
        fun n hn => hplace n (List.mem_cons_of_mem name hn), hjoined, hpieces, hidle]
      simp
    · rw [hpieces, hidle, List.getLast?_concat] at hlast
      exact absurd rfl hlast

/-- Behind the pieces of a path, except for an idle one at the end, stand the names of a place. -/
theorem exists_pieces_joinAll {base : String} {place : List String} (hbase : base ≠ "")
    (hne : place ≠ []) (hplace : ∀ name ∈ place, IsName name) :
    ∃ front idle, pieces base.toList = front ++ idle ∧ (idle = [] ∨ idle = [[]]) ∧
      pieces (joinAll base place).toList = front ++ place.map String.toList := by
  obtain ⟨name, rest, rfl⟩ := List.exists_cons_of_ne_nil hne
  have hname := hplace name List.mem_cons_self
  obtain ⟨front, idle, hpieces, hidle, -, hjoined⟩ := pieces_join hbase hname
  refine ⟨front, idle, hpieces, hidle, ?_⟩
  rw [joinAll_cons, pieces_joinAll (join_ne_empty hbase hname) (getLast?_pieces_join hbase hname)
    fun n hn => hplace n (List.mem_cons_of_mem name hn), hjoined]
  simp

/-! ## The order of paths -/

/-- Names on the way to one file come before those on the way to another: the first name that differs
is smaller, or the way ends first. -/
def Before (a b : List String) : Prop := a.lex b = true

variable {a b c : List String}

theorem Before.trans (hab : Before a b) (hbc : Before b c) : Before a c := by
  unfold Before at *
  rw [List.lex_eq_true_iff_lt] at *
  exact List.lt_trans hab hbc

theorem not_before_self (a : List String) : ¬ Before a a := by
  unfold Before
  rw [List.lex_eq_true_iff_lt]
  exact List.lt_irrefl a

theorem before_or_eq_or_before (a b : List String) : Before a b ∨ a = b ∨ Before b a := by
  unfold Before
  rw [List.lex_eq_true_iff_lt, List.lex_eq_true_iff_lt]
  rcases List.le_total a b with h | h
  · exact (List.le_iff_lt_or_eq.1 h).imp_right .inl
  · rcases List.le_iff_lt_or_eq.1 h with h | h
    · exact .inr (.inr h)
    · exact .inr (.inl h.symm)

theorem Before.append_left (h : Before b c) (a : List String) : Before (a ++ b) (a ++ c) := by
  unfold Before at *
  rw [List.lex_eq_true_iff_lt] at *
  exact List.append_left_lt h

/-! ## The place seen from the path -/

theorem components_ne_nil {path : String} (h : path ≠ "") : components path ≠ [] := by
  intro hnil
  obtain ⟨hlead, hnames⟩ := List.append_eq_nil_iff.1 hnil
  obtain ⟨c, cs, hcs⟩ := List.exists_cons_of_ne_nil (show path.toList ≠ [] by simpa using h)
  obtain ⟨p, ps, hpieces⟩ := exists_pieces_eq_cons cs
  by_cases hc : c = '/'
  · rw [lead, isAbsolute, hcs, hc] at hlead
    cases hlead
  · -- the first piece has a character, so it says something unless it is the dot
    rw [lead, hcs, pieces_cons hpieces, if_neg hc] at hlead
    rw [names, hcs, pieces_cons hpieces, if_neg hc] at hnames
    simp [isAbsolute, hcs, hc] at hlead
    simp [isIdle] at hnames
    exact hlead hnames.1.1 hnames.1.2

/-- What is left behind names that all stand at the start. -/
theorem dropNames_append (ps rest : List (List Char)) :
    dropNames ((ps.filter (!isIdle ·)).map String.ofList) (ps ++ rest) =
      some (rest.dropWhile isIdle) := by
  induction ps with
  | nil =>
    show dropNames [] rest = _
    rw [dropNames]
  | cons p ps ih =>
    by_cases hp : isIdle p
    · rw [List.filter_cons_of_neg (by simp [hp]), List.cons_append]
      cases hnames : (ps.filter (!isIdle ·)).map String.ofList with
      | nil =>
        rw [hnames, dropNames] at ih
        rw [dropNames, List.dropWhile_cons_of_pos hp, ih]
      | cons name names => rw [dropNames, if_pos hp, ← hnames, ih]
    · rw [List.filter_cons_of_pos (by simp [hp]), List.map_cons, List.cons_append, dropNames,
        if_neg hp, if_pos String.toList_ofList, ih]

/-- The pieces of a place with slashes between them. -/
def ofNames (place : List String) : String := ofPieces (place.map String.toList)

/-- Behind the root, a path to a place below it shows the place. -/
theorem stripRoot?_joinAll {root : String} {place : List String} (hroot : root ≠ "")
    (hne : place ≠ []) (hplace : ∀ name ∈ place, IsName name) :
    stripRoot? root (joinAll root place) = some (ofNames place) := by
  obtain ⟨front, idle, hpieces, hidle, hjoined⟩ := exists_pieces_joinAll hroot hne hplace
  have hnames : names root = (front.filter (!isIdle ·)).map String.ofList := by
    rw [names, hpieces, List.filter_append, filter_idle hidle, List.append_nil]
  -- neither the first name of the place nor its last is dropped as idle
  have hstarts : (place.map String.toList).dropWhile isIdle = place.map String.toList := by
    obtain ⟨name, rest, rfl⟩ := List.exists_cons_of_ne_nil hne
    rw [List.map_cons, List.dropWhile_cons_of_neg]
    rw [(hplace name List.mem_cons_self).notIdle]
    decide
  have hends : ((pieces (joinAll root place).toList).reverse.dropWhile isIdle).reverse =
      front ++ place.map String.toList := by
    obtain ⟨above, name, rfl⟩ := (List.eq_nil_or_concat' place).resolve_left hne
    rw [hjoined, List.map_append, List.map_singleton, ← List.append_assoc, List.reverse_concat,
      List.dropWhile_cons_of_neg, List.reverse_cons, List.reverse_reverse]
    rw [(hplace name (List.mem_append_right above List.mem_cons_self)).notIdle]
    decide
  unfold stripRoot?
  rw [hends, if_neg (components_ne_nil hroot), if_pos (lead_joinAll hroot hplace).symm, hnames,
    dropNames_append, hstarts]
  rfl

end GlyphFold.Path
