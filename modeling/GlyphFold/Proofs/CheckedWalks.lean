import GlyphFold.Proofs.TableInvariant
import GlyphFold.Proofs.TreeWalk
import GlyphFold.Resolver

/-!
# Resolvers on trees of any pushes

What keeps a resolver from a result on a tree that was built by pushes under any numbers. A walk has
no end if it starts at a node that was pushed under its own number, and looks up a number of no node
if it starts at a leaf whose parent is not there. From all other nodes the checks never fail, since
a walk goes down child lists, whose nodes come after their parents.

1. `walk_map`: walks that find the same at the leaves that they come to
2. `collectChecked_eq_ok`, `collectChecked_of_leaf`, `collectChecked_eq_endless`: checked walks
3. `LooksAtParent`: the leaves at which a resolver looks at the parent
4. `resolveChecked_eq_ok`, `resolveChecked_cases`: the nodes from which the checked regions are the
   regions, and the others
5. `resolveChecked_endless_iff`, `resolveChecked_missing_iff`: what keeps these from a result
-/

namespace GlyphFold

namespace TokenTree

variable {t : TokenTree}

/-! ## Checked walks -/

section Checked

variable {α β : Type}

theorem turn_map (F : α → β) {find : Node → Option α} {find' : Node → Option β} {w : Walk α}
    (hfind : ∀ id ∈ w.stack, ∀ n, t.node? id = some n → n.children = [] →
      find' n = (find n).map F) :
    t.turn find' ⟨w.stack, w.found.map F⟩ =
      ⟨(t.turn find w).stack, (t.turn find w).found.map F⟩ := by
  obtain ⟨_ | ⟨id, stack⟩, found⟩ := w
  · rfl
  · simp only [turn]
    cases hn : t.node? id with
    | none => rfl
    | some n =>
      by_cases hleaf : n.children = []
      · have hn' := hfind id List.mem_cons_self n hn hleaf
        cases hx : find n with
        | none => simp [hleaf, hn', hx]
        | some x => simp [hleaf, hn', hx]
      · simp [hleaf]

/-- Two walks run alike where what one finds at the leaves is an image of what the other finds
there. Only the leaves that can be reached count. -/
theorem walk_map (F : α → β) {reached : NodeId → Prop}
    (hdown : ∀ id c, reached id → c ∈ t.children id → reached c) {find : Node → Option α}
    {find' : Node → Option β}
    (hfind : ∀ id n, reached id → t.node? id = some n → n.children = [] → find' n = (find n).map F)
    (turns : Nat) {w : Walk α} (hw : ∀ id ∈ w.stack, reached id) :
    t.walk find' turns ⟨w.stack, w.found.map F⟩ =
      ⟨(t.walk find turns w).stack, (t.walk find turns w).found.map F⟩ := by
  induction turns generalizing w with
  | zero => rfl
  | succ turns ih =>
    have hturn := turn_map F fun id hid n => hfind id n (hw id hid)
    obtain ⟨_ | ⟨id, stack⟩, found⟩ := w
    · rw [walk_of_stack_eq_nil find _ rfl, walk_of_stack_eq_nil find' _ rfl]
    · rw [walk_succ_cons, walk_succ_cons, hturn]
      refine ih fun x hx => ?_
      rw [stack_turn] at hx
      rcases List.mem_append.1 hx with hx | hx
      · exact hdown id x (hw id List.mem_cons_self) hx
      · exact hw x (List.mem_cons_of_mem id hx)

theorem mapM_map_ok (xs : List α) :
    (xs.map (Except.ok : α → Except WalkFault α)).mapM (fun x => x) = .ok xs := by
  induction xs with
  | nil => rfl
  | cons x xs ih =>
    rw [List.map_cons, List.mapM_cons, ih]
    rfl

variable (ht : t.Pushed) {start : NodeId} (hstart : start < t.size)

include ht hstart

/-- A walk that ends and comes to no fault finds what it finds unchecked. -/
theorem collectChecked_eq_ok (hself : start ∉ t.children start) {reached : NodeId → Prop}
    (hdown : ∀ id c, reached id → c ∈ t.children id → reached c) (hreached : reached start)
    {find : Node → Option α} {find' : Node → Except WalkFault (Option α)}
    (hfind : ∀ id n, reached id → t.node? id = some n → n.children = [] → find' n = .ok (find n)) :
    t.collectChecked find' start = .ok (t.collect find start) := by
  have hentry : ∀ id n, reached id → t.node? id = some n → n.children = [] →
      entry? (find' n) = (find n).map .ok := by
    intro id n hid hn hleaf
    rw [hfind id n hid hn hleaf]
    cases find n <;> rfl
  have hwalk := walk_map Except.ok hdown hentry t.size (w := ⟨[start], #[]⟩)
    fun id hid => List.mem_singleton.1 hid ▸ hreached
  simp only [Array.map_empty] at hwalk
  unfold collectChecked collect
  rw [hwalk, if_pos (List.isEmpty_iff.2 (walk_over ht hself find hstart)), Array.toList_map,
    mapM_map_ok]

omit hstart in
theorem collectChecked_of_leaf {n : Node} (hn : t.node? start = some n) (hleaf : n.children = [])
    (find : Node → Except WalkFault (Option α)) :
    t.collectChecked find start = (find n).map Option.toList := by
  obtain ⟨turns, hturns⟩ := Nat.exists_eq_succ_of_ne_zero (Nat.ne_of_gt ht.size_pos)
  obtain ⟨hstack, hfound⟩ := turn_leaf (fun n => entry? (find n))
    ((children_of_node? hn).trans hleaf) [] #[]
  unfold collectChecked
  rw [hturns, walk_succ_cons, walk_of_stack_eq_nil _ _ hstack, if_pos (List.isEmpty_iff.2 hstack),
    hfound, hn]
  rcases hfind : find n with e | _ | x <;> simp [hfind, entry?] <;> rfl

omit ht hstart in
theorem collectChecked_eq_endless (hself : start ∈ t.children start)
    (find : Node → Except WalkFault (Option α)) :
    t.collectChecked find start = .error .endless := by
  have hmem := mem_stack_walk (fun n => entry? (find n)) hself t.size (w := ⟨[start], #[]⟩)
    List.mem_cons_self
  unfold collectChecked
  rw [if_neg fun h => ?_]
  rw [List.isEmpty_iff.1 h] at hmem
  cases hmem

end Checked

/-! ## Parents -/

/-- The parent of a node, if it has one, is a node of the tree. -/
def ParentInside (t : TokenTree) (id : NodeId) : Prop := ∀ p, t.parent? id = some p → p < t.size

/-- A node in a child list hangs below a node of the tree. -/
theorem Pushed.parentInside_of_mem_children (ht : t.Pushed) {id c : NodeId}
    (hc : c ∈ t.children id) : t.ParentInside c := by
  intro p hp
  obtain ⟨hparent, hle⟩ := ht.mem_children_iff.1 hc
  obtain rfl := Option.some.inj (hparent.symm.trans hp)
  exact Nat.lt_of_le_of_lt hle (lt_size_of_parent? hparent)

theorem Pushed.parent?_root (ht : t.Pushed) : t.parent? 0 = none := by
  induction ht with
  | ofSource source rootKind => rfl
  | push h parent kind range ih => rw [parent?_push, if_neg (Nat.ne_of_lt h.size_pos), ih]

theorem parentKindChecked_of_inside {n : Node} (h : ∀ p, n.parent = some p → p < t.size) :
    t.parentKindChecked n = .ok (t.parentKind? n) := by
  unfold parentKindChecked parentKind?
  cases hp : n.parent with
  | none => rfl
  | some p =>
    obtain ⟨q, hq⟩ := exists_node (h p hp)
    simp [hq]

theorem parentKindChecked_of_outside {n : Node} {p : NodeId} (hp : n.parent = some p)
    (hout : t.size ≤ p) : t.parentKindChecked n = .error (.missing p t.size) := by
  unfold parentKindChecked
  rw [hp]
  simp [node?_eq_none hout]

theorem inStringChecked_of_inside {n : Node} (g : Grammar)
    (h : ∀ p, n.parent = some p → p < t.size) :
    t.inStringChecked g n = .ok (t.inString g n) := by
  unfold inStringChecked inString
  rw [parentKindChecked_of_inside h]
  cases g.isStringLiteral n.kind <;> rfl

theorem inStringChecked_of_outside {n : Node} {g : Grammar} {p : NodeId} (hp : n.parent = some p)
    (hout : t.size ≤ p) (hown : g.isStringLiteral n.kind = false) :
    t.inStringChecked g n = .error (.missing p t.size) := by
  unfold inStringChecked
  rw [hown, parentKindChecked_of_outside hp hout]
  rfl

theorem inStringChecked_eq_missing_iff {n : Node} {g : Grammar} {p : NodeId} {size : Nat} :
    t.inStringChecked g n = .error (.missing p size) ↔
      size = t.size ∧ t.size ≤ p ∧ n.parent = some p ∧ g.isStringLiteral n.kind = false := by
  constructor
  · intro h
    have hown : g.isStringLiteral n.kind = false := by
      by_contra hown
      rw [inStringChecked, if_pos (Bool.not_eq_false _ ▸ hown)] at h
      cases h
    by_cases hinside : ∀ p, n.parent = some p → p < t.size
    · cases (inStringChecked_of_inside g hinside).symm.trans h
    · simp only [not_forall, Nat.not_lt] at hinside
      obtain ⟨q, hq, hout⟩ := hinside
      cases (inStringChecked_of_outside hq hout hown).symm.trans h
      exact ⟨rfl, hout, hq, hown⟩
  · rintro ⟨rfl, hout, hp, hown⟩
    exact inStringChecked_of_outside hp hout hown

end TokenTree

/-! ## Leaves -/

namespace Resolver

variable {r : Resolver} {t : TokenTree} {g : Grammar} {n : Node}

/-- A resolver looks at the leaf's parent: the leaf's text is a source, and its own kind does not
make it string material. -/
structure LooksAtParent (r : Resolver) (t : TokenTree) (g : Grammar) (n : Node) : Prop where
  isSource : ∃ text m, t.text? n = some text ∧ text ≠ "" ∧ r.table.find? text = some m
  ownKind : g.isStringLiteral n.kind = false

/-- Checking changes nothing at a leaf that has no look at a parent that is not there. -/
theorem resolveLeafChecked_eq_ok
    (h : r.LooksAtParent t g n → ∀ p, n.parent = some p → p < t.size) :
    r.resolveLeafChecked t g n = .ok (r.resolveLeaf t g n) := by
  unfold resolveLeafChecked resolveLeaf candidate?
  cases htext : (t.text? n).filter (· ≠ "") with
  | none => rfl
  | some text =>
    obtain ⟨htext, hne⟩ := Option.filter_eq_some_iff.1 htext
    simp only [Option.bind_eq_bind, Option.bind_some]
    cases hm : r.table.find? text with
    | none => rfl
    | some m =>
      simp only [Option.bind_some]
      cases hown : g.isStringLiteral n.kind with
      | true =>
        rw [TokenTree.inStringChecked, TokenTree.inString, hown]
        rfl
      | false =>
        have hinside := h ⟨⟨text, m, htext, of_decide_eq_true hne, hm⟩, hown⟩
        rw [TokenTree.inStringChecked_of_inside g hinside,
          TokenTree.parentKindChecked_of_inside hinside]
        cases t.inString g n with
        | true => rfl
        | false =>
          simp only [Bool.false_eq_true, if_false, Option.bind_some]
          rw [apply_ite Except.ok]
          rfl

theorem resolveLeafChecked_eq_missing (h : r.LooksAtParent t g n) {p : NodeId}
    (hp : n.parent = some p) (hout : t.size ≤ p) :
    r.resolveLeafChecked t g n = .error (.missing p t.size) := by
  obtain ⟨⟨text, m, htext, hne, hm⟩, hown⟩ := h
  have hfilter : (t.text? n).filter (· ≠ "") = some text := by simp [htext, hne]
  unfold resolveLeafChecked
  rw [hfilter]
  simp only [hm, TokenTree.inStringChecked_of_outside hp hout hown]
  rfl

/-! ## Regions -/

/-- A walk from the node looks at a parent that is not there: the node is a leaf at which the
resolver looks at the parent, and it was pushed under a number that no node ever got. -/
def LooksOutside (r : Resolver) (t : TokenTree) (g : Grammar) (start p : NodeId) : Prop :=
  t.size ≤ p ∧ ∃ leaf, t.node? start = some leaf ∧ leaf.children = [] ∧ leaf.parent = some p ∧
    r.LooksAtParent t g leaf

section Regions

variable (ht : t.Pushed) {start : NodeId}

include ht

/-- From a node that is not its own child, and from which no walk looks at a parent that is not
there, checking changes nothing. -/
theorem resolveChecked_eq_ok (hstart : start < t.size) (hself : start ∉ t.children start)
    (hinside : ∀ p, ¬ r.LooksOutside t g start p) :
    r.resolveChecked t g start = .ok (r.resolve t g start) := by
  -- below the start every node hangs in a child list, so its parent is there
  have hdown : ∀ id c, (∀ p, ¬ r.LooksOutside t g id p) → c ∈ t.children id →
      ∀ p, ¬ r.LooksOutside t g c p := by
    rintro id c - hc p ⟨hout, leaf, hleaf, -, hp, -⟩
    have hcp := (TokenTree.parent?_of_node? hleaf).trans hp
    exact Nat.not_le_of_lt (ht.parentInside_of_mem_children hc p hcp) hout
  unfold resolveChecked resolve
  split
  · rfl
  · refine TokenTree.collectChecked_eq_ok ht hstart hself hdown hinside fun id n hid hn hleaf => ?_
    refine resolveLeafChecked_eq_ok fun hlooks p hp => ?_
    by_contra hout
    exact hid p ⟨Nat.le_of_not_lt hout, n, hn, hleaf, hp, hlooks⟩

theorem resolveChecked_eq_missing {p : NodeId} (h : r.LooksOutside t g start p) :
    r.resolveChecked t g start = .error (.missing p t.size) := by
  obtain ⟨hout, leaf, hn, hleaf, hp, hlooks⟩ := h
  obtain ⟨text, m, -, -, hm⟩ := hlooks.isSource
  have htable : ¬ r.table.isEmpty = true := by
    intro hempty
    rw [Table.find?_of_isEmpty hempty] at hm
    cases hm
  unfold resolveChecked
  rw [if_neg htable, TokenTree.collectChecked_of_leaf ht hn hleaf,
    resolveLeafChecked_eq_missing hlooks hp hout]
  rfl

omit ht in
theorem resolveChecked_eq_endless (htable : r.table.isEmpty = false)
    (hself : start ∈ t.children start) : r.resolveChecked t g start = .error .endless := by
  unfold resolveChecked
  rw [htable, TokenTree.collectChecked_eq_endless hself]
  rfl

/-- What becomes of a start node. -/
theorem resolveChecked_cases (r : Resolver) (g : Grammar) (hstart : start < t.size) :
    (r.table.isEmpty = false ∧ start ∈ t.children start ∧
      r.resolveChecked t g start = .error .endless) ∨
    (∃ p, r.LooksOutside t g start p ∧
      r.resolveChecked t g start = .error (.missing p t.size)) ∨
    (r.resolveChecked t g start = .ok (r.resolve t g start)) := by
  by_cases hout : ∃ p, r.LooksOutside t g start p
  · obtain ⟨p, hp⟩ := hout
    exact .inr (.inl ⟨p, hp, resolveChecked_eq_missing ht hp⟩)
  · by_cases hself : start ∈ t.children start
    · cases htable : r.table.isEmpty with
      | false => exact .inl ⟨rfl, hself, resolveChecked_eq_endless htable hself⟩
      | true =>
        refine .inr (.inr ?_)
        unfold resolveChecked resolve
        rw [htable]
        rfl
    · exact .inr (.inr (resolveChecked_eq_ok ht hstart hself (not_exists.1 hout)))

end Regions

/-- On a grown tree checking changes nothing, whatever node the walk starts at. -/
theorem resolveChecked_of_grown (ht : t.Grown) {start : NodeId} (hstart : start < t.size) :
    r.resolveChecked t g start = .ok (r.resolve t g start) := by
  refine resolveChecked_eq_ok ht.pushed hstart (fun hself => ?_) ?_
  · exact Nat.lt_irrefl start (ht.lt_of_mem_children hself).1
  · rintro p ⟨hout, leaf, hn, -, hp, -⟩
    have hlt := ht.parent_lt ((TokenTree.parent?_of_node? hn).trans hp)
    exact Nat.not_le_of_lt (Nat.lt_trans hlt hstart) hout

/-- **Where a walk has no end.** A child has a larger number than its parent, unless it was pushed
under its own number, and no other node comes back to itself. A walk from such a node never gets rid
of it; from every other node a walk is over within a turn for each node of the tree. -/
theorem resolveChecked_endless_iff (ht : t.Pushed) :
    (∀ p c, c ∈ t.children p → c < t.size ∧ (p < c ∨ p = c ∧ t.parent? c = some c)) ∧
    (∀ id, Relation.TransGen (fun p c => c ∈ t.children p) id id ↔ t.parent? id = some id) ∧
    ∀ start < t.size,
      (∀ find : Node → Option Region,
        ((∃ turns, (t.walk find turns ⟨[start], #[]⟩).stack = []) ↔ t.parent? start ≠ some start) ∧
        (t.parent? start ≠ some start → (t.walk find t.size ⟨[start], #[]⟩).stack = [])) ∧
      ∀ (r : Resolver) (g : Grammar), r.resolveChecked t g start = .error .endless ↔
        r.table.isEmpty = false ∧ t.parent? start = some start := by
  refine ⟨fun p c hc => ⟨ht.lt_size_of_mem_children hc, ?_⟩, fun id => ?_, fun start hstart => ?_⟩
  · obtain ⟨hparent, hle⟩ := ht.mem_children_iff.1 hc
    rcases Nat.lt_or_eq_of_le hle with hlt | rfl
    · exact .inl hlt
    · exact .inr ⟨rfl, hparent⟩
  · rw [← ht.mem_children_self_iff]
    constructor
    · intro hcycle
      obtain ⟨c, hc, hback⟩ := Relation.TransGen.head'_iff.1 hcycle
      exact ht.eq_of_cycle hc hback ▸ hc
    · intro hself
      exact .single hself
  · rw [ne_eq, ← ht.mem_children_self_iff]
    refine ⟨fun find => ⟨TokenTree.exists_walk_over_iff ht hstart find,
      fun hself => TokenTree.walk_over ht hself find hstart⟩, fun r g => ⟨fun h => ?_, ?_⟩⟩
    · rcases resolveChecked_cases ht r g hstart with ⟨htable, hself, -⟩ | ⟨p, -, hp⟩ | hok
      · exact ⟨htable, hself⟩
      · cases hp.symm.trans h
      · cases hok.symm.trans h
    · rintro ⟨htable, hself⟩
      exact resolveChecked_eq_endless htable hself

/-- A tree with a node that was pushed under its own number. -/
def ownParentTree : TokenTree := (TokenTree.ofSource "a" "module").push 1 "identifier" ⟨0, 1⟩

theorem pushed_ownParentTree : ownParentTree.Pushed := .push (.ofSource _ _) 1 _ _

theorem mem_children_ownParentTree : 1 ∈ ownParentTree.children 1 := by decide

/-- The node is in its own child list, and a walk that starts there goes on for ever. -/
theorem walk_ownParentTree_ne_nil :
    ¬ (∀ p c, c ∈ ownParentTree.children p → p < c) ∧
      ∀ (find : Node → Option Region) (turns : Nat),
        (ownParentTree.walk find turns ⟨[1], #[]⟩).stack ≠ [] := by
  refine ⟨fun h => Nat.lt_irrefl 1 (h 1 1 mem_children_ownParentTree), fun find turns hover => ?_⟩
  have hmem := TokenTree.mem_stack_walk find mem_children_ownParentTree turns (w := ⟨[1], #[]⟩)
    List.mem_cons_self
  rw [hover] at hmem
  cases hmem

theorem resolveChecked_ownParentTree :
    ∃ r, new .willing (Table.empty.run [.upsert ⟨"a", "α", "", .always⟩]) .builtin = .ok r ∧
      r.resolveChecked ownParentTree Language.python.grammar 1 = .error .endless ∧
      r.resolveChecked ownParentTree Language.python.grammar 0 ≠ .error .endless := by
  refine ⟨_, rfl, ?_, fun h => ?_⟩
  · have hone := ((resolveChecked_endless_iff pushed_ownParentTree).2.2 1 (by decide)).2
    exact (hone _ _).2 ⟨by decide +kernel, by decide⟩
  · have hroot := ((resolveChecked_endless_iff pushed_ownParentTree).2.2 0 (by decide)).2
    have hown := (hroot _ _).1 h
    exact absurd hown.2 (by decide)

/-- **Where a number is that of no node.** The root has no parent, and a node in a child list has
one that is a node of the tree. Only a leaf that was pushed under a number that no node ever got
makes `inString` look at a node that is not there, and a resolver does so only if its walk starts at
such a leaf, whose text is a source. Where nothing goes wrong, checking changes nothing. -/
theorem resolveChecked_missing_iff (ht : t.Pushed) :
    t.ParentInside 0 ∧ (∀ id c, c ∈ t.children id → t.ParentInside c) ∧
    (∀ (g : Grammar) (id : NodeId) (n : Node), t.node? id = some n → ∀ p size,
      t.inStringChecked g n = .error (.missing p size) ↔
        size = t.size ∧ t.size ≤ p ∧ n.parent = some p ∧ g.isStringLiteral n.kind = false) ∧
    ∀ (r : Resolver) (g : Grammar), ∀ start < t.size,
      (∀ p size, r.resolveChecked t g start = .error (.missing p size) ↔
        size = t.size ∧ r.LooksOutside t g start p) ∧
      ∀ regions, r.resolveChecked t g start = .ok regions → regions = r.resolve t g start := by
  refine ⟨fun p hp => ?_, fun id c hc => ht.parentInside_of_mem_children hc,
    fun g id n _ p size => TokenTree.inStringChecked_eq_missing_iff,
    fun r g start hstart => ⟨fun p size => ⟨fun h => ?_, ?_⟩, fun regions h => ?_⟩⟩
  · cases ht.parent?_root.symm.trans hp
  · rcases resolveChecked_cases ht r g hstart with ⟨-, -, hendless⟩ | ⟨q, hq, hmissing⟩ | hok
    · cases hendless.symm.trans h
    · cases hmissing.symm.trans h
      exact ⟨rfl, hq⟩
    · cases hok.symm.trans h
  · rintro ⟨rfl, hp⟩
    exact resolveChecked_eq_missing ht hp
  · rcases resolveChecked_cases ht r g hstart with ⟨-, -, hendless⟩ | ⟨q, -, hmissing⟩ | hok
    · cases hendless.symm.trans h
    · cases hmissing.symm.trans h
    · cases hok.symm.trans h
      rfl

/-- A tree with a leaf that was pushed under a number that no node got. -/
def strayTree : TokenTree := (TokenTree.ofSource "a" "module").push 7 "identifier" ⟨0, 1⟩

theorem pushed_strayTree : strayTree.Pushed := .push (.ofSource _ _) 7 _ _

/-- The parent of the leaf is not there, and asking whether the leaf is string material fails. -/
theorem not_parentInside_strayTree :
    ¬ strayTree.ParentInside 1 ∧
      (strayTree.node? 1).map (strayTree.inStringChecked Language.python.grammar) =
        some (.error (.missing 7 2)) := by
  refine ⟨fun h => ?_, by decide +kernel⟩
  exact absurd (h 7 (by decide)) (by decide)

theorem resolveChecked_strayTree :
    ∃ r, new .willing (Table.empty.run [.upsert ⟨"a", "α", "", .always⟩]) .builtin = .ok r ∧
      r.resolveChecked strayTree Language.python.grammar 1 = .error (.missing 7 2) := by
  refine ⟨_, rfl, ?_⟩
  refine (((resolveChecked_missing_iff pushed_strayTree).2.2.2 _ _ 1 (by decide)).1 7 2).2
    ⟨rfl, by decide, _, rfl, rfl, rfl, ⟨"a", ⟨"a", "α", "", .always⟩, ?_, by decide, ?_⟩, ?_⟩ <;>
    decide +kernel

end Resolver

end GlyphFold
