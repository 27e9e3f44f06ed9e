import GlyphFold.Language
import GlyphFold.Text.Bytes

/-!
# Token trees

A syntax tree as a host hands it over: nodes numbered in the order in which they were added, each
with a kind, a byte range of the source and the number of its parent. A parent's number is taken as
it is given; a node whose parent is not there hangs in no child list.

1. `ofSource`, `push`: building a tree
2. `text?`, `children`, `parentKind?`: its views
3. `walk`, `collect`: the leaves below a node, visited with a stack
4. `collectChecked`: the same for trees of any pushes, where a number may be that of no node and a
   walk may have no end
-/

namespace GlyphFold

/-- The number of a node; the root is 0. -/
abbrev NodeId := Nat

structure Node where
  kind : String
  range : Span
  parent : Option NodeId
  children : List NodeId
  deriving DecidableEq, Repr

structure TokenTree where
  source : String
  nodes : Array Node
  deriving DecidableEq, Repr

namespace TokenTree

/-! ## Building -/

/-- A tree of one node, which spans the source. -/
def ofSource (source rootKind : String) : TokenTree where
  source := source
  nodes := #[⟨rootKind, ⟨0, Text.byteSize source.toList⟩, none, []⟩]

def size (t : TokenTree) : Nat := t.nodes.size

/-- Adds a node at the end of its parent's child list. -/
def push (t : TokenTree) (parent : NodeId) (kind : String) (range : Span) : TokenTree :=
  { t with
    nodes := (t.nodes.push ⟨kind, range, some parent, []⟩).modify parent fun n =>
      { n with children := n.children ++ [t.size] } }

@[simp] theorem size_ofSource (source rootKind : String) : (ofSource source rootKind).size = 1 := rfl

@[simp] theorem size_push (t : TokenTree) (parent : NodeId) (kind : String) (range : Span) :
    (t.push parent kind range).size = t.size + 1 := by
  simp [push, size]

@[simp] theorem source_push (t : TokenTree) (parent : NodeId) (kind : String) (range : Span) :
    (t.push parent kind range).source = t.source := rfl

/-! ## Views -/

def node? (t : TokenTree) (id : NodeId) : Option Node := t.nodes[id]?

/-- The source text of a node; none when its range is reversed, leaves the source or splits a
character. -/
def text? (t : TokenTree) (n : Node) : Option String :=
  (Text.slice? t.source.toList n.range.start n.range.stop).map String.ofList

/-- The text of a node is what the source has in the node's range. -/
theorem slice?_of_text? {t : TokenTree} {n : Node} {text : String} (h : t.text? n = some text) :
    Text.slice? t.source.toList n.range.start n.range.stop = some text.toList := by
  obtain ⟨cs, hcs, rfl⟩ := Option.map_eq_some_iff.1 h
  rw [hcs, String.toList_ofList]

/-- The text of a node has its two ends in order. -/
theorem start_le_stop_of_text? {t : TokenTree} {n : Node} {text : String}
    (h : t.text? n = some text) : n.range.start ≤ n.range.stop := by
  obtain ⟨a, b, -, -, hstop⟩ := Text.slice?_eq_some_iff.1 (slice?_of_text? h)
  omega

def children (t : TokenTree) (id : NodeId) : List NodeId :=
  match t.node? id with
  | some n => n.children
  | none => []

/-- The kind of a node's parent. -/
def parentKind? (t : TokenTree) (n : Node) : Option String :=
  (n.parent.bind t.node?).map Node.kind

/-- A node is string material when its own kind or its parent's kind is. -/
def inString (t : TokenTree) (g : Grammar) (n : Node) : Bool :=
  g.isStringLiteral n.kind || (t.parentKind? n).any g.isStringLiteral

theorem inString_eq_false_iff {t : TokenTree} {g : Grammar} {n : Node} :
    t.inString g n = false ↔ g.isStringLiteral n.kind = false ∧
      ∀ kind, t.parentKind? n = some kind → g.isStringLiteral kind = false := by
  unfold inString
  cases t.parentKind? n <;> simp

/-! ## Walks -/

/-- Puts nodes on a stack one after the other. -/
def pushAll (stack : List NodeId) (ids : List NodeId) : List NodeId :=
  ids.foldl (fun stack id => id :: stack) stack

theorem pushAll_reverse (stack ids : List NodeId) : pushAll stack ids.reverse = ids ++ stack := by
  simp [pushAll]

/-- Where a walk stands: the nodes still to visit, the next one first, and what was found so far. -/
structure Walk (α : Type) where
  stack : List NodeId
  found : Array α

variable {α : Type}

/-- One turn of a walk takes a node off the stack. A leaf may give something, which is added to what
was found; any other node puts its children on the stack, the last one first. -/
def turn (t : TokenTree) (find : Node → Option α) (w : Walk α) : Walk α :=
  match w.stack with
  | [] => w
  | id :: stack =>
    match t.node? id with
    | none => ⟨stack, w.found⟩
    | some n =>
      if n.children.isEmpty then
        match find n with
        | some x => ⟨stack, w.found.push x⟩
        | none => ⟨stack, w.found⟩
      else ⟨pushAll stack n.children.reverse, w.found⟩

/-- Takes turns until the stack is empty, at most the given number of them. -/
def walk (t : TokenTree) (find : Node → Option α) : (turns : Nat) → Walk α → Walk α
  | 0, w => w
  | turns + 1, w => if w.stack.isEmpty then w else walk t find turns (t.turn find w)

/-- What the leaves below a node give, in the order in which a walk comes to them. A node is in one
child list at most, so the walk takes at most one turn for each node, unless it starts at a node that
is its own child. -/
def collect (t : TokenTree) (find : Node → Option α) (id : NodeId) : List α :=
  (t.walk find t.size ⟨[id], #[]⟩).found.toList

/-! ## Checked walks -/

/-- Why a walk has no result. -/
inductive WalkFault where
  /-- A number was looked up that is that of no node. -/
  | missing (id : NodeId) (size : Nat)
  /-- The walk goes on for ever. -/
  | endless
  deriving DecidableEq, Repr

def WalkFault.message : WalkFault → String
  | missing id size =>
    "index out of bounds: the len is " ++ toString size ++ " but the index is " ++ toString id
  | endless => "the walk has no end"

/-- The kind of a node's parent, whose number must be that of a node. -/
def parentKindChecked (t : TokenTree) (n : Node) : Except WalkFault (Option String) :=
  match n.parent with
  | none => .ok none
  | some parent =>
    match t.node? parent with
    | some p => .ok (some p.kind)
    | none => .error (.missing parent t.size)

/-- `inString` with a checked look at the parent, which is not looked at if the node's own kind is
string material. -/
def inStringChecked (t : TokenTree) (g : Grammar) (n : Node) : Except WalkFault Bool :=
  if g.isStringLiteral n.kind then .ok true
  else (t.parentKindChecked n).map (·.any g.isStringLiteral)

/-- What a leaf adds to what was found: nothing, something, or its fault. -/
def entry? : Except WalkFault (Option α) → Option (Except WalkFault α)
  | .ok none => none
  | .ok (some x) => some (.ok x)
  | .error e => some (.error e)

/-- `collect` where a leaf may have a fault, the first of which decides, and where the walk may have
no end. -/
def collectChecked (t : TokenTree) (find : Node → Except WalkFault (Option α)) (id : NodeId) :
    Except WalkFault (List α) :=
  let w := t.walk (fun n => entry? (find n)) t.size ⟨[id], #[]⟩
  if w.stack.isEmpty then w.found.toList.mapM fun x => x else .error .endless

end TokenTree

end GlyphFold
