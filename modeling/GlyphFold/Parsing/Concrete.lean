import GlyphFold.TokenTree

/-!
# Concrete trees

What the parsers build: every token a leaf, every phrase a node over its tokens. `toTokenTree` numbers
the nodes and hands them to the resolver.
-/

namespace GlyphFold

inductive Concrete where
  | leaf (kind : String) (range : Span)
  | node (kind : String) (children : List Concrete)
  deriving Repr

namespace Concrete

mutual

/-- Where the first token of a tree starts. -/
def start? : Concrete → Option Nat
  | leaf _ range => some range.start
  | node _ children => startAll? children

def startAll? : List Concrete → Option Nat
  | [] => none
  | c :: cs => (start? c).or (startAll? cs)

end

mutual

/-- Where the last token of a tree ends. -/
def stop? : Concrete → Option Nat
  | leaf _ range => some range.stop
  | node _ children => stopAll? children

def stopAll? : List Concrete → Option Nat
  | [] => none
  | c :: cs => (stopAll? cs).or (stop? c)

end

/-- The range of a sequence of trees. -/
def rangeOf (cs : List Concrete) : Span := ⟨(startAll? cs).getD 0, (stopAll? cs).getD 0⟩

mutual

/-- Adds a tree below a node. -/
def plant (t : TokenTree) (parent : NodeId) : Concrete → TokenTree
  | leaf kind range => t.push parent kind range
  | node kind children => plantAll (t.push parent kind (rangeOf children)) t.size children

def plantAll (t : TokenTree) (parent : NodeId) : List Concrete → TokenTree
  | [] => t
  | c :: cs => plantAll (plant t parent c) parent cs

end

/-- The token tree of a source whose top phrases are given. -/
def toTokenTree (source rootKind : String) (phrases : List Concrete) : TokenTree :=
  plantAll (.ofSource source rootKind) 0 phrases

/-- A phrase; one without tokens is left out. -/
def phrase (kind : String) (children : List Concrete) : List Concrete :=
  if children.isEmpty then [] else [node kind children]

end Concrete

end GlyphFold
