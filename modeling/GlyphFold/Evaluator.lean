import GlyphFold.Language
import GlyphFold.Table
import GlyphFold.Text.Unprintable

/-!
# Conditions at work

A host decides what a condition means by registering a predicate for it. `always` needs none and
cannot be given one; a condition without a predicate holds nowhere, and a table that uses one is
refused before it is used (`validate`).
-/

namespace GlyphFold

/-- What a predicate sees of a token. -/
structure NodeContext where
  kind : String
  text : String
  parentKind : Option String
  grammar : Grammar

abbrev Predicate := NodeContext → Bool

/-- A mapping uses a condition that has no predicate. -/
structure UnregisteredCondition where
  mapping : String
  condition : String
  deriving DecidableEq, Repr

def UnregisteredCondition.message (e : UnregisteredCondition) : String :=
  "Mapping `" ++ e.mapping ++ "` uses condition `" ++ e.condition ++
    "` which has no registered predicate"

/-- The predicates of a host, one for a condition. -/
structure Evaluator where
  predicates : List (Condition × Predicate) := []

namespace Evaluator

def empty : Evaluator := {}

def predicate? (ev : Evaluator) (c : Condition) : Option Predicate :=
  (ev.predicates.find? (·.1 = c)).map Prod.snd

/-- Adds a predicate in place of the condition's former one; `always` is left alone. -/
def register (ev : Evaluator) (c : Condition) (p : Predicate) : Evaluator :=
  if c = .always then ev else ⟨(c, p) :: ev.predicates.filter (·.1 ≠ c)⟩

/-- The token stands directly in a binary expression. -/
def parentIsBinary : Predicate := fun ctx => ctx.parentKind.any ctx.grammar.isBinaryExpression

def builtin : Evaluator := empty.register .parentIsBinary parentIsBinary

def isRegistered (ev : Evaluator) (c : Condition) : Bool :=
  c = .always || (ev.predicate? c).isSome

/-- The condition holds of a token. -/
def holds (ev : Evaluator) (c : Condition) (ctx : NodeContext) : Bool :=
  match c with
  | .always => true
  | c =>
    match ev.predicate? c with
    | some p => p ctx
    | none => false

theorem holds_iff {ev : Evaluator} {c : Condition} {ctx : NodeContext} :
    ev.holds c ctx = true ↔ c = .always ∨ ∃ p, ev.predicate? c = some p ∧ p ctx = true := by
  unfold holds
  cases c with
  | always => simp
  | parentIsBinary => cases hp : ev.predicate? .parentIsBinary <;> simp [hp]
  | custom name => cases hp : ev.predicate? (.custom name) <;> simp [hp]

/-- Fails on the table's first condition without a predicate, naming its first mapping. -/
def validate (ev : Evaluator) (t : Table) : Except UnregisteredCondition Unit :=
  match t.conditions.find? fun c => !ev.isRegistered c with
  | none => .ok ()
  | some c =>
    let user := t.all.find? fun m => m.condition = c
    .error ⟨(user.map Mapping.source).getD "", c.text⟩

/-- The registered conditions, sorted and escaped. -/
def describe (ev : Evaluator) : String :=
  let names := (ev.predicates.map (·.1.text)).mergeSort (· ≤ ·)
  "ConditionEvaluator \x7b predicates: [" ++ ", ".intercalate (names.map Text.escaped) ++ "] \x7d"

end Evaluator

end GlyphFold
