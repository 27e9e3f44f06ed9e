import GlyphFold.Evaluator
import GlyphFold.FlatText
import GlyphFold.QuotedSpans
import GlyphFold.Region
import GlyphFold.TokenTree

/-!
# Resolvers

A resolver holds a table that its evaluator accepts, and finds what folds: the leaves of a tree whose
text is a source (`resolve`), or the sources in flat text (`resolveText`).

1. `ResolverFault`: why there is no resolver for a table
2. `new`, `replaceTable`: building a resolver, and exchanging its table
3. `resolveLeaf`, `resolve`: the regions of a tree; with checked looks at the parents,
   `resolveChecked`
4. `resolveText`: the regions of flat text
-/

namespace GlyphFold

structure Resolver where
  table : Table
  evaluator : Evaluator
  /-- The table's unconditional sources, ready for flat text. -/
  pattern : Pattern

/-! ## Faults -/

/-- Why there is no resolver for a table. -/
inductive ResolverFault where
  | condition (e : UnregisteredCondition)
  /-- There is no search for the table's pattern. -/
  | pattern (reason : String)
  deriving DecidableEq, Repr

/-- The messages of a fault, each the cause of the one before. -/
def ResolverFault.messages : ResolverFault → List String
  | condition e => [e.message]
  | pattern reason => ["Failed to build token pattern: " ++ reason, reason]

namespace Resolver

/-! ## Tables -/

/-- The pattern of a table whose every condition has a predicate. The conditions are looked at
first. -/
def patternOf (engine : Engine) (table : Table) (evaluator : Evaluator) :
    Except ResolverFault Pattern := do
  (evaluator.validate table).mapError .condition
  match engine.fault? table with
  | some reason => .error (.pattern reason)
  | none => .ok (.ofTable table)

/-- A resolver for a table. -/
def new (engine : Engine) (table : Table) (evaluator : Evaluator) :
    Except ResolverFault Resolver := do
  return ⟨table, evaluator, ← patternOf engine table evaluator⟩

/-- Exchanges the table. A refused table changes nothing. -/
def replaceTable (engine : Engine) (r : Resolver) (table : Table) :
    Except ResolverFault Unit × Resolver :=
  match patternOf engine table r.evaluator with
  | .error e => (.error e, r)
  | .ok pattern => (.ok (), { r with pattern := pattern, table := table })

section Tables

variable {engine : Engine} {table : Table} {evaluator : Evaluator} {r : Resolver}

theorem patternOf_eq_ok_iff {p : Pattern} :
    patternOf engine table evaluator = .ok p ↔
      evaluator.validate table = .ok () ∧ engine.fault? table = none ∧ p = .ofTable table := by
  unfold patternOf
  cases evaluator.validate table with
  | error c => exact ⟨nofun, nofun⟩
  | ok u =>
    cases engine.fault? table with
    | some reason => exact ⟨nofun, nofun⟩
    | none => exact ⟨fun h => ⟨rfl, rfl, (Except.ok.inj h).symm⟩, fun ⟨_, _, h⟩ => h ▸ rfl⟩

theorem patternOf_eq_error_iff {e : ResolverFault} :
    patternOf engine table evaluator = .error e ↔
      (∃ c, evaluator.validate table = .error c ∧ e = .condition c) ∨
        evaluator.validate table = .ok () ∧
          ∃ reason, engine.fault? table = some reason ∧ e = .pattern reason := by
  unfold patternOf
  cases evaluator.validate table with
  | error c =>
    constructor
    · exact fun h => .inl ⟨c, rfl, (Except.error.inj h).symm⟩
    · rintro (⟨_, ⟨⟩, rfl⟩ | ⟨⟨⟩, -⟩)
      rfl
  | ok u =>
    cases engine.fault? table with
    | some reason =>
      constructor
      · exact fun h => .inr ⟨rfl, reason, rfl, (Except.error.inj h).symm⟩
      · rintro (⟨_, ⟨⟩, -⟩ | ⟨-, _, ⟨⟩, rfl⟩)
        rfl
    | none =>
      refine ⟨nofun, ?_⟩
      rintro (⟨_, ⟨⟩, -⟩ | ⟨-, _, ⟨⟩, -⟩)

theorem patternOf_eq_condition_iff {c : UnregisteredCondition} :
    patternOf engine table evaluator = .error (.condition c) ↔
      evaluator.validate table = .error c := by
  rw [patternOf_eq_error_iff]
  simp only [ResolverFault.condition.injEq, reduceCtorEq, and_false, exists_false, or_false,
    exists_eq_right']

theorem new_eq_ok_iff :
    new engine table evaluator = .ok r ↔ evaluator.validate table = .ok () ∧
      engine.fault? table = none ∧ r = ⟨table, evaluator, .ofTable table⟩ := by
  unfold new
  cases h : patternOf engine table evaluator with
  | error e =>
    refine ⟨nofun, fun ⟨hvalid, hbuilt, _⟩ => ?_⟩
    rw [patternOf_eq_ok_iff.2 ⟨hvalid, hbuilt, rfl⟩] at h
    cases h
  | ok p =>
    obtain ⟨hvalid, hbuilt, rfl⟩ := patternOf_eq_ok_iff.1 h
    simp [bind, Except.bind, pure, Except.pure, hvalid, hbuilt, eq_comm]

theorem new_eq_error_iff {e : ResolverFault} :
    new engine table evaluator = .error e ↔ patternOf engine table evaluator = .error e := by
  unfold new
  cases patternOf engine table evaluator with
  | error e' => simp [bind, Except.bind]
  | ok p => exact ⟨nofun, nofun⟩

theorem replaceTable_of_ok (hvalid : r.evaluator.validate table = .ok ())
    (hbuilt : engine.fault? table = none) :
    r.replaceTable engine table = (.ok (), ⟨table, r.evaluator, .ofTable table⟩) := by
  unfold replaceTable
  rw [patternOf_eq_ok_iff.2 ⟨hvalid, hbuilt, rfl⟩]

theorem replaceTable_of_error {e : ResolverFault}
    (h : patternOf engine table r.evaluator = .error e) :
    r.replaceTable engine table = (.error e, r) := by
  unfold replaceTable
  rw [h]

theorem replaceTable_eq_error_iff {e : ResolverFault} :
    (r.replaceTable engine table).1 = .error e ↔
      patternOf engine table r.evaluator = .error e := by
  unfold replaceTable
  cases patternOf engine table r.evaluator with
  | error e' => simp
  | ok p => exact ⟨nofun, nofun⟩

end Tables

/-! ## Trees -/

/-- The mapping of a leaf whose text is a source and which is no string material, with what a
predicate sees of the leaf. -/
def candidate? (r : Resolver) (t : TokenTree) (g : Grammar) (n : Node) :
    Option (Mapping × NodeContext) := do
  let text ← (t.text? n).filter (· ≠ "")
  let m ← r.table.find? text
  if t.inString g n then none else some (m, ⟨n.kind, text, t.parentKind? n, g⟩)

theorem candidate?_eq_some_iff {r : Resolver} {t : TokenTree} {g : Grammar} {n : Node} {m : Mapping}
    {ctx : NodeContext} :
    r.candidate? t g n = some (m, ctx) ↔ ∃ text, t.text? n = some text ∧ text ≠ "" ∧
      r.table.find? text = some m ∧ t.inString g n = false ∧
      ctx = ⟨n.kind, text, t.parentKind? n, g⟩ := by
  simp only [candidate?, Option.bind_eq_bind, Option.bind_eq_some_iff, Option.filter_eq_some_iff,
    decide_eq_true_eq, and_assoc]
  refine exists_congr fun text => and_congr_right fun _ => and_congr_right fun _ => ?_
  constructor
  · rintro ⟨m', hm, h⟩
    split at h
    · cases h
    · next hs =>
      cases h
      exact ⟨hm, Bool.eq_false_iff.2 hs, rfl⟩
  · rintro ⟨hm, hs, rfl⟩
    exact ⟨m, hm, by rw [hs]; rfl⟩

/-- The region of a candidate whose condition holds. -/
def resolveLeaf (r : Resolver) (t : TokenTree) (g : Grammar) (n : Node) : Option Region := do
  let (m, ctx) ← r.candidate? t g n
  if m.condition ≠ .always && !r.evaluator.holds m.condition ctx then none
  else some (.token n.range m.glyph)

theorem resolveLeaf_eq_some_iff {r : Resolver} {t : TokenTree} {g : Grammar} {n : Node}
    {region : Region} :
    r.resolveLeaf t g n = some region ↔ ∃ m ctx, r.candidate? t g n = some (m, ctx) ∧
      (m.condition = .always ∨ r.evaluator.holds m.condition ctx = true) ∧
      region = .token n.range m.glyph := by
  simp only [resolveLeaf, Option.bind_eq_bind, Option.bind_eq_some_iff, Prod.exists]
  refine exists_congr fun m => exists_congr fun ctx => and_congr_right fun _ => ?_
  rw [eq_comm (a := region)]
  by_cases hc : m.condition = .always
  · simp [hc]
  · cases r.evaluator.holds m.condition ctx <;> simp [hc]

/-- `resolveLeaf` with checked looks at the parent. Only a leaf whose text is a source looks there. -/
def resolveLeafChecked (r : Resolver) (t : TokenTree) (g : Grammar) (n : Node) :
    Except TokenTree.WalkFault (Option Region) :=
  match (t.text? n).filter (· ≠ "") with
  | none => .ok none
  | some text =>
    match r.table.find? text with
    | none => .ok none
    | some m => do
      if ← t.inStringChecked g n then return none
      let parentKind ← t.parentKindChecked n
      if m.condition ≠ .always && !r.evaluator.holds m.condition ⟨n.kind, text, parentKind, g⟩ then
        return none
      return some (.token n.range m.glyph)

/-- The regions of the leaves below a node, in the order in which a walk comes to them. -/
def resolve (r : Resolver) (t : TokenTree) (g : Grammar) (id : NodeId) : List Region :=
  if r.table.isEmpty then [] else t.collect (r.resolveLeaf t g) id

/-- `resolve` for trees of any pushes: the regions, or the fault that keeps the walk from a result. -/
def resolveChecked (r : Resolver) (t : TokenTree) (g : Grammar) (id : NodeId) :
    Except TokenTree.WalkFault (List Region) :=
  if r.table.isEmpty then .ok [] else t.collectChecked (r.resolveLeafChecked t g) id

/-! ## Flat text -/

/-- The region of a match, whose text is a source. -/
def resolveMatch (table : Table) (m : Match) : Option Region :=
  (table.find? m.text).map fun e => .token m.range e.glyph

/-- The regions of flat text: those of the matches that are not inside quotes. -/
def resolveText (r : Resolver) (text : String) : List Region :=
  let quoted := quotedSpans text
  ((r.pattern.matchesIn text).filter fun m => !insideQuotes quoted m.range).filterMap
    (resolveMatch r.table)

end Resolver

end GlyphFold
