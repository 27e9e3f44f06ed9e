import GlyphFold.Listing
import GlyphFold.Mapping
import Std.Data.ExtTreeMap

/-!
# Mapping tables

A table holds at most one mapping for a source. It keeps the mappings by source and, beside them, the
listing that says in which order they are shown.

1. `find?`, `all`, `categories`, `entriesIn`, `conditions`: the views of a table
2. `upsert`, `remove`: the two edits, with what was there before
3. `ofMappings`, `run`: tables from lists of mappings and of edits
-/

namespace GlyphFold

structure Table where
  /-- The mappings by source. -/
  entries : Std.ExtTreeMap String Mapping := ∅
  /-- The sources in the order in which they are listed. -/
  order : List Group := []
  deriving DecidableEq, Repr, Inhabited

namespace Table

def empty : Table := {}

/-! ## Views -/

/-- The mapping of a source. -/
def find? (t : Table) (source : String) : Option Mapping := t.entries[source]?

/-- Every mapping, category by category. -/
def all (t : Table) : List Mapping := (Listing.sources t.order).filterMap t.find?

def categories (t : Table) : List String := Listing.categories t.order

/-- The mappings of one category; none for a category that the table lacks. -/
def entriesIn (t : Table) (category : String) : List Mapping :=
  (Listing.sourcesIn category t.order).filterMap t.find?

def size (t : Table) : Nat := t.entries.size

def isEmpty (t : Table) : Bool := t.entries.isEmpty

/-- The first occurrences in a list. -/
def distinct {α : Type} [DecidableEq α] : List α → List α
  | [] => []
  | a :: as => a :: (distinct as).filter (· ≠ a)

theorem mem_distinct {α : Type} [DecidableEq α] {a : α} {l : List α} : a ∈ distinct l ↔ a ∈ l := by
  induction l with
  | nil => rfl
  | cons b l ih =>
    rw [distinct, List.mem_cons, List.mem_cons, List.mem_filter, ih]
    by_cases hab : a = b <;> simp [hab]

theorem distinct_filter {α : Type} [DecidableEq α] (p : α → Bool) (l : List α) :
    distinct (l.filter p) = (distinct l).filter p := by
  induction l with
  | nil => rfl
  | cons a l ih =>
    by_cases ha : p a = true
    · rw [List.filter_cons_of_pos ha, distinct, distinct, List.filter_cons_of_pos ha, ih,
        List.filter_filter, List.filter_filter]
      simp only [Bool.and_comm]
    · rw [List.filter_cons_of_neg ha, distinct, List.filter_cons_of_neg ha, ih, List.filter_filter]
      refine List.filter_congr fun b _ => ?_
      by_cases hb : b = a
      · simp [hb, ha]
      · simp [hb]

/-- The conditions that the table uses, `always` apart, in order of first use. -/
def conditions (t : Table) : List Condition :=
  distinct ((t.all.map Mapping.condition).filter (· ≠ .always))

/-! ## Edits -/

/-- Inserts a mapping, or replaces the one with its source, and gives the replaced one. A mapping
that keeps its category keeps its place; one that changes it goes to the end of the new one. A
mapping without a source is not stored. -/
def upsert (t : Table) (m : Mapping) : Option Mapping × Table :=
  if m.source = "" then (none, t)
  else
    let order := match t.find? m.source with
      | none => Listing.attach m.category m.source t.order
      | some old =>
        if old.category = m.category then t.order
        else Listing.attach m.category m.source (Listing.detach old.category old.source t.order)
    (t.find? m.source, ⟨t.entries.insert m.source m, order⟩)

/-- Removes the mapping of a source, and gives it. -/
def remove (t : Table) (source : String) : Option Mapping × Table :=
  match t.find? source with
  | none => (none, t)
  | some old => (some old, ⟨t.entries.erase source, Listing.detach old.category old.source t.order⟩)

/-- The table of a list of mappings; of two with one source the later wins. -/
def ofMappings (ms : List Mapping) : Table := ms.foldl (fun t m => (t.upsert m).2) empty

/-- An edit of a table, as a value. -/
inductive Edit where
  | upsert (m : Mapping)
  | remove (source : String)
  deriving DecidableEq, Repr

/-- The source that an edit is about. -/
def Edit.source : Edit → String
  | upsert m => m.source
  | remove source => source

/-- The table after an edit. -/
def apply (t : Table) : Edit → Table
  | .upsert m => (t.upsert m).2
  | .remove source => (t.remove source).2

/-- What an edit gives back: the mapping that it replaced or removed. -/
def result (t : Table) : Edit → Option Mapping
  | .upsert m => (t.upsert m).1
  | .remove source => (t.remove source).1

/-- The table after a run of edits. -/
def run (t : Table) (edits : List Edit) : Table := edits.foldl apply t

@[simp] theorem run_nil (t : Table) : t.run [] = t := rfl

@[simp] theorem run_append (t : Table) (es fs : List Edit) : t.run (es ++ fs) = (t.run es).run fs :=
  List.foldl_append ..

theorem ofMappings_eq_run (ms : List Mapping) : ofMappings ms = empty.run (ms.map .upsert) := by
  simp only [ofMappings, run, List.foldl_map, apply]

end Table

end GlyphFold
