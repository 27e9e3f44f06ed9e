import GlyphFold.Proofs.JsonSpelling

/-!
# Texts that are written

What is written of a value is one of its texts, so a reader that takes the value for something reads
that off what was written.

1. `Printed`: over several lines, at every level of nesting. `printed_list`, `printed_object`
2. `spells_compact_object`: objects on one line
3. `read_pretty`, `read_compact`: reading what was written
-/

namespace GlyphFold.Json

/-! ## Several lines -/

/-- What is written of the value over several lines is a text of it, at every level of nesting. -/
def Printed (v : Value) : Prop := ∀ level, Spells v (prettyChars level v)

theorem blank_newLine (level : Nat) : Blank (newLine level) := by
  intro c hc
  rcases List.mem_cons.1 hc with rfl | hc
  · rfl
  · rw [List.eq_of_mem_replicate hc]
    rfl

theorem printed_string (s : String) : Printed (.string s) :=
  fun _ => .string (spellsChars_encodeChars s.toList)

theorem printed_integer (n : Int) : Printed (.integer n) := fun _ => .integer n

theorem lead_newLine (level : Nat) : Lead true ([] ++ newLine level) := blank_newLine level

theorem lead_comma_newLine (level : Nat) : Lead false ([','] ++ newLine level) :=
  ⟨[], newLine level, blank_nil, blank_newLine level, rfl⟩

theorem spellsItems_pretty {v : Value} {vs : List Value} (h : ∀ w ∈ v :: vs, Printed w)
    {level : Nat} {first : Bool} {lead : List Char} (hlead : Lead first (lead ++ newLine level))
    {b : List Char} (hb : Blank b) :
    SpellsItems first (v :: vs) (lead ++ (prettyItems level (v :: vs) ++ b)) := by
  have hv := h v List.mem_cons_self level
  induction vs generalizing v first lead with
  | nil =>
    have hitem := SpellsItems.cons hlead hv (.nil hb)
    simpa [prettyItems] using hitem
  | cons w vs ih =>
    have hrest : ∀ x ∈ w :: vs, Printed x := fun x hx => h x (List.mem_cons_of_mem v hx)
    have htail := ih hrest (lead_comma_newLine level) (hrest w List.mem_cons_self level)
    have hitem := SpellsItems.cons hlead hv htail
    simpa [prettyItems] using hitem

/-- A list is printed when its items are. -/
theorem printed_list {vs : List Value} (h : ∀ v ∈ vs, Printed v) : Printed (.list vs) := by
  intro level
  cases vs with
  | nil => exact .list (.nil blank_nil)
  | cons v vs =>
    have hitems : SpellsItems true (v :: vs)
        ([] ++ (prettyItems (level + 1) (v :: vs) ++ newLine level)) :=
      spellsItems_pretty h (lead_newLine (level + 1)) (blank_newLine level)
    simpa [prettyChars] using Spells.list hitems

theorem spellsMembers_pretty {m : String × Value} {ms : List (String × Value)}
    (h : ∀ n ∈ m :: ms, Printed n.2) {level : Nat} {first : Bool} {lead : List Char}
    (hlead : Lead first (lead ++ newLine level)) {b : List Char} (hb : Blank b) :
    SpellsMembers first (m :: ms) (lead ++ (prettyMembers level (m :: ms) ++ b)) := by
  have hv := h m List.mem_cons_self level
  have hspace : Blank [' '] := by
    intro c hc
    rw [List.mem_singleton.1 hc]
    rfl
  induction ms generalizing m first lead with
  | nil =>
    have hmember := SpellsMembers.cons (k := m.1) hlead (spellsChars_encodeChars _) blank_nil
      hspace hv (.nil hb)
    simpa [prettyMembers, quoted] using hmember
  | cons n ms ih =>
    have hrest : ∀ x ∈ n :: ms, Printed x.2 := fun x hx => h x (List.mem_cons_of_mem m hx)
    have htail := ih hrest (lead_comma_newLine level) (hrest n List.mem_cons_self level)
    have hmember := SpellsMembers.cons (k := m.1) hlead (spellsChars_encodeChars _) blank_nil
      hspace hv htail
    simpa [prettyMembers, quoted] using hmember

/-- An object is printed when the values of its members are. -/
theorem printed_object {ms : List (String × Value)} (h : ∀ m ∈ ms, Printed m.2) :
    Printed (.object ms) := by
  intro level
  cases ms with
  | nil => exact .object (.nil blank_nil)
  | cons m ms =>
    have hmembers : SpellsMembers true (m :: ms)
        ([] ++ (prettyMembers (level + 1) (m :: ms) ++ newLine level)) :=
      spellsMembers_pretty h (lead_newLine (level + 1)) (blank_newLine level)
    simpa [prettyChars] using Spells.object hmembers

/-! ## One line -/

theorem spellsMembers_compact {m : String × Value} {ms : List (String × Value)}
    (h : ∀ n ∈ m :: ms, Spells n.2 (compactChars n.2)) {first : Bool} {lead : List Char}
    (hlead : Lead first lead) : SpellsMembers first (m :: ms) (lead ++ compactMembers (m :: ms)) := by
  have hv := h m List.mem_cons_self
  induction ms generalizing m first lead with
  | nil =>
    have hmember := SpellsMembers.cons (k := m.1) hlead (spellsChars_encodeChars _) blank_nil
      blank_nil hv (.nil blank_nil)
    simpa [compactMembers, quoted] using hmember
  | cons n ms ih =>
    have hrest : ∀ x ∈ n :: ms, Spells x.2 (compactChars x.2) :=
      fun x hx => h x (List.mem_cons_of_mem m hx)
    have hcomma : Lead false [','] := ⟨[], [], blank_nil, blank_nil, rfl⟩
    have htail := ih hrest hcomma (hrest n List.mem_cons_self)
    have hmember := SpellsMembers.cons (k := m.1) hlead (spellsChars_encodeChars _) blank_nil
      blank_nil hv htail
    simpa [compactMembers, quoted] using hmember

/-- What is written of an object on one line is a text of it when that holds of its members. -/
theorem spells_compact_object {ms : List (String × Value)}
    (h : ∀ m ∈ ms, Spells m.2 (compactChars m.2)) :
    Spells (.object ms) (compactChars (.object ms)) := by
  have hlead : Lead true [] := blank_nil
  unfold compactChars
  cases ms with
  | nil => exact .object (.nil blank_nil)
  | cons m ms => exact .object (spellsMembers_compact h hlead)

/-! ## Reading it back -/

namespace Reader

theorem read_pretty_append {α : Type} {r : Reader α} {v : Value} {x : α} (hv : Printed v)
    (h : Reads r v x) {behind : List Char} (hbehind : Blank behind) :
    read r (v.pretty ++ String.ofList behind) = .ok x := by
  have hread := read_of_spells h blank_nil (hv 0) hbehind
  rwa [List.nil_append, String.ofList_append] at hread

theorem read_pretty {α : Type} {r : Reader α} {v : Value} {x : α} (hv : Printed v)
    (h : Reads r v x) : read r v.pretty = .ok x := by
  have hread := read_pretty_append hv h blank_nil
  rwa [String.ofList_nil, String.append_empty] at hread

theorem read_compact {α : Type} {r : Reader α} {v : Value} {x : α}
    (hv : Spells v (compactChars v)) (h : Reads r v x) : read r v.compact = .ok x := by
  have hread := read_of_spells h blank_nil hv blank_nil
  rwa [List.nil_append, List.append_nil] at hread

end Reader

end GlyphFold.Json
