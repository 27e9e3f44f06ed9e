import Mathlib.Data.List.DropRight
import GlyphFold.Document.Json
import GlyphFold.Proofs.ObjectVariants

/-!
# Old and foreign documents

A document is read whatever the order of its members is, with those missing that have nothing to say,
and with others between them that nobody here knows. What is read is the document, but for the spelling
of its conditions, which are read by name.

1. `Condition.normal`, `Mapping.normal`, `Document.normal`: what is left of a document then. Nothing
   more is lost the second time (`normal_normal`).
2. `Mapping.VariantOf`, `Mapping.reads_variantOf`: mappings. `drafted` is what has been read after
   some of the members, and one more member leads from one such draft to the next.
3. `Document.VariantOf`, `Document.reads_variantOf`: documents
4. `Document.ofJson_variantOf`
-/

namespace GlyphFold

/-! ## Conditions by name -/

theorem Text.trim_trim (s : String) : trim (trim s) = trim s := by
  have hright : ∀ cs, trimRight cs = List.rdropWhile isBlank cs := fun _ => rfl
  have hchars : ∀ cs, trimChars (trimChars cs) = trimChars cs := by
    intro cs
    unfold trimChars
    rw [hright, hright]
    -- The head of what is left is that of the text without the blanks at its start.
    have hahead := List.rdropWhile_prefix isBlank (cs.dropWhile isBlank)
    have hstart : (List.rdropWhile isBlank (cs.dropWhile isBlank)).dropWhile isBlank =
        List.rdropWhile isBlank (cs.dropWhile isBlank) := by
      refine List.dropWhile_eq_self_iff.2 fun hl => ?_
      rw [hahead.getElem]
      exact List.dropWhile_get_zero_not isBlank cs (Nat.lt_of_lt_of_le hl hahead.length_le)
    rw [hstart, List.rdropWhile_idempotent]
  unfold trim
  rw [String.toList_ofList, hchars]

namespace Condition

/-- The condition that a condition's own name stands for. -/
def normal (c : Condition) : Condition := .ofText c.text

theorem ofText_trim (name : String) : ofText (Text.trim name) = ofText name := by
  unfold ofText
  rw [Text.trim_trim]

theorem eq_trim_of_ofText {name other : String} (h : ofText name = custom other) :
    other = Text.trim name := by
  unfold ofText at h
  split at h <;> cases h
  rfl

theorem normal_ofText (name : String) : (ofText name).normal = ofText name := by
  unfold normal
  cases h : ofText name with
  | always => exact ofText_text_always
  | parentIsBinary => exact ofText_text_parentIsBinary
  | custom other =>
    obtain rfl := eq_trim_of_ofText h
    exact (ofText_trim name).trans h

theorem normal_normal (c : Condition) : c.normal.normal = c.normal := normal_ofText c.text

end Condition

def Mapping.normal (m : Mapping) : Mapping := { m with condition := m.condition.normal }

/-- The document with every condition read by its own name. -/
def Document.normal (d : Document) : Document := { d with mappings := d.mappings.map Mapping.normal }

theorem Document.normal_normal (d : Document) : d.normal.normal = d.normal := by
  have hmapping : Mapping.normal ∘ Mapping.normal = Mapping.normal := by
    funext m
    simp [Mapping.normal, Condition.normal_normal]
  simp [normal, hmapping]

open Json Reader

/-! ## Mappings -/

namespace Mapping

/-- All members of a mapping, a condition that always holds among them. -/
def members (m : Mapping) : List (String × Value) :=
  [("from", .string m.source), ("to", .string m.glyph), ("category", .string m.category),
   ("condition", .string m.condition.text)]

/-- The value is an object with the members of the mapping in any order; empty texts and the condition
that always holds may be missing, and members by other names may be added. -/
inductive VariantOf (m : Mapping) : Value → Prop
  | object {ms : List (String × Value)} (h : Variant m.members (members {}) ms) :
      VariantOf m (.object ms)

/-- What is written of a mapping is one of these values. -/
theorem variantOf_toValue (m : Mapping) : m.VariantOf m.toValue := by
  refine .object (.of_sublist ?_ ?_)
  · split
    · exact List.take_sublist 3 m.members
    · exact List.Sublist.refl m.members
  · split
    · next hcondition => simp [members, hcondition]
    · exact fun _ => .inl

/-- What has been read of a mapping after some of its members. -/
def drafted (seen : List (String × Value)) : MappingDraft where
  source := field "from" Value.text? seen
  glyph := field "to" Value.text? seen
  category := field "category" Value.text? seen
  condition := field "condition" Value.text? seen

section Fields

variable {d : MappingDraft} (x : String)

theorem readsMember_from (h : d.source = none) :
    ReadsMember (member d "from") (.string x) { d with source := some x } :=
  readsMember_field "from" h (reads_string x) fun x => ({ d with source := x } : MappingDraft)

theorem readsMember_to (h : d.glyph = none) :
    ReadsMember (member d "to") (.string x) { d with glyph := some x } :=
  readsMember_field "to" h (reads_string x) fun x => ({ d with glyph := x } : MappingDraft)

theorem readsMember_category (h : d.category = none) :
    ReadsMember (member d "category") (.string x) { d with category := some x } :=
  readsMember_field "category" h (reads_string x) fun x => ({ d with category := x } : MappingDraft)

theorem readsMember_condition (h : d.condition = none) :
    ReadsMember (member d "condition") (.string x) { d with condition := some x } :=
  readsMember_field "condition" h (reads_string x) fun x => ({ d with condition := x } : MappingDraft)

end Fields

variable {m : Mapping} {seen : List (String × Value)}

theorem readsMember_drafted {n : String × Value} (hn : n ∈ m.members)
    (hnew : ∀ a ∈ seen, a.1 ≠ n.1) :
    ReadsMember (member (drafted seen) n.1) n.2 (drafted (seen ++ [n])) := by
  simp only [members, List.mem_cons, List.not_mem_nil, or_false] at hn
  rcases hn with rfl | rfl | rfl | rfl
  · have h := readsMember_from m.source (d := drafted seen) (field_eq_none hnew)
    simpa [drafted, field_concat hnew, field_concat_of_ne, Value.text?] using h
  · have h := readsMember_to m.glyph (d := drafted seen) (field_eq_none hnew)
    simpa [drafted, field_concat hnew, field_concat_of_ne, Value.text?] using h
  · have h := readsMember_category m.category (d := drafted seen) (field_eq_none hnew)
    simpa [drafted, field_concat hnew, field_concat_of_ne, Value.text?] using h
  · have h := readsMember_condition m.condition.text (d := drafted seen) (field_eq_none hnew)
    simpa [drafted, field_concat hnew, field_concat_of_ne, Value.text?] using h

/-- A member by any other name is passed over. -/
theorem readsMember_unknown {name : String} (hname : name ∉ m.members.map Prod.fst)
    (d : MappingDraft) (v : Value) : ReadsMember (member d name) v d := by
  intro before after cs rest hbefore hafter hcs hrest
  unfold member
  split
  · simp [members] at hname
  · simp [members] at hname
  · simp [members] at hname
  · simp [members] at hname
  · rw [bind_of_ok (colon_blank hbefore _), bind_of_ok (skipValue_spells hcs hafter hrest)]
    rfl

theorem drafted_concat_unknown {n : String × Value} (hn : n.1 ∉ m.members.map Prod.fst) :
    drafted (seen ++ [n]) = drafted seen := by
  simp only [members, List.map_cons, List.map_nil, List.mem_cons, List.not_mem_nil, or_false,
    not_or] at hn
  obtain ⟨hfrom, hto, hcategory, hcondition⟩ := hn
  simp only [drafted, field_concat_of_ne, hfrom, hto, hcategory, hcondition, ne_eq,
    not_false_eq_true]

theorem nodup_members : (m.members.map Prod.fst).Nodup := by
  change ["from", "to", "category", "condition"].Nodup
  decide

theorem toMapping_drafted {ms : List (String × Value)} (h : Variant m.members (members {}) ms) :
    (drafted ms).toMapping = m.normal := by
  have hfield {name : String} {x : String} (hx : (name, Value.string x) ∈ m.members) :
      field name Value.text? ms = some x ∨
        field name Value.text? ms = none ∧ (name, Value.string x) ∈ members {} :=
    h.field_eq nodup_members hx
  have hgetD {name x : String} (hx : (name, Value.string x) ∈ m.members)
      (hempty : (name, Value.string x) ∈ members {} → x = "") :
      (field name Value.text? ms).getD "" = x := by
    rcases hfield hx with heq | ⟨heq, hdefault⟩
    · rw [heq, Option.getD_some]
    · rw [heq, Option.getD_none, hempty hdefault]
  have hcondition : Condition.ofText ((field "condition" Value.text? ms).getD "") =
      m.condition.normal := by
    have hmember : ("condition", Value.string m.condition.text) ∈ m.members := by simp [members]
    rcases hfield hmember with heq | ⟨heq, hdefault⟩
    · rw [heq, Option.getD_some, Condition.normal]
    · have htext : m.condition.text = Condition.always.text := by simpa [members] using hdefault
      rw [heq, Option.getD_none, Condition.normal, htext, Condition.ofText_text_always,
        Condition.ofText_empty]
  have hfrom := @hgetD "from" m.source (by simp [members]) (by simp [members])
  have hto := @hgetD "to" m.glyph (by simp [members]) (by simp [members])
  have hcategory := @hgetD "category" m.category (by simp [members]) (by simp [members])
  simp only [MappingDraft.toMapping, drafted, normal, hfrom, hto, hcategory, hcondition]

theorem members_drafted {ms : List (String × Value)} (h : Variant m.members (members {}) ms) :
    Members member {} ms (drafted ms) := by
  refine members_of_prefix drafted fun seen n hahead => ?_
  rcases h.next nodup_members hahead with ⟨hn, hnew⟩ | ⟨hn, -⟩
  · exact readsMember_drafted hn hnew
  · rw [drafted_concat_unknown hn]
    exact readsMember_unknown hn _ _

theorem reads_variantOf {v : Value} (hv : m.VariantOf v) : Reads reader v m.normal := by
  obtain ⟨h⟩ := hv
  intro b cs rest hb hcs _
  obtain ⟨hpeek, hfold⟩ := foldMembers_of_spells (members_drafted h) hb hcs rest
  unfold reader
  rw [bind_of_ok hpeek]
  change (foldMembers member {} >>= fun _ => _) _ = _
  rw [bind_of_ok hfold, toMapping_drafted h]
  rfl

end Mapping

/-! ## Documents -/

theorem reads_sequenceOf {α : Type} {item : Reader α} {vs : List Value} {xs : List α}
    (h : List.Forall₂ (Reads item) vs xs) : Reads (sequenceOf item) (.list vs) xs := by
  intro b cs rest hb hcs _
  obtain ⟨hpeek, hlist⟩ := listOf_of_spells h hb hcs rest
  unfold sequenceOf
  rw [bind_of_ok hpeek, if_pos rfl]
  exact hlist

namespace Document

/-- The members of the metadata, as they are written. -/
def metadataMembers (d : Metadata) : List (String × Value) :=
  [("version", .natural d.version), ("exportDate", .string d.exportDate),
   ("pluginVersion", .string d.pluginVersion), ("ideVersion", .string d.ideVersion),
   ("mappingsCount", .natural d.mappingsCount), ("comment", .string d.comment)]

/-- All members of a document whose mappings are these values. -/
def members (d : Document) (vs : List Value) : List (String × Value) :=
  metadataMembers d.metadata ++
    [("mappings", .list vs), ("categories", .list (d.categories.map .string))]

/-- The members that a document without them is taken to have. -/
def defaults : List (String × Value) := metadataMembers {} ++ [("categories", .list [])]

/-- The value is an object with the members of the document in any order; metadata that say nothing
and an empty list of categories may be missing, and members by other names may be added. Each mapping
may differ in the same way. -/
inductive VariantOf (d : Document) : Value → Prop
  | object {vs : List Value} {ms : List (String × Value)}
      (hvs : List.Forall₂ Mapping.VariantOf d.mappings vs) (h : Variant (d.members vs) defaults ms) :
      VariantOf d (.object ms)

/-- What is written of a document is one of these values. -/
theorem variantOf_toValue (d : Document) : d.VariantOf d.toValue := by
  have hmappings : List.Forall₂ Mapping.VariantOf d.mappings (d.mappings.map Mapping.toValue) := by
    rw [List.forall₂_map_right_iff, List.forall₂_same]
    exact fun m _ => m.variantOf_toValue
  exact .object hmappings (.of_sublist (List.Sublist.refl _) fun _ => .inl)

/-- The member is kept as it comes. -/
def isOther (m : String × Value) : Bool := m.1 ≠ "mappings" ∧ m.1 ≠ "categories"

/-- What has been read of the document after some of its members. -/
def drafted (d : Document) (seen : List (String × Value)) : Draft where
  mappings := field "mappings" (fun _ => some d.normal.mappings) seen
  categories := field "categories" (fun _ => some d.categories) seen
  others := seen.filter isOther

theorem readsMember_other {name : String} (hmappings : name ≠ "mappings")
    (hcategories : name ≠ "categories") {v : Value} (hv : Reads (value depthLimit) v v) (s : Draft) :
    ReadsMember (member s name) v { s with others := s.others ++ [(name, v)] } := by
  intro before after cs rest hbefore hafter hcs hrest
  unfold member
  split
  · exact absurd rfl hmappings
  · exact absurd rfl hcategories
  · rw [bind_of_ok (colon_blank hbefore _), bind_of_ok (hv after cs rest hafter hcs hrest)]
    rfl

theorem readsMember_mappings {s : Draft} (h : s.mappings = none) {vs : List Value}
    {ms : List Mapping} (hvs : List.Forall₂ (Reads Mapping.reader) vs ms) :
    ReadsMember (member s "mappings") (.list vs) { s with mappings := some ms } :=
  readsMember_field "mappings" h (reads_sequenceOf hvs) fun ms => ({ s with mappings := ms } : Draft)

theorem readsMember_categories {s : Draft} (h : s.categories = none) {vs : List Value}
    {cs : List String} (hvs : List.Forall₂ (Reads string) vs cs) :
    ReadsMember (member s "categories") (.list vs) { s with categories := some cs } :=
  readsMember_field "categories" h (reads_sequenceOf hvs) fun cs =>
    ({ s with categories := cs } : Draft)

variable {d : Document} {vs : List Value} {seen : List (String × Value)}

theorem nodup_members : ((d.members vs).map Prod.fst).Nodup := by
  change ["version", "exportDate", "pluginVersion", "ideVersion", "mappingsCount", "comment",
    "mappings", "categories"].Nodup
  decide

theorem isOther_metadataMembers {m : String × Value} (hm : m ∈ metadataMembers d.metadata) :
    isOther m = true := by
  have hnames : ∀ m ∈ metadataMembers d.metadata, isOther m = true := by
    simp [metadataMembers, isOther]
  exact hnames m hm

theorem drafted_concat_other {m : String × Value} (hm : isOther m = true) :
    d.drafted (seen ++ [m]) =
      { d.drafted seen with others := (d.drafted seen).others ++ [m] } := by
  obtain ⟨hmappings, hcategories⟩ := of_decide_eq_true hm
  simp only [drafted, field_concat_of_ne hmappings, field_concat_of_ne hcategories,
    List.filter_append, List.filter_cons_of_pos hm, List.filter_nil]

theorem readsMember_drafted_other {m : String × Value} (hm : isOther m = true)
    (hv : Reads (value depthLimit) m.2 m.2) :
    ReadsMember (member (d.drafted seen) m.1) m.2 (d.drafted (seen ++ [m])) := by
  obtain ⟨hmappings, hcategories⟩ := of_decide_eq_true hm
  rw [drafted_concat_other hm]
  exact readsMember_other hmappings hcategories hv _

theorem reads_metadataMember {d : Metadata} (hversion : d.version < UInt32.size)
    (hcount : d.mappingsCount < UInt64.size) {m : String × Value} (hm : m ∈ metadataMembers d) :
    Reads (value depthLimit) m.2 m.2 := by
  have hfits : ∀ n : Nat, n < UInt64.size → Fits n := fun n hn =>
    ⟨Int.le_trans (by decide) (Int.natCast_nonneg n), Int.ofNat_lt.2 hn⟩
  have hversion := hfits _ (Nat.lt_trans hversion (show UInt32.size < UInt64.size by decide))
  have hvalues : ∀ m ∈ metadataMembers d, Reads (value depthLimit) m.2 m.2 := by
    simp only [metadataMembers, List.forall_mem_cons]
    exact ⟨reads_value_integer _ hversion, reads_value_string _ _, reads_value_string _ _,
      reads_value_string _ _, reads_value_integer _ (hfits _ hcount), reads_value_string _ _, nofun⟩
  exact hvalues m hm

/-! ## Metadata -/

def natural? (bound : Nat) (expected : String) (v : Value) : Option Nat :=
  (naturalOf bound expected v).toOption

/-- What has been taken of the metadata from some of the members. -/
def MetadataDraft.ofMembers (seen : List (String × Value)) : MetadataDraft where
  version := field "version" (natural? UInt32.size "u32") seen
  exportDate := field "exportDate" Value.text? seen
  pluginVersion := field "pluginVersion" Value.text? seen
  ideVersion := field "ideVersion" Value.text? seen
  mappingsCount := field "mappingsCount" (natural? UInt64.size "usize") seen
  comment := field "comment" Value.text? seen

theorem naturalOf_natural {bound n : Nat} (hn : n < bound) (expected : String) :
    naturalOf bound expected (.natural n) = .ok n := by
  unfold naturalOf Value.natural
  simp [hn]

theorem natural?_natural {bound n : Nat} (hn : n < bound) (expected : String) :
    natural? bound expected (.natural n) = some n := by
  rw [natural?, naturalOf_natural hn]
  rfl

theorem once_field {α : Type} {name : String} {take : Value → Option α}
    (hnew : ∀ a ∈ seen, a.1 ≠ name) (x : α) :
    once name (field name take seen) (.ok x) = .ok (some x) := by
  rw [field_eq_none hnew]
  rfl

section Unknown

variable {m : String × Value} (hname : m.1 ∉ (metadataMembers d.metadata).map Prod.fst)

include hname

theorem metadataMember_unknown (s : MetadataDraft) : metadataMember s m = .ok s := by
  obtain ⟨name, v⟩ := m
  unfold metadataMember
  simp only
  split
  all_goals first
    | rfl
    | simp [metadataMembers] at hname

theorem ofMembers_concat_unknown :
    MetadataDraft.ofMembers (seen ++ [m]) = .ofMembers seen := by
  simp only [metadataMembers, List.map_cons, List.map_nil, List.mem_cons, List.not_mem_nil, or_false,
    not_or] at hname
  obtain ⟨hversion, hdate, hplugin, hide, hcount, hcomment⟩ := hname
  simp only [MetadataDraft.ofMembers, field_concat_of_ne, hversion, hdate, hplugin, hide, hcount,
    hcomment, ne_eq, not_false_eq_true]

end Unknown

section InRange

variable (hversion : d.metadata.version < UInt32.size)
  (hcount : d.metadata.mappingsCount < UInt64.size)

include hversion hcount

theorem metadataMember_ofMembers {m : String × Value} (hm : m ∈ metadataMembers d.metadata)
    (hnew : ∀ a ∈ seen, a.1 ≠ m.1) :
    metadataMember (.ofMembers seen) m = .ok (.ofMembers (seen ++ [m])) := by
  have hnatural {name : String} {bound n : Nat} {expected : String} (hn : n < bound)
      (hnew : ∀ a ∈ seen, a.1 ≠ name) :
      field name (natural? bound expected) (seen ++ [(name, .natural n)]) = some n :=
    (field_concat hnew _).trans (natural?_natural hn expected)
  have htext {name : String} (hnew : ∀ a ∈ seen, a.1 ≠ name) (x : String) :
      field name Value.text? (seen ++ [(name, .string x)]) = some x := field_concat hnew _
  simp only [metadataMembers, List.mem_cons, List.not_mem_nil, or_false] at hm
  rcases hm with rfl | rfl | rfl | rfl | rfl | rfl
  all_goals
    simp only [metadataMember, MetadataDraft.ofMembers, textOf, naturalOf_natural hversion,
      naturalOf_natural hcount, once_field hnew, hnatural hversion hnew, hnatural hcount hnew,
      htext hnew]
    simp [field_concat_of_ne]

theorem foldlM_metadataMember {ms : List (String × Value)}
    (h : Variant (d.members vs) defaults ms) :
    (d.drafted ms).others.foldlM metadataMember {} = .ok (.ofMembers ms) := by
  refine prefix_induction (P := fun seen =>
    (d.drafted seen).others.foldlM metadataMember {} = .ok (.ofMembers seen)) rfl ?_
  intro seen m hahead hseen
  have hother (hm : isOther m = true)
      (hnext : metadataMember (.ofMembers seen) m = .ok (.ofMembers (seen ++ [m]))) :
      (d.drafted (seen ++ [m])).others.foldlM metadataMember {} = .ok (.ofMembers (seen ++ [m])) := by
    rw [drafted_concat_other hm, List.foldlM_append, hseen]
    change [m].foldlM metadataMember (.ofMembers seen) = _
    rw [List.foldlM_cons, hnext]
    rfl
  rcases h.next nodup_members hahead with ⟨hm, hnew⟩ | ⟨hm, -⟩
  · rcases List.mem_append.1 hm with hm | hm
    · exact hother (isOther_metadataMembers hm)
        (metadataMember_ofMembers hversion hcount hm hnew)
    · have hnames : isOther m = false ∧ m.1 ∉ (metadataMembers d.metadata).map Prod.fst := by
        simp only [List.mem_cons, List.not_mem_nil, or_false] at hm
        rcases hm with rfl | rfl <;> simp [isOther, metadataMembers]
      have hothers : (d.drafted (seen ++ [m])).others = (d.drafted seen).others := by
        simp [drafted, hnames.1]
      rw [hothers, hseen, ofMembers_concat_unknown hnames.2]
  · have hnames : isOther m = true ∧ m.1 ∉ (metadataMembers d.metadata).map Prod.fst := by
      simp only [members, List.map_append, List.mem_append, not_or] at hm
      exact ⟨by simpa [isOther] using hm.2, hm.1⟩
    refine hother hnames.1 ?_
    rw [ofMembers_concat_unknown hnames.2]
    exact metadataMember_unknown hnames.2 _

theorem toMetadata_ofMembers {ms : List (String × Value)}
    (h : Variant (d.members vs) defaults ms) :
    (MetadataDraft.ofMembers ms).toMetadata = d.metadata := by
  have hgetD {α : Type} {take : Value → Option α} {name : String} {v : Value} {x y : α}
      (hm : (name, v) ∈ metadataMembers d.metadata) (hv : take v = some x)
      (hdefault : (name, v) ∈ defaults → x = y) : (field name take ms).getD y = x := by
    rcases h.field_eq nodup_members (List.mem_append_left _ hm) with heq | ⟨heq, hmem⟩
    · rw [heq, hv, Option.getD_some]
    · rw [heq, Option.getD_none, hdefault hmem]
  have hnatural {name : String} {bound n : Nat} {expected : String} (hn : n < bound)
      (hm : (name, .natural n) ∈ metadataMembers d.metadata)
      (hdefault : (name, .natural n) ∈ defaults → n = 0) :
      (field name (natural? bound expected) ms).getD 0 = n :=
    hgetD hm (natural?_natural hn expected) hdefault
  have htext {name x : String} (hm : (name, .string x) ∈ metadataMembers d.metadata)
      (hdefault : (name, .string x) ∈ defaults → x = "") :
      (field name Value.text? ms).getD "" = x := hgetD hm rfl hdefault
  have hversion := @hnatural "version" _ _ "u32" hversion (by simp [metadataMembers])
    (by simp [defaults, metadataMembers, Value.natural])
  have hcount := @hnatural "mappingsCount" _ _ "usize" hcount (by simp [metadataMembers])
    (by simp [defaults, metadataMembers, Value.natural])
  have hdate := @htext "exportDate" d.metadata.exportDate (by simp [metadataMembers])
    (by simp [defaults, metadataMembers])
  have hplugin := @htext "pluginVersion" d.metadata.pluginVersion (by simp [metadataMembers])
    (by simp [defaults, metadataMembers])
  have hide := @htext "ideVersion" d.metadata.ideVersion (by simp [metadataMembers])
    (by simp [defaults, metadataMembers])
  have hcomment := @htext "comment" d.metadata.comment (by simp [metadataMembers])
    (by simp [defaults, metadataMembers])
  simp only [MetadataDraft.toMetadata, MetadataDraft.ofMembers, hversion, hdate, hplugin, hide,
    hcount, hcomment]

theorem toDocument_drafted {ms : List (String × Value)}
    (h : Variant (d.members vs) defaults ms) : (d.drafted ms).toDocument = .ok d.normal := by
  have hmappings : (d.drafted ms).mappings = some d.normal.mappings := by
    have hmember : ("mappings", .list vs) ∈ d.members vs := by simp [members]
    rcases h.field_eq nodup_members hmember with heq | ⟨-, hdefault⟩
    · exact heq
    · simp [defaults, metadataMembers] at hdefault
  have hcategories : (d.drafted ms).categories.getD [] = d.categories := by
    have hmember : ("categories", .list (d.categories.map .string)) ∈ d.members vs := by
      simp [members]
    rcases h.field_eq nodup_members hmember with heq | ⟨heq, hdefault⟩
    · exact congrArg (Option.getD · []) heq
    · have hempty : d.categories = [] := by simpa [defaults, metadataMembers] using hdefault
      rw [hempty]
      exact congrArg (Option.getD · []) heq
  unfold Draft.toDocument
  simp only [hmappings, foldlM_metadataMember hversion hcount h, hcategories]
  exact congrArg (fun metadata => Except.ok (Document.mk metadata d.normal.mappings d.categories))
    (toMetadata_ofMembers hversion hcount h)

/-! ## Whole documents -/

theorem readsMember_drafted (hvs : List.Forall₂ Mapping.VariantOf d.mappings vs)
    {m : String × Value} (hm : m ∈ d.members vs) (hnew : ∀ a ∈ seen, a.1 ≠ m.1) :
    ReadsMember (member (d.drafted seen) m.1) m.2 (d.drafted (seen ++ [m])) := by
  rcases List.mem_append.1 hm with hm | hm
  · exact readsMember_drafted_other (isOther_metadataMembers hm)
      (reads_metadataMember hversion hcount hm)
  · simp only [List.mem_cons, List.not_mem_nil, or_false] at hm
    rcases hm with rfl | rfl
    · have hmappings : List.Forall₂ (Reads Mapping.reader) vs d.normal.mappings := by
        rw [normal, List.forall₂_map_right_iff]
        exact hvs.flip.imp fun _ _ hv => Mapping.reads_variantOf hv
      have h := readsMember_mappings (s := d.drafted seen) (field_eq_none hnew) hmappings
      simpa [drafted, field_concat hnew, field_concat_of_ne, isOther] using h
    · have hcategories : List.Forall₂ (Reads string) (d.categories.map .string) d.categories := by
        rw [List.forall₂_map_left_iff, List.forall₂_same]
        exact fun c _ => reads_string c
      have h := readsMember_categories (s := d.drafted seen) (field_eq_none hnew) hcategories
      simpa [drafted, field_concat hnew, field_concat_of_ne, isOther] using h

theorem members_drafted (hvs : List.Forall₂ Mapping.VariantOf d.mappings vs)
    {ms : List (String × Value)} (h : Variant (d.members vs) defaults ms) :
    Members member {} ms (d.drafted ms) := by
  refine members_of_prefix d.drafted fun seen m hahead => ?_
  rcases h.next nodup_members hahead with ⟨hm, hnew⟩ | ⟨hm, hnested⟩
  · exact readsMember_drafted hversion hcount hvs hm hnew
  · have hother : isOther m = true := by
      simp only [members, List.map_append, List.mem_append, not_or] at hm
      simpa [isOther] using hm.2
    exact readsMember_drafted_other hother (reads_value_nested hnested (by decide))

theorem reads_variantOf {v : Value} (hv : d.VariantOf v) : Reads reader v d.normal := by
  obtain ⟨hvs, h⟩ := hv
  intro b cs rest hb hcs _
  obtain ⟨hpeek, hfold⟩ := foldMembers_of_spells (members_drafted hversion hcount hvs h) hb hcs rest
  unfold reader
  rw [bind_of_ok hpeek, if_pos rfl, bind_of_ok hfold, toDocument_drafted hversion hcount h]
  rfl

end InRange

/-- **Old and foreign documents are read.** Of a document whose conditions go by their own names, every
object with its members in any order is read as just this document, in whichever text: metadata that
say nothing, an empty list of categories and the empty fields of a mapping may be missing, and members
that nobody knows may be added to the document and to its mappings, the same ones more than once. -/
theorem ofJson_variantOf {d : Document} (hnormal : d.normal = d)
    (hversion : d.metadata.version < UInt32.size) (hcount : d.metadata.mappingsCount < UInt64.size)
    {v : Value} (hv : d.VariantOf v) {before text behind : List Char} (hbefore : Blank before)
    (htext : Spells v text) (hbehind : Blank behind) :
    ofJson (String.ofList (before ++ (text ++ behind))) = .ok d := by
  have hreads := reads_variantOf hversion hcount hv
  rw [hnormal] at hreads
  exact read_of_spells hreads hbefore htext hbehind

/-- Two mappings, one of them without a glyph and without a category. -/
def twoMappings : Document where
  mappings := [⟨"not", "", "", .always⟩, ⟨"<=", "≤", "order", .parentIsBinary⟩]

/-- The same two, from the last field to the first, with notes that nobody knows. One of the notes has
the name of a member of the document. -/
def notedMappings : List Value :=
  [.object [("mappings", .null), ("from", .string "not")],
   .object [("note", .list [.integer (-1), .boolean true]), ("note", .object [("to", .null)]),
    ("condition", .string "parent_is_binary_expression"), ("category", .string "order"),
    ("to", .string "≤"), ("from", .string "<=")]]

/-- A document of them without most of its metadata, with notes in front. -/
def notedDocument : Value :=
  .object [("from", .list [.list [], .string "<="]), ("from", .integer 18446744073709551615),
    ("mappings", .list notedMappings), ("comment", .string "")]

theorem variantOf_notedDocument : twoMappings.VariantOf notedDocument := by
  have horder (kept added : List (String × Value)) :
      (added ++ kept.reverse).Perm (kept ++ added) :=
    ((List.reverse_perm kept).append_left added).trans List.perm_append_comm
  have hnot : Mapping.VariantOf ⟨"not", "", "", .always⟩
      (.object [("mappings", .null), ("from", .string "not")]) :=
    .object (.intro (by simp [Mapping.members]) (by simp [Mapping.members])
      (by simp [Mapping.members]) (horder [("from", .string "not")] [("mappings", .null)]))
  have hle : Mapping.VariantOf ⟨"<=", "≤", "order", .parentIsBinary⟩
      (.object [("note", .list [.integer (-1), .boolean true]), ("note", .object [("to", .null)]),
        ("condition", .string "parent_is_binary_expression"), ("category", .string "order"),
        ("to", .string "≤"), ("from", .string "<=")]) :=
    .object (.intro (List.Sublist.refl _) (fun _ => .inl)
      (by simp [Mapping.members, addedDepth, Fits])
      (horder (Mapping.members ⟨"<=", "≤", "order", .parentIsBinary⟩)
        [("note", .list [.integer (-1), .boolean true]), ("note", .object [("to", .null)])]))
  have hmappings : List.Forall₂ Mapping.VariantOf twoMappings.mappings notedMappings :=
    .cons hnot (.cons hle .nil)
  have hkept : [("comment", .string ""), ("mappings", .list notedMappings)].Sublist
      (twoMappings.members notedMappings) :=
    (List.take_sublist 2 _).trans (List.drop_sublist 5 (twoMappings.members notedMappings))
  exact .object hmappings (.intro hkept
    (by simp [members, metadataMembers, defaults, twoMappings, Value.natural])
    (by simp [members, metadataMembers, addedDepth, Fits, UInt64.size])
    (horder [("comment", .string ""), ("mappings", .list notedMappings)]
      [("from", .list [.list [], .string "<="]), ("from", .integer 18446744073709551615)]))

/-- Nothing is lost and nothing is taken over from the notes. -/
theorem ofJson_notedDocument : ofJson notedDocument.pretty = .ok twoMappings := by
  have hnested : Nested addedDepth notedDocument := by
    simp [notedDocument, notedMappings, addedDepth, Fits, UInt64.size]
  have h := ofJson_variantOf (by decide +kernel) (by decide) (by decide) variantOf_notedDocument
    blank_nil (printed_nested hnested 0) blank_nil
  rwa [List.append_nil] at h

end Document

end GlyphFold
