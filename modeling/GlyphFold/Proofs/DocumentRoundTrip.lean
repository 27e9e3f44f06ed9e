import GlyphFold.Proofs.DocumentVariants
import GlyphFold.Proofs.JsonResults

/-!
# Documents survive being written

A document that is written as JSON and read again is the same document, but for the spelling of its
conditions, which are read by name.

1. `reads_document`, `printed_toValue`: what is written of a document is read as the document
2. `Readable`, `gives_reader`: what can be read at all
-/

namespace GlyphFold

open Json Reader

/-! ## Reading what was written -/

namespace Document

theorem reads_document {d : Document} (hversion : d.metadata.version < UInt32.size)
    (hcount : d.metadata.mappingsCount < UInt64.size) : Reads reader d.toValue d.normal :=
  reads_variantOf hversion hcount d.variantOf_toValue

theorem toValue_eq (d : Document) :
    d.toValue = .object (metadataMembers d.metadata ++
      [("mappings", .list (d.mappings.map Mapping.toValue)),
       ("categories", .list (d.categories.map .string))]) := rfl

theorem printed_toValue (d : Document) : Printed d.toValue := by
  have hmapping : ∀ m : Mapping, Printed m.toValue := by
    intro m
    refine printed_object ?_
    split <;> simp [printed_string]
  have hmappings : Printed (.list (d.mappings.map Mapping.toValue)) :=
    printed_list (List.forall_mem_map.2 fun m _ => hmapping m)
  have hcategories : Printed (.list (d.categories.map .string)) :=
    printed_list (List.forall_mem_map.2 fun c _ => printed_string c)
  rw [toValue_eq]
  refine printed_object ?_
  simp [metadataMembers, Value.natural, printed_string, printed_integer, hmappings, hcategories]

end Document

/-! ## What is read -/

theorem MappingDraft.normal_toMapping (d : MappingDraft) : d.toMapping.normal = d.toMapping := by
  unfold toMapping Mapping.normal
  rw [Condition.normal_ofText]

theorem Mapping.gives_reader : Gives reader fun m => m.normal = m := by
  refine gives_bind fun next => ?_
  split
  · exact gives_bind fun d => gives_pure d.normal_toMapping
  · unfold ofList
    refine gives_bind fun _ => gives_bind fun _ => gives_bind fun _ => gives_bind fun _ =>
      gives_bind fun _ => gives_bind fun _ => gives_pure (MappingDraft.normal_toMapping _)
  · exact gives_mismatch _

namespace Document

/-- The mappings that have been read of a document have conditions by their own names. -/
def Draft.IsNormal (d : Draft) : Prop := ∀ ms, d.mappings = some ms → ∀ m ∈ ms, m.normal = m

theorem isNormal_empty : Draft.IsNormal {} := by
  intro ms h
  cases h

theorem gives_sequenceOf {α : Type} {item : Reader α} {P : α → Prop} (h : Gives item P) :
    Gives (sequenceOf item) fun xs => ∀ x ∈ xs, P x := by
  refine gives_bind fun next => ?_
  split
  · exact h.listOf
  · exact gives_mismatch _

theorem gives_member {s : Draft} (hs : s.IsNormal) (name : String) :
    Gives (member s name) Draft.IsNormal := by
  unfold member
  split
  · exact ((gives_sequenceOf Mapping.gives_reader).once "mappings" s.mappings).bind fun ms hms =>
      gives_pure hms
  · exact gives_bind fun _ => gives_pure hs
  · exact gives_bind fun _ => gives_bind fun _ => gives_pure hs

/-- The two numbers that have been read of the metadata are in range. -/
def MetadataDraft.InRange (d : MetadataDraft) : Prop :=
  (∀ n, d.version = some n → n < UInt32.size) ∧ ∀ n, d.mappingsCount = some n → n < UInt64.size

theorem inRange_empty : MetadataDraft.InRange {} := by
  constructor <;> intro n h <;> cases h

theorem lt_of_once_naturalOf {name : String} {old : Option Nat} {bound : Nat} {expected : String}
    {v : Value} {o : Option Nat} (h : once name old (naturalOf bound expected v) = .ok o) (n : Nat)
    (hn : o = some n) : n < bound := by
  subst hn
  unfold once at h
  split at h
  · cases h
  · unfold naturalOf at h
    split at h
    · next k =>
      split at h
      · next hk =>
        cases h
        omega
      · cases h
    · cases h

theorem inRange_metadataMember {d d' : MetadataDraft} (hd : d.InRange) {m : String × Value}
    (h : metadataMember d m = .ok d') : d'.InRange := by
  obtain ⟨name, v⟩ := m
  unfold metadataMember at h
  simp only at h
  split at h
  · obtain ⟨o, ho, ⟨⟩⟩ := exists_of_bind_eq_ok h
    exact ⟨lt_of_once_naturalOf ho, hd.2⟩
  · obtain ⟨o, -, ⟨⟩⟩ := exists_of_bind_eq_ok h
    exact hd
  · obtain ⟨o, -, ⟨⟩⟩ := exists_of_bind_eq_ok h
    exact hd
  · obtain ⟨o, -, ⟨⟩⟩ := exists_of_bind_eq_ok h
    exact hd
  · obtain ⟨o, ho, ⟨⟩⟩ := exists_of_bind_eq_ok h
    exact ⟨hd.1, lt_of_once_naturalOf ho⟩
  · obtain ⟨o, -, ⟨⟩⟩ := exists_of_bind_eq_ok h
    exact hd
  · cases h
    exact hd

theorem inRange_foldlM {ms : List (String × Value)} {d d' : MetadataDraft} (hd : d.InRange)
    (h : ms.foldlM metadataMember d = .ok d') : d'.InRange := by
  induction ms generalizing d with
  | nil =>
    cases h
    exact hd
  | cons m ms ih =>
    obtain ⟨next, hnext, h⟩ := exists_of_bind_eq_ok h
    exact ih (inRange_metadataMember hd hnext) h

/-- The document is what can be read of some text: its conditions are those of their own names, and
its two numbers are in range. -/
structure Readable (d : Document) : Prop where
  normal : d.normal = d
  version : d.metadata.version < UInt32.size
  mappingsCount : d.metadata.mappingsCount < UInt64.size

theorem readable_toDocument {s : Draft} (hs : s.IsNormal) {d : Document}
    (h : s.toDocument = .ok d) : d.Readable := by
  unfold Draft.toDocument at h
  split at h
  · cases h
  · next ms hms =>
    obtain ⟨md, hmd, ⟨⟩⟩ := exists_of_bind_eq_ok h
    obtain ⟨hversion, hcount⟩ := inRange_foldlM inRange_empty hmd
    refine ⟨?_, ?_, ?_⟩
    · have hnormal : ms.map Mapping.normal = ms :=
        (List.map_congr_left (hs ms hms)).trans (List.map_id ms)
      simp only [normal, hnormal]
    · change md.version.getD 0 < _
      cases hv : md.version with
      | none => decide
      | some n => exact hversion n hv
    · change md.mappingsCount.getD 0 < _
      cases hv : md.mappingsCount with
      | none => decide
      | some n => exact hcount n hv

theorem gives_reader : Gives reader Readable := by
  refine gives_bind fun next => ?_
  split
  · refine (gives_foldMembers (fun s name hs => gives_member hs name) isNormal_empty).bind fun s hs => ?_
    exact gives_monadLift fun d hd => readable_toDocument hs hd
  · exact gives_mismatch _

/-- **Documents survive being written.** A document whose version fits 32 bits and whose count fits 64
is written as a text that is read as the same document, with every condition read by its own name.
Doing so once more changes nothing, and nothing at all is changed of a document that was read from any
text. -/
theorem ofJson_toJson (d : Document) (hversion : d.metadata.version < UInt32.size)
    (hcount : d.metadata.mappingsCount < UInt64.size) :
    ofJson d.toJson = .ok d.normal ∧ d.normal.normal = d.normal ∧
      ∀ text read, ofJson text = .ok read → read.normal = read ∧ ofJson read.toJson = .ok read := by
  have hwritten : ∀ {d : Document}, d.metadata.version < UInt32.size →
      d.metadata.mappingsCount < UInt64.size → ofJson d.toJson = .ok d.normal :=
    fun hversion hcount => read_pretty (printed_toValue _) (reads_document hversion hcount)
  refine ⟨hwritten hversion hcount, d.normal_normal, fun text read hread => ?_⟩
  have h := gives_reader.read hread
  exact ⟨h.normal, (hwritten h.version h.mappingsCount).trans (congrArg _ h.normal)⟩

/-- A document with a condition under an old name, a source that comes twice, and characters that a
string in JSON cannot hold as they are. -/
def oldDocument : Document where
  metadata := { version := 1, mappingsCount := 7, comment := "\x01\"\\\n≥" }
  mappings := [⟨"**", "^", "", .custom " PY_BINARY_EXP "⟩, ⟨"**", "", "\t", .always⟩]
  categories := ["", "\x7f"]

/-- The condition comes back under its own name, and nothing else has changed. -/
theorem ofJson_oldDocument :
    ofJson oldDocument.toJson =
      .ok { oldDocument with
        mappings := [⟨"**", "^", "", .parentIsBinary⟩, ⟨"**", "", "\t", .always⟩] } := by
  rw [(ofJson_toJson oldDocument (by decide) (by decide)).1]
  exact congrArg _ (by decide +kernel)

end Document

end GlyphFold
