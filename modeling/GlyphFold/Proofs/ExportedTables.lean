import GlyphFold.CommandLine.Run
import GlyphFold.Proofs.ActiveTable
import GlyphFold.Proofs.DocumentRoundTrip
import GlyphFold.Proofs.ListedAndRendered
import GlyphFold.Proofs.TableHistory
import GlyphFold.Proofs.TableReplay

/-!
# Tables that are exported and imported again

An export writes the active table without asking what its conditions mean or whether there is a
search for its sources; an import asks both. So what is written is always read back as the same
table, and it is refused exactly if a condition is none of the built-in ones or the engine refuses
the pattern.

1. `Document.Readable.read_toJson`: documents that can be read at all are read back from their text
2. `readable_exported`, `toTable_exported`: the document of a table that was loaded is one of these,
   and has that table
3. `isRegistered_builtin`: the conditions that an import knows
4. `runImport_runExport`: what becomes of an exported table
-/

namespace GlyphFold

/-! ## Documents of loaded tables -/

theorem FileSystem.textOf_toUTF8 (s : String) : textOf s.toUTF8 = .ok s := by
  have hvalid : s.toUTF8.IsValidUTF8 := s.isValidUTF8
  unfold textOf String.fromUTF8?
  rw [dif_pos hvalid]
  rfl

namespace Document

/-- With blanks behind its text or without, a document is read as it was. -/
theorem Readable.read_toJson {d : Document} (h : d.Readable) {behind : List Char}
    (hbehind : Json.Blank behind) : ofJson (d.toJson ++ String.ofList behind) = .ok d := by
  have hreads := reads_document h.version h.mappingsCount
  rw [h.normal] at hreads
  exact Json.Reader.read_pretty_append (printed_toValue d) hreads hbehind

end Document

theorem Table.mem_of_mem_all_ofMappings {ms : List Mapping} {m : Mapping}
    (h : m ∈ (ofMappings ms).all) : m ∈ ms := by
  rw [ofMappings_eq_run] at h
  have hfound := (find?_eq_some_iff (consistent_run _)).2 ⟨h, rfl⟩
  rw [find?_run] at hfound
  obtain ⟨-, -, earlier, later, hsplit, -⟩ := recorded_eq_some_iff.1 hfound
  have hedit : Edit.upsert m ∈ ms.map .upsert := by
    rw [hsplit]
    exact List.mem_append_right _ List.mem_cons_self
  obtain ⟨m', hm', heq⟩ := List.mem_map.1 hedit
  cases heq
  exact hm'

theorem loadDocument_of_readText {fs : FileSystem} {path text : String} {d : Document}
    (hfile : fs.readText path = .ok text) (htext : Document.ofJson text = .ok d) :
    loadDocument fs path = .ok d := by
  unfold loadDocument
  rw [hfile]
  simp only [bind, Except.bind, Except.mapError, htext]

theorem loadTable_of_readText {fs : FileSystem} {s : Settings} {path text : String} {d : Document}
    (hpath : s.mappingsFile = some path) (hfile : fs.readText path = .ok text)
    (htext : Document.ofJson text = .ok d) : loadTable fs s = .ok d.toTable := by
  unfold loadTable
  rw [hpath]
  show (loadDocument fs path).map Document.toTable = .ok d.toTable
  rw [loadDocument_of_readText hfile htext]
  rfl

theorem readable_of_loadDocument {fs : FileSystem} {path : String} {d : Document}
    (h : loadDocument fs path = .ok d) : d.Readable := by
  obtain ⟨text, -, htext⟩ := Scanner.exists_of_mapError_bind h
  cases hread : Document.ofJson text with
  | error e =>
    rw [hread] at htext
    cases htext
  | ok d' =>
    rw [hread] at htext
    cases htext
    exact Document.gives_reader.read hread

/-- A table that was loaded has its conditions under their own names. -/
theorem normal_of_loadTable {fs : FileSystem} {s : Settings} {t : Table}
    (h : loadTable fs s = .ok t) : ∀ m ∈ t.all, m.normal = m := by
  intro m hm
  unfold loadTable at h
  split at h
  · next path _ =>
    cases hdocument : loadDocument fs path with
    | error e =>
      rw [hdocument] at h
      cases h
    | ok d =>
      rw [hdocument] at h
      cases h
      have hmappings : d.mappings.map Mapping.normal = d.mappings :=
        congrArg Document.mappings (readable_of_loadDocument hdocument).normal
      exact List.map_inj_left.1 (hmappings.trans (List.map_id _).symm) m
        (Table.mem_of_mem_all_ofMappings hm)
  · cases h
    have hbuiltin : ∀ m ∈ builtinMappings, m.normal = m := by decide +kernel
    exact hbuiltin m (Table.mem_of_mem_all_ofMappings hm)

namespace CommandLine

theorem readable_exported {fs : FileSystem} {s : Settings} {t : Table}
    (h : loadTable fs s = .ok t) (hsize : t.size < UInt64.size) (date : String) :
    (exported t date).Readable := by
  have hmappings : t.all.map Mapping.normal = t.all :=
    (List.map_congr_left (normal_of_loadTable h)).trans (List.map_id _)
  obtain ⟨edits, rfl⟩ := Scanner.exists_edits_of_loadTable h
  have hcount := Table.length_all (Table.consistent_run edits)
  constructor
  · simp only [Document.normal, exported, Document.ofTable, hmappings]
  · show Document.formatVersion < UInt32.size
    decide
  · show (Table.empty.run edits).all.length < UInt64.size
    rwa [hcount]

/-- The document of a table that edits led to has that table. -/
theorem toTable_exported (edits : List Table.Edit) (date : String) :
    (exported (Table.empty.run edits) date).toTable = Table.empty.run edits :=
  Table.ofMappings_all (Table.consistent_run edits)

end CommandLine

/-! ## Conditions of an import -/

namespace Condition

/-- The condition always holds or has a built-in predicate. -/
def isBuiltin : Condition → Bool
  | always | parentIsBinary => true
  | custom _ => false

end Condition

theorem Evaluator.isRegistered_builtin (c : Condition) : builtin.isRegistered c = c.isBuiltin := by
  cases c <;> rfl

namespace CommandLine

/-- The text that an export leaves, in the file that it writes or on the screen. -/
def Outcome.document (o : Outcome) : String :=
  match o.written with
  | some (_, text) => text
  | none => o.output

theorem document_of_runExport {a : Arguments} {sur : Surroundings} {s : Settings} {t : Table}
    (hsettings : settingsOf a sur.files = .ok s) (hload : loadTable sur.files s = .ok t)
    {output : Option String} {print : Bool} {o : Outcome}
    (h : runExport output print a sur = .ok o) :
    ∃ behind, Json.Blank behind ∧
      o.document = (exported t sur.date).toJson ++ String.ofList behind := by
  unfold runExport at h
  rw [hsettings] at h
  simp only [bind, Except.bind, hload, Except.mapError] at h
  split at h
  · cases h
    exact ⟨['\n'], List.forall_mem_singleton.2 rfl, rfl⟩
  · -- writing the file may fail, but then nothing is left
    cases hwrite : sur.files.checkWrite (output.getD (Document.fileName sur.stamp)) with
    | error e =>
      rw [hwrite] at h
      cases h
    | ok u =>
      rw [hwrite] at h
      cases h
      exact ⟨[], Json.blank_nil, by rw [String.ofList_nil, String.append_empty]; rfl⟩

theorem exists_runExport {a : Arguments} {sur : Surroundings} {s : Settings} {t : Table}
    (hsettings : settingsOf a sur.files = .ok s) (hload : loadTable sur.files s = .ok t)
    (output : Option String) : ∃ o, runExport output true a sur = .ok o := by
  unfold runExport
  rw [hsettings]
  simp only [bind, Except.bind, hload, Except.mapError]
  exact ⟨_, rfl⟩

/-- An import takes a readable document whose table has built-in conditions only and a pattern that
the engine builds. It refuses another for the first mapping whose condition is none of these, and a
table without such a mapping for the engine's reason. -/
theorem runImport_of_readText {file text : String} {sur : Surroundings} {d : Document}
    (hfile : sur.files.readText file = .ok text) (htext : Document.ofJson text = .ok d) :
    runImport file sur =
      match d.toTable.all.find? fun m => !m.condition.isBuiltin with
      | some m => .error [UnregisteredCondition.message ⟨m.source, m.condition.text⟩]
      | none =>
        match sur.engine.fault? d.toTable with
        | some reason => .error ["Failed to build token pattern: " ++ reason, reason]
        | none => .ok { output := tableText d.toTable } := by
  have hvalidate := Evaluator.validate_eq_find? .builtin d.toTable
  simp only [Evaluator.isRegistered_builtin] at hvalidate
  unfold runImport Resolver.new Resolver.patternOf inContext
  rw [loadDocument_of_readText hfile htext]
  simp only [bind, Except.bind, Except.mapError, hvalidate]
  cases d.toTable.all.find? fun m => !m.condition.isBuiltin with
  | some m => rfl
  | none => cases sur.engine.fault? d.toTable <;> rfl

/-- **What becomes of an exported table.** Any table that was loaded can be exported. Whatever the
export leaves, in a file or on the screen, is read as a document whose table is that table. An import
of it is refused for the first mapping whose condition is not a built-in one; without such a mapping
it is refused if the engine does not build the pattern, with the engine's reason, and succeeds
otherwise. -/
theorem runImport_runExport {a : Arguments} {sur : Surroundings} {s : Settings} {t : Table}
    (hsettings : settingsOf a sur.files = .ok s) (hload : loadTable sur.files s = .ok t)
    (hsize : t.size < UInt64.size) (output : Option String) :
    (∃ o, runExport output true a sur = .ok o) ∧
      ∀ print o, runExport output print a sur = .ok o →
        ∃ d, Document.ofJson o.document = .ok d ∧ d.toTable = t ∧
          ∀ file next, next.files.readText file = .ok o.document →
            runImport file next =
              match t.all.find? fun m => !m.condition.isBuiltin with
              | some m => .error [UnregisteredCondition.message ⟨m.source, m.condition.text⟩]
              | none =>
                match next.engine.fault? t with
                | some reason => .error ["Failed to build token pattern: " ++ reason, reason]
                | none => .ok { output := tableText t } := by
  refine ⟨exists_runExport hsettings hload output, fun print o ho => ?_⟩
  obtain ⟨behind, hbehind, hdocument⟩ := document_of_runExport hsettings hload ho
  have hread : Document.ofJson o.document = .ok (exported t sur.date) := by
    rw [hdocument]
    exact (readable_exported hload hsize sur.date).read_toJson hbehind
  have htable : (exported t sur.date).toTable = t := by
    obtain ⟨edits, rfl⟩ := Scanner.exists_edits_of_loadTable hload
    exact toTable_exported edits sur.date
  refine ⟨exported t sur.date, hread, htable, fun file next hfile => ?_⟩
  rw [runImport_of_readText hfile hread, htable]

/-! ## A condition of another host -/

/-- A table that a host with a predicate of its own has exported. -/
def matmulTable : Table := Table.empty.run Resolver.matmulEdits

theorem find?_matmulTable : (matmulTable.all.find? fun m => !m.condition.isBuiltin) =
    some ⟨"@", "∘", "Operator", .custom "is_matmul"⟩ := by decide +kernel

theorem toTable_exported_matmulTable (date : String) :
    (exported matmulTable date).toTable = matmulTable :=
  toTable_exported Resolver.matmulEdits date

/-- A working directory with one file. -/
def placeWith (text : String) : Surroundings where
  files := { working := .directory [("m.json", .file text.toUTF8)] }
  date := "2024-03-01T12:00:00+00:00"
  stamp := "20240301_120000"

theorem readText_placeWith (text : String) :
    (placeWith text).files.readText "m.json" = .ok text :=
  FileSystem.textOf_toUTF8 text

def matmulPlace : Surroundings := placeWith (exported matmulTable "").toJson

theorem settingsOf_matmulPlace :
    settingsOf { mappings := some "m.json" } matmulPlace.files =
      .ok { mappingsFile := some "m.json" } := rfl

theorem loadTable_matmulPlace (s : Settings) (hs : s.mappingsFile = some "m.json") :
    loadTable matmulPlace.files s = .ok matmulTable := by
  have hreadable : (exported matmulTable "").Readable :=
    ⟨by decide +kernel, by decide +kernel, by decide +kernel⟩
  have hread := hreadable.read_toJson Json.blank_nil
  rw [String.ofList_nil, String.append_empty] at hread
  have hload := loadTable_of_readText hs (readText_placeWith _) hread
  rwa [toTable_exported_matmulTable] at hload

/-- The export of the table can be read, but an import refuses it for the host's condition. -/
theorem runImport_matmulExport :
    ∃ o, runExport none true { mappings := some "m.json" } matmulPlace = .ok o ∧
      ∀ file next, next.files.readText file = .ok o.document →
        runImport file next = .error [UnregisteredCondition.message ⟨"@", "is_matmul"⟩] := by
  obtain ⟨⟨o, ho⟩, hall⟩ := runImport_runExport settingsOf_matmulPlace
    (loadTable_matmulPlace _ rfl) (by decide +kernel) none
  refine ⟨o, ho, fun file next hfile => ?_⟩
  obtain ⟨d, -, -, himport⟩ := hall true o ho
  rw [himport file next hfile, find?_matmulTable]
  rfl

/-- Not everything that is exported can be imported. -/
theorem not_forall_runImport_ok :
    ¬ ∀ (a : Arguments) (sur : Surroundings) (o : Outcome), runExport none true a sur = .ok o →
      ∀ file next, next.files.readText file = .ok o.document →
        ∃ done, runImport file next = .ok done := by
  intro h
  have hload := loadTable_matmulPlace { mappingsFile := some "m.json" } rfl
  obtain ⟨o, ho⟩ := exists_runExport settingsOf_matmulPlace hload none
  obtain ⟨behind, hbehind, hdocument⟩ := document_of_runExport settingsOf_matmulPlace hload ho
  have hreadable := readable_exported hload (by decide +kernel) matmulPlace.date
  have hread := hreadable.read_toJson hbehind
  rw [← hdocument] at hread
  have hfile := readText_placeWith o.document
  obtain ⟨done, hdone⟩ := h _ _ o ho "m.json" (placeWith o.document) hfile
  rw [runImport_of_readText hfile hread] at hdone
  rw [toTable_exported_matmulTable, find?_matmulTable] at hdone
  cases hdone

end CommandLine

end GlyphFold
