import GlyphFold.Proofs.JsonSkipping
import GlyphFold.Proofs.JsonWriting
import GlyphFold.Region.Json

/-!
# Regions survive being written

A region is written with its offsets in order; a text that is read as a region may give them in
either order. Whatever region there is, its text is read as the same region.

1. `reads_toValue`, `spells_compact_toValue`: the texts of a region, and what is written of it
2. `givenOffsets?`: the two offsets of a text, in whichever order, by a reading of its own that passes
   over everything else. It keeps up with the reader of regions (`follows_memberText`), so where a
   region is read these are its offsets (`exists_of_ofJson`).
3. `Built`: regions as they are made, with offsets of 64 bits
4. `ofJson_toJson_of_built`
-/

namespace GlyphFold

open Json Reader

namespace Region

/-! ## Reading what was written -/

section Fields

variable {d : Draft}

theorem readsMember_start (h : d.start = none) {n : Nat} (hn : n < UInt64.size) :
    ReadsMember (member d "start_offset") (.natural n) { d with start := some n } :=
  readsMember_field "start_offset" h (reads_natural hn (Nat.le_refl _) "usize") fun x =>
    ({ d with start := x } : Draft)

theorem readsMember_stop (h : d.stop = none) {n : Nat} (hn : n < UInt64.size) :
    ReadsMember (member d "end_offset") (.natural n) { d with stop := some n } :=
  readsMember_field "end_offset" h (reads_natural hn (Nat.le_refl _) "usize") fun x =>
    ({ d with stop := x } : Draft)

theorem readsMember_placeholder (h : d.placeholder = none) (x : String) :
    ReadsMember (member d "placeholder_text") (.string x) { d with placeholder := some x } :=
  readsMember_field "placeholder_text" h (reads_string x) fun x =>
    ({ d with placeholder := x } : Draft)

theorem readsMember_group (h : d.group = none) (x : String) :
    ReadsMember (member d "group") (.string x) { d with group := some (some x) } :=
  readsMember_field "group" h (reads_string? x) fun x => ({ d with group := x } : Draft)

theorem readsMember_collapsed (h : d.collapsed = none) (b : Bool) :
    ReadsMember (member d "collapsed_by_default") (.boolean b) { d with collapsed := some b } :=
  readsMember_field "collapsed_by_default" h (reads_boolean b) fun x =>
    ({ d with collapsed := x } : Draft)

theorem readsMember_nonExpandable (h : d.nonExpandable = none) (b : Bool) :
    ReadsMember (member d "non_expandable") (.boolean b) { d with nonExpandable := some b } :=
  readsMember_field "non_expandable" h (reads_boolean b) fun x =>
    ({ d with nonExpandable := x } : Draft)

end Fields

/-- What has been read of a region at the end of its text. -/
def drafted (r : Region) : Draft where
  start := r.start
  stop := r.stop
  placeholder := r.placeholder
  group := r.group.map some
  collapsed := r.collapsed
  nonExpandable := r.nonExpandable

theorem members_drafted {r : Region} (hr : r.stop < UInt64.size) :
    Members member {} r.members r.drafted := by
  have hstart : r.start < UInt64.size := Nat.lt_of_le_of_lt r.start_le_stop hr
  unfold members drafted
  cases r.group with
  | none =>
    exact .cons (readsMember_start rfl hstart) (.cons (readsMember_stop rfl hr)
      (.cons (readsMember_placeholder rfl _) (.cons (readsMember_collapsed rfl _)
        (.cons (readsMember_nonExpandable rfl _) (.nil _)))))
  | some group =>
    exact .cons (readsMember_start rfl hstart) (.cons (readsMember_stop rfl hr)
      (.cons (readsMember_placeholder rfl _) (.cons (readsMember_group rfl group)
        (.cons (readsMember_collapsed rfl _) (.cons (readsMember_nonExpandable rfl _) (.nil _))))))

theorem toRegion_drafted (r : Region) : r.drafted.toRegion = .ok r := by
  have hmin := Nat.min_eq_left r.start_le_stop
  have hmax := Nat.max_eq_right r.start_le_stop
  have hgroup : (r.group.map some).getD none = r.group := by cases r.group <;> rfl
  simp only [Draft.toRegion, drafted, ofRange, hmin, hmax, hgroup, Option.getD_some]

theorem reads_toValue {r : Region} (hr : r.stop < UInt64.size) : Reads reader r.toValue r := by
  intro b cs rest hb hcs _
  obtain ⟨hpeek, hfold⟩ := foldMembers_of_spells (members_drafted hr) hb hcs rest
  unfold reader
  rw [bind_of_ok hpeek]
  change (foldMembers member {} >>= fun d => (d.toRegion : Reader Region)) _ = _
  rw [bind_of_ok hfold, toRegion_drafted]
  rfl

theorem spells_compact_toValue (r : Region) : Spells r.toValue (compactChars r.toValue) := by
  have hnatural (n : Nat) : Spells (.natural n) (compactChars (.natural n)) := .integer n
  have hstring (s : String) : Spells (.string s) (compactChars (.string s)) :=
    .string (spellsChars_encodeChars s.toList)
  have hboolean (b : Bool) : Spells (.boolean b) (compactChars (.boolean b)) := .boolean b
  refine spells_compact_object ?_
  unfold members
  cases r.group <;> simp [hnatural, hstring, hboolean]

theorem ofJson_toJson_of_lt {r : Region} (hr : r.stop < UInt64.size) : ofJson r.toJson = .ok r :=
  read_compact r.spells_compact_toValue (reads_toValue hr)

/-! ## Offsets as they are given -/

/-- The integer ahead, if there is one. -/
def integerAhead? (cs : List Char) : Option Int :=
  match found cs with
  | .ok (.integer n, _) => some n
  | _ => none

/-- Keeps the text that begins with the member's value. -/
def memberText (seen : List (String × List Char)) (name : String) :
    Reader (List (String × List Char)) := do
  colon
  let text ← get
  skipValue
  return seen ++ [(name, text)]

/-- The texts that begin with the first two items of a list. -/
def itemTexts : Reader (Option (List Char) × Option (List Char)) := do
  pass
  let _ ← anotherItem true
  let first ← get
  skipValue
  let _ ← anotherItem false
  return (some first, some (← get))

/-- The texts that begin with the two offsets: the values of two members, or the first two items. -/
def offsetTexts : Reader (Option (List Char) × Option (List Char)) := do
  match ← peek with
  | some '\x7b' =>
    let members ← foldMembers memberText []
    return (members.lookup "start_offset", members.lookup "end_offset")
  | some '[' => itemTexts
  | _ => return (none, none)

/-- The two offsets that a text gives, whichever of them is the larger one. -/
def givenOffsets? (text : String) : Option (Int × Int) :=
  match offsetTexts text.toList with
  | .ok ((some first, some second), _) => do
    return (← integerAhead? first, ← integerAhead? second)
  | _ => none

/-- At the start of the text stands this offset. -/
def OffsetAt (text : List Char) (n : Nat) : Prop :=
  n < UInt64.size ∧ integerAhead? text = some (n : Int)

theorem offsetAt_of_offset {cs rest : List Char} {n : Nat} (h : offset cs = .ok (n, rest)) :
    OffsetAt cs n := by
  obtain ⟨hn, hfound⟩ := found_of_natural h
  refine ⟨hn, ?_⟩
  unfold integerAhead?
  rw [hfound]

theorem skips_offset : Skips offset := skips_natural _ _

theorem memberText_eq {seen : List (String × List Char)} {name : String} {cs mid rest : List Char}
    (hcolon : colon cs = .ok ((), mid)) (hskip : skipValue mid = .ok ((), rest)) :
    memberText seen name cs = .ok (seen ++ [(name, mid)], rest) := by
  unfold memberText
  rw [bind_of_ok hcolon, bind_of_ok (get_apply mid), bind_of_ok hskip]
  rfl

/-- The text of a field that is read is kept. -/
theorem memberText_of_once {α : Type} {read : Reader α} (hread : Skips read) {name : String}
    {old o : Option α} {cs rest : List Char} (h : once name old read cs = .ok (o, rest))
    (seen : List (String × List Char)) :
    ∃ text x, memberText seen name cs = .ok (seen ++ [(name, text)], rest) ∧ old = none ∧
      o = some x ∧ read text = .ok (x, rest) := by
  obtain ⟨hold, text, x, hcolon, hx, ho⟩ := exists_of_once h
  exact ⟨text, x, memberText_eq hcolon (hread.skipValue hx), hold, ho, hx⟩

/-- The offsets that have been read are those at the start of the members' texts. -/
structure Draft.Given (d : Draft) (seen : List (String × List Char)) : Prop where
  start : Option.Rel OffsetAt (seen.lookup "start_offset") d.start
  stop : Option.Rel OffsetAt (seen.lookup "end_offset") d.stop

theorem Draft.given_empty : Draft.Given {} [] := ⟨.none, .none⟩

theorem exists_of_rel {text? : Option (List Char)} {o : Option Nat} {n : Nat}
    (h : Option.Rel OffsetAt text? o) (ho : o = some n) :
    ∃ text, text? = some text ∧ OffsetAt text n := by
  subst ho
  cases h with
  | some htext => exact ⟨_, rfl, htext⟩

theorem rel_concat {seen : List (String × List Char)} {name : String}
    (h : Option.Rel OffsetAt (seen.lookup name) none) {text : List Char} {n : Nat}
    (htext : OffsetAt text n) :
    Option.Rel OffsetAt ((seen ++ [(name, text)]).lookup name) (some n) := by
  have hnone : seen.lookup name = none := by
    cases hlookup : seen.lookup name with
    | none => rfl
    | some text =>
      rw [hlookup] at h
      cases h
  rw [lookup_concat_self hnone]
  exact .some htext

theorem follows_memberText : Follows member memberText Draft.Given := by
  intro d seen name cs d' rest h hd
  have hother {text : List Char} (hstart : name ≠ "start_offset") (hstop : name ≠ "end_offset")
      {d' : Draft} (hd : d'.start = d.start ∧ d'.stop = d.stop) :
      d'.Given (seen ++ [(name, text)]) := by
    refine ⟨?_, ?_⟩
    · rw [lookup_concat_of_ne hstart, hd.1]
      exact h.start
    · rw [lookup_concat_of_ne hstop, hd.2]
      exact h.stop
  unfold member at hd
  split at hd
  · obtain ⟨o, _, honce, ⟨⟩⟩ := exists_of_bind hd
    obtain ⟨text, n, htext, hold, rfl, hread⟩ := memberText_of_once skips_offset honce seen
    refine ⟨_, htext, rel_concat (hold ▸ h.start) (offsetAt_of_offset hread), ?_⟩
    rw [lookup_concat_of_ne (by simp)]
    exact h.stop
  · obtain ⟨o, _, honce, ⟨⟩⟩ := exists_of_bind hd
    obtain ⟨text, n, htext, hold, rfl, hread⟩ := memberText_of_once skips_offset honce seen
    refine ⟨_, htext, ?_, rel_concat (hold ▸ h.stop) (offsetAt_of_offset hread)⟩
    rw [lookup_concat_of_ne (by simp)]
    exact h.start
  · obtain ⟨o, _, honce, ⟨⟩⟩ := exists_of_bind hd
    obtain ⟨text, _, htext, -⟩ := memberText_of_once skips_string honce seen
    exact ⟨_, htext, hother (by decide) (by decide) ⟨rfl, rfl⟩⟩
  · obtain ⟨o, _, honce, ⟨⟩⟩ := exists_of_bind hd
    obtain ⟨text, _, htext, -⟩ := memberText_of_once skips_string? honce seen
    exact ⟨_, htext, hother (by decide) (by decide) ⟨rfl, rfl⟩⟩
  · obtain ⟨o, _, honce, ⟨⟩⟩ := exists_of_bind hd
    obtain ⟨text, _, htext, -⟩ := memberText_of_once skips_boolean honce seen
    exact ⟨_, htext, hother (by decide) (by decide) ⟨rfl, rfl⟩⟩
  · obtain ⟨o, _, honce, ⟨⟩⟩ := exists_of_bind hd
    obtain ⟨text, _, htext, -⟩ := memberText_of_once skips_boolean honce seen
    exact ⟨_, htext, hother (by decide) (by decide) ⟨rfl, rfl⟩⟩
  · next hstart hstop _ _ _ _ =>
    obtain ⟨_, mid, hcolon, hd⟩ := exists_of_bind hd
    obtain ⟨_, _, hskip, ⟨⟩⟩ := exists_of_bind hd
    exact ⟨_, memberText_eq hcolon hskip, hother hstart hstop ⟨rfl, rfl⟩⟩

theorem exists_of_toRegion {d : Draft} {r : Region} (h : d.toRegion = .ok r) :
    ∃ m n, d.start = some m ∧ d.stop = some n ∧ r.start = min m n ∧ r.stop = max m n := by
  unfold Draft.toRegion at h
  split at h
  · cases h
  · cases h
  · cases h
  · next m n _ hstart hstop _ =>
    cases h
    exact ⟨m, n, hstart, hstop, rfl, rfl⟩

theorem exists_of_requiredField {α : Type} {before : Nat} {read : Reader α} {cs rest : List Char}
    {x : α} (h : requiredField before read cs = .ok (x, rest)) :
    ∃ mid, anotherItem (before == 0) cs = .ok (true, mid) ∧ read mid = .ok (x, rest) := by
  unfold requiredField listField at h
  obtain ⟨o, _, hfield, h⟩ := exists_of_bind h
  obtain ⟨another, mid, hanother, hfield⟩ := exists_of_bind hfield
  cases another with
  | false =>
    cases hfield
    cases h
  | true =>
    obtain ⟨y, _, hread, ⟨⟩⟩ := exists_of_bind hfield
    cases h
    exact ⟨mid, hanother, hread⟩

/-- Where a region is read, the two texts begin with its offsets, in order or not. -/
def OffsetsOf (r : Region) (texts : Option (List Char) × Option (List Char)) : Prop :=
  ∃ first second m n, texts = (some first, some second) ∧ OffsetAt first m ∧ OffsetAt second n ∧
    r.start = min m n ∧ r.stop = max m n

theorem itemTexts_of_ofList {cs rest : List Char} {r : Region} (h : ofList cs = .ok (r, rest)) :
    ∃ texts tail, itemTexts cs = .ok (texts, tail) ∧ OffsetsOf r texts := by
  unfold ofList at h
  obtain ⟨_, items, hpass, h⟩ := exists_of_bind h
  obtain ⟨m, afterFirst, hfirst, h⟩ := exists_of_bind h
  obtain ⟨n, afterSecond, hsecond, h⟩ := exists_of_bind h
  -- The other four fields, and the end of the list.
  obtain ⟨_, _, _, h⟩ := exists_of_bind h
  obtain ⟨_, _, _, h⟩ := exists_of_bind h
  obtain ⟨_, _, _, h⟩ := exists_of_bind h
  obtain ⟨_, _, _, h⟩ := exists_of_bind h
  obtain ⟨_, _, _, h⟩ := exists_of_bind h
  obtain ⟨_, _, ⟨⟩, ⟨⟩, hstart, hstop⟩ := exists_of_toRegion (eq_ok_of_monadLift h)
  obtain ⟨first, hanother, hm⟩ := exists_of_requiredField hfirst
  obtain ⟨second, hanother', hn⟩ := exists_of_requiredField hsecond
  change anotherItem true items = _ at hanother
  change anotherItem false afterFirst = _ at hanother'
  refine ⟨(some first, some second), second, ?_, first, second, m, n, rfl,
    offsetAt_of_offset hm, offsetAt_of_offset hn, hstart, hstop⟩
  unfold itemTexts
  rw [bind_of_ok hpass, bind_of_ok hanother, bind_of_ok (get_apply first),
    bind_of_ok (skips_offset.skipValue hm), bind_of_ok hanother', bind_of_ok (get_apply second)]
  rfl

theorem offsetTexts_of_reader {cs rest : List Char} {r : Region} (h : reader cs = .ok (r, rest)) :
    ∃ texts tail, offsetTexts cs = .ok (texts, tail) ∧ OffsetsOf r texts := by
  unfold reader at h
  obtain ⟨next, mid, hpeek, h⟩ := exists_of_bind h
  unfold offsetTexts
  rw [bind_of_ok hpeek]
  split at h
  · obtain ⟨d, behind, hfold, h⟩ := exists_of_bind h
    obtain ⟨m, n, hm, hn, hstart, hstop⟩ := exists_of_toRegion (eq_ok_of_monadLift h)
    obtain ⟨ms, hms, hgiven⟩ := follows_memberText.foldMembers Draft.given_empty hfold
    obtain ⟨first, hfirst, hfirstAt⟩ := exists_of_rel hgiven.start hm
    obtain ⟨second, hsecond, hsecondAt⟩ := exists_of_rel hgiven.stop hn
    refine ⟨_, _, bind_of_ok hms _, first, second, m, n, ?_, hfirstAt, hsecondAt, hstart, hstop⟩
    rw [hfirst, hsecond]
  · exact itemTexts_of_ofList h
  · obtain ⟨_, _, _, h⟩ := exists_of_bind h
    cases h

/-- A region that is read has the two offsets of the text, put in order. -/
theorem exists_of_ofJson {text : String} {r : Region} (h : ofJson text = .ok r) :
    ∃ m n : Nat, m < UInt64.size ∧ n < UInt64.size ∧
      givenOffsets? text = some ((m : Int), (n : Int)) ∧ r.start = min m n ∧ r.stop = max m n := by
  unfold ofJson Reader.read at h
  split at h
  · cases h
  · next x rest hx =>
    split at h
    · cases h
      obtain ⟨texts, tail, htexts, first, second, m, n, rfl, ⟨hm, hfirst⟩, ⟨hn, hsecond⟩, hr⟩ :=
        offsetTexts_of_reader hx
      refine ⟨m, n, hm, hn, ?_, hr⟩
      unfold givenOffsets?
      simp only [htexts, hfirst, hsecond]
      rfl
    · cases h

/-! ## Regions as they are made -/

/-- The region is made of offsets of 64 bits, perhaps with a group, or it is read from some text. -/
inductive Built : Region → Prop
  | ofRange {range : Span} (hstart : range.start < UInt64.size) (hstop : range.stop < UInt64.size)
      (placeholder : String) : Built (ofRange range placeholder)
  | token {range : Span} (hstart : range.start < UInt64.size) (hstop : range.stop < UInt64.size)
      (placeholder : String) : Built (token range placeholder)
  | withGroup {r : Region} (h : Built r) (group : String) : Built (r.withGroup group)
  | ofJson {text : String} {r : Region} (h : ofJson text = .ok r) : Built r

theorem Built.stop_lt {r : Region} (h : r.Built) : r.stop < UInt64.size := by
  induction h with
  | ofRange hstart hstop _ => exact Nat.max_lt.2 ⟨hstart, hstop⟩
  | token hstart hstop _ => exact Nat.max_lt.2 ⟨hstart, hstop⟩
  | withGroup _ _ ih => exact ih
  | ofJson h =>
    obtain ⟨m, n, hm, hn, -, -, hstop⟩ := exists_of_ofJson h
    rw [hstop]
    exact Nat.max_lt.2 ⟨hm, hn⟩

/-- **Regions survive being written.** However a region was made, its text is read as the same region.
Every text that is read as a region gives two offsets, which are the region's, turned round just when
they stand in the wrong order; and the text of that region is read as it again. -/
theorem ofJson_toJson_of_built (r : Region) (hr : r.Built) :
    ofJson r.toJson = .ok r ∧
      ∀ text read, ofJson text = .ok read →
        read.start ≤ read.stop ∧
        (∃ a b, givenOffsets? text = some (a, b) ∧
          ((read.start : Int), (read.stop : Int)) = if b < a then (b, a) else (a, b)) ∧
        ofJson read.toJson = .ok read := by
  refine ⟨ofJson_toJson_of_lt hr.stop_lt, fun text read hread => ?_⟩
  refine ⟨read.start_le_stop, ?_, ofJson_toJson_of_lt (Built.ofJson hread).stop_lt⟩
  obtain ⟨m, n, -, -, hgiven, hstart, hstop⟩ := exists_of_ofJson hread
  refine ⟨m, n, hgiven, ?_⟩
  rw [hstart, hstop]
  split
  · next hlt =>
    have hle : n ≤ m := by omega
    rw [Nat.min_eq_right hle, Nat.max_eq_left hle]
  · next hge =>
    have hle : m ≤ n := by omega
    rw [Nat.min_eq_left hle, Nat.max_eq_right hle]

/-- A text with its offsets the wrong way round and with a group that is there and empty. -/
def reversedText : String := "[9, 3, \"≥\", \"\"]"

/-- The region of it has its offsets in order and keeps the empty group, when it is read and when it is
read again. -/
theorem ofJson_reversedText :
    givenOffsets? reversedText = some (9, 3) ∧
      ∃ r, ofJson reversedText = .ok r ∧ r = (ofRange ⟨3, 9⟩ "≥").withGroup "" ∧
        ofJson r.toJson = .ok r := by
  have hread : ofJson reversedText = .ok ((ofRange ⟨3, 9⟩ "≥").withGroup "") := by
    have h : (ofJson reversedText).toOption = some ((ofRange ⟨3, 9⟩ "≥").withGroup "") := by
      decide +kernel
    revert h
    cases ofJson reversedText with
    | error e => exact nofun
    | ok r => exact fun h => congrArg _ (Option.some.inj h)
  exact ⟨by decide +kernel, _, hread, rfl, (ofJson_toJson_of_built _ (.ofJson hread)).1⟩

end Region

end GlyphFold
