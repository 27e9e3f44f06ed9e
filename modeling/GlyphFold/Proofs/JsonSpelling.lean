import Mathlib.Data.List.Forall2
import GlyphFold.Proofs.JsonTokens

/-!
# Reading back values

A value has many texts, which differ in the blanks between their tokens and in the escapes in their
strings. `Spells` says that a text is one of them, and `Reads` that a reader takes a value for something
whichever of its texts is ahead.

1. `Spells`: the texts of a value
2. `bind_of_ok`, `peek_blank`, `anotherItem_lead`, `anotherMember_lead`: what the readers of single
   tokens do with such a text
3. `found_integer`, `found_string`, `found_boolean`, `found_null`: scalars, as they are read where
   their type is expected (`reads_string`, `reads_natural`) and where any value is
   (`reads_value_string`, `reads_value_integer`)
4. `listOf_spells`, `foldMembers_spells`: lists and objects, from what is read of their items and
   members
5. `foldMembers_of_spells`, `listOf_of_spells`, `read_of_spells`: the same with what `Spells` and
   `Reads` say, and whole texts
-/

namespace GlyphFold.Json

/-! ## Texts of values -/

/-- Characters that may stand between tokens. -/
def Blank (cs : List Char) : Prop := ∀ c ∈ cs, Reader.isBlank c = true

/-- What stands in front of an item or a member: blanks, and a comma except for the first one. -/
def Lead (first : Bool) (cs : List Char) : Prop :=
  if first then Blank cs
  else ∃ before after, Blank before ∧ Blank after ∧ cs = before ++ ',' :: after

mutual

/-- The characters are a text of the value. Floats are left out. -/
inductive Spells : Value → List Char → Prop
  | null : Spells .null "null".toList
  | boolean (b : Bool) : Spells (.boolean b) (toString b).toList
  | integer (n : Int) : Spells (.integer n) (toString n).toList
  | string {s : String} {text : List Char} (h : SpellsChars s.toList text) :
      Spells (.string s) ('"' :: (text ++ ['"']))
  | list {vs : List Value} {cs : List Char} (h : SpellsItems true vs cs) :
      Spells (.list vs) ('[' :: (cs ++ [']']))
  | object {ms : List (String × Value)} {cs : List Char} (h : SpellsMembers true ms cs) :
      Spells (.object ms) ('\x7b' :: (cs ++ ['\x7d']))

/-- The characters are the inside of a list, from an item on. -/
inductive SpellsItems : Bool → List Value → List Char → Prop
  | nil {first : Bool} {cs : List Char} (h : Blank cs) : SpellsItems first [] cs
  | cons {first : Bool} {v : Value} {vs : List Value} {lead cs tail : List Char}
      (hlead : Lead first lead) (hv : Spells v cs) (hvs : SpellsItems false vs tail) :
      SpellsItems first (v :: vs) (lead ++ (cs ++ tail))

/-- The characters are the inside of an object, from a member on. -/
inductive SpellsMembers : Bool → List (String × Value) → List Char → Prop
  | nil {first : Bool} {cs : List Char} (h : Blank cs) : SpellsMembers first [] cs
  | cons {first : Bool} {k : String} {v : Value} {ms : List (String × Value)}
      {lead name before after cs tail : List Char} (hlead : Lead first lead)
      (hname : SpellsChars k.toList name) (hbefore : Blank before) (hafter : Blank after)
      (hv : Spells v cs) (hms : SpellsMembers false ms tail) :
      SpellsMembers first ((k, v) :: ms)
        (lead ++ '"' :: (name ++ '"' :: (before ++ ':' :: (after ++ (cs ++ tail)))))

end

theorem blank_nil : Blank [] := nofun

theorem toList_toString_natCast (n : Nat) : (toString (n : Int)).toList = Nat.toDigits 10 n :=
  Nat.toList_repr

theorem toList_toString_negSucc (n : Nat) :
    (toString (Int.negSucc n)).toList = '-' :: Nat.toDigits 10 (n + 1) := by
  change ("-" ++ Nat.repr (n + 1)).toList = _
  rw [String.toList_append, Nat.toList_repr]
  rfl

/-- The characters that an integer begins with. -/
def startsNumber (c : Char) : Bool := c == '-' || c.isDigit

theorem ne_of_startsNumber {c d : Char} (hc : startsNumber c = true) (hd : startsNumber d = false) :
    c ≠ d := by
  rintro rfl
  exact nomatch hc.symm.trans hd

theorem isBlank_of_startsNumber {c : Char} (h : startsNumber c = true) :
    Reader.isBlank c = false := by
  have hblank := ne_of_startsNumber (d := ' ') h (by decide)
  have hline := ne_of_startsNumber (d := '\n') h (by decide)
  have htab := ne_of_startsNumber (d := '\t') h (by decide)
  have hreturn := ne_of_startsNumber (d := '\r') h (by decide)
  simp [Reader.isBlank, hblank, hline, htab, hreturn]

theorem exists_digit (n : Nat) :
    ∃ d ds, Nat.toDigits 10 n = d :: ds ∧ startsNumber d = true ∧ d ≠ '-' := by
  obtain ⟨d, ds, hds⟩ := List.exists_cons_of_ne_nil (@Nat.toDigits_ne_nil n 10)
  have hd : d.isDigit = true :=
    Nat.isDigit_of_mem_toDigits (by decide) (by decide) (hds ▸ List.mem_cons_self)
  refine ⟨d, ds, hds, by simp [startsNumber, hd], ?_⟩
  rintro rfl
  cases hd

theorem exists_startsNumber (n : Int) :
    ∃ c cs, (toString n).toList = c :: cs ∧ startsNumber c = true := by
  cases n with
  | ofNat n =>
    obtain ⟨d, ds, hds, hd, -⟩ := exists_digit n
    exact ⟨d, ds, (toList_toString_natCast n).trans hds, hd⟩
  | negSucc n => exact ⟨'-', _, toList_toString_negSucc n, rfl⟩

/-- A value begins with a character that is no blank and ends no list. -/
theorem Spells.exists_head {v : Value} {cs : List Char} (h : Spells v cs) :
    ∃ c rest, cs = c :: rest ∧ Reader.isBlank c = false ∧ c ≠ ']' := by
  cases h with
  | null => exact ⟨'n', _, rfl, by decide, by decide⟩
  | boolean b =>
    cases b with
    | true => exact ⟨'t', _, rfl, by decide, by decide⟩
    | false => exact ⟨'f', _, rfl, by decide, by decide⟩
  | integer n =>
    obtain ⟨c, cs, hcs, hc⟩ := exists_startsNumber n
    exact ⟨c, cs, hcs, isBlank_of_startsNumber hc, ne_of_startsNumber hc (by decide)⟩
  | string h => exact ⟨'"', _, rfl, by decide, by decide⟩
  | list h => exact ⟨'[', _, rfl, by decide, by decide⟩
  | object h => exact ⟨'\x7b', _, rfl, by decide, by decide⟩

/-- A blank, a comma or a closing bracket ends a number. -/
theorem endsNumber_blank {b : List Char} (hb : Blank b) {c : Char} (hc : c ∈ [',', ']', '\x7d'])
    (rest : List Char) : EndsNumber (b ++ c :: rest) := by
  have hends : [',', ']', '\x7d', ' ', '\n', '\t', '\r'].all
      (fun d => d.isDigit = false ∧ d ≠ '.' ∧ isExponentMark d = false) = true := by decide
  intro d hd
  refine of_decide_eq_true (List.all_eq_true.1 hends d ?_)
  cases b with
  | nil =>
    cases hd
    exact List.mem_append_left [' ', '\n', '\t', '\r'] hc
  | cons a b =>
    cases hd
    have ha := hb d List.mem_cons_self
    simp only [Reader.isBlank, Bool.or_eq_true, beq_iff_eq] at ha
    refine List.mem_append_right [',', ']', '\x7d'] ?_
    simpa [or_assoc] using ha

theorem Blank.endsNumber {b : List Char} (hb : Blank b) : EndsNumber b := by
  intro c hc
  refine endsNumber_blank hb (c := ',') (by simp) [] c ?_
  rw [List.head?_append, hc, Option.some_or]

theorem Lead.endsNumber {lead : List Char} (h : Lead false lead) (rest : List Char) :
    EndsNumber (lead ++ rest) := by
  obtain ⟨before, after, hbefore, -, rfl⟩ := h
  rw [List.append_assoc, List.cons_append]
  exact endsNumber_blank hbefore (by simp) _

theorem SpellsItems.endsNumber {vs : List Value} {cs : List Char} (h : SpellsItems false vs cs)
    (rest : List Char) : EndsNumber (cs ++ ']' :: rest) := by
  cases h with
  | nil hb => exact endsNumber_blank hb (by simp) rest
  | cons hlead hv hvs =>
    rw [List.append_assoc]
    exact hlead.endsNumber _

theorem SpellsMembers.endsNumber {ms : List (String × Value)} {cs : List Char}
    (h : SpellsMembers false ms cs) (rest : List Char) : EndsNumber (cs ++ '\x7d' :: rest) := by
  cases h with
  | nil hb => exact endsNumber_blank hb (by simp) rest
  | cons hlead _ _ _ hv hms =>
    rw [List.append_assoc]
    exact hlead.endsNumber _

theorem SpellsItems.length_le {first : Bool} {vs : List Value} {cs : List Char}
    (h : SpellsItems first vs cs) : vs.length ≤ cs.length := by
  induction vs generalizing first cs with
  | nil => exact Nat.zero_le _
  | cons v vs ih =>
    cases h with
    | cons hlead hv hvs =>
      obtain ⟨c, rest, rfl, -⟩ := hv.exists_head
      have := ih hvs
      simp only [List.length_cons, List.length_append]
      omega

theorem SpellsMembers.length_le {first : Bool} {ms : List (String × Value)} {cs : List Char}
    (h : SpellsMembers first ms cs) : ms.length ≤ cs.length := by
  induction ms generalizing first cs with
  | nil => exact Nat.zero_le _
  | cons m ms ih =>
    cases h with
    | cons hlead hname hbefore hafter hv hms =>
      have := ih hms
      simp only [List.length_cons, List.length_append]
      omega

/-! ## Tokens -/

namespace Reader

variable {α β σ : Type}

theorem bind_of_ok {r : Reader α} {cs rest : List Char} {x : α} (h : r cs = .ok (x, rest))
    (f : α → Reader β) : (r >>= f) cs = f x rest := by
  change (r cs >>= fun p => f p.1 p.2) = _
  rw [h]
  rfl

theorem peek_blank {b : List Char} (hb : Blank b) {c : Char} (hc : isBlank c = false)
    (cs : List Char) : peek (b ++ c :: cs) = .ok (some c, c :: cs) := by
  have hdrop : (b ++ c :: cs).dropWhile isBlank = c :: cs := by
    rw [List.dropWhile_append_of_pos hb, List.dropWhile_cons_of_neg (by simp [hc])]
  change Except.ok (((b ++ c :: cs).dropWhile isBlank).head?, (b ++ c :: cs).dropWhile isBlank) = _
  rw [hdrop]
  rfl

theorem peek_cons {c : Char} (hc : isBlank c = false) (cs : List Char) :
    peek (c :: cs) = .ok (some c, c :: cs) := peek_blank blank_nil hc cs

theorem get_apply (cs : List Char) : (get : Reader (List Char)) cs = .ok (cs, cs) := rfl

theorem pass_cons (c : Char) (cs : List Char) : pass (c :: cs) = .ok ((), cs) := rfl

theorem stringBody_spells {s : String} {text : List Char} (h : SpellsChars s.toList text)
    (rest : List Char) : stringBody (text ++ '"' :: rest) = .ok (s, rest) := by
  have hscan : ofScan decodeChars (text ++ '"' :: rest) = .ok (s.toList, rest) :=
    decodeChars_spells h rest
  unfold stringBody
  rw [bind_of_ok hscan, String.ofList_toList]
  rfl

theorem anotherItem_lead {first : Bool} {lead : List Char} (hlead : Lead first lead) {c : Char}
    (hc : isBlank c = false) (hne : c ≠ ']') (cs : List Char) :
    anotherItem first (lead ++ c :: cs) = .ok (true, c :: cs) := by
  unfold anotherItem
  cases first with
  | true =>
    rw [bind_of_ok (peek_blank hlead hc cs)]
    -- `hne` rules out the alternative for the end of the list.
    simp only
    rfl
  | false =>
    obtain ⟨before, after, hbefore, hafter, rfl⟩ := hlead
    rw [List.append_assoc, List.cons_append, bind_of_ok (peek_blank hbefore (by decide) _)]
    change (pass >>= fun _ => _) _ = _
    rw [bind_of_ok (pass_cons _ _), bind_of_ok (peek_blank hafter hc cs)]
    simp only
    rfl

theorem anotherItem_end (first : Bool) {b : List Char} (hb : Blank b) (cs : List Char) :
    anotherItem first (b ++ ']' :: cs) = .ok (false, ']' :: cs) := by
  unfold anotherItem
  rw [bind_of_ok (peek_blank hb (by decide) cs)]
  rfl

theorem anotherMember_lead {first : Bool} {lead : List Char} (hlead : Lead first lead)
    (cs : List Char) : anotherMember first (lead ++ '"' :: cs) = .ok (true, '"' :: cs) := by
  unfold anotherMember
  cases first with
  | true =>
    rw [bind_of_ok (peek_blank hlead (by decide) cs)]
    rfl
  | false =>
    obtain ⟨before, after, hbefore, hafter, rfl⟩ := hlead
    rw [List.append_assoc, List.cons_append, bind_of_ok (peek_blank hbefore (by decide) _)]
    change (pass >>= fun _ => _) _ = _
    rw [bind_of_ok (pass_cons _ _), bind_of_ok (peek_blank hafter (by decide) cs)]
    rfl

theorem anotherMember_end (first : Bool) {b : List Char} (hb : Blank b) (cs : List Char) :
    anotherMember first (b ++ '\x7d' :: cs) = .ok (false, '\x7d' :: cs) := by
  unfold anotherMember
  rw [bind_of_ok (peek_blank hb (by decide) cs)]
  rfl

theorem colon_blank {b : List Char} (hb : Blank b) (cs : List Char) :
    colon (b ++ ':' :: cs) = .ok ((), cs) := by
  unfold colon
  rw [bind_of_ok (peek_blank hb (by decide) cs)]
  rfl

/-! ## Scalars -/

/-- Whichever text of the value is ahead, the reader takes the value for this. -/
def Reads (r : Reader α) (v : Value) (x : α) : Prop :=
  ∀ b cs rest, Blank b → Spells v cs → EndsNumber rest → r (b ++ (cs ++ rest)) = .ok (x, rest)

theorem reads_string (s : String) : Reads string (.string s) s := by
  intro b cs rest hb hcs _
  cases hcs with
  | string h =>
    unfold string
    simp only [List.cons_append, List.append_assoc, List.nil_append]
    rw [bind_of_ok (peek_blank hb (by decide) _), if_pos rfl]
    exact stringBody_spells h rest

/-- An integer that fits 64 bits, with a sign or without. -/
def Fits (n : Int) : Prop := -Nat.pow 2 63 ≤ n ∧ n < UInt64.size

theorem number_integer {n : Int} (hn : Fits n) {rest : List Char} (hrest : EndsNumber rest) :
    number ((toString n).toList ++ rest) = .ok (.integer n, rest) := by
  unfold number
  cases n with
  | ofNat n =>
    obtain ⟨d, ds, hds, hd, hsign⟩ := exists_digit n
    have hlt : n < UInt64.size := Int.ofNat_lt.1 hn.2
    rw [Int.ofNat_eq_natCast, toList_toString_natCast, hds, List.cons_append,
      bind_of_ok (peek_cons (isBlank_of_startsNumber hd) _), if_neg (by simpa using hsign),
      ← List.cons_append, ← hds]
    exact unsignedNumber_toDigits hlt true hrest
  | negSucc n =>
    rw [toList_toString_negSucc, List.cons_append, bind_of_ok (peek_cons (by decide) _), if_pos rfl,
      bind_of_ok (pass_cons _ _)]
    have hle : n + 1 ≤ Nat.pow 2 63 := by
      have := hn.1
      omega
    have hlt : n + 1 < UInt64.size := Nat.lt_of_le_of_lt hle (by decide)
    refine (unsignedNumber_toDigits hlt false hrest).trans ?_
    unfold integerOf
    rw [if_neg (by decide), if_neg (by omega)]
    rfl

theorem found_integer {n : Int} (hn : Fits n) {rest : List Char} (hrest : EndsNumber rest) :
    found ((toString n).toList ++ rest) = .ok (.integer n, rest) := by
  obtain ⟨c, cs, hcs, hc⟩ := exists_startsNumber n
  have hnull := ne_of_startsNumber (d := 'n') hc (by decide)
  have htrue := ne_of_startsNumber (d := 't') hc (by decide)
  have hfalse := ne_of_startsNumber (d := 'f') hc (by decide)
  have hquote := ne_of_startsNumber (d := '"') hc (by decide)
  have hlist := ne_of_startsNumber (d := '[') hc (by decide)
  have hobject := ne_of_startsNumber (d := '\x7b') hc (by decide)
  have hnumber := number_integer hn hrest
  unfold startsNumber at hc
  rw [hcs, List.cons_append] at hnumber ⊢
  unfold found
  -- With the six characters ruled out, what is left is the alternative for numbers.
  rw [bind_of_ok (peek_cons (isBlank_of_startsNumber hc) _)]
  simp only [hc, if_true]
  rw [bind_of_ok hnumber]
  rfl

theorem found_string {s : String} {text : List Char} (h : SpellsChars s.toList text)
    (rest : List Char) : found ('"' :: (text ++ '"' :: rest)) = .ok (.string s, rest) := by
  unfold found
  rw [bind_of_ok (peek_cons (by decide) _)]
  change (pass >>= fun _ => _) _ = _
  rw [bind_of_ok (pass_cons _ _), bind_of_ok (stringBody_spells h rest)]
  rfl

theorem passWord_append (w rest : List Char) : passWord w (w ++ rest) = .ok ((), rest) := by
  induction w with
  | nil => rfl
  | cons c w ih =>
    rw [passWord, List.cons_append, bind_of_ok (get_apply _)]
    simp only [List.head?_cons, if_true]
    rw [bind_of_ok (pass_cons c _), ih]

theorem found_null (rest : List Char) : found ("null".toList ++ rest) = .ok (.null, rest) := by
  unfold found
  rw [show "null".toList ++ rest = 'n' :: ("ull".toList ++ rest) from rfl,
    bind_of_ok (peek_cons (by decide) _)]
  exact bind_of_ok (passWord_append "null".toList rest) _

theorem found_boolean (b : Bool) (rest : List Char) :
    found ((toString b).toList ++ rest) = .ok (.boolean b, rest) := by
  unfold found
  cases b with
  | false =>
    rw [show (toString false).toList ++ rest = 'f' :: ("alse".toList ++ rest) from rfl,
      bind_of_ok (peek_cons (by decide) _)]
    exact bind_of_ok (passWord_append "false".toList rest) _
  | true =>
    rw [show (toString true).toList ++ rest = 't' :: ("rue".toList ++ rest) from rfl,
      bind_of_ok (peek_cons (by decide) _)]
    exact bind_of_ok (passWord_append "true".toList rest) _

theorem found_blank {b : List Char} (hb : Blank b) (cs : List Char) : found (b ++ cs) = found cs := by
  have hdrop : (b ++ cs).dropWhile isBlank = cs.dropWhile isBlank :=
    List.dropWhile_append_of_pos hb
  have hpeek : peek (b ++ cs) = peek cs := by
    change Except.ok (((b ++ cs).dropWhile isBlank).head?, (b ++ cs).dropWhile isBlank) = _
    rw [hdrop]
    rfl
  unfold found
  change (peek (b ++ cs) >>= fun p => _) = _
  rw [hpeek]
  rfl

theorem reads_natural {bound n : Nat} (hn : n < bound) (hbound : bound ≤ UInt64.size)
    (expected : String) : Reads (natural bound expected) (.natural n) n := by
  intro b cs rest hb hcs hrest
  cases hcs
  have hfits : Fits n :=
    ⟨Int.le_trans (by decide) (Int.natCast_nonneg n), Int.ofNat_lt.2 (Nat.lt_of_lt_of_le hn hbound)⟩
  have hrange : 0 ≤ (n : Int) ∧ (n : Int) < bound := ⟨Int.natCast_nonneg n, Int.ofNat_lt.2 hn⟩
  have hfound := (found_blank hb _).trans (found_integer hfits hrest)
  unfold natural
  rw [bind_of_ok hfound]
  simp only [hrange, and_self, if_true]
  rfl

theorem reads_string? (s : String) : Reads string? (.string s) (some s) := by
  intro b cs rest hb hcs hrest
  have hstring := reads_string s [] cs rest blank_nil hcs hrest
  cases hcs with
  | string h =>
    simp only [List.cons_append, List.append_assoc, List.nil_append] at hstring ⊢
    unfold string?
    rw [bind_of_ok (peek_blank hb (by decide) _), if_neg (by decide), bind_of_ok hstring]
    rfl

theorem reads_boolean (b : Bool) : Reads boolean (.boolean b) b := by
  intro blanks cs rest hblanks hcs _
  cases hcs
  unfold boolean
  cases b with
  | false =>
    rw [show (toString false).toList ++ rest = 'f' :: ("alse".toList ++ rest) from rfl,
      bind_of_ok (peek_blank hblanks (by decide) _)]
    exact bind_of_ok (passWord_append "false".toList rest) _
  | true =>
    rw [show (toString true).toList ++ rest = 't' :: ("rue".toList ++ rest) from rfl,
      bind_of_ok (peek_blank hblanks (by decide) _)]
    exact bind_of_ok (passWord_append "true".toList rest) _

section Value

variable (list object : Reader Value)

/-- What is ahead and begins neither a list nor an object is read as what is found there. -/
theorem valueWith_of_found {b : List Char} (hb : Blank b) {c : Char} (hc : isBlank c = false)
    (hlist : some c ≠ some '[') (hobject : some c ≠ some '\x7b') {cs rest : List Char} {f : Found}
    (hfound : found (c :: cs) = .ok (f, rest)) :
    valueWith list object (b ++ c :: cs) = .ok (match f with
      | .boolean b => .boolean b
      | .integer n => .integer n
      | .float x => .float x
      | .string s => .string s
      | _ => .null, rest) := by
  unfold valueWith
  rw [bind_of_ok (peek_blank hb hc _)]
  -- `hlist` and `hobject` rule out the alternatives for lists and objects.
  simp only
  rw [bind_of_ok hfound]
  cases f <;> rfl

theorem reads_valueWith_null : Reads (valueWith list object) .null .null := by
  intro b cs rest hb hcs _
  cases hcs
  exact valueWith_of_found list object hb (by decide) (by decide) (by decide) (found_null rest)

theorem reads_valueWith_boolean (b : Bool) :
    Reads (valueWith list object) (.boolean b) (.boolean b) := by
  intro blanks cs rest hb hcs _
  cases hcs
  cases b with
  | false =>
    exact valueWith_of_found list object hb (by decide) (by decide) (by decide)
      (found_boolean false rest)
  | true =>
    exact valueWith_of_found list object hb (by decide) (by decide) (by decide)
      (found_boolean true rest)

theorem reads_valueWith_string (s : String) :
    Reads (valueWith list object) (.string s) (.string s) := by
  intro b cs rest hb hcs _
  cases hcs with
  | string h =>
    simp only [List.cons_append, List.append_assoc, List.nil_append]
    exact valueWith_of_found list object hb (by decide) (by decide) (by decide)
      (found_string h rest)

theorem reads_valueWith_integer {n : Int} (hn : Fits n) :
    Reads (valueWith list object) (.integer n) (.integer n) := by
  intro b cs rest hb hcs hrest
  cases hcs
  have hfound := found_integer hn hrest
  obtain ⟨c, cs, hcs, hc⟩ := exists_startsNumber n
  have hlist : some c ≠ some '[' := fun h =>
    ne_of_startsNumber hc (by decide) (Option.some.inj h)
  have hobject : some c ≠ some '\x7b' := fun h =>
    ne_of_startsNumber hc (by decide) (Option.some.inj h)
  rw [hcs, List.cons_append] at hfound ⊢
  exact valueWith_of_found list object hb (isBlank_of_startsNumber hc) hlist hobject hfound

end Value

theorem reads_value_null (depth : Nat) : Reads (value depth) .null .null := by
  cases depth <;> exact reads_valueWith_null _ _

theorem reads_value_boolean (depth : Nat) (b : Bool) :
    Reads (value depth) (.boolean b) (.boolean b) := by
  cases depth <;> exact reads_valueWith_boolean _ _ b

theorem reads_value_string (depth : Nat) (s : String) :
    Reads (value depth) (.string s) (.string s) := by
  cases depth <;> exact reads_valueWith_string _ _ s

theorem reads_value_integer (depth : Nat) {n : Int} (hn : Fits n) :
    Reads (value depth) (.integer n) (.integer n) := by
  cases depth <;> exact reads_valueWith_integer _ _ hn

/-! ## Lists and objects -/

theorem itemsUpTo_spells {item : Reader α} {vs : List Value} {xs : List α}
    (h : List.Forall₂ (Reads item) vs xs) {bound : Nat} (hbound : vs.length < bound)
    {first : Bool} {cs : List Char} (hcs : SpellsItems first vs cs) (rest : List Char) :
    itemsUpTo item bound first (cs ++ ']' :: rest) = .ok (xs, ']' :: rest) := by
  -- On the items: each one uses up one of the bound, and what follows it ends a number.
  induction h generalizing bound first cs with
  | nil =>
    obtain ⟨bound, rfl⟩ := Nat.exists_eq_add_one.2 hbound
    cases hcs with
    | nil hb =>
      rw [itemsUpTo, bind_of_ok (anotherItem_end first hb rest)]
      rfl
  | @cons v x vs xs hv _ ih =>
    obtain ⟨bound, rfl⟩ := Nat.exists_eq_add_one.2 (Nat.zero_lt_of_lt hbound)
    cases hcs with
    | @cons _ _ _ lead cs tail hlead hcs htail =>
      obtain ⟨c, cs', hhead, hc, hne⟩ := hcs.exists_head
      have hitem := hv [] cs (tail ++ ']' :: rest) blank_nil hcs (htail.endsNumber rest)
      have hvs := ih (Nat.lt_of_succ_lt_succ hbound) htail
      rw [List.append_assoc, List.append_assoc, itemsUpTo]
      rw [List.nil_append, hhead, List.cons_append] at hitem
      rw [hhead, List.cons_append, bind_of_ok (anotherItem_lead hlead hc hne _), if_pos rfl,
        bind_of_ok hitem, bind_of_ok hvs]
      rfl

/-- A list is read item by item. -/
theorem listOf_spells {item : Reader α} {vs : List Value} {xs : List α}
    (h : List.Forall₂ (Reads item) vs xs) {cs : List Char} (hcs : SpellsItems true vs cs)
    (rest : List Char) : listOf item ('[' :: (cs ++ ']' :: rest)) = .ok (xs, rest) := by
  have hbound : vs.length < (cs ++ ']' :: rest).length + 1 := by
    have := hcs.length_le
    rw [List.length_append]
    omega
  unfold listOf
  rw [bind_of_ok (pass_cons _ _), bind_of_ok (get_apply _),
    bind_of_ok (itemsUpTo_spells h hbound hcs rest)]
  rfl

/-- Whichever text of the value stands behind the colon ahead, the reader gives this. -/
def ReadsMember (r : Reader σ) (v : Value) (x : σ) : Prop :=
  ∀ before after cs rest, Blank before → Blank after → Spells v cs → EndsNumber rest →
    r (before ++ ':' :: (after ++ (cs ++ rest))) = .ok (x, rest)

/-- From one state the members lead to another, each as it is read. -/
inductive Members (member : σ → String → Reader σ) : σ → List (String × Value) → σ → Prop
  | nil (s : σ) : Members member s [] s
  | cons {s s' s'' : σ} {k : String} {v : Value} {ms : List (String × Value)}
      (hv : ReadsMember (member s k) v s') (hms : Members member s' ms s'') :
      Members member s ((k, v) :: ms) s''

theorem Members.append {member : σ → String → Reader σ} {s s' s'' : σ}
    {ms ms' : List (String × Value)} (h : Members member s ms s') (h' : Members member s' ms' s'') :
    Members member s (ms ++ ms') s'' := by
  induction h with
  | nil s => exact h'
  | cons hv _ ih => exact .cons hv (ih h')

theorem foldMembersUpTo_spells {member : σ → String → Reader σ} {s s' : σ}
    {ms : List (String × Value)} (h : Members member s ms s') {bound : Nat}
    (hbound : ms.length < bound) {first : Bool} {cs : List Char}
    (hcs : SpellsMembers first ms cs) (rest : List Char) :
    foldMembersUpTo member bound first s (cs ++ '\x7d' :: rest) = .ok (s', '\x7d' :: rest) := by
  induction h generalizing bound first cs with
  | nil s =>
    obtain ⟨bound, rfl⟩ := Nat.exists_eq_add_one.2 hbound
    cases hcs with
    | nil hb =>
      rw [foldMembersUpTo, bind_of_ok (anotherMember_end first hb rest)]
      rfl
  | @cons s s' s'' k v ms hv _ ih =>
    obtain ⟨bound, rfl⟩ := Nat.exists_eq_add_one.2 (Nat.zero_lt_of_lt hbound)
    cases hcs with
    | @cons _ _ _ _ lead name before after cs tail hlead hname hbefore hafter hcs htail =>
      have hmember := hv before after cs (tail ++ '\x7d' :: rest) hbefore hafter hcs
        (htail.endsNumber rest)
      have hms := ih (Nat.lt_of_succ_lt_succ hbound) htail
      simp only [List.append_assoc, List.cons_append]
      rw [foldMembersUpTo, bind_of_ok (anotherMember_lead hlead _), if_pos rfl,
        bind_of_ok (pass_cons _ _), bind_of_ok (stringBody_spells hname _), bind_of_ok hmember, hms]

/-- An object is read member by member. -/
theorem foldMembers_spells {member : σ → String → Reader σ} {s s' : σ}
    {ms : List (String × Value)} (h : Members member s ms s') {cs : List Char}
    (hcs : SpellsMembers true ms cs) (rest : List Char) :
    foldMembers member s ('\x7b' :: (cs ++ '\x7d' :: rest)) = .ok (s', rest) := by
  have hbound : ms.length < (cs ++ '\x7d' :: rest).length + 1 := by
    have := hcs.length_le
    rw [List.length_append]
    omega
  unfold foldMembers
  rw [bind_of_ok (pass_cons _ _), bind_of_ok (get_apply _),
    bind_of_ok (foldMembersUpTo_spells h hbound hcs rest)]
  rfl

/-- A field that has not been read yet is read from its value. -/
theorem readsMember_field (name : String) {old : Option α} (hold : old = none) {read : Reader α}
    {v : Value} {x : α} (h : Reads read v x) (set : Option α → σ) :
    ReadsMember (do return set (← once name old read)) v (set (some x)) := by
  subst hold
  intro before after cs rest hbefore hafter hcs hrest
  have honce : once name none read (before ++ ':' :: (after ++ (cs ++ rest))) =
      .ok (some x, rest) := by
    unfold once
    rw [if_neg (by simp), bind_of_ok (colon_blank hbefore _),
      bind_of_ok (h after cs rest hafter hcs hrest)]
    rfl
  rw [bind_of_ok honce]
  rfl

/-! ## Whole texts -/

/-- The text of an object is taken for what its members lead to. -/
theorem foldMembers_of_spells {σ : Type} {member : σ → String → Reader σ} {s s' : σ}
    {ms : List (String × Value)} (h : Members member s ms s') {b cs : List Char} (hb : Blank b)
    (hcs : Spells (.object ms) cs) (rest : List Char) :
    peek (b ++ (cs ++ rest)) = .ok (some '\x7b', cs ++ rest) ∧
      foldMembers member s (cs ++ rest) = .ok (s', rest) := by
  cases hcs with
  | object hcs =>
    simp only [List.cons_append, List.append_assoc, List.nil_append]
    exact ⟨peek_blank hb (by decide) _, foldMembers_spells h hcs rest⟩

/-- The text of a list is taken for what its items are taken for. -/
theorem listOf_of_spells {α : Type} {item : Reader α} {vs : List Value} {xs : List α}
    (h : List.Forall₂ (Reads item) vs xs) {b cs : List Char} (hb : Blank b)
    (hcs : Spells (.list vs) cs) (rest : List Char) :
    peek (b ++ (cs ++ rest)) = .ok (some '[', cs ++ rest) ∧
      listOf item (cs ++ rest) = .ok (xs, rest) := by
  cases hcs with
  | list hcs =>
    simp only [List.cons_append, List.append_assoc, List.nil_append]
    exact ⟨peek_blank hb (by decide) _, listOf_spells h hcs rest⟩

/-- A reader that takes a value for something reads that off every text of the value, with blanks around
it or without. -/
theorem read_of_spells {α : Type} {r : Reader α} {v : Value} {x : α} (h : Reads r v x)
    {before cs behind : List Char} (hbefore : Blank before) (hcs : Spells v cs)
    (hbehind : Blank behind) : read r (String.ofList (before ++ (cs ++ behind))) = .ok x := by
  have hread := h before cs behind hbefore hcs hbehind.endsNumber
  unfold read
  rw [String.toList_ofList]
  simp only [hread]
  exact if_pos (List.all_eq_true.2 hbehind)

end Reader

end GlyphFold.Json
