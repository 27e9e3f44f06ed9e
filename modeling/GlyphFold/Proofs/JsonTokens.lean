import GlyphFold.Json.Reader

/-!
# Reading back tokens

A string is read from each of its spellings, and an integer from its digits.

1. `SpellsChar`, `SpellsChars`: the texts of a string between its quotes, with whatever escapes.
   `decodeChars_spells`: they are read as the string
2. `appendDigits_of_lt`, `unsignedNumber_toDigits`: integers that fit 64 bits, digit by digit
-/

namespace GlyphFold.Json

/-! ## Strings -/

/-- Four hexadecimal digits of the number, in either case. -/
def Hex (n : Nat) (ds : List Char) : Prop :=
  ∃ a b c d w x y z, ds = [a, b, c, d] ∧ hexDigit? a = some w ∧ hexDigit? b = some x ∧
    hexDigit? c = some y ∧ hexDigit? d = some z ∧ n = ((w * 16 + x) * 16 + y) * 16 + z

/-- The characters may stand for the character inside a string: itself, unless it must be escaped, an
escape by name, its number, or the numbers of its two surrogates. -/
inductive SpellsChar : Char → List Char → Prop
  | plain {c : Char} (hquote : c ≠ '"') (hbackslash : c ≠ '\\') (hcontrol : 0x20 ≤ c.toNat) :
      SpellsChar c [c]
  | named {c d : Char} (h : namedEscape? c = some d) : SpellsChar d ['\\', c]
  | number {c : Char} {ds : List Char} (h : Hex c.toNat ds) : SpellsChar c ('\\' :: 'u' :: ds)
  | pair {c : Char} {high low : List Char} (hc : 0x10000 ≤ c.toNat)
      (hhigh : Hex (0xD800 + (c.toNat - 0x10000) / 0x400) high)
      (hlow : Hex (0xDC00 + (c.toNat - 0x10000) % 0x400) low) :
      SpellsChar c ('\\' :: 'u' :: (high ++ '\\' :: 'u' :: low))

/-- The characters may stand for the text between quotes. -/
inductive SpellsChars : List Char → List Char → Prop
  | nil : SpellsChars [] []
  | cons {c : Char} {cs text texts : List Char} (hc : SpellsChar c text)
      (hcs : SpellsChars cs texts) : SpellsChars (c :: cs) (text ++ texts)

theorem hexDigit?_digitChar : ∀ n < 16, hexDigit? (Nat.digitChar n) = some n := by decide

theorem hexEscape_hex {n : Nat} {ds : List Char} (h : Hex n ds) (rest : List Char) :
    hexEscape (ds ++ rest) = .ok (n, rest) := by
  obtain ⟨a, b, c, d, w, x, y, z, rfl, ha, hb, hc, hd, rfl⟩ := h
  simp [hexEscape, ha, hb, hc, hd]

theorem isTrailSurrogate_toNat (c : Char) : isTrailSurrogate c.toNat = false := by
  have hvalid : c.toNat < 0xD800 ∨ 0xDFFF < c.toNat ∧ c.toNat < 0x110000 := c.valid
  unfold isTrailSurrogate
  simp
  omega

theorem isLeadSurrogate_toNat (c : Char) : isLeadSurrogate c.toNat = false := by
  have hvalid : c.toNat < 0xD800 ∨ 0xDFFF < c.toNat ∧ c.toNat < 0x110000 := c.valid
  unfold isLeadSurrogate
  simp
  omega

theorem namedEscape?_u : namedEscape? 'u' = none := rfl

theorem escape_named {c d : Char} (h : namedEscape? c = some d) (rest : List Char) :
    escape (c :: rest) = .ok (d, rest) := by
  have hc : c ≠ 'u' := by
    rintro rfl
    exact nomatch namedEscape?_u.symm.trans h
  rw [escape, if_neg hc, h]

theorem escape_number {c : Char} {ds : List Char} (h : Hex c.toNat ds) (rest : List Char) :
    escape ('u' :: (ds ++ rest)) = .ok (c, rest) := by
  rw [escape, if_pos rfl, unicodeEscape, hexEscape_hex h]
  simp only [isTrailSurrogate_toNat, isLeadSurrogate_toNat, Char.ofNat_toNat]
  rfl

theorem escape_pair {c : Char} {high low : List Char} (hc : 0x10000 ≤ c.toNat)
    (hhigh : Hex (0xD800 + (c.toNat - 0x10000) / 0x400) high)
    (hlow : Hex (0xDC00 + (c.toNat - 0x10000) % 0x400) low) (rest : List Char) :
    escape ('u' :: (high ++ '\\' :: 'u' :: (low ++ rest))) = .ok (c, rest) := by
  have hvalid : c.toNat < 0xD800 ∨ 0xDFFF < c.toNat ∧ c.toNat < 0x110000 := c.valid
  have htrail : isTrailSurrogate (0xD800 + (c.toNat - 0x10000) / 0x400) = false := by
    unfold isTrailSurrogate
    simp
    omega
  have hlead : isLeadSurrogate (0xD800 + (c.toNat - 0x10000) / 0x400) = true := by
    unfold isLeadSurrogate
    simp
    omega
  have htrailLow : isTrailSurrogate (0xDC00 + (c.toNat - 0x10000) % 0x400) = true := by
    unfold isTrailSurrogate
    simp
    omega
  have hnumber : 0x10000 + (0xD800 + (c.toNat - 0x10000) / 0x400 - 0xD800) * 0x400 +
      (0xDC00 + (c.toNat - 0x10000) % 0x400 - 0xDC00) = c.toNat := by omega
  rw [escape, if_pos rfl, unicodeEscape, hexEscape_hex hhigh]
  simp only [htrail, hlead, trailEscape, hexEscape_hex hlow, htrailLow, hnumber, Char.ofNat_toNat]
  rfl

theorem decodeChars_escape {rest rest' : List Char} {d : Char} (h : escape rest = .ok (d, rest')) :
    decodeChars ('\\' :: rest) = (decodeChars rest').map fun p => (d :: p.1, p.2) := by
  rw [decodeChars, if_neg (by decide), if_pos rfl]
  -- The alternatives carry the proof that the text gets shorter, which `simp` drops.
  simp only
  rw [h]

/-- A character is read from whatever may stand for it inside a string. -/
theorem decodeChars_spellsChar {c : Char} {text : List Char} (h : SpellsChar c text)
    (rest : List Char) :
    decodeChars (text ++ rest) = (decodeChars rest).map fun p => (c :: p.1, p.2) := by
  cases h with
  | plain hquote hbackslash hcontrol =>
    rw [List.singleton_append, decodeChars, if_neg hquote, if_neg hbackslash,
      if_neg (Nat.not_lt.2 hcontrol)]
  | named h => exact decodeChars_escape (escape_named h rest)
  | number h => exact decodeChars_escape (escape_number h rest)
  | pair hc hhigh hlow =>
    simp only [List.cons_append, List.append_assoc]
    exact decodeChars_escape (escape_pair hc hhigh hlow rest)

/-- A string is read from whatever may stand for it behind its opening quote. -/
theorem decodeChars_spells {cs text : List Char} (h : SpellsChars cs text) (rest : List Char) :
    decodeChars (text ++ '"' :: rest) = .ok (cs, rest) := by
  induction h with
  | nil => rw [List.nil_append, decodeChars, if_pos rfl]
  | cons hc _ ih =>
    rw [List.append_assoc, decodeChars_spellsChar hc, ih]
    rfl

/-! What is written is one of the spellings. -/

theorem spellsChar_escapeChar (c : Char) : SpellsChar c (escapeChar c) := by
  unfold escapeChar
  split
  case h_8 =>
    next hquote hbackslash _ _ _ _ _ =>
    split
    · next hcontrol =>
      refine .number ⟨'0', '0', _, _, 0, 0, c.toNat / 16, c.toNat % 16, rfl, rfl, rfl,
        hexDigit?_digitChar _ (by omega), hexDigit?_digitChar _ (by omega), by omega⟩
    · next hcontrol => exact .plain hquote hbackslash (Nat.not_lt.1 hcontrol)
  all_goals exact .named rfl

theorem spellsChars_encodeChars (cs : List Char) : SpellsChars cs (encodeChars cs) := by
  induction cs with
  | nil => exact .nil
  | cons c cs ih =>
    rw [encodeChars_cons]
    exact .cons (spellsChar_escapeChar c) ih

/-! ## Integers -/

theorem le_ofDigitChars (init : Nat) (ds : List Char) : init ≤ Nat.ofDigitChars 10 ds init := by
  rw [Nat.ofDigitChars_eq_ofDigitChars_zero]
  have hpow := Nat.one_le_pow ds.length 10 (by decide)
  calc init = 1 * init := (Nat.one_mul init).symm
    _ ≤ 10 ^ ds.length * init := Nat.mul_le_mul_right init hpow
    _ ≤ _ := Nat.le_add_right _ _

/-- Digits whose number fits 64 bits are all appended. -/
theorem appendDigits_of_lt {ds : List Char} {init : Nat}
    (h : Nat.ofDigitChars 10 ds init < UInt64.size) :
    appendDigits init ds = (Nat.ofDigitChars 10 ds init, ds.length) := by
  induction ds generalizing init with
  | nil => rfl
  | cons d ds ih =>
    rw [Nat.ofDigitChars_cons] at h ⊢
    have hnext : 10 * init + digitValue d < UInt64.size :=
      Nat.lt_of_le_of_lt (le_ofDigitChars _ ds) h
    have hds : appendDigits (10 * init + digitValue d) ds =
        (Nat.ofDigitChars 10 ds (10 * init + (d.toNat - '0'.toNat)), ds.length) := ih h
    rw [appendDigits]
    simp only [hnext, if_true, hds]
    rfl

/-- Only zero is written with a zero in front. -/
theorem head?_toDigits {n : Nat} (h : (Nat.toDigits 10 n).head? = some '0') : n = 0 := by
  induction n using Nat.strongRecOn with
  | ind n ih =>
    rw [Nat.toDigits_eq_if (by decide)] at h
    split at h
    · simpa using h
    · next hn =>
      have hhead := List.head?_eq_some_head (l := Nat.toDigits 10 (n / 10)) Nat.toDigits_ne_nil
      rw [List.head?_append, hhead, Option.some_or, ← hhead] at h
      have := ih (n / 10) (by omega) h
      omega

/-- No number goes on into the text. -/
def EndsNumber (rest : List Char) : Prop :=
  ∀ c, rest.head? = some c → c.isDigit = false ∧ c ≠ '.' ∧ isExponentMark c = false

theorem digitsAhead_append {ds rest : List Char} (hds : ∀ d ∈ ds, d.isDigit = true)
    (hrest : EndsNumber rest) :
    digitsAhead (ds ++ rest) = ds ∧ behindDigits (ds ++ rest) = rest := by
  have hstop : rest.takeWhile Char.isDigit = [] ∧ rest.dropWhile Char.isDigit = rest := by
    cases rest with
    | nil => exact ⟨rfl, rfl⟩
    | cons c rest =>
      have hc := (hrest c rfl).1
      simp [hc]
  unfold digitsAhead behindDigits
  rw [List.takeWhile_append_of_pos hds, List.dropWhile_append_of_pos hds, hstop.1, hstop.2,
    List.append_nil]
  exact ⟨rfl, rfl⟩

theorem unsignedNumber_toDigits {n : Nat} (hn : n < UInt64.size) (positive : Bool)
    {rest : List Char} (hrest : EndsNumber rest) :
    unsignedNumber positive (Nat.toDigits 10 n ++ rest) = .ok (integerOf positive n, rest) := by
  have hdigits : ∀ d ∈ Nat.toDigits 10 n, d.isDigit = true := fun d hd =>
    Nat.isDigit_of_mem_toDigits (by decide) (by decide) hd
  obtain ⟨hahead, hbehind⟩ := digitsAhead_append hdigits hrest
  have happend : appendDigits 0 (Nat.toDigits 10 n) = (n, (Nat.toDigits 10 n).length) := by
    have h := @appendDigits_of_lt (Nat.toDigits 10 n) 0
    rw [Nat.ofDigitChars_ten_toDigits] at h
    exact h hn
  have hzero : ¬ ((Nat.toDigits 10 n).head? = some '0' ∧ 1 < (Nat.toDigits 10 n).length) := by
    rintro ⟨hhead, hlength⟩
    rw [head?_toDigits hhead] at hlength
    exact absurd hlength (by decide)
  unfold unsignedNumber
  simp only [hahead, hbehind, happend, hzero, if_false, Int.sub_self, if_true, List.isEmpty_iff,
    Nat.toDigits_ne_nil]
  cases rest with
  | nil => rfl
  | cons c rest =>
    obtain ⟨-, hpoint, hmark⟩ := hrest c rfl
    simp [hpoint, hmark]

end GlyphFold.Json
