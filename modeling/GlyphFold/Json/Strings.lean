import GlyphFold.Json.Value
import GlyphFold.Text.Bytes

/-!
# Reading JSON strings

`decodeChars` reads a string behind its opening quote; `skipString` passes one whose text nobody asks
for and is content with any four hexadecimal digits.
-/

namespace GlyphFold.Json

/-- What is read, and the text behind it. -/
abbrev Scanned (α : Type) := Except Fault (α × List Char)

def hexDigit? (c : Char) : Option Nat :=
  if '0' ≤ c ∧ c ≤ '9' then some (c.toNat - '0'.toNat)
  else if 'a' ≤ c ∧ c ≤ 'f' then some (c.toNat - 'a'.toNat + 10)
  else if 'A' ≤ c ∧ c ≤ 'F' then some (c.toNat - 'A'.toNat + 10)
  else none

/-- The number of four hexadecimal digits. A text of fewer than four bytes ends too early. -/
def hexEscape : List Char → Scanned Nat
  | a :: b :: c :: d :: rest =>
    match hexDigit? a, hexDigit? b, hexDigit? c, hexDigit? d with
    | some w, some x, some y, some z => .ok (((w * 16 + x) * 16 + y) * 16 + z, rest)
    | _, _, _, _ => .error .invalidEscape
  | cs => .error (if Text.byteSize cs < 4 then .stringUnfinished else .invalidEscape)

def isLeadSurrogate (n : Nat) : Bool := 0xD800 ≤ n && n ≤ 0xDBFF

def isTrailSurrogate (n : Nat) : Bool := 0xDC00 ≤ n && n ≤ 0xDFFF

/-- The second half of a surrogate pair, and the character of the pair. -/
def trailEscape (lead : Nat) : List Char → Scanned Char
  | [] => .error .stringUnfinished
  | ['\\'] => .error .stringUnfinished
  | '\\' :: 'u' :: rest =>
    match hexEscape rest with
    | .error e => .error e
    | .ok (n, rest) =>
      if isTrailSurrogate n then
        .ok (Char.ofNat (0x10000 + (lead - 0xD800) * 0x400 + (n - 0xDC00)), rest)
      else .error .loneSurrogate
  | _ => .error .hexEscapeUnfinished

/-- The character behind `\u`. -/
def unicodeEscape (cs : List Char) : Scanned Char :=
  match hexEscape cs with
  | .error e => .error e
  | .ok (n, rest) =>
    if isTrailSurrogate n then .error .loneSurrogate
    else if isLeadSurrogate n then trailEscape n rest
    else .ok (Char.ofNat n, rest)

def namedEscape? : Char → Option Char
  | '"' => some '"'
  | '\\' => some '\\'
  | '/' => some '/'
  | 'b' => some '\x08'
  | 'f' => some '\x0c'
  | 'n' => some '\n'
  | 'r' => some '\r'
  | 't' => some '\t'
  | _ => none

/-- The character behind a backslash. -/
def escape : List Char → Scanned Char
  | [] => .error .stringUnfinished
  | c :: rest =>
    if c = 'u' then unicodeEscape rest
    else match namedEscape? c with
      | some d => .ok (d, rest)
      | none => .error .invalidEscape

theorem length_lt_of_hexEscape {cs rest : List Char} {n : Nat} (h : hexEscape cs = .ok (n, rest)) :
    rest.length < cs.length := by
  unfold hexEscape at h
  split at h
  · split at h
    · cases h
      simp only [List.length_cons]
      omega
    · cases h
  · cases h

theorem length_lt_of_trailEscape {lead : Nat} {cs rest : List Char} {c : Char}
    (h : trailEscape lead cs = .ok (c, rest)) : rest.length < cs.length := by
  unfold trailEscape at h
  split at h
  · cases h
  · cases h
  · split at h
    · cases h
    · next he =>
      have := length_lt_of_hexEscape he
      split at h
      · simp only [Except.ok.injEq, Prod.mk.injEq] at h
        simp only [List.length_cons, ← h.2]
        omega
      · cases h
  · cases h

theorem length_lt_of_unicodeEscape {cs rest : List Char} {c : Char}
    (h : unicodeEscape cs = .ok (c, rest)) : rest.length < cs.length := by
  unfold unicodeEscape at h
  split at h
  · cases h
  · next he =>
    have := length_lt_of_hexEscape he
    split at h
    · cases h
    · split at h
      · have := length_lt_of_trailEscape h
        omega
      · simp only [Except.ok.injEq, Prod.mk.injEq] at h
        rwa [← h.2]

theorem length_lt_of_escape {cs rest : List Char} {c : Char} (h : escape cs = .ok (c, rest)) :
    rest.length < cs.length := by
  cases cs with
  | nil => cases h
  | cons d cs =>
    rw [escape] at h
    split at h
    · have := length_lt_of_unicodeEscape h
      simp only [List.length_cons]
      omega
    · split at h
      · simp only [Except.ok.injEq, Prod.mk.injEq] at h
        simp [← h.2]
      · cases h

/-- The text of a string behind its opening quote. -/
def decodeChars (cs : List Char) : Scanned (List Char) :=
  match cs with
  | [] => .error .stringUnfinished
  | c :: rest =>
    if c = '"' then .ok ([], rest)
    else if c = '\\' then
      match h : escape rest with
      | .error e => .error e
      | .ok (d, rest') =>
        have : rest'.length < rest.length := length_lt_of_escape h
        (decodeChars rest').map fun (text, rest) => (d :: text, rest)
    else if c.toNat < 0x20 then .error .controlCharacter
    else (decodeChars rest).map fun (text, rest) => (c :: text, rest)
  termination_by cs.length

/-- Passes a string behind its opening quote. -/
def skipString (cs : List Char) : Except Fault (List Char) :=
  match cs with
  | [] => .error .stringUnfinished
  | c :: rest =>
    if c = '"' then .ok rest
    else if c = '\\' then
      match rest with
      | [] => .error .stringUnfinished
      | d :: rest =>
        if d = 'u' then
          match h : hexEscape rest with
          | .error e => .error e
          | .ok (_, rest') =>
            have : rest'.length < rest.length := length_lt_of_hexEscape h
            skipString rest'
        else if (namedEscape? d).isSome then skipString rest
        else .error .invalidEscape
    else if c.toNat < 0x20 then .error .controlCharacter
    else skipString rest
  termination_by cs.length

end GlyphFold.Json
