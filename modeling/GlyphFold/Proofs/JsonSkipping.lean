import Mathlib.Data.List.DropRight
import GlyphFold.Proofs.JsonResults
import GlyphFold.Proofs.JsonSpelling

/-!
# Passing values

A value that nobody asks for is passed over without being built. Just its text is passed, whichever of
its texts is ahead and however deep it is nested; and where something is read, just what is read would
be passed.

1. `skipString_of_decodeChars`, `skipNumber_of_unsignedNumber`: strings and integers that are read
2. `Skips`: a reader reads what would be passed. `skips_natural`, `skips_string`, `skips_string?`,
   `skips_boolean`
3. `SkipsWithin`, `skipsWithin`, `skipValue_spells`: the texts of values
4. `Follows`: two readers of members that read the same members (`Follows.foldMembers`)
-/

namespace GlyphFold.Json

/-! ## Strings -/

theorem skipString_quote (rest : List Char) : skipString ('"' :: rest) = .ok rest := by
  rw [skipString.eq_def]
  simp only [if_true]

theorem skipString_plain {c : Char} (hquote : c ≠ '"') (hbackslash : c ≠ '\\')
    (hcontrol : ¬ c.toNat < 0x20) (rest : List Char) : skipString (c :: rest) = skipString rest := by
  rw [skipString.eq_def]
  simp only [hquote, hbackslash, hcontrol, if_false]

theorem skipString_named {c d : Char} (h : namedEscape? c = some d) (rest : List Char) :
    skipString ('\\' :: c :: rest) = skipString rest := by
  have hc : c ≠ 'u' := by
    rintro rfl
    exact nomatch namedEscape?_u.symm.trans h
  rw [skipString, if_neg (by decide), if_pos rfl, if_neg hc, h]
  rfl

theorem skipString_number {n : Nat} {cs rest : List Char} (h : hexEscape cs = .ok (n, rest)) :
    skipString ('\\' :: 'u' :: cs) = skipString rest := by
  rw [skipString, if_neg (by decide), if_pos rfl, if_pos rfl]
  split
  · next he => cases he.symm.trans h
  · next he =>
    cases he.symm.trans h
    rfl

theorem exists_of_trailEscape {lead : Nat} {cs rest : List Char} {c : Char}
    (h : trailEscape lead cs = .ok (c, rest)) :
    ∃ n cs', cs = '\\' :: 'u' :: cs' ∧ hexEscape cs' = .ok (n, rest) := by
  unfold trailEscape at h
  split at h
  · cases h
  · cases h
  · next cs' =>
    split at h
    · cases h
    · next n rest' he =>
      split at h
      · obtain ⟨-, rfl⟩ := Prod.mk.inj (Except.ok.inj h)
        exact ⟨n, cs', rfl, he⟩
      · cases h
  · cases h

/-- An escape that is read is passed; a pair of surrogates is passed as two escapes. -/
theorem skipString_escape {cs rest : List Char} {c : Char} (h : escape cs = .ok (c, rest)) :
    skipString ('\\' :: cs) = skipString rest := by
  cases cs with
  | nil => cases h
  | cons d cs =>
    rw [escape] at h
    split at h
    · next hd =>
      subst hd
      unfold unicodeEscape at h
      split at h
      · cases h
      · next n rest' he =>
        rw [skipString_number he]
        split at h
        · cases h
        · split at h
          · obtain ⟨m, cs', rfl, he'⟩ := exists_of_trailEscape h
            rw [skipString_number he']
          · cases h
            rfl
    · split at h
      · next hd =>
        cases h
        exact skipString_named hd _
      · cases h

theorem skipString_of_decodeChars {cs text rest : List Char}
    (h : decodeChars cs = .ok (text, rest)) : skipString cs = .ok rest := by
  fun_induction decodeChars cs generalizing text with
  | case1 => cases h
  | case2 =>
    cases h
    exact skipString_quote rest
  | case3 => cases h
  | case4 _ _ _ he _ _ ih =>
    obtain ⟨_, hrest, heq⟩ := Reader.exists_of_map_eq_ok h
    cases heq
    rw [skipString_escape he, ih hrest]
  | case5 => cases h
  | case6 _ _ hquote hbackslash hcontrol ih =>
    obtain ⟨_, hrest, heq⟩ := Reader.exists_of_map_eq_ok h
    cases heq
    rw [skipString_plain hquote hbackslash hcontrol, ih hrest]

theorem skipString_spells {cs text : List Char} (h : SpellsChars cs text) (rest : List Char) :
    skipString (text ++ '"' :: rest) = .ok rest :=
  skipString_of_decodeChars (decodeChars_spells h rest)

/-! ## Integers -/

theorem floatOf_ne_integer {positive : Bool} {significand : Nat} {exponent n : Int}
    {cs rest : List Char} : floatOf positive significand exponent cs ≠ .ok (.integer n, rest) := by
  intro h
  obtain ⟨x, -, heq⟩ := Reader.exists_of_map_eq_ok h
  cases heq

theorem exponentPart_ne_integer {positive : Bool} {significand : Nat} {start n : Int}
    {cs rest : List Char} :
    exponentPart positive significand start cs ≠ .ok (.integer n, rest) := by
  intro h
  unfold exponentPart at h
  simp only at h
  generalize (if cs.head? == some '-' || cs.head? == some '+' then cs.drop 1 else cs) = digits at h
  split at h
  · cases h
  · split at h
    · split at h <;> cases h
    · exact floatOf_ne_integer h

theorem fractionPart_ne_integer {positive : Bool} {significand : Nat} {start n : Int}
    {cs rest : List Char} :
    fractionPart positive significand start cs ≠ .ok (.integer n, rest) := by
  intro h
  unfold fractionPart at h
  simp only at h
  split at h
  · cases h
  · split at h
    · exact floatOf_ne_integer h
    · split at h
      · exact exponentPart_ne_integer h
      · exact floatOf_ne_integer h

/-- An integer that is read has neither a fraction nor an exponent. -/
theorem skipNumber_of_unsignedNumber {positive : Bool} {cs rest : List Char} {n : Int}
    (h : unsignedNumber positive cs = .ok (.integer n, rest)) : skipNumber cs = .ok rest := by
  unfold unsignedNumber at h
  simp only at h
  split at h
  · cases h
  · next hdigits =>
    split at h
    · cases h
    · next hzero =>
      have hgood : ¬ ((digitsAhead cs).isEmpty = true ∨
          (digitsAhead cs).head? = some '0' ∧ 1 < (digitsAhead cs).length) :=
        not_or.2 ⟨hdigits, hzero⟩
      unfold skipNumber
      simp only
      rw [if_neg hgood]
      split at h
      · split at h
        · rw [(Prod.mk.inj (Except.ok.inj h)).2]
        · exact absurd h floatOf_ne_integer
      · split at h
        · exact absurd h fractionPart_ne_integer
        · next hpoint =>
          split at h
          · exact absurd h exponentPart_ne_integer
          · next hmark =>
            split at h
            · simp only [hpoint, hmark, Bool.false_eq_true, if_false]
              rw [(Prod.mk.inj (Except.ok.inj h)).2]
            · exact absurd h floatOf_ne_integer

/-- An integer is passed however large it is. -/
theorem skipNumber_toDigits (n : Nat) {rest : List Char} (hrest : EndsNumber rest) :
    skipNumber (Nat.toDigits 10 n ++ rest) = .ok rest := by
  have hdigits : ∀ d ∈ Nat.toDigits 10 n, d.isDigit = true := fun d hd =>
    Nat.isDigit_of_mem_toDigits (by decide) (by decide) hd
  obtain ⟨hahead, hbehind⟩ := digitsAhead_append hdigits hrest
  have hzero : ¬ ((Nat.toDigits 10 n).head? = some '0' ∧ 1 < (Nat.toDigits 10 n).length) := by
    rintro ⟨hhead, hlength⟩
    rw [head?_toDigits hhead] at hlength
    exact absurd hlength (by decide)
  unfold skipNumber
  simp only [hahead, hbehind, hzero, List.isEmpty_iff, Nat.toDigits_ne_nil, or_self, if_false]
  cases rest with
  | nil => rfl
  | cons c rest =>
    obtain ⟨-, hpoint, hmark⟩ := hrest c rfl
    simp [hpoint, hmark]

namespace Reader

variable {α : Type}

theorem ofSkip_of_ok {skip : List Char → Except Fault (List Char)} {cs rest : List Char}
    (h : skip cs = .ok rest) : ofSkip skip cs = .ok ((), rest) := by
  unfold ofSkip
  rw [h]
  rfl

/-! ## Single values -/

section Ahead

variable {bound : Nat} {cs behind rest : List Char} {c : Char}

theorem skipWithin_quote (hpeek : peek cs = .ok (some '"', '"' :: behind))
    (h : skipString behind = .ok rest) : skipWithin (bound + 1) cs = .ok ((), rest) := by
  rw [skipWithin, bind_of_ok hpeek]
  change (pass >>= fun _ => _) _ = _
  rw [bind_of_ok (pass_cons _ _)]
  exact ofSkip_of_ok h

theorem skipWithin_minus (hpeek : peek cs = .ok (some '-', '-' :: behind))
    (h : skipNumber behind = .ok rest) : skipWithin (bound + 1) cs = .ok ((), rest) := by
  rw [skipWithin, bind_of_ok hpeek]
  change (pass >>= fun _ => _) _ = _
  rw [bind_of_ok (pass_cons _ _)]
  exact ofSkip_of_ok h

theorem skipWithin_digit (hpeek : peek cs = .ok (some c, behind)) (hc : c.isDigit = true)
    (h : skipNumber behind = .ok rest) : skipWithin (bound + 1) cs = .ok ((), rest) := by
  have hne {d : Char} (hd : d.isDigit = false) : c ≠ d := by
    rintro rfl
    exact nomatch hc.symm.trans hd
  have hlist := @hne '[' (by decide)
  have hobject := @hne '\x7b' (by decide)
  have hquote := @hne '"' (by decide)
  have hminus := @hne '-' (by decide)
  rw [skipWithin, bind_of_ok hpeek]
  -- With the four characters ruled out, what is left is the alternative for digits.
  simp only [hc, if_true]
  exact ofSkip_of_ok h

theorem skipWithin_word (hpeek : peek cs = .ok (some c, behind)) (hc : c ∈ ['n', 't', 'f'])
    {f : Found} (h : found behind = .ok (f, rest)) :
    skipWithin (bound + 1) cs = .ok ((), rest) := by
  rw [skipWithin, bind_of_ok hpeek]
  simp only [List.mem_cons, List.not_mem_nil, or_false] at hc
  rcases hc with rfl | rfl | rfl
  all_goals
    change (found >>= fun _ => _) _ = _
    rw [bind_of_ok h]
    rfl

end Ahead

/-- The reader reads single tokens, and just what it reads would be passed. -/
def Skips (r : Reader α) : Prop :=
  ∀ bound cs x rest, r cs = .ok (x, rest) → skipWithin (bound + 1) cs = .ok ((), rest)

theorem Skips.skipValue {r : Reader α} (hr : Skips r) {cs : List Char} {x : α} {rest : List Char}
    (h : r cs = .ok (x, rest)) : skipValue cs = .ok ((), rest) := hr _ cs x rest h

theorem peek_eq_cons {cs mid : List Char} {c : Char} (h : peek cs = .ok (some c, mid)) :
    ∃ behind, mid = c :: behind := by
  obtain ⟨hhead, rfl⟩ := Prod.mk.inj (Except.ok.inj h)
  exact List.head?_eq_some_iff.1 hhead

theorem skipWithin_peek {bound : Nat} {cs mid : List Char} {next : Option Char}
    (h : peek cs = .ok (next, mid)) : skipWithin (bound + 1) cs = skipWithin (bound + 1) mid := by
  have hagain : peek mid = .ok (next, mid) := by
    obtain ⟨rfl, rfl⟩ := Prod.mk.inj (Except.ok.inj h)
    show Except.ok ((((cs.dropWhile isBlank)).dropWhile isBlank).head?,
      (cs.dropWhile isBlank).dropWhile isBlank) = _
    rw [List.dropWhile_idempotent]
  rw [skipWithin, bind_of_ok h, bind_of_ok hagain]

theorem number_of_found {cs rest : List Char} {n : Int} (h : found cs = .ok (.integer n, rest)) :
    ∃ c mid, peek cs = .ok (some c, mid) ∧ (c == '-' || c.isDigit) = true ∧
      number mid = .ok (.integer n, rest) := by
  unfold found at h
  obtain ⟨next, mid, hpeek, h⟩ := exists_of_bind h
  split at h
  · obtain ⟨_, _, _, h⟩ := exists_of_bind h
    cases h
  · obtain ⟨_, _, _, h⟩ := exists_of_bind h
    cases h
  · obtain ⟨_, _, _, h⟩ := exists_of_bind h
    cases h
  · obtain ⟨_, _, _, h⟩ := exists_of_bind h
    obtain ⟨_, _, _, h⟩ := exists_of_bind h
    cases h
  · cases h
  · cases h
  · next c _ _ _ _ _ _ =>
    split at h
    · next hc =>
      obtain ⟨x, mid', hnumber, h⟩ := exists_of_bind h
      cases x with
      | integer k =>
        cases h
        exact ⟨c, mid, hpeek, hc, hnumber⟩
      | float x => cases h
    · cases h
  · cases h

theorem skipWithin_of_found {bound : Nat} {cs rest : List Char} {n : Int}
    (h : found cs = .ok (.integer n, rest)) : skipWithin (bound + 1) cs = .ok ((), rest) := by
  obtain ⟨c, mid, hpeek, hc, hnumber⟩ := number_of_found h
  obtain ⟨behind, rfl⟩ := peek_eq_cons hpeek
  have hblank : isBlank c = false := isBlank_of_startsNumber hc
  unfold number at hnumber
  rw [bind_of_ok (peek_cons hblank behind)] at hnumber
  split at hnumber
  · next hminus =>
    obtain rfl := Option.some.inj hminus
    exact skipWithin_minus hpeek (skipNumber_of_unsignedNumber hnumber)
  · next hminus =>
    have hdigit : c.isDigit = true := by
      rcases Bool.or_eq_true_iff.1 hc with heq | hdigit
      · exact absurd (congrArg some (eq_of_beq heq)) hminus
      · exact hdigit
    exact skipWithin_digit hpeek hdigit (skipNumber_of_unsignedNumber hnumber)

theorem found_of_natural {bound : Nat} {expected : String} {cs rest : List Char} {n : Nat}
    (h : natural bound expected cs = .ok (n, rest)) :
    n < bound ∧ found cs = .ok (.integer n, rest) := by
  unfold natural at h
  obtain ⟨f, mid, hfound, h⟩ := exists_of_bind h
  split at h
  · next k =>
    split at h
    · next hk =>
      cases h
      rw [Int.toNat_of_nonneg hk.1]
      exact ⟨by omega, hfound⟩
    · cases h
  · cases h

theorem skips_natural (bound : Nat) (expected : String) : Skips (natural bound expected) :=
  fun _ _ _ _ h => skipWithin_of_found (found_of_natural h).2

theorem skips_string : Skips string := by
  intro bound cs s rest h
  unfold string at h
  obtain ⟨next, mid, hpeek, h⟩ := exists_of_bind h
  split at h
  · next hnext =>
    subst hnext
    obtain ⟨behind, rfl⟩ := peek_eq_cons hpeek
    obtain ⟨_, text, hpass, h⟩ := exists_of_bind h
    cases hpass
    obtain ⟨cs', mid, hdecode, h⟩ := exists_of_bind h
    cases h
    exact skipWithin_quote hpeek (skipString_of_decodeChars hdecode)
  · obtain ⟨_, _, _, h⟩ := exists_of_bind h
    cases h

/-- A word that is read is found. -/
theorem found_of_word {cs behind rest : List Char} {c : Char} {s : String}
    (hs : s = "null" ∨ s = "true" ∨ s = "false") (hpeek : peek cs = .ok (some c, behind))
    (hc : s.toList.head? = some c) (h : word s behind = .ok ((), rest)) :
    ∃ f, found behind = .ok (f, rest) := by
  obtain ⟨tail, rfl⟩ := peek_eq_cons hpeek
  rcases hs with rfl | rfl | rfl
  · obtain rfl : 'n' = c := Option.some.inj hc
    refine ⟨.null, ?_⟩
    unfold found
    rw [bind_of_ok (peek_cons (by decide) _)]
    exact bind_of_ok h _
  · obtain rfl : 't' = c := Option.some.inj hc
    refine ⟨.boolean true, ?_⟩
    unfold found
    rw [bind_of_ok (peek_cons (by decide) _)]
    exact bind_of_ok h _
  · obtain rfl : 'f' = c := Option.some.inj hc
    refine ⟨.boolean false, ?_⟩
    unfold found
    rw [bind_of_ok (peek_cons (by decide) _)]
    exact bind_of_ok h _

theorem skips_string? : Skips string? := by
  intro bound cs s rest h
  unfold string? at h
  obtain ⟨next, mid, hpeek, h⟩ := exists_of_bind h
  split at h
  · next hnext =>
    subst hnext
    obtain ⟨_, _, hword, h⟩ := exists_of_bind h
    cases h
    obtain ⟨f, hfound⟩ := found_of_word (.inl rfl) hpeek rfl hword
    exact skipWithin_word hpeek (by decide) hfound
  · obtain ⟨_, _, hstring, h⟩ := exists_of_bind h
    cases h
    rw [skipWithin_peek hpeek]
    exact skips_string bound mid _ _ hstring

theorem skips_boolean : Skips boolean := by
  intro bound cs b rest h
  unfold boolean at h
  obtain ⟨next, mid, hpeek, h⟩ := exists_of_bind h
  split at h
  · obtain ⟨_, _, hword, h⟩ := exists_of_bind h
    cases h
    obtain ⟨f, hfound⟩ := found_of_word (.inr (.inl rfl)) hpeek rfl hword
    exact skipWithin_word hpeek (by decide) hfound
  · obtain ⟨_, _, hword, h⟩ := exists_of_bind h
    cases h
    obtain ⟨f, hfound⟩ := found_of_word (.inr (.inr rfl)) hpeek rfl hword
    exact skipWithin_word hpeek (by decide) hfound
  · obtain ⟨_, _, _, h⟩ := exists_of_bind h
    cases h

/-! ## Texts of values -/

/-- Values, insides of lists and insides of objects of so many characters are passed. -/
structure SkipsWithin (bound : Nat) : Prop where
  value : ∀ {v cs}, Spells v cs → cs.length ≤ bound → ∀ {b}, Blank b → ∀ {rest}, EndsNumber rest →
    skipWithin bound (b ++ (cs ++ rest)) = .ok ((), rest)
  items : ∀ {first vs cs}, SpellsItems first vs cs → cs.length < bound → ∀ rest,
    skipItems bound first (cs ++ ']' :: rest) = .ok ((), rest)
  members : ∀ {first ms cs}, SpellsMembers first ms cs → cs.length < bound → ∀ rest,
    skipMembers bound first (cs ++ '\x7d' :: rest) = .ok ((), rest)

theorem skipsWithin_zero : SkipsWithin 0 where
  value hcs hbound := by
    obtain ⟨c, rest, rfl, -⟩ := hcs.exists_head
    cases hbound
  items _ hbound := absurd hbound (Nat.not_lt_zero _)
  members _ hbound := absurd hbound (Nat.not_lt_zero _)

theorem SkipsWithin.value_succ {bound : Nat} (h : SkipsWithin bound) {v : Value} {cs : List Char}
    (hcs : Spells v cs) (hbound : cs.length ≤ bound + 1) {b : List Char} (hb : Blank b)
    {rest : List Char} (hrest : EndsNumber rest) :
    skipWithin (bound + 1) (b ++ (cs ++ rest)) = .ok ((), rest) := by
  cases hcs with
  | null => exact skipWithin_word (peek_blank hb (by decide) _) (by decide) (found_null rest)
  | boolean x =>
    cases x with
    | false =>
      exact skipWithin_word (peek_blank hb (by decide) _) (by decide) (found_boolean false rest)
    | true =>
      exact skipWithin_word (peek_blank hb (by decide) _) (by decide) (found_boolean true rest)
  | integer n =>
    cases n with
    | ofNat n =>
      obtain ⟨d, ds, hds, hd, hsign⟩ := exists_digit n
      have hdigit : d.isDigit = true := (Bool.or_eq_true_iff.1 hd).resolve_left (by simpa using hsign)
      rw [Int.ofNat_eq_natCast, toList_toString_natCast, hds, List.cons_append]
      refine skipWithin_digit (peek_blank hb (isBlank_of_startsNumber hd) _) hdigit ?_
      rw [← List.cons_append, ← hds]
      exact skipNumber_toDigits n hrest
    | negSucc n =>
      rw [toList_toString_negSucc, List.cons_append]
      exact skipWithin_minus (peek_blank hb (by decide) _) (skipNumber_toDigits _ hrest)
  | string hs =>
    simp only [List.cons_append, List.append_assoc, List.nil_append]
    exact skipWithin_quote (peek_blank hb (by decide) _) (skipString_spells hs rest)
  | list hvs =>
    simp only [List.length_cons, List.length_append] at hbound
    simp only [List.cons_append, List.append_assoc, List.nil_append]
    rw [skipWithin, bind_of_ok (peek_blank hb (by decide) _)]
    change (pass >>= fun _ => _) _ = _
    rw [bind_of_ok (pass_cons _ _)]
    exact h.items hvs (by omega) rest
  | object hms =>
    simp only [List.length_cons, List.length_append] at hbound
    simp only [List.cons_append, List.append_assoc, List.nil_append]
    rw [skipWithin, bind_of_ok (peek_blank hb (by decide) _)]
    change (pass >>= fun _ => _) _ = _
    rw [bind_of_ok (pass_cons _ _)]
    exact h.members hms (by omega) rest

theorem SkipsWithin.items_succ {bound : Nat} (h : SkipsWithin bound) {first : Bool}
    {vs : List Value} {cs : List Char} (hcs : SpellsItems first vs cs)
    (hbound : cs.length < bound + 1) (rest : List Char) :
    skipItems (bound + 1) first (cs ++ ']' :: rest) = .ok ((), rest) := by
  cases hcs with
  | nil hb =>
    rw [skipItems, bind_of_ok (peek_blank hb (by decide) rest)]
    rfl
  | @cons _ v vs lead cs tail hlead hv hvs =>
    obtain ⟨c, text, rfl, hc, hne⟩ := hv.exists_head
    simp only [List.length_append, List.length_cons] at hbound
    have hvalue {b : List Char} (hb : Blank b) := h.value hv (by simp; omega) hb (hvs.endsNumber rest)
    have hitems := h.items hvs (by omega) rest
    rw [List.append_assoc, List.append_assoc, skipItems]
    cases first with
    | true =>
      have hitem := hvalue blank_nil
      rw [List.nil_append, List.cons_append] at hitem
      rw [List.cons_append, bind_of_ok (peek_blank hlead hc _)]
      -- `hne` rules out the alternative for the end of the list.
      simp only [if_true]
      change (skipWithin bound >>= fun _ => skipItems bound false) _ = _
      rw [bind_of_ok hitem, hitems]
    | false =>
      obtain ⟨before, after, hbefore, hafter, rfl⟩ := hlead
      rw [List.append_assoc, List.cons_append, bind_of_ok (peek_blank hbefore (by decide) _)]
      change (pass >>= fun _ => skipWithin bound >>= fun _ => skipItems bound false) _ = _
      rw [bind_of_ok (pass_cons _ _), bind_of_ok (hvalue hafter), hitems]

theorem SkipsWithin.members_succ {bound : Nat} (h : SkipsWithin bound) {first : Bool}
    {ms : List (String × Value)} {cs : List Char} (hcs : SpellsMembers first ms cs)
    (hbound : cs.length < bound + 1) (rest : List Char) :
    skipMembers (bound + 1) first (cs ++ '\x7d' :: rest) = .ok ((), rest) := by
  cases hcs with
  | nil hb =>
    rw [skipMembers, bind_of_ok (peek_blank hb (by decide) rest)]
    rfl
  | @cons _ k v ms lead name before after cs tail hlead hname hbefore hafter hv hms =>
    simp only [List.length_append, List.length_cons] at hbound
    have hvalue := h.value hv (by omega) hafter (hms.endsNumber rest)
    have hmembers := h.members hms (by omega) rest
    have hmember : (do
        pass
        ofSkip skipString
        colon
        skipWithin bound
        skipMembers bound false : Reader Unit)
          ('"' :: (name ++ '"' :: (before ++ ':' :: (after ++ (cs ++ (tail ++ '\x7d' :: rest)))))) =
        .ok ((), rest) := by
      rw [bind_of_ok (pass_cons _ _), bind_of_ok (ofSkip_of_ok (skipString_spells hname _)),
        bind_of_ok (colon_blank hbefore _), bind_of_ok hvalue, hmembers]
    simp only [List.append_assoc, List.cons_append]
    rw [skipMembers]
    cases first with
    | true =>
      rw [bind_of_ok (peek_blank hlead (by decide) _)]
      -- The name is looked at once more, as behind a comma.
      change (peek >>= fun _ => _) _ = _
      rw [bind_of_ok (peek_cons (by decide) _)]
      exact hmember
    | false =>
      obtain ⟨front, behind, hfront, hbehind, rfl⟩ := hlead
      rw [List.append_assoc, List.cons_append, bind_of_ok (peek_blank hfront (by decide) _)]
      change (pass >>= fun _ => peek >>= fun _ => _) _ = _
      rw [bind_of_ok (pass_cons _ _), bind_of_ok (peek_blank hbehind (by decide) _)]
      exact hmember

/-- On the number of characters: each list and each object takes its brackets for itself. -/
theorem skipsWithin (bound : Nat) : SkipsWithin bound := by
  induction bound with
  | zero => exact skipsWithin_zero
  | succ bound ih =>
    exact ⟨fun hcs hbound _ hb _ hrest => ih.value_succ hcs hbound hb hrest,
      fun hcs hbound rest => ih.items_succ hcs hbound rest,
      fun hcs hbound rest => ih.members_succ hcs hbound rest⟩

/-- Whichever text of the value is ahead, it is passed. -/
theorem skipValue_spells {v : Value} {cs : List Char} (hcs : Spells v cs) {b : List Char}
    (hb : Blank b) {rest : List Char} (hrest : EndsNumber rest) :
    skipValue (b ++ (cs ++ rest)) = .ok ((), rest) := by
  have hbound : cs.length ≤ 2 * (b ++ (cs ++ rest)).length + 2 := by
    simp only [List.length_append]
    omega
  exact (skipsWithin _).value hcs hbound hb hrest

/-! ## Members read in two ways -/

/-- A member by another name does not change what is found by a name. -/
theorem lookup_concat_of_ne {m : String × α} {name : String} (h : m.1 ≠ name)
    (seen : List (String × α)) : (seen ++ [m]).lookup name = seen.lookup name := by
  have hne : (name == m.1) = false := beq_eq_false_iff_ne.2 h.symm
  rw [List.lookup_append, List.lookup_cons, hne, List.lookup_nil, Option.or_none]

theorem lookup_concat_self {seen : List (String × α)} {name : String}
    (h : seen.lookup name = none) (x : α) : (seen ++ [(name, x)]).lookup name = some x := by
  rw [List.lookup_append, h, Option.none_or, List.lookup_cons_self]

section Follows

variable {σ τ : Type} {member : σ → String → Reader σ} {other : τ → String → Reader τ}
  {R : σ → τ → Prop}

/-- Wherever the one reader of members reads a member, the other one reads it too and keeps up. -/
def Follows (member : σ → String → Reader σ) (other : τ → String → Reader τ) (R : σ → τ → Prop) :
    Prop :=
  ∀ s t name cs s' rest, R s t → member s name cs = .ok (s', rest) →
    ∃ t', other t name cs = .ok (t', rest) ∧ R s' t'

theorem Follows.foldMembersUpTo (h : Follows member other R) (bound : Nat) (first : Bool) {s s' : σ}
    {t : τ} (hst : R s t) {cs rest : List Char}
    (hs : foldMembersUpTo member bound first s cs = .ok (s', rest)) :
    ∃ t', foldMembersUpTo other bound first t cs = .ok (t', rest) ∧ R s' t' := by
  induction bound generalizing first s t cs with
  | zero => cases hs
  | succ bound ih =>
    rw [Reader.foldMembersUpTo] at hs
    obtain ⟨another, mid, hanother, hs⟩ := exists_of_bind hs
    rw [Reader.foldMembersUpTo, bind_of_ok hanother]
    cases another with
    | false =>
      cases hs
      exact ⟨t, rfl, hst⟩
    | true =>
      obtain ⟨_, text, hpass, hs⟩ := exists_of_bind hs
      obtain ⟨name, behind, hname, hs⟩ := exists_of_bind hs
      obtain ⟨next, tail, hnext, hs⟩ := exists_of_bind hs
      obtain ⟨t', ht', hnext'⟩ := h s t name behind next tail hst hnext
      obtain ⟨t'', ht'', hlast⟩ := ih false hnext' hs
      refine ⟨t'', ?_, hlast⟩
      rw [if_pos rfl, bind_of_ok hpass, bind_of_ok hname, bind_of_ok ht', ht'']

theorem Follows.foldMembers (h : Follows member other R) {s s' : σ} {t : τ} (hst : R s t)
    {cs rest : List Char} (hs : foldMembers member s cs = .ok (s', rest)) :
    ∃ t', foldMembers other t cs = .ok (t', rest) ∧ R s' t' := by
  unfold Reader.foldMembers at hs ⊢
  obtain ⟨_, text, hpass, hs⟩ := exists_of_bind hs
  obtain ⟨_, _, hget, hs⟩ := exists_of_bind hs
  obtain ⟨last, behind, hmembers, hs⟩ := exists_of_bind hs
  obtain ⟨_, _, hclose, hs⟩ := exists_of_bind hs
  cases hs
  obtain ⟨t', ht', hlast⟩ := h.foldMembersUpTo _ true hst hmembers
  refine ⟨t', ?_, hlast⟩
  rw [bind_of_ok hpass, bind_of_ok hget, bind_of_ok ht', bind_of_ok hclose]
  rfl

end Follows

end Reader

end GlyphFold.Json
