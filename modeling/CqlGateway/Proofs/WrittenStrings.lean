import CqlGateway.Json.Writer
import CqlGateway.Proofs.Grammar
import CqlGateway.Text.Case

/-!
# Strings of JSON as they are written

A character inside a string is written for itself, as a short escape, as the escape of its code
unit, or as the escapes of the two surrogates that stand for it (`WritesChar`).  Whichever of these
is chosen for each character, the reader finds the string that is written
(`readScalar_of_writesString`).

Other strings have surrogates without a partner and write no text.  Of these it is only said that
they are strings (`IsString`); the reader finds some string in their place (`exists_inside`).
-/

namespace CqlGateway.Json

variable {cs rest done : List Char} {c : Char} {unit : Nat} {high? : Option Nat}

/-! ### Written characters -/

/-- The character may stand for itself inside a string. -/
def standsForItself (c : Char) : Bool :=
  c != '"' && c != '\\' && 0x20 ≤ c.toNat

/-- The letters of the short escapes, with the characters for which they stand. -/
def shortEscapes : List (Char × Char) :=
  [('"', '"'), ('\\', '\\'), ('/', '/'), ('b', Char.ofNat 0x08), ('f', Char.ofNat 0x0C),
    ('n', Char.ofNat 0x0A), ('r', Char.ofNat 0x0D), ('t', Char.ofNat 0x09)]

/-- The escape of a code unit: its four hexadecimal digits, in any case, behind a backslash and `u`.
-/
inductive WritesUnit : List Char → Nat → Prop
  | mk {digits : List Char} {unit : Nat} (hunit : unit < 0x10000)
    (hdigits : digits.map Char.toLower = Text.toHex 4 unit) :
    WritesUnit ('\\' :: 'u' :: digits) unit

/-- The first of the two surrogates that stand for a character. -/
def highSurrogate (c : Char) : Nat :=
  0xD800 + (c.toNat - 0x10000) / 0x400

/-- The second of the two surrogates that stand for a character. -/
def lowSurrogate (c : Char) : Nat :=
  0xDC00 + (c.toNat - 0x10000) % 0x400

/-- What is written for a character inside a string. -/
inductive WritesChar : List Char → Char → Prop
  | literal {c : Char} (hc : standsForItself c = true) : WritesChar [c] c
  | short {letter c : Char} (hc : (letter, c) ∈ shortEscapes) : WritesChar ['\\', letter] c
  | unit {cs : List Char} {c : Char} (hunit : WritesUnit cs c.toNat) : WritesChar cs c
  | pair {high low : List Char} {c : Char} (hc : 0x10000 ≤ c.toNat)
    (hhigh : WritesUnit high (highSurrogate c)) (hlow : WritesUnit low (lowSurrogate c)) :
    WritesChar (high ++ low) c

/-- What is written for characters, one after the other. -/
inductive WritesChars : List Char → List Char → Prop
  | nil : WritesChars [] []
  | cons {cs more chars : List Char} {c : Char} (hfirst : WritesChar cs c)
    (hmore : WritesChars more chars) : WritesChars (cs ++ more) (c :: chars)

/-- The string is written between quotes. -/
def WritesString (cs : List Char) (s : String) : Prop :=
  ∃ inside, cs = '"' :: (inside ++ ['"']) ∧ WritesChars inside s.toList

/-! ### Reading strings -/

theorem readString_quote (high? : Option Nat) (done rest : List Char) :
    readString .plain high? done ('"' :: rest) =
      .ok (String.ofList (flush high? done).reverse, rest) := rfl

theorem readString_literal (hc : standsForItself c = true) (high? : Option Nat)
    (done rest : List Char) :
    readString .plain high? done (c :: rest) =
      readString .plain none (c :: flush high? done) rest := by
  simp only [standsForItself, Bool.and_eq_true, bne_iff_ne, decide_eq_true_eq] at hc
  obtain ⟨⟨hquote, hbackslash⟩, hcontrol⟩ := hc
  rw [readString]
  simp only [beq_eq_false_iff_ne.2 hquote, beq_eq_false_iff_ne.2 hbackslash,
    if_neg Bool.false_ne_true, if_neg (Nat.not_lt.2 hcontrol)]

theorem readString_short {letter : Char} (hc : (letter, c) ∈ shortEscapes) (high? : Option Nat)
    (done rest : List Char) :
    readString .plain high? done ('\\' :: letter :: rest) =
      readString .plain none (c :: flush high? done) rest := by
  have hshort : ∀ p ∈ shortEscapes, shortEscape? p.1 = some p.2 ∧ (p.1 == 'u') = false := by
    decide
  obtain ⟨hescape, hu⟩ := hshort _ hc
  have hbackslash : readString .plain high? done ('\\' :: letter :: rest) =
      readString .escape high? done (letter :: rest) := rfl
  rw [hbackslash, readString]
  simp only [hu, if_neg Bool.false_ne_true, hescape]

theorem readString_hex {d : Nat} (h : Text.hexValue? c = some d) (missing value : Nat) :
    readString (.hex (missing + 2) value) high? done (c :: rest) =
      readString (.hex (missing + 1) (value * 16 + d)) high? done rest := by
  rw [readString]
  simp only [h, if_neg (Nat.not_le.2 (Nat.lt_add_left missing Nat.one_lt_two)),
    Nat.add_one_sub_one]

theorem readString_last_hex {d : Nat} (h : Text.hexValue? c = some d) (value : Nat) :
    readString (.hex 1 value) high? done (c :: rest) =
      readString .plain (pushUnit high? done (value * 16 + d)).1
        (pushUnit high? done (value * 16 + d)).2 rest := by
  rw [readString]
  simp only [h, if_pos (Nat.le_refl 1)]

theorem hexValue?_of_toLower {d : Nat} (h : c.toLower = Text.hexDigit d) (hd : d < 16) :
    Text.hexValue? c = some d := by
  have hdigits : ∀ d : Fin 16, (Text.hexDigit d).toNat < 0x80 := by decide
  have hascii : c.toNat < 0x80 := Text.toNat_lt_of_toLower (h ▸ hdigits ⟨d, hd⟩)
  have hlower : Text.hexValue? c = Text.hexValue? c.toLower :=
    Text.of_ascii (P := fun c => Text.hexValue? c = Text.hexValue? c.toLower) (by decide) hascii
  rw [hlower, h, Text.hexValue?_hexDigit hd]

/-- A code unit is read digit by digit. -/
theorem readString_unit (h : WritesUnit cs unit) (high? : Option Nat) (done rest : List Char) :
    readString .plain high? done (cs ++ rest) =
      readString .plain (pushUnit high? done unit).1 (pushUnit high? done unit).2 rest := by
  obtain ⟨hunit, hdigits⟩ := h
  have htoHex : Text.toHex 4 unit =
      [Text.hexDigit (unit / 16 / 16 / 16 % 16), Text.hexDigit (unit / 16 / 16 % 16),
        Text.hexDigit (unit / 16 % 16), Text.hexDigit (unit % 16)] := rfl
  rw [htoHex] at hdigits
  simp only [List.map_eq_cons_iff, List.map_eq_nil_iff] at hdigits
  obtain ⟨c₃, _, rfl, h₃, c₂, _, rfl, h₂, c₁, _, rfl, h₁, c₀, _, rfl, h₀, rfl⟩ := hdigits
  have hlt : ∀ n, n % 16 < 16 := fun n => Nat.mod_lt n (by decide)
  have hvalue : (((0 * 16 + unit / 16 / 16 / 16 % 16) * 16 + unit / 16 / 16 % 16) * 16 +
      unit / 16 % 16) * 16 + unit % 16 = unit := by omega
  calc readString .plain high? done ('\\' :: 'u' :: c₃ :: c₂ :: c₁ :: c₀ :: rest)
      = readString (.hex 4 0) high? done (c₃ :: c₂ :: c₁ :: c₀ :: rest) := rfl
    _ = _ := by
      rw [readString_hex (hexValue?_of_toLower h₃ (hlt _)),
        readString_hex (hexValue?_of_toLower h₂ (hlt _)),
        readString_hex (hexValue?_of_toLower h₁ (hlt _)),
        readString_last_hex (hexValue?_of_toLower h₀ (hlt _)), hvalue]

/-! ### Code units of characters -/

/-- A character is no surrogate. -/
theorem pushUnit_of_char (c : Char) (done : List Char) :
    pushUnit none done c.toNat = (none, c :: done) := by
  have hvalid : c.toNat < 0xD800 ∨ 0xDFFF < c.toNat := c.valid.imp_right fun h => h.1
  have hhigh : (0xD800 ≤ c.toNat && c.toNat ≤ 0xDBFF) = false := by
    simp only [Bool.and_eq_false_iff, decide_eq_false_iff_not]
    omega
  have hsurrogate : Text.isSurrogate c.toNat = false := by
    simp only [Text.isSurrogate, Bool.and_eq_false_iff, decide_eq_false_iff_not]
    omega
  simp only [pushUnit, hhigh, Text.charOfCodePoint, hsurrogate, if_neg Bool.false_ne_true,
    Char.ofNat_toNat]

/-- The two surrogates that stand for a character are joined to it. -/
theorem pushUnit_surrogates (hc : 0x10000 ≤ c.toNat) (done : List Char) :
    pushUnit none done (highSurrogate c) = (some (highSurrogate c), done) ∧
      pushUnit (some (highSurrogate c)) done (lowSurrogate c) = (none, c :: done) := by
  have hvalid : c.toNat < 0xD800 ∨ c.toNat < 0x110000 := c.valid.imp_right fun h => h.2
  have hhigh : 0xD800 ≤ highSurrogate c ∧ highSurrogate c ≤ 0xDBFF := by
    unfold highSurrogate
    omega
  have hlow : 0xDC00 ≤ lowSurrogate c ∧ lowSurrogate c ≤ 0xDFFF := by
    unfold lowSurrogate
    omega
  have hjoin : Text.joinSurrogates (highSurrogate c) (lowSurrogate c) = c.toNat := by
    unfold Text.joinSurrogates highSurrogate lowSurrogate
    omega
  simp only [pushUnit, decide_eq_true hhigh.1, decide_eq_true hhigh.2, decide_eq_true hlow.1,
    decide_eq_true hlow.2, Bool.and_self, if_pos, hjoin, Char.ofNat_toNat, and_self]

theorem readString_char (h : WritesChar cs c) (done rest : List Char) :
    readString .plain none done (cs ++ rest) = readString .plain none (c :: done) rest := by
  cases h with
  | literal hc => exact readString_literal hc none done rest
  | short hc => exact readString_short hc none done rest
  | unit hunit => rw [readString_unit hunit, pushUnit_of_char]
  | pair hc hhigh hlow =>
    obtain ⟨hfirst, hsecond⟩ := pushUnit_surrogates hc done
    rw [List.append_assoc, readString_unit hhigh, hfirst, readString_unit hlow, hsecond]

theorem readString_chars {chars : List Char} (h : WritesChars cs chars) (done rest : List Char) :
    readString .plain none done (cs ++ rest) =
      readString .plain none (chars.reverse ++ done) rest := by
  induction h generalizing done with
  | nil => rfl
  | cons hfirst _ ih =>
    rw [List.append_assoc, readString_char hfirst, ih, List.reverse_cons, List.append_assoc,
      List.singleton_append]

theorem readScalar_string {s : String} (h : readString .plain none [] cs = .ok (s, rest)) :
    readScalar ('"' :: cs) = .ok (.str s, rest) := by
  rw [readScalar, h]
  rfl

/-- **A written string is read back.** -/
theorem readScalar_of_writesString {s : String} (h : WritesString cs s) (rest : List Char) :
    readScalar (cs ++ rest) = .ok (.str s, rest) := by
  obtain ⟨inside, rfl, hinside⟩ := h
  have hread : readString .plain none [] (inside ++ '"' :: rest) = .ok (s, rest) := by
    rw [readString_chars hinside, readString_quote, List.append_nil]
    simp [flush]
  rw [List.cons_append, List.append_assoc, List.singleton_append]
  exact readScalar_string hread

/-! ### Writing strings -/

theorem map_toLower_toHex (width n : Nat) :
    (Text.toHex width n).map Char.toLower = Text.toHex width n := by
  have hdigits : ∀ d : Fin 16, (Text.hexDigit d).toLower = Text.hexDigit d := by decide
  induction width generalizing n with
  | zero => rfl
  | succ width ih =>
    rw [Text.toHex, List.map_append, ih, List.map_singleton,
      hdigits ⟨n % 16, Nat.mod_lt n (by decide)⟩]

theorem writesUnit_escapeUnit (h : unit < 0x10000) : WritesUnit (escapeUnit unit) unit :=
  .mk h (map_toLower_toHex 4 unit)

theorem surrogates_lt (c : Char) : highSurrogate c < 0x10000 ∧ lowSurrogate c < 0x10000 := by
  have hvalid : c.toNat < 0xD800 ∨ c.toNat < 0x110000 := c.valid.imp_right fun h => h.2
  unfold highSurrogate lowSurrogate
  omega

/-- The writer writes every character in one of its forms. -/
theorem writesChar_escapeChar (c : Char) : WritesChar (escapeChar c) c := by
  fun_cases escapeChar c with
  | case1 hc =>
    rw [Bool.or_eq_true, beq_iff_eq, beq_iff_eq] at hc
    rcases hc with rfl | rfl <;> exact .short (by decide)
  | case2 hc hn =>
    cases beq_iff_eq.1 hn
    exact .short (by decide)
  | case3 hc hn hr =>
    cases beq_iff_eq.1 hr
    exact .short (by decide)
  | case4 hc hn hr ht =>
    cases beq_iff_eq.1 ht
    exact .short (by decide)
  | case5 n hc hn hr ht hprint =>
    rw [Bool.and_eq_true] at hprint
    rw [Bool.or_eq_true, beq_iff_eq, beq_iff_eq, not_or] at hc
    refine .literal ?_
    rw [standsForItself, Bool.and_eq_true, Bool.and_eq_true, bne_iff_ne, bne_iff_ne]
    exact ⟨hc, hprint.1⟩
  | case6 n hc hn hr ht hprint hbmp => exact .unit (writesUnit_escapeUnit hbmp)
  | case7 n hc hn hr ht hprint hbmp m =>
    obtain ⟨hhigh, hlow⟩ := surrogates_lt c
    exact .pair (Nat.not_lt.1 hbmp) (writesUnit_escapeUnit hhigh) (writesUnit_escapeUnit hlow)

theorem writesString_writeString (s : String) : WritesString (writeString s).toList s := by
  have hchars : ∀ chars : List Char, WritesChars (chars.flatMap escapeChar) chars := by
    intro chars
    induction chars with
    | nil => exact .nil
    | cons c chars ih =>
      rw [List.flatMap_cons]
      exact .cons (writesChar_escapeChar c) ih
  exact ⟨_, String.toList_ofList, hchars s.toList⟩

/-! ### Any strings -/

/-- What may stand between the quotes of a string: characters that stand for themselves, short
escapes, and code units, surrogates without a partner included. -/
inductive IsInside : List Char → Prop
  | nil : IsInside []
  | literal {c : Char} {more : List Char} (hc : standsForItself c = true) (hmore : IsInside more) :
    IsInside (c :: more)
  | short {letter c : Char} {more : List Char} (hc : (letter, c) ∈ shortEscapes)
    (hmore : IsInside more) : IsInside ('\\' :: letter :: more)
  | unit {cs more : List Char} {unit : Nat} (hunit : WritesUnit cs unit) (hmore : IsInside more) :
    IsInside (cs ++ more)

/-- The text is a string between quotes. -/
def IsString (cs : List Char) : Prop :=
  ∃ inside, cs = '"' :: (inside ++ ['"']) ∧ IsInside inside

theorem exists_readString (h : IsInside cs) (high? : Option Nat) (done rest : List Char) :
    ∃ s, readString .plain high? done (cs ++ '"' :: rest) = .ok (s, rest) := by
  induction h generalizing high? done with
  | nil => exact ⟨_, readString_quote high? done rest⟩
  | literal hc _ ih =>
    rw [List.cons_append, readString_literal hc]
    exact ih none _
  | short hc _ ih =>
    rw [List.cons_append, List.cons_append, readString_short hc]
    exact ih none _
  | unit hunit _ ih =>
    rw [List.append_assoc, readString_unit hunit]
    exact ih _ _

theorem exists_inside (h : IsString cs) (rest : List Char) :
    ∃ inside s, cs ++ rest = '"' :: inside ∧ readString .plain none [] inside = .ok (s, rest) := by
  obtain ⟨inside, rfl, hinside⟩ := h
  obtain ⟨s, hread⟩ := exists_readString hinside none [] rest
  refine ⟨_, s, ?_, hread⟩
  rw [List.cons_append, List.append_assoc, List.singleton_append]

end CqlGateway.Json
