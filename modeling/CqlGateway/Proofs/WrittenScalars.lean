import CqlGateway.Proofs.Numerals
import CqlGateway.Proofs.WrittenStrings

/-!
# Scalars of JSON as they are written

Which texts are numbers (`IsNumber`), and which are scalars: a word, a number or a string
(`IsScalar`).  Nothing is said of what they mean.  In front of what ends a value the reader takes
each of them as a whole (`exists_readScalar`), because what follows does not go on with a number.
-/

namespace CqlGateway.Json

variable {cs rest : List Char}

/-! ### Numbers -/

/-- Decimal digits, one at least. -/
def IsDigits (cs : List Char) : Prop :=
  cs ≠ [] ∧ ∀ c ∈ cs, c.isDigit = true

/-- The whole part of a number: a zero, or digits of which the first one is no zero. -/
inductive IsWhole : List Char → Prop
  | zero : IsWhole ['0']
  | digits {d : Char} {ds : List Char} (hfirst : d ≠ '0') (hdigits : IsDigits (d :: ds)) :
    IsWhole (d :: ds)

/-- The fraction of a number, if it has one. -/
inductive IsFraction : List Char → Prop
  | none : IsFraction []
  | digits {ds : List Char} (hdigits : IsDigits ds) : IsFraction ('.' :: ds)

/-- The exponent of a number, if it has one. -/
inductive IsExponent : List Char → Prop
  | none : IsExponent []
  | digits {e : Char} (sign : Text.Sign) {ds : List Char} (he : e = 'e' ∨ e = 'E')
    (hdigits : IsDigits ds) : IsExponent (e :: (sign.chars ++ ds))

/-- The text is a number without a sign; an integer has no more digits than allowed. -/
inductive IsUnsigned : List Char → Prop
  | mk {whole fraction exponent : List Char} (hwhole : IsWhole whole)
    (hfraction : IsFraction fraction) (hexponent : IsExponent exponent)
    (hlimit : fraction = [] → exponent = [] → whole.length ≤ Text.maxDigits) :
    IsUnsigned (whole ++ (fraction ++ exponent))

/-- The text is a number. -/
inductive IsNumber : List Char → Prop
  | positive {cs : List Char} (h : IsUnsigned cs) : IsNumber cs
  | negative {cs : List Char} (h : IsUnsigned cs) : IsNumber ('-' :: cs)

/-- The character ends a value. -/
def endsValue (c : Char) : Bool :=
  isSpace c || c == ',' || c == ']' || c == '\x7d'

/-- The text goes on with what ends a value, if it goes on. -/
def EndsValue (cs : List Char) : Prop :=
  ∀ c ∈ cs.head?, endsValue c = true

/-- The text goes on with what is no part of a number. -/
structure EndsNumber (cs : List Char) : Prop where
  no_digit : ∀ c ∈ cs.head?, c.isDigit = false
  no_point : cs.head? ≠ some '.'
  no_exponent : ∀ c ∈ cs.head?, c ≠ 'e' ∧ c ≠ 'E'

theorem EndsValue.endsNumber (h : EndsValue rest) : EndsNumber rest := by
  have hends : ∀ c, endsValue c = true →
      c.isDigit = false ∧ c ≠ '.' ∧ c ≠ 'e' ∧ c ≠ 'E' := by
    intro c hc
    simp only [endsValue, isSpace, Bool.or_eq_true, beq_iff_eq] at hc
    rcases hc with (((((rfl | rfl) | rfl) | rfl) | rfl) | rfl) | rfl <;> decide
  exact ⟨fun c hc => (hends c (h c hc)).1, fun hc => (hends _ (h _ hc)).2.1 rfl,
    fun c hc => (hends c (h c hc)).2.2⟩

theorem takeWhole_append {whole : List Char} (h : IsWhole whole)
    (hrest : ∀ c ∈ rest.head?, c.isDigit = false) :
    Decimal.takeWhole (whole ++ rest) = some (whole, rest) := by
  cases h with
  | zero => rfl
  | @digits d ds hfirst hdigits =>
    have htake := Text.takeWhile_append_of_head hdigits.2 hrest
    have hdrop := Text.dropWhile_append_of_head hdigits.2 hrest
    rw [List.cons_append] at htake hdrop ⊢
    rw [Decimal.takeWhole, htake]
    · simp only [hdrop]
    · intro tail hzero
      exact hfirst (List.cons.inj hzero).1

theorem takeFraction_append {fraction : List Char} (h : IsFraction fraction)
    (hdigit : ∀ c ∈ rest.head?, c.isDigit = false) (hpoint : rest.head? ≠ some '.') :
    Decimal.takeFraction (fraction ++ rest) = (fraction.tail, rest) := by
  cases h with
  | none =>
    rw [List.nil_append, Decimal.takeFraction]
    · rfl
    · rintro tail rfl
      exact hpoint rfl
  | @digits ds hdigits =>
    have htake := Text.takeWhile_append_of_head hdigits.2 hdigit
    have hdrop := Text.dropWhile_append_of_head hdigits.2 hdigit
    obtain ⟨d, ds, rfl⟩ := List.exists_cons_of_ne_nil hdigits.1
    rw [List.cons_append, Decimal.takeFraction, htake]
    simp only [hdrop, List.tail_cons]

theorem takeExponent_of_no_exponent (h : ∀ c ∈ cs.head?, c ≠ 'e' ∧ c ≠ 'E') :
    Decimal.takeExponent cs = none := by
  cases cs with
  | nil => rfl
  | cons c cs =>
    obtain ⟨he, hE⟩ := h c rfl
    rw [Decimal.takeExponent, beq_eq_false_iff_ne.2 he, beq_eq_false_iff_ne.2 hE, Bool.or_self,
      if_neg Bool.false_ne_true]

theorem takeExponent_append {e : Char} (sign : Text.Sign) {ds : List Char} (he : e = 'e' ∨ e = 'E')
    (hdigits : IsDigits ds) (hrest : ∀ c ∈ rest.head?, c.isDigit = false) :
    ∃ n, Decimal.takeExponent (e :: (sign.chars ++ ds) ++ rest) = some (n, rest) := by
  have htake := Text.takeWhile_append_of_head hdigits.2 hrest
  have hdrop := Text.dropWhile_append_of_head hdigits.2 hrest
  obtain ⟨hne, hall⟩ := hdigits
  obtain ⟨d, ds, rfl⟩ := List.exists_cons_of_ne_nil hne
  have hsign : Text.takeSign (sign.chars ++ (d :: ds ++ rest)) =
      (sign == .minus, d :: ds ++ rest) := by
    refine Text.takeSign_append sign ?_
    rintro _ ⟨⟩
    have hd := hall d List.mem_cons_self
    constructor <;> rintro rfl <;> cases hd
  have hexponent : (e == 'e' || e == 'E') = true := by
    rcases he with rfl | rfl <;> rfl
  rw [List.cons_append, List.append_assoc, Decimal.takeExponent, if_pos hexponent, hsign]
  simp only [htake, hdrop]
  exact ⟨_, rfl⟩

/-- An exponent goes on with neither digits nor a point. -/
theorem IsExponent.ends (h : IsExponent cs) (hrest : EndsNumber rest) :
    (∀ c ∈ (cs ++ rest).head?, c.isDigit = false) ∧ (cs ++ rest).head? ≠ some '.' := by
  cases h with
  | none => exact ⟨hrest.no_digit, hrest.no_point⟩
  | digits sign he hdigits =>
    constructor
    · rintro _ ⟨⟩
      rcases he with rfl | rfl <;> rfl
    · rcases he with rfl | rfl <;> exact fun hpoint => nomatch hpoint

theorem IsFraction.ends (h : IsFraction cs) (hrest : ∀ c ∈ rest.head?, c.isDigit = false) :
    ∀ c ∈ (cs ++ rest).head?, c.isDigit = false := by
  cases h with
  | none => exact hrest
  | digits hdigits =>
    rintro _ ⟨⟩
    rfl

theorem IsFraction.eq_nil_of_tail (h : IsFraction cs) (htail : cs.tail.isEmpty = true) :
    cs = [] := by
  cases h with
  | none => rfl
  | digits hdigits => exact absurd (List.isEmpty_iff.1 htail) hdigits.1

/-- A number is taken as a whole; it is an integer if neither a fraction nor an exponent is written.
-/
theorem exists_take? {whole fraction exponent : List Char} (hwhole : IsWhole whole)
    (hfraction : IsFraction fraction) (hexponent : IsExponent exponent) (hrest : EndsNumber rest) :
    ∃ d, Decimal.take? (whole ++ (fraction ++ exponent) ++ rest) = some (d, rest) ∧
      d.whole = whole ∧ (d.isWhole = true → fraction = [] ∧ exponent = []) := by
  obtain ⟨hdigit, hpoint⟩ := hexponent.ends hrest
  have htakeWhole := takeWhole_append hwhole (hfraction.ends hdigit)
  have htakeFraction := takeFraction_append hfraction hdigit hpoint
  rw [List.append_assoc, List.append_assoc, Decimal.take?, htakeWhole, Option.map_some]
  simp only [htakeFraction]
  cases hexponent with
  | none =>
    rw [List.nil_append, takeExponent_of_no_exponent hrest.no_exponent]
    refine ⟨_, rfl, rfl, fun hinteger => ⟨?_, rfl⟩⟩
    rw [Decimal.isWhole, Bool.and_eq_true] at hinteger
    exact hfraction.eq_nil_of_tail hinteger.1
  | digits sign he hdigits =>
    obtain ⟨n, hn⟩ := takeExponent_append sign he hdigits hrest.no_digit
    rw [hn]
    refine ⟨_, rfl, rfl, fun hinteger => ?_⟩
    rw [Decimal.isWhole, Bool.and_eq_true] at hinteger
    cases hinteger.2

theorem exists_readNumber (h : IsUnsigned cs) (hrest : EndsNumber rest) (negative : Bool) :
    ∃ v, readNumber negative (cs ++ rest) = .ok (v, rest) := by
  obtain ⟨hwhole, hfraction, hexponent, hlimit⟩ := h
  obtain ⟨d, htake, rfl, hinteger⟩ := exists_take? hwhole hfraction hexponent hrest
  rw [readNumber, htake]
  dsimp only
  split
  · next hd =>
    obtain ⟨rfl, rfl⟩ := hinteger hd
    rw [if_neg (Nat.not_lt.2 (hlimit rfl rfl))]
    exact ⟨_, rfl⟩
  · exact ⟨_, rfl⟩

/-! ### Scalars -/

/-- The text is a word, a number or a string. -/
inductive IsScalar : List Char → Prop
  | word {w : String} (hw : w ∈ ["null", "true", "false", "NaN", "Infinity", "-Infinity"]) :
    IsScalar w.toList
  | number {cs : List Char} (h : IsNumber cs) : IsScalar cs
  | string {cs : List Char} (h : IsString cs) : IsScalar cs

theorem exists_readScalar_word {w : String}
    (hw : w ∈ ["null", "true", "false", "NaN", "Infinity", "-Infinity"]) (rest : List Char) :
    ∃ v, readScalar (w.toList ++ rest) = .ok (v, rest) := by
  simp only [List.mem_cons, List.not_mem_nil, or_false] at hw
  rcases hw with rfl | rfl | rfl | rfl | rfl | rfl <;> exact ⟨_, rfl⟩

theorem IsUnsigned.exists_cons (h : IsUnsigned cs) :
    ∃ d tail, cs = d :: tail ∧ d.isDigit = true := by
  obtain ⟨hwhole, -, -, -⟩ := h
  cases hwhole with
  | zero => exact ⟨'0', _, rfl, rfl⟩
  | @digits d ds _ hdigits => exact ⟨d, _, rfl, hdigits.2 d List.mem_cons_self⟩

/-- No word has a digit in one of its first two places. -/
theorem readWord?_of_digit (h : ∃ d ∈ cs.take 2, d.isDigit = true) : readWord? cs = none := by
  have hwords : ∀ w ∈ words, ∃ a b more, w.1.toList = a :: b :: more ∧ a.isDigit = false ∧
      b.isDigit = false := by
    simp [words]
  rw [Option.eq_none_iff_forall_ne_some]
  rintro ⟨v, rest⟩ hword
  obtain ⟨w, hw, hprefix, -⟩ := exists_of_readWord? hword
  obtain ⟨a, b, more, hchars, ha, hb⟩ := hwords w hw
  obtain ⟨after, rfl⟩ := List.isPrefixOf_iff_prefix.1 hprefix
  obtain ⟨d, hd, hdigit⟩ := h
  simp only [hchars, List.cons_append, List.take_succ_cons, List.take_zero, List.mem_cons,
    List.not_mem_nil, or_false] at hd
  rcases hd with rfl | rfl
  · exact Bool.false_ne_true (ha.symm.trans hdigit)
  · exact Bool.false_ne_true (hb.symm.trans hdigit)

theorem readScalar_digit {d : Char} (hd : d.isDigit = true) (tail : List Char) :
    readScalar (d :: tail) = readNumber false (d :: tail) := by
  have hword : readWord? (d :: tail) = none := readWord?_of_digit ⟨d, List.mem_cons_self, hd⟩
  have hne : ∀ c more, c.isDigit = false → d :: tail ≠ c :: more := by
    rintro c more hc ⟨⟩
    exact Bool.false_ne_true (hc.symm.trans hd)
  rw [readScalar, hword]
  · exact fun more => hne '"' more rfl
  · exact fun more => hne '-' more rfl

theorem readScalar_minus {d : Char} (hd : d.isDigit = true) (tail : List Char) :
    readScalar ('-' :: d :: tail) = readNumber true (d :: tail) := by
  have hword : readWord? ('-' :: d :: tail) = none :=
    readWord?_of_digit ⟨d, List.mem_cons_of_mem _ List.mem_cons_self, hd⟩
  rw [readScalar, hword]

theorem exists_readScalar_number (h : IsNumber cs) (hrest : EndsNumber rest) :
    ∃ v, readScalar (cs ++ rest) = .ok (v, rest) := by
  cases h with
  | positive h =>
    obtain ⟨v, hread⟩ := exists_readNumber h hrest false
    obtain ⟨d, tail, rfl, hd⟩ := h.exists_cons
    exact ⟨v, (readScalar_digit hd _).trans hread⟩
  | negative h =>
    obtain ⟨v, hread⟩ := exists_readNumber h hrest true
    obtain ⟨d, tail, rfl, hd⟩ := h.exists_cons
    exact ⟨v, (readScalar_minus hd _).trans hread⟩

/-- **A scalar is read as a whole** in front of what ends a value. -/
theorem exists_readScalar (h : IsScalar cs) (hrest : EndsValue rest) :
    ∃ v, readScalar (cs ++ rest) = .ok (v, rest) := by
  cases h with
  | word hw => exact exists_readScalar_word hw rest
  | number h => exact exists_readScalar_number h hrest.endsNumber
  | string h =>
    obtain ⟨inside, s, heq, hread⟩ := exists_inside h rest
    rw [heq]
    exact ⟨.str s, readScalar_string hread⟩

end CqlGateway.Json
