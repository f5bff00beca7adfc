import CqlGateway.Proofs.WrittenNames
import CqlGateway.Text.Numeral

/-!
# Integers as they are written

A `Numeral` is an integer in the form in which it may be written: an optional sign, then groups of
digits of any script with single underscores between them, and blanks around the whole.  It has no
more than `maxDigits` digits.  `readInteger` reads the numerals and nothing else
(`readInteger_eq_ok_iff`).
-/

namespace CqlGateway.Text

/-- The sign that a numeral may have. -/
inductive Sign where
  | none
  | plus
  | minus
  deriving DecidableEq

/-- How a sign is written. -/
def Sign.chars : Sign → List Char
  | .none => []
  | .plus => ['+']
  | .minus => ['-']

/-- The number with a sign in front of it. -/
def Sign.apply (sign : Sign) (n : Nat) : Int :=
  match sign with
  | .minus => -n
  | _ => n

/-- An integer as it is written. -/
structure Numeral where
  before : List Char
  sign : Sign
  /-- The digits between underscores. -/
  groups : List (List Char)
  after : List Char
  blank_before : ∀ c ∈ before, isNumeralBlank c = true
  blank_after : ∀ c ∈ after, isNumeralBlank c = true
  groups_ne_nil : groups ≠ []
  group_ne_nil : [] ∉ groups
  digits : ∀ c ∈ groups.flatten, (digitValue? c).isSome = true
  few_digits : groups.flatten.length ≤ maxDigits

namespace Numeral

/-- The characters of a numeral. -/
def chars (w : Numeral) : List Char :=
  w.before ++ (w.sign.chars ++ (['_'].intercalate w.groups ++ w.after))

/-- The integer that a numeral writes. -/
def value (w : Numeral) : Int :=
  w.sign.apply (ofDigits (w.groups.flatten.filterMap digitValue?))

end Numeral

/-- A list of characters writes an integer. -/
def Writes (cs : List Char) (n : Int) : Prop :=
  ∃ w : Numeral, w.chars = cs ∧ w.value = n

variable {c : Char} {cs rest : List Char} {groups : List (List Char)}

/-! ### Digits, blanks and underscores -/

theorem digitValue?_of_isBlank (h : isBlank c = true) : digitValue? c = none := by
  have hcodes : ∀ n ∈ blankCodes, digitValue? (Char.ofNat n) = none := by decide +kernel
  have hc := hcodes c.toNat (mem_blankCodes h)
  rwa [Char.ofNat_toNat] at hc

theorem not_isNumeralBlank_of_digit (h : (digitValue? c).isSome = true) :
    isNumeralBlank c = false := by
  by_contra hblank
  rw [Bool.not_eq_false, isNumeralBlank, Bool.and_eq_true] at hblank
  rw [digitValue?_of_isBlank hblank.1] at h
  cases h

theorem not_isNumeralChar_of_blank (h : isNumeralBlank c = true) : isNumeralChar c = false := by
  rw [isNumeralBlank, Bool.and_eq_true] at h
  rw [isNumeralChar, digitValue?_of_isBlank h.1, Option.isSome_none, Bool.or_false,
    beq_eq_false_iff_ne]
  rintro rfl
  exact absurd h.1 (by decide)

/-! ### Groups of digits -/

/-- The digits of a group stand behind each other, whatever group follows. -/
theorem isGrouped_group {g : List Char} (hg : g ≠ []) (h : '_' ∉ g) :
    isGrouped g = true ∧ ∀ rest, isGrouped (g ++ '_' :: rest) = isGrouped rest := by
  induction g with
  | nil => exact absurd rfl hg
  | cons c g ih =>
    rw [List.mem_cons, not_or] at h
    have hc : (c != '_') = true := bne_iff_ne.2 (Ne.symm h.1)
    cases g with
    | nil =>
      refine ⟨?_, fun rest => ?_⟩
      · rw [isGrouped]
        exact Ne.symm h.1
      · rw [List.singleton_append, isGrouped, hc, Bool.true_and, if_pos (by rfl)]
    | cons d g =>
      obtain ⟨hgroup, hrest⟩ := ih (List.cons_ne_nil d g) h.2
      have hd : ¬ (d == '_') = true := fun heq => h.2 (List.mem_cons.2 (.inl (eq_of_beq heq).symm))
      refine ⟨?_, fun rest => ?_⟩
      · rw [isGrouped, hc, Bool.true_and, if_neg hd, hgroup]
      · rw [List.cons_append, List.cons_append, isGrouped, hc, Bool.true_and, if_neg hd]
        exact hrest rest

theorem isGrouped_intercalate (hne : groups ≠ []) (hnil : [] ∉ groups)
    (h : '_' ∉ groups.flatten) : isGrouped (['_'].intercalate groups) = true := by
  induction groups with
  | nil => exact absurd rfl hne
  | cons g groups ih =>
    rw [List.mem_cons, not_or] at hnil
    rw [List.flatten_cons, List.mem_append, not_or] at h
    obtain ⟨hgroup, hrest⟩ := isGrouped_group (Ne.symm hnil.1) h.1
    cases groups with
    | nil => rwa [List.intercalate_singleton]
    | cons g' groups =>
      rw [List.intercalate_cons_cons, List.append_assoc, List.singleton_append, hrest]
      exact ih (List.cons_ne_nil g' groups) hnil.2 h.2

theorem exists_groups (h : isGrouped cs = true) :
    ∃ groups, groups ≠ [] ∧ [] ∉ groups ∧ '_' ∉ groups.flatten ∧
      ['_'].intercalate groups = cs := by
  induction cs using isGrouped.induct with
  | case1 => cases h
  | case2 => cases h
  | case3 c hc =>
    refine ⟨[[c]], by simp, by simp, ?_, by simp⟩
    simpa using fun heq => hc heq.symm
  | case4 c d rest ihRest ihCons =>
    rw [isGrouped, Bool.and_eq_true, bne_iff_ne] at h
    obtain ⟨hc, h⟩ := h
    by_cases hd : (d == '_') = true
    · -- an underscore ends the group of the character
      rw [if_pos hd] at h
      obtain ⟨groups, hne, hnil, hplain, rfl⟩ := ihRest h
      refine ⟨[c] :: groups, by simp, by simp [hnil], ?_, ?_⟩
      · simpa using ⟨Ne.symm hc, by simpa using hplain⟩
      · rw [List.intercalate_cons_of_ne_nil hne, eq_of_beq hd]
        rfl
    · -- the character belongs to the first group
      rw [if_neg hd] at h
      obtain ⟨groups, hne, hnil, hplain, hcs⟩ := ihCons h
      obtain ⟨g, groups, rfl⟩ := List.exists_cons_of_ne_nil hne
      refine ⟨(c :: g) :: groups, by simp, ?_, ?_, ?_⟩
      · simpa using fun hmem => hnil (List.mem_cons_of_mem _ hmem)
      · simpa using ⟨Ne.symm hc, by simpa using hplain⟩
      · rw [List.intercalate_cons_cons_left, hcs]

theorem filterMap_intercalate (groups : List (List Char)) :
    (['_'].intercalate groups).filterMap digitValue? = groups.flatten.filterMap digitValue? := by
  induction groups with
  | nil => rfl
  | cons g groups ih =>
    cases groups with
    | nil => simp
    | cons g' groups =>
      have hunderscore : ['_'].filterMap digitValue? = [] := rfl
      rw [List.intercalate_cons_cons, List.filterMap_append, List.filterMap_append, ih,
        hunderscore, List.append_nil, List.flatten_cons (l := g), List.filterMap_append]

/-- Between the groups stand underscores. -/
theorem mem_intercalate_iff :
    c ∈ ['_'].intercalate groups ↔ c ∈ groups.flatten ∨ c = '_' ∧ 1 < groups.length := by
  induction groups with
  | nil => simp
  | cons g groups ih =>
    cases groups with
    | nil => simp
    | cons g' groups =>
      rw [List.intercalate_cons_cons, List.mem_append, List.mem_append, ih, List.mem_singleton,
        List.flatten_cons (l := g), List.mem_append]
      simp only [List.length_cons]
      constructor
      · rintro ((hg | rfl) | hrest | ⟨rfl, -⟩)
        · exact .inl (.inl hg)
        · exact .inr ⟨rfl, by omega⟩
        · exact .inl (.inr hrest)
        · exact .inr ⟨rfl, by omega⟩
      · rintro ((hg | hrest) | ⟨rfl, -⟩)
        · exact .inl (.inl hg)
        · exact .inr (.inl hrest)
        · exact .inl (.inr rfl)

/-! ### Signs -/

theorem takeSign_append (sign : Sign) (h : ∀ c ∈ rest.head?, c ≠ '-' ∧ c ≠ '+') :
    takeSign (sign.chars ++ rest) = (sign == .minus, rest) := by
  cases sign with
  | none =>
    rw [Sign.chars, List.nil_append, takeSign]
    · rfl
    · rintro rest' rfl
      exact (h '-' rfl).1 rfl
    · rintro rest' rfl
      exact (h '+' rfl).2 rfl
  | plus | minus => rfl

theorem exists_takeSign (cs : List Char) :
    ∃ sign : Sign, cs = sign.chars ++ (takeSign cs).2 ∧ (takeSign cs).1 = (sign == .minus) := by
  rw [takeSign.eq_def]
  split
  · exact ⟨.minus, rfl, rfl⟩
  · exact ⟨.plus, rfl, rfl⟩
  · exact ⟨.none, rfl, rfl⟩

theorem apply_eq (sign : Sign) (n : Nat) :
    sign.apply n = if sign == .minus then -(n : Int) else n := by
  cases sign <;> rfl

/-! ### Reading numerals -/

namespace Numeral

variable (w : Numeral)

theorem underscore_not_mem : '_' ∉ w.groups.flatten := fun h => by
  have hdigit := w.digits '_' h
  cases hdigit

theorem isNumeralChar_of_mem_body (h : c ∈ ['_'].intercalate w.groups) :
    isNumeralChar c = true := by
  rw [isNumeralChar, Bool.or_eq_true, beq_iff_eq]
  rcases mem_intercalate_iff.1 h with hdigit | ⟨rfl, -⟩
  · exact .inr (w.digits c hdigit)
  · exact .inl rfl

/-- A numeral without blanks and sign begins with a digit. -/
theorem exists_digit (rest : List Char) : ∃ c cs,
    ['_'].intercalate w.groups ++ rest = c :: cs ∧ (digitValue? c).isSome = true := by
  obtain ⟨g, groups, hgroups⟩ := List.exists_cons_of_ne_nil w.groups_ne_nil
  have hg : g ≠ [] := fun hg => w.group_ne_nil (by rw [hgroups, hg]; exact List.mem_cons_self)
  obtain ⟨c, g, rfl⟩ := List.exists_cons_of_ne_nil hg
  refine ⟨c, _, by rw [hgroups, List.intercalate_cons_cons_left, List.cons_append], ?_⟩
  exact w.digits c (by rw [hgroups]; simp)

theorem dropWhile_chars :
    w.chars.dropWhile isNumeralBlank = w.sign.chars ++ (['_'].intercalate w.groups ++ w.after) := by
  rw [chars, dropWhile_append_of_head w.blank_before]
  obtain ⟨c, cs, hcs, hdigit⟩ := w.exists_digit w.after
  rw [hcs]
  cases w.sign with
  | none =>
    rintro _ ⟨⟩
    exact not_isNumeralBlank_of_digit hdigit
  | plus | minus =>
    rintro _ ⟨⟩
    decide

theorem takeSign_chars :
    takeSign (w.chars.dropWhile isNumeralBlank) =
      (w.sign == .minus, ['_'].intercalate w.groups ++ w.after) := by
  rw [dropWhile_chars]
  refine takeSign_append w.sign ?_
  obtain ⟨c, cs, hcs, hdigit⟩ := w.exists_digit w.after
  rw [hcs]
  rintro _ ⟨⟩
  constructor <;> rintro rfl <;> cases hdigit

theorem not_isNumeralChar_of_after : ∀ c ∈ w.after.head?, isNumeralChar c = false :=
  fun c hc => not_isNumeralChar_of_blank (w.blank_after c (List.mem_of_mem_head? hc))

theorem length_digits :
    (w.groups.flatten.filterMap digitValue?).length = w.groups.flatten.length :=
  List.filterMap_length_eq_length.2 w.digits

/-- A numeral is read as the integer that it writes. -/
theorem readInteger_chars : readInteger w.chars = .ok w.value := by
  have hgrouped := isGrouped_intercalate w.groups_ne_nil w.group_ne_nil w.underscore_not_mem
  rw [readInteger, takeSign_chars]
  dsimp only
  rw [takeWhile_append_of_head (fun _ => w.isNumeralChar_of_mem_body) w.not_isNumeralChar_of_after,
    dropWhile_append_of_head (fun _ => w.isNumeralChar_of_mem_body) w.not_isNumeralChar_of_after,
    filterMap_intercalate, length_digits, hgrouped, if_neg (by decide),
    if_neg (Nat.not_lt.2 w.few_digits), if_neg (by simpa using w.blank_after), value, apply_eq]

end Numeral

/-- What is read is a numeral. -/
theorem writes_of_readInteger {n : Int} (h : readInteger cs = .ok n) : Writes cs n := by
  obtain ⟨sign, hsign, hnegative⟩ := exists_takeSign (cs.dropWhile isNumeralBlank)
  rw [readInteger] at h
  dsimp only at h
  generalize (takeSign (cs.dropWhile isNumeralBlank)).2 = rest at h hsign
  split at h
  · cases h
  next hgrouped =>
  split at h
  · cases h
  next hfew =>
  split at h
  · cases h
  next hafter =>
  rw [Bool.not_eq_true, Bool.not_eq_false'] at hgrouped hafter
  obtain ⟨groups, hne, hnil, hplain, hbody⟩ := exists_groups hgrouped
  -- what stands in the groups is a digit, since the underscores stand between them
  have hdigits : ∀ c ∈ groups.flatten, (digitValue? c).isSome = true := fun c hc => by
    have hchar : isNumeralChar c = true :=
      List.mem_takeWhile_imp (hbody ▸ mem_intercalate_iff.2 (.inl hc))
    rw [isNumeralChar, Bool.or_eq_true, beq_iff_eq] at hchar
    exact hchar.resolve_left fun heq => hplain (heq ▸ hc)
  rw [← hbody, filterMap_intercalate] at h hfew
  let w : Numeral :=
    { before := cs.takeWhile isNumeralBlank
      sign, groups
      after := rest.dropWhile isNumeralChar
      blank_before := fun c hc => List.mem_takeWhile_imp hc
      blank_after := List.all_eq_true.1 hafter
      groups_ne_nil := hne
      group_ne_nil := hnil
      digits := hdigits
      few_digits := by
        rw [← List.filterMap_length_eq_length.2 hdigits]
        exact Nat.not_lt.1 hfew }
  refine ⟨w, ?_, ?_⟩
  · rw [Numeral.chars, hbody, List.takeWhile_append_dropWhile, ← hsign,
      List.takeWhile_append_dropWhile]
  · rw [Numeral.value, apply_eq, ← hnegative]
    exact Except.ok.inj h

/-- **The numerals are what is read as an integer.** -/
theorem readInteger_eq_ok_iff {n : Int} : readInteger cs = .ok n ↔ Writes cs n := by
  refine ⟨writes_of_readInteger, ?_⟩
  rintro ⟨w, rfl, rfl⟩
  exact w.readInteger_chars

end CqlGateway.Text
