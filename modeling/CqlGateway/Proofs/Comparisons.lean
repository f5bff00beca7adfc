import CqlGateway.Proofs.Names

/-!
# Comparing names

Names of one family can be compared, whatever their classes are.  Two names are the same if their
keys are equal.  They are ordered by their keys first and by their spelling then, and a comparison
with a name of a more special class is read from that name.

With different keys the comparisons of two names agree with each other: one of the names is below
the other one, and all else follows.  They also agree for one name in one spelling.  But of two
names that are the same in different spellings one may be put below the other
(`AnyIdentifier.Precedes`), and then the comparisons contradict each other; equal names are then not
interchangeable either.  `comparisons_of_names` says exactly when, and
`spelling_orders_equal_names` shows two names for which it happens.
-/

namespace CqlGateway

namespace AnyIdentifier

/-- The comparison of the first name with the second one is made, and it holds. -/
def Compares (a : AnyIdentifier) (comparison : Comparison) (b : AnyIdentifier) : Prop :=
  compare comparison a b = .ok true

/-- The comparisons of two names agree with each other: the first one is below the second, or the
same, or above it, and no two of these; to be at most the second one is to be below it or the same;
and each comparison is its converse in the other order. -/
structure Coherent (a b : AnyIdentifier) : Prop where
  trichotomy : (a.Compares .lt b ∧ a.same b = false ∧ ¬ b.Compares .lt a) ∨
    (¬ a.Compares .lt b ∧ a.same b = true ∧ ¬ b.Compares .lt a) ∨
    (¬ a.Compares .lt b ∧ a.same b = false ∧ b.Compares .lt a)
  le_iff_lt_or_same : a.Compares .le b ↔ a.Compares .lt b ∨ a.same b = true
  le_iff_ge : a.Compares .le b ↔ b.Compares .ge a
  lt_iff_gt : a.Compares .lt b ↔ b.Compares .gt a

/-- The first two names stand in the same order to the third one. -/
structure Interchangeable (a b c : AnyIdentifier) : Prop where
  below : a.Compares .lt c ↔ b.Compares .lt c
  above : c.Compares .lt a ↔ c.Compares .lt b

/-- The names are the same, but the first one is put in front because of its spelling.  This does
not happen if the comparison is read from the second one. -/
def Precedes (a b : AnyIdentifier) : Prop :=
  a.name.key = b.name.key ∧ a.name.text < b.name.text ∧ a.cls.isRefinedBy b.cls = false

variable {a b c : AnyIdentifier}

/-! ### Classes -/

theorem sameFamily_comm (a b : AnyIdentifier) : a.sameFamily b = b.sameFamily a := by
  rw [sameFamily, sameFamily, BEq.comm]

theorem sameFamily_trans (hab : a.sameFamily b = true) (hbc : b.sameFamily c = true) :
    a.sameFamily c = true := by
  rw [sameFamily, beq_iff_eq] at *
  exact hab.trans hbc

/-- Of two classes at most one is more special than the other. -/
theorem not_isRefinedBy_of_isRefinedBy (h : a.cls.isRefinedBy b.cls = true) :
    b.cls.isRefinedBy a.cls = false := by
  cases hc : a.cls <;> cases hd : b.cls <;> rw [hc, hd] at h <;> revert h <;> decide

theorem same_iff (h : a.sameFamily b = true) : a.same b = true ↔ a.name.key = b.name.key := by
  rw [same, h, Bool.true_and, beq_iff_eq]

theorem same_eq_false_iff (h : a.sameFamily b = true) :
    a.same b = false ↔ a.name.key ≠ b.name.key := by
  rw [← Bool.not_eq_true, same_iff h]

/-! ### Single comparisons -/

/-- With different keys a comparison is that of the keys, from whichever name it is read. -/
theorem compare_of_key_ne (h : a.sameFamily b = true) (hkey : a.name.key ≠ b.name.key)
    (comparison : Comparison) :
    compare comparison a b = .ok (comparison.judge (a.name.key < b.name.key) false) := by
  have hkey' : b.name.key ≠ a.name.key := hkey.symm
  have hswap : decide (b.name.key < a.name.key) = !decide (a.name.key < b.name.key) := by
    rcases Text.lt_or_lt_of_ne hkey with hlt | hgt
    · simp [hlt, String.lt_asymm hlt]
    · simp [hgt, String.lt_asymm hgt]
  rw [compare, h]
  simp only [holds, isBelow, same, h, sameFamily_comm b a, hkey, hkey', beq_eq_false_iff_ne.2,
    ne_eq, not_false_iff, Bool.false_and, Bool.and_false, Bool.or_false]
  cases a.cls.isRefinedBy b.cls with
  | false => rfl
  | true =>
    -- read from the second name, it is the converse comparison
    rw [hswap]
    cases comparison <;> cases decide (a.name.key < b.name.key) <;> rfl

/-- With equal keys a comparison is that of the spellings. -/
theorem compare_of_key_eq (h : a.sameFamily b = true) (hkey : a.name.key = b.name.key)
    (comparison : Comparison) :
    compare comparison a b = .ok (if a.cls.isRefinedBy b.cls then
      comparison.converse.judge (b.name.text < a.name.text) true
    else comparison.judge (a.name.text < b.name.text) true) := by
  rw [compare, h]
  simp only [holds, isBelow, same, h, sameFamily_comm b a, hkey, String.lt_irrefl, decide_false,
    BEq.rfl, Bool.true_and, Bool.false_or]
  cases a.cls.isRefinedBy b.cls <;> rfl

theorem compares_lt_iff (h : a.sameFamily b = true) :
    a.Compares .lt b ↔ a.name.key < b.name.key ∨ a.Precedes b := by
  by_cases hkey : a.name.key = b.name.key
  · rw [Compares, compare_of_key_eq h hkey, Precedes]
    cases hr : a.cls.isRefinedBy b.cls <;> simp [Comparison.judge, Comparison.converse, hkey]
  · rw [Compares, compare_of_key_ne h hkey, Precedes]
    simp [Comparison.judge, hkey]

/-! ### Laws of comparisons -/

theorem not_precedes_of_key_ne (hkey : a.name.key ≠ b.name.key) : ¬ a.Precedes b :=
  fun h => hkey h.1

/-- Names with different keys are compared coherently. -/
theorem coherent_of_key_ne (h : a.sameFamily b = true) (hkey : a.name.key ≠ b.name.key) :
    Coherent a b := by
  have hba : b.sameFamily a = true := sameFamily_comm b a ▸ h
  have hlt : a.Compares .lt b ↔ a.name.key < b.name.key := by
    rw [compares_lt_iff h, or_iff_left (not_precedes_of_key_ne hkey)]
  have hgt : b.Compares .lt a ↔ b.name.key < a.name.key := by
    rw [compares_lt_iff hba, or_iff_left (not_precedes_of_key_ne hkey.symm)]
  have hsame : a.same b = false := (same_eq_false_iff h).2 hkey
  have hle : a.Compares .le b ↔ a.name.key < b.name.key := by
    rw [Compares, compare_of_key_ne h hkey]
    simp [Comparison.judge]
  have hconverse : ¬ b.name.key < a.name.key ↔ a.name.key < b.name.key := by
    rcases Text.lt_or_lt_of_ne hkey with hab | hab
    · exact iff_of_true (String.lt_asymm hab) hab
    · exact iff_of_false (not_not.2 hab) (String.lt_asymm hab)
  refine ⟨?_, ?_, ?_, ?_⟩
  · rw [hlt, hgt]
    rcases Text.lt_or_lt_of_ne hkey with hab | hab
    · exact .inl ⟨hab, hsame, String.lt_asymm hab⟩
    · exact .inr (.inr ⟨String.lt_asymm hab, hsame, hab⟩)
  · rw [hle, hlt, hsame]
    simp
  · rw [hle, Compares, compare_of_key_ne hba hkey.symm, ← hconverse]
    simp [Comparison.judge]
  · rw [hlt, Compares, compare_of_key_ne hba hkey.symm, ← hconverse]
    simp [Comparison.judge]

/-- What a name is not put behind, it is at most. -/
theorem compares_le_of_not_precedes (h : a.sameFamily b = true) (hkey : a.name.key = b.name.key)
    (hba : ¬ b.Precedes a) : a.Compares .le b := by
  rw [Compares, compare_of_key_eq h hkey]
  cases hr : a.cls.isRefinedBy b.cls with
  | false => simp [Comparison.judge]
  | true =>
    have htext : ¬ b.name.text < a.name.text := fun hlt =>
      hba ⟨hkey.symm, hlt, not_isRefinedBy_of_isRefinedBy hr⟩
    simp [Comparison.judge, Comparison.converse, htext]

/-- A name that is not put in front of another one is at least that. -/
theorem compares_ge_of_not_precedes (h : a.sameFamily b = true) (hkey : a.name.key = b.name.key)
    (hab : ¬ a.Precedes b) : a.Compares .ge b := by
  rw [Compares, compare_of_key_eq h hkey]
  cases hr : a.cls.isRefinedBy b.cls with
  | true => simp [Comparison.judge, Comparison.converse]
  | false =>
    have htext : ¬ a.name.text < b.name.text := fun hlt => hab ⟨hkey, hlt, hr⟩
    simp [Comparison.judge, htext]

/-- A name is above one with the same key only if that is put in front of it. -/
theorem precedes_of_compares_gt (h : a.sameFamily b = true) (hkey : a.name.key = b.name.key)
    (hgt : a.Compares .gt b) : b.Precedes a := by
  rw [Compares, compare_of_key_eq h hkey] at hgt
  cases hr : a.cls.isRefinedBy b.cls with
  | false => simp [hr, Comparison.judge] at hgt
  | true =>
    refine ⟨hkey.symm, ?_, not_isRefinedBy_of_isRefinedBy hr⟩
    simpa [hr, Comparison.judge, Comparison.converse] using hgt

/-- Names with equal keys are compared coherently iff neither is put in front of the other. -/
theorem coherent_iff_of_key_eq (h : a.sameFamily b = true) (hkey : a.name.key = b.name.key) :
    Coherent a b ↔ ¬ a.Precedes b ∧ ¬ b.Precedes a := by
  have hfamily : b.sameFamily a = true := sameFamily_comm b a ▸ h
  have hsame : a.same b = true := (same_iff h).2 hkey
  have hlt : a.Compares .lt b ↔ a.Precedes b := by
    rw [compares_lt_iff h, or_iff_right (hkey ▸ String.lt_irrefl _)]
  have hgt : b.Compares .lt a ↔ b.Precedes a := by
    rw [compares_lt_iff hfamily, or_iff_right (hkey ▸ String.lt_irrefl _)]
  constructor
  · intro hcoherent
    rcases hcoherent.trichotomy with ⟨-, hne, -⟩ | ⟨hab, -, hba⟩ | ⟨-, hne, -⟩
    · exact absurd (hsame.symm.trans hne) Bool.noConfusion
    · exact ⟨mt hlt.2 hab, mt hgt.2 hba⟩
    · exact absurd (hsame.symm.trans hne) Bool.noConfusion
  · rintro ⟨hab, hba⟩
    have hle : a.Compares .le b := compares_le_of_not_precedes h hkey hba
    refine ⟨.inr (.inl ⟨mt hlt.1 hab, hsame, mt hgt.1 hba⟩), ?_, ?_, ?_⟩
    · exact iff_of_true hle (.inr hsame)
    · exact iff_of_true hle (compares_ge_of_not_precedes hfamily hkey.symm hba)
    · exact iff_of_false (mt hlt.1 hab) (mt (precedes_of_compares_gt hfamily hkey.symm) hab)

theorem coherent_iff (h : a.sameFamily b = true) :
    Coherent a b ↔ ¬ a.Precedes b ∧ ¬ b.Precedes a := by
  by_cases hkey : a.name.key = b.name.key
  · exact coherent_iff_of_key_eq h hkey
  · exact iff_of_true (coherent_of_key_ne h hkey)
      ⟨not_precedes_of_key_ne hkey, not_precedes_of_key_ne (Ne.symm hkey)⟩

/-- Two orders by keys agree iff the ties between equal keys are broken alike. -/
theorem ties_iff {below tie tie' : Prop} (h : below → ¬ tie) (h' : below → ¬ tie') :
    (below ∨ tie ↔ below ∨ tie') ↔ (tie ↔ tie') := by
  by_cases hbelow : below
  · exact iff_of_true (iff_of_true (.inl hbelow) (.inl hbelow))
      (iff_of_false (h hbelow) (h' hbelow))
  · rw [or_iff_right hbelow, or_iff_right hbelow]

/-- Two names that are the same stand in the same order to a third one, unless one of them is put in
front of it or behind it because of its spelling and the other one is not. -/
theorem interchangeable_iff (hab : a.sameFamily b = true) (hbc : b.sameFamily c = true)
    (hsame : a.same b = true) :
    Interchangeable a b c ↔
      (a.Precedes c ↔ b.Precedes c) ∧ (c.Precedes a ↔ c.Precedes b) := by
  have hac : a.sameFamily c = true := sameFamily_trans hab hbc
  have hca : c.sameFamily a = true := sameFamily_comm c a ▸ hac
  have hcb : c.sameFamily b = true := sameFamily_comm c b ▸ hbc
  have hkey : a.name.key = b.name.key := (same_iff hab).1 hsame
  have hne : ∀ {s t : String}, s < t → s ≠ t := fun hlt heq => String.lt_irrefl _ (heq ▸ hlt)
  have hbelow : (a.Compares .lt c ↔ b.Compares .lt c) ↔ (a.Precedes c ↔ b.Precedes c) := by
    rw [compares_lt_iff hac, compares_lt_iff hbc, hkey]
    exact ties_iff (fun hlt => not_precedes_of_key_ne (hkey ▸ hne hlt))
      (fun hlt => not_precedes_of_key_ne (hne hlt))
  have habove : (c.Compares .lt a ↔ c.Compares .lt b) ↔ (c.Precedes a ↔ c.Precedes b) := by
    rw [compares_lt_iff hca, compares_lt_iff hcb, hkey]
    exact ties_iff (fun hlt => not_precedes_of_key_ne (hkey ▸ hne hlt))
      (fun hlt => not_precedes_of_key_ne (hne hlt))
  rw [← hbelow, ← habove]
  exact ⟨fun h => ⟨h.below, h.above⟩, fun h => ⟨h.1, h.2⟩⟩

/-- A comparison within a family is always made. -/
theorem exists_compare (h : a.sameFamily b = true) (comparison : Comparison) :
    ∃ answer, compare comparison a b = .ok answer := by
  by_cases hkey : a.name.key = b.name.key
  · exact ⟨_, compare_of_key_eq h hkey comparison⟩
  · exact ⟨_, compare_of_key_ne h hkey comparison⟩

/-- **When comparisons of names agree.**  Names of one family can always be compared; they are
ordered by their keys, and equal keys by the spelling.  The comparisons of two names are coherent
unless the names are the same in two spellings of which one is put in front of the other; and names
that are the same are interchangeable in front of a third one unless a tie with that one is broken
differently for the two. -/
theorem comparisons_of_names {a b c : AnyIdentifier} (hab : a.sameFamily b = true)
    (hbc : b.sameFamily c = true) :
    (∀ comparison, ∃ answer, compare comparison a b = .ok answer) ∧
    (a.same b = true ↔ a.name.key = b.name.key) ∧
    (a.Compares .lt b ↔ a.name.key < b.name.key ∨ a.Precedes b) ∧
    (Coherent a b ↔ ¬ a.Precedes b ∧ ¬ b.Precedes a) ∧
    (a.same b = true →
      (Interchangeable a b c ↔
        (a.Precedes c ↔ b.Precedes c) ∧ (c.Precedes a ↔ c.Precedes b))) :=
  ⟨exists_compare hab, same_iff hab, compares_lt_iff hab, coherent_iff hab,
    interchangeable_iff hab hbc⟩

/-- A column name in capitals. -/
def capitalId : AnyIdentifier :=
  ⟨.column, ⟨"ID", by decide⟩⟩

/-- The same name in lower case, of a column whose type is known. -/
def typedId : AnyIdentifier :=
  ⟨.typedColumn, ⟨"id", by decide⟩⟩

/-- The name of another column. -/
def typedName : AnyIdentifier :=
  ⟨.typedColumn, ⟨"Name", by decide⟩⟩

/-- A plain name is not put in front of that of a column whose type is known. -/
theorem comparisons_of_idNames :
    capitalId.sameFamily typedId = true ∧ typedId.sameFamily typedName = true ∧
      Coherent capitalId typedId ∧ Interchangeable capitalId typedId typedName := by
  obtain ⟨-, -, -, hcoherent, hinterchangeable⟩ :=
    comparisons_of_names (a := capitalId) (b := typedId) (c := typedName) rfl rfl
  refine ⟨rfl, rfl, hcoherent.2 ⟨?_, ?_⟩, (hinterchangeable (by decide)).2 ⟨?_, ?_⟩⟩
  · rintro ⟨-, -, hclass⟩
    cases hclass
  · rintro ⟨-, htext, -⟩
    revert htext
    decide
  · exact iff_of_false (fun h => absurd h.1 (by decide)) (fun h => absurd h.1 (by decide))
  · exact iff_of_false (fun h => absurd h.1 (by decide)) (fun h => absurd h.1 (by decide))

/-- A keyspace with a capital in its name. -/
def capitalShop : AnyIdentifier :=
  ⟨.keyspace, ⟨"Shop", by decide⟩⟩

/-- The same keyspace in lower case. -/
def lowerShop : AnyIdentifier :=
  ⟨.keyspace, ⟨"shop", by decide⟩⟩

/-- Two equal names, of which the first is below the second although the second is not above it. -/
theorem spelling_orders_equal_names :
    capitalShop.sameFamily lowerShop = true ∧ capitalShop.same lowerShop = true ∧
      capitalShop.Compares .lt lowerShop ∧ ¬ lowerShop.Compares .gt capitalShop ∧
      ¬ Coherent capitalShop lowerShop := by
  have hlt : capitalShop.Compares .lt lowerShop := by
    rw [compares_lt_iff rfl]
    exact .inr ⟨by decide, by decide, rfl⟩
  have hgt : ¬ lowerShop.Compares .gt capitalShop := by
    rw [Compares, compare_of_key_eq rfl (by decide), if_neg (by decide), Comparison.judge,
      Bool.not_true, Bool.and_false]
    nofun
  exact ⟨rfl, by decide, hlt, hgt, fun h => hgt (h.lt_iff_gt.1 hlt)⟩

end AnyIdentifier

end CqlGateway
