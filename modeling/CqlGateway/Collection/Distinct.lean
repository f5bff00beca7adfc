/-!
# First occurrences

`firstsBy key xs` lists the elements of `xs` whose key has not come before, in order.
-/

namespace CqlGateway

variable {α κ : Type} [BEq κ]

/-- The elements whose key is neither in `seen` nor that of an earlier element. -/
def firstsFrom (key : α → κ) : (seen : List κ) → List α → List α
  | _, [] => []
  | seen, x :: rest =>
    if seen.contains (key x) then firstsFrom key seen rest
    else x :: firstsFrom key (key x :: seen) rest

/-- The elements that are the first ones of their key. -/
def firstsBy (key : α → κ) (xs : List α) : List α :=
  firstsFrom key [] xs

/-- The first element is the first one of its key. -/
theorem head?_firstsBy (key : α → κ) (xs : List α) : (firstsBy key xs).head? = xs.head? := by
  cases xs <;> rfl

section Lemmas

variable [LawfulBEq κ] {key : α → κ}

theorem mem_of_mem_firstsFrom {seen : List κ} {xs : List α} {x : α}
    (h : x ∈ firstsFrom key seen xs) : x ∈ xs ∧ key x ∉ seen := by
  induction xs generalizing seen with
  | nil => simp [firstsFrom] at h
  | cons y ys ih =>
    rw [firstsFrom] at h
    by_cases hy : key y ∈ seen
    · simp only [List.contains_iff_mem, hy, if_true] at h
      exact ⟨List.mem_cons_of_mem _ (ih h).1, (ih h).2⟩
    · simp only [List.contains_iff_mem, hy, if_false, List.mem_cons] at h
      rcases h with rfl | h
      · exact ⟨List.mem_cons_self, hy⟩
      · exact ⟨List.mem_cons_of_mem _ (ih h).1, fun hs => (ih h).2 (List.mem_cons_of_mem _ hs)⟩

/-- The keys of the first occurrences are distinct. -/
theorem pairwise_firstsFrom (seen : List κ) (xs : List α) :
    (firstsFrom key seen xs).Pairwise fun a b => key a ≠ key b := by
  induction xs generalizing seen with
  | nil => simp [firstsFrom]
  | cons y ys ih =>
    rw [firstsFrom]
    split
    · exact ih seen
    · refine List.pairwise_cons.2 ⟨fun b hb heq => ?_, ih _⟩
      exact (mem_of_mem_firstsFrom hb).2 (heq ▸ List.mem_cons_self)

theorem pairwise_firstsBy (xs : List α) :
    (firstsBy key xs).Pairwise fun a b => key a ≠ key b :=
  pairwise_firstsFrom [] xs

theorem firstsFrom_of_pairwise {seen : List κ} {xs : List α}
    (h : xs.Pairwise fun a b => key a ≠ key b) (hseen : ∀ x ∈ xs, key x ∉ seen) :
    firstsFrom key seen xs = xs := by
  induction xs generalizing seen with
  | nil => rfl
  | cons x xs ih =>
    obtain ⟨hx, hxs⟩ := List.pairwise_cons.1 h
    have hnew : key x ∉ seen := hseen x List.mem_cons_self
    have hrest : ∀ y ∈ xs, key y ∉ key x :: seen := fun y hy hmem => by
      rcases List.mem_cons.1 hmem with heq | hmem
      · exact hx y hy heq.symm
      · exact hseen y (List.mem_cons_of_mem _ hy) hmem
    rw [firstsFrom, if_neg (by simpa using hnew), ih hxs hrest]

/-- In a list of distinct keys every element is the first one of its key. -/
theorem firstsBy_of_pairwise {xs : List α} (h : xs.Pairwise fun a b => key a ≠ key b) :
    firstsBy key xs = xs :=
  firstsFrom_of_pairwise h fun _ _ => List.not_mem_nil

/-- Every key that is not in `seen` is the key of a first occurrence. -/
theorem exists_mem_firstsFrom {seen : List κ} {xs : List α} {x : α} (hx : x ∈ xs)
    (hs : key x ∉ seen) : ∃ y ∈ firstsFrom key seen xs, key y = key x := by
  induction xs generalizing seen with
  | nil => simp at hx
  | cons y ys ih =>
    rw [firstsFrom]
    by_cases hy : key y ∈ seen
    · simp only [List.contains_iff_mem, hy, if_true]
      rcases List.mem_cons.1 hx with rfl | hx
      · exact absurd hy hs
      · exact ih hx hs
    · simp only [List.contains_iff_mem, hy, if_false]
      by_cases hxy : key x = key y
      · exact ⟨y, List.mem_cons_self, hxy.symm⟩
      · rcases List.mem_cons.1 hx with rfl | hx
        · exact absurd rfl hxy
        · have hseen : key x ∉ key y :: seen := by simp [hxy, hs]
          obtain ⟨z, hz, hzx⟩ := ih hx hseen
          exact ⟨z, List.mem_cons_of_mem _ hz, hzx⟩

theorem exists_mem_firstsBy {xs : List α} {x : α} (hx : x ∈ xs) :
    ∃ y ∈ firstsBy key xs, key y = key x :=
  exists_mem_firstsFrom hx (by simp)

theorem mem_map_firstsBy {xs : List α} {k : κ} :
    k ∈ (firstsBy key xs).map key ↔ k ∈ xs.map key := by
  simp only [List.mem_map]
  constructor
  · rintro ⟨x, hx, rfl⟩
    exact ⟨x, (mem_of_mem_firstsFrom hx).1, rfl⟩
  · rintro ⟨x, hx, rfl⟩
    exact exists_mem_firstsBy hx

/-! ### Places of first occurrences -/

theorem find?_of_mem_firstsFrom {seen : List κ} {xs : List α} {x : α}
    (h : x ∈ firstsFrom key seen xs) : xs.find? (key · == key x) = some x := by
  induction xs generalizing seen with
  | nil => simp [firstsFrom] at h
  | cons y ys ih =>
    have hx := (mem_of_mem_firstsFrom h).2
    rw [firstsFrom] at h
    by_cases hy : key y ∈ seen
    · simp only [List.contains_iff_mem, hy, if_true] at h
      have hne : key y ≠ key x := fun e => hx (e ▸ hy)
      simpa [hne] using ih h
    · simp only [List.contains_iff_mem, hy, if_false, List.mem_cons] at h
      rcases h with rfl | h
      · simp
      · have hne : key y ≠ key x := fun e =>
          (mem_of_mem_firstsFrom h).2 (e ▸ List.mem_cons_self)
        simpa [hne] using ih h

/-- A first occurrence is what a search for its key finds. -/
theorem find?_of_mem_firstsBy {xs : List α} {x : α} (h : x ∈ firstsBy key xs) :
    xs.find? (key · == key x) = some x :=
  find?_of_mem_firstsFrom h

theorem filter_firstsFrom (seen : List κ) (xs : List α) (k : κ) :
    (firstsFrom key seen xs).filter (key · == k) =
      if k ∈ seen then [] else (xs.find? (key · == k)).toList := by
  induction xs generalizing seen with
  | nil => simp [firstsFrom]
  | cons y ys ih =>
    rw [firstsFrom]
    by_cases hk : key y = k
    · subst hk
      by_cases hseen : key y ∈ seen <;> simp [ih, hseen]
    · have hne : ¬ k = key y := fun e => hk e.symm
      by_cases hseen : key y ∈ seen <;> simp [ih, hseen, hk, hne]

/-- The first occurrences of a key are what a search for it finds. -/
theorem filter_firstsBy (xs : List α) (k : κ) :
    (firstsBy key xs).filter (key · == k) = (xs.find? (key · == k)).toList := by
  rw [firstsBy, filter_firstsFrom, if_neg List.not_mem_nil]

/-- First occurrences are what is found by their own key. -/
theorem mem_firstsBy_iff {xs : List α} {x : α} :
    x ∈ firstsBy key xs ↔ xs.find? (key · == key x) = some x := by
  constructor
  · exact find?_of_mem_firstsBy
  · intro hfind
    have hmem : x ∈ (firstsBy key xs).filter (key · == key x) := by
      rw [filter_firstsBy]
      exact Option.mem_toList.2 hfind
    exact (List.mem_filter.1 hmem).1

theorem pairwise_idxOf_firstsFrom (seen : List κ) (xs : List α) :
    (firstsFrom key seen xs).Pairwise fun a b =>
      (xs.map key).idxOf (key a) < (xs.map key).idxOf (key b) := by
  induction xs generalizing seen with
  | nil => simp [firstsFrom]
  | cons y ys ih =>
    -- behind `y` the places of all other keys move by one
    have shift : ∀ {seen' : List κ} {a : α}, key y ∈ seen' → a ∈ firstsFrom key seen' ys →
        ((y :: ys).map key).idxOf (key a) = (ys.map key).idxOf (key a) + 1 := by
      intro seen' a hy ha
      have hne : (key y == key a) = false :=
        beq_eq_false_iff_ne.2 fun e => (mem_of_mem_firstsFrom ha).2 (e ▸ hy)
      simp [List.idxOf_cons, hne]
    have hrest : ∀ {seen' : List κ}, key y ∈ seen' → (firstsFrom key seen' ys).Pairwise
        fun a b => ((y :: ys).map key).idxOf (key a) < ((y :: ys).map key).idxOf (key b) := by
      intro seen' hy
      refine List.Pairwise.imp_of_mem (fun ha hb h => ?_) (ih seen')
      rw [shift hy ha, shift hy hb]
      exact Nat.succ_lt_succ h
    rw [firstsFrom]
    by_cases hy : key y ∈ seen
    · simpa only [List.contains_iff_mem, hy, if_true] using hrest hy
    · simp only [List.contains_iff_mem, hy, if_false]
      refine List.pairwise_cons.2 ⟨fun b hb => ?_, hrest List.mem_cons_self⟩
      rw [shift List.mem_cons_self hb]
      simp

/-- First occurrences stand in the order in which their keys came. -/
theorem pairwise_idxOf_firstsBy (xs : List α) :
    (firstsBy key xs).Pairwise fun a b =>
      (xs.map key).idxOf (key a) < (xs.map key).idxOf (key b) :=
  pairwise_idxOf_firstsFrom [] xs

theorem firstsFrom_concat (seen : List κ) (xs : List α) (x : α) :
    firstsFrom key seen (xs ++ [x]) = firstsFrom key seen xs ++
      if (xs.map key).contains (key x) || seen.contains (key x) then [] else [x] := by
  induction xs generalizing seen with
  | nil => simp [firstsFrom]
  | cons y ys ih =>
    rw [List.cons_append, firstsFrom, firstsFrom, ih, ih, List.map_cons, List.contains_cons]
    cases hx : key x == key y with
    | true =>
      -- `x` is no first occurrence, whether `y` is one or not
      have hxy : key x = key y := eq_of_beq hx
      cases hy : seen.contains (key y) <;>
        simp only [hxy, hy, if_true, if_false, List.contains_cons, BEq.rfl, Bool.true_or,
          Bool.or_true, Bool.false_eq_true, List.append_nil]
    | false =>
      cases hy : seen.contains (key y) <;>
        simp only [hx, if_true, if_false, List.contains_cons, Bool.false_or,
          Bool.false_eq_true, List.cons_append]

/-- One more element is a first occurrence unless its key has come before. -/
theorem firstsBy_concat (xs : List α) (x : α) :
    firstsBy key (xs ++ [x]) =
      firstsBy key xs ++ if (xs.map key).contains (key x) then [] else [x] := by
  rw [firstsBy, firstsFrom_concat, List.contains_nil, Bool.or_false, firstsBy]

/-! ### First occurrences that pass a test -/

theorem firstsFrom_filter {test : α → Bool} {seen seen' : List κ} {xs : List α}
    (h : ∀ x ∈ xs, ∀ y ∈ xs, key x = key y → test x = test y)
    (hseen : ∀ x ∈ xs, test x = true → (key x ∈ seen ↔ key x ∈ seen')) :
    firstsFrom key seen (xs.filter test) = (firstsFrom key seen' xs).filter test := by
  induction xs generalizing seen seen' with
  | nil => rfl
  | cons x xs ih =>
    have hxs : ∀ y ∈ xs, ∀ z ∈ xs, key y = key z → test y = test z := fun y hy z hz =>
      h y (List.mem_cons_of_mem _ hy) z (List.mem_cons_of_mem _ hz)
    have hrest : ∀ y ∈ xs, test y = true → (key y ∈ seen ↔ key y ∈ seen') := fun y hy =>
      hseen y (List.mem_cons_of_mem _ hy)
    cases hx : test x with
    | false =>
      -- no element that passes has the key of `x`
      have hnew : ∀ y ∈ xs, test y = true → (key y ∈ seen ↔ key y ∈ key x :: seen') := by
        intro y hy hpass
        have hne : key y ≠ key x := fun heq => by
          rw [h y (List.mem_cons_of_mem _ hy) x List.mem_cons_self heq, hx] at hpass
          cases hpass
        rw [hrest y hy hpass, List.mem_cons, or_iff_right hne]
      rw [List.filter_cons_of_neg (by simp [hx]), firstsFrom]
      split
      · exact ih hxs hrest
      · rw [List.filter_cons_of_neg (by simp [hx])]
        exact ih hxs hnew
    | true =>
      have hiff : seen.contains (key x) = seen'.contains (key x) := by
        rw [Bool.eq_iff_iff, List.contains_iff_mem, List.contains_iff_mem]
        exact hseen x List.mem_cons_self hx
      have hnew : ∀ y ∈ xs, test y = true → (key y ∈ key x :: seen ↔ key y ∈ key x :: seen') := by
        intro y hy hpass
        rw [List.mem_cons, List.mem_cons, hrest y hy hpass]
      rw [List.filter_cons_of_pos hx, firstsFrom, firstsFrom, hiff]
      split
      · exact ih hxs hrest
      · rw [List.filter_cons_of_pos hx, ih hxs hnew]

/-- If the key decides whether an element passes a test, then the first occurrences among those that
pass are the first occurrences that pass. -/
theorem firstsBy_filter {test : α → Bool} {xs : List α}
    (h : ∀ x ∈ xs, ∀ y ∈ xs, key x = key y → test x = test y) :
    firstsBy key (xs.filter test) = (firstsBy key xs).filter test :=
  firstsFrom_filter h fun _ _ _ => Iff.rfl

end Lemmas

end CqlGateway
