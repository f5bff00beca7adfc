import CqlGateway.Metadata.Listing
import CqlGateway.Proofs.Trimming

/-!
# Names in order

Names are compared by their keys and then by their spelling, which is a total order.  The listing of
some names is strictly increasing in the keys, and it has each key in the spelling that came first
(`isListing_sortedDistinct`); this determines it (`IsListing.unique`).  To list a listing once more
changes nothing (`sortedDistinct_sortedDistinct`).

What is listed of metadata rows are the names that their cells hold (`isListing_column`).  A row
that holds none, because it lacks the column or because the value is null, blank or no text, does
not matter.
-/

namespace CqlGateway

theorem Text.lt_or_lt_of_ne {s t : String} (h : s ≠ t) : s < t ∨ t < s := by
  by_cases hlt : s < t
  · exact .inl hlt
  · refine .inr (Classical.not_not.1 fun hgt => h ?_)
    exact String.le_antisymm (String.not_lt.1 hgt) (String.not_lt.1 hlt)

/-- Elements in the strict order of their keys are determined by which they are. -/
theorem eq_of_pairwise_lt {α : Type} {key : α → String} {xs ys : List α}
    (hxs : xs.Pairwise fun a b => key a < key b) (hys : ys.Pairwise fun a b => key a < key b)
    (h : ∀ a, a ∈ xs ↔ a ∈ ys) : xs = ys := by
  have hnodup : ∀ {l : List α}, l.Pairwise (fun a b => key a < key b) → l.Nodup := by
    refine fun hl => hl.imp ?_
    rintro a b hlt rfl
    exact String.lt_irrefl _ hlt
  have hperm : xs.Perm ys := (List.perm_ext_iff_of_nodup (hnodup hxs) (hnodup hys)).2 h
  refine hperm.eq_of_pairwise ?_ hxs hys
  intro a b _ _ hab hba
  exact absurd hba (String.lt_asymm hab)

namespace Identifier

variable {c : NameClass} {a b d : Identifier c}

/-! ### The order of names -/

theorem isBelow_eq_true_iff :
    a.isBelow b = true ↔ a.key < b.key ∨ a.key = b.key ∧ a.text < b.text := by
  rw [isBelow, Bool.or_eq_true, Bool.and_eq_true, decide_eq_true_iff, beq_iff_eq,
    decide_eq_true_iff]

/-- A name that is not above another one comes before it by its key, or has the same key and a
spelling that is not above that of the other one. -/
theorem not_isBelow_iff :
    (!b.isBelow a) = true ↔ a.key < b.key ∨ a.key = b.key ∧ a.text ≤ b.text := by
  rw [Bool.not_eq_true', ← Bool.not_eq_true, isBelow_eq_true_iff, not_or]
  constructor
  · rintro ⟨hkey, htext⟩
    by_cases heq : a.key = b.key
    · exact .inr ⟨heq, String.not_lt.1 fun h => htext ⟨heq.symm, h⟩⟩
    · exact .inl ((Text.lt_or_lt_of_ne heq).resolve_right hkey)
  · rintro (hlt | ⟨heq, hle⟩)
    · exact ⟨String.lt_asymm hlt, fun h => String.lt_irrefl _ (h.1 ▸ hlt)⟩
    · exact ⟨heq ▸ String.lt_irrefl _, fun h => String.not_lt.2 hle h.2⟩

theorem not_isBelow_trans (hab : (!b.isBelow a) = true) (hbd : (!d.isBelow b) = true) :
    (!d.isBelow a) = true := by
  rw [not_isBelow_iff] at *
  rcases hab with hab | ⟨hab, htext⟩
  · rcases hbd with hbd | ⟨hbd, -⟩
    · exact .inl (String.lt_trans hab hbd)
    · exact .inl (hbd ▸ hab)
  · rcases hbd with hbd | ⟨hbd, htext'⟩
    · exact .inl (hab ▸ hbd)
    · exact .inr ⟨hab.trans hbd, String.le_trans htext htext'⟩

theorem not_isBelow_total (a b : Identifier c) :
    (!b.isBelow a) = true ∨ (!a.isBelow b) = true := by
  rw [not_isBelow_iff, not_isBelow_iff]
  by_cases heq : a.key = b.key
  · exact (String.le_total a.text b.text).imp (fun h => .inr ⟨heq, h⟩) fun h => .inr ⟨heq.symm, h⟩
  · exact (Text.lt_or_lt_of_ne heq).imp .inl .inl

/-! ### Listings -/

/-- **A listing is strictly increasing in the keys.** -/
theorem pairwise_sortedDistinct (names : List (Identifier c)) :
    (sortedDistinct names).Pairwise fun a b => a.key < b.key := by
  have htrans : ∀ a b d : Identifier c, (!b.isBelow a) = true → (!d.isBelow b) = true →
      (!d.isBelow a) = true := fun _ _ _ => not_isBelow_trans
  have hsorted : (sortedDistinct names).Pairwise fun a b => (!b.isBelow a) = true :=
    pairwise_sortBy htrans not_isBelow_total _
  refine (hsorted.and (key_ne_of_mem_sortedDistinct names)).imp ?_
  rintro a b ⟨hle, hne⟩
  exact (not_isBelow_iff.1 hle).resolve_right fun h => hne h.1

/-- Names that are strictly increasing in the keys are listed as they are. -/
theorem sortedDistinct_of_pairwise {names : List (Identifier c)}
    (h : names.Pairwise fun a b => a.key < b.key) : sortedDistinct names = names := by
  have hdistinct : names.Pairwise fun a b => a.key ≠ b.key := by
    refine h.imp ?_
    intro a b hlt heq
    rw [heq] at hlt
    exact String.lt_irrefl _ hlt
  rw [sortedDistinct, firstsBy_of_pairwise hdistinct]
  refine sortBy_of_pairwise (h.imp ?_)
  intro a b hlt
  exact not_isBelow_iff.2 (.inl hlt)

theorem sortedDistinct_sortedDistinct (names : List (Identifier c)) :
    sortedDistinct (sortedDistinct names) = sortedDistinct names :=
  sortedDistinct_of_pairwise (pairwise_sortedDistinct names)

theorem mem_sortedDistinct_iff {names : List (Identifier c)} :
    a ∈ sortedDistinct names ↔ names.find? (fun b => b.key == a.key) = some a := by
  rw [sortedDistinct, (perm_sortBy _ _).mem_iff, mem_firstsBy_iff]

/-- A listing has the keys of the names. -/
theorem mem_keys_sortedDistinct_iff {names : List (Identifier c)} {k : String} :
    k ∈ (sortedDistinct names).map key ↔ k ∈ names.map key := by
  rw [sortedDistinct, ((perm_sortBy _ _).map key).mem_iff, mem_map_firstsBy]

/-- **The keys of a listing do not depend on the order of the names.** -/
theorem keys_sortedDistinct_of_perm {names names' : List (Identifier c)} (h : names.Perm names') :
    (sortedDistinct names').map key = (sortedDistinct names).map key := by
  have hsorted : ∀ l : List (Identifier c),
      ((sortedDistinct l).map key).Pairwise fun a b => a < b :=
    fun l => List.pairwise_map.2 (pairwise_sortedDistinct l)
  refine eq_of_pairwise_lt (hsorted names') (hsorted names) fun k => ?_
  rw [mem_keys_sortedDistinct_iff, mem_keys_sortedDistinct_iff, (h.map key).mem_iff]

end Identifier

/-- `names` is the listing of the names `held`: they are in the strict order of the keys, and each
key has its first spelling. -/
structure IsListing (held names : List String) : Prop where
  ordered : names.Pairwise fun a b => Text.lower a < Text.lower b
  mem_iff : ∀ name, name ∈ names ↔
    held.find? (fun other => Text.lower other == Text.lower name) = some name

/-- There is one listing of the names only. -/
theorem IsListing.unique {held names names' : List String} (h : IsListing held names)
    (h' : IsListing held names') : names = names' :=
  eq_of_pairwise_lt h.ordered h'.ordered fun name => (h.mem_iff name).trans (h'.mem_iff name).symm

theorem isListing_sortedDistinct {c : NameClass} (names : List (Identifier c)) :
    IsListing (names.map Identifier.text)
      ((Identifier.sortedDistinct names).map Identifier.text) where
  ordered := List.pairwise_map.2 (Identifier.pairwise_sortedDistinct names)
  mem_iff name := by
    rw [List.find?_map, List.mem_map, Option.map_eq_some_iff]
    constructor
    · rintro ⟨a, ha, rfl⟩
      exact ⟨a, Identifier.mem_sortedDistinct_iff.1 ha, rfl⟩
    · rintro ⟨a, ha, rfl⟩
      exact ⟨a, Identifier.mem_sortedDistinct_iff.2 ha, rfl⟩

/-! ### Names in metadata rows -/

/-- The name that a row holds in a column: a text that is not blank, without the blanks around it.
-/
def heldName? (column : String) (row : List Cell) : Option String :=
  match valueOf row column with
  | .text s => if Text.isBlankText s then none else some (Text.strip s)
  | _ => none

theorem text_ofText?_strip (c : NameClass) (s : String) :
    (Identifier.ofText? c (Text.strip s)).map Identifier.text =
      if Text.isBlankText s then none else some (Text.strip s) := by
  rw [Identifier.ofText?, ← Text.isBlankText_strip s]
  split
  · next h => rw [h]; rfl
  · next h => rw [Bool.of_not_eq_false h]; rfl

theorem text_of_value (c : NameClass) (v : Value) :
    (v.text?.bind fun s => Identifier.ofText? c (Text.strip s)).map Identifier.text =
      match v with
      | .text s => if Text.isBlankText s then none else some (Text.strip s)
      | _ => none := by
  cases v <;> simp only [Value.text?, Option.bind_some, Option.bind_none, Option.map_none,
    text_ofText?_strip]

theorem text_named_column (c : NameClass) (column : String) (rows : List (List Cell)) :
    (Identifier.named c (Listing.column rows column)).map Identifier.text =
      rows.filterMap (heldName? column) := by
  rw [Identifier.named, Listing.column, List.filterMap_map, List.map_filterMap]
  exact List.filterMap_congr fun row _ => text_of_value c (valueOf row column)

/-- **The listing of a column** is that of the names that the rows hold. -/
theorem isListing_column (c : NameClass) (column : String) (rows : List (List Cell)) :
    IsListing (rows.filterMap (heldName? column))
      ((Identifier.listing c (Listing.column rows column)).map Identifier.text) := by
  rw [← text_named_column c]
  exact isListing_sortedDistinct _

end CqlGateway
