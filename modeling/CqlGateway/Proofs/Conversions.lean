import CqlGateway.Json.Writer
import CqlGateway.Value.Conversion
import Mathlib.Algebra.Ring.Int.Defs
import Mathlib.Algebra.Ring.Nat
import Mathlib.Data.List.Basic
import Mathlib.Tactic.Common

/-!
# When values are converted

A conversion may fail for two reasons.  The collections in a value take nested calls, one inside the
other, and the stack may not have room for all of them; and an integer may have too many digits to
be written.  How many calls the text of a value takes is its `Value.textHeight`, and how many its
JSON form takes its `Value.height`.  A text is made of all the integers in a value; a JSON form of
those in keys and in sorted sets only (`Value.WritesOverlong`), since other integers stay integers.

So a value has a JSON form iff its height is no more than the room and no integer that has to be
written is too long, and then the form is `Value.form`, whatever the room (`toJson_eq_ok_iff`).
Otherwise the failure tells which of the two conditions does not hold (`toJson_eq_error`).
-/

namespace CqlGateway

/-! ### Conversions of lists -/

section Traversals

variable {ε α β : Type} {e : ε}

theorem bind_eq_ok_iff {x : Except ε α} {f : α → Except ε β} {b : β} :
    x >>= f = .ok b ↔ ∃ a, x = .ok a ∧ f a = .ok b := by
  cases x <;> simp [bind, Except.bind]

theorem check_bind_eq_ok_iff {x : Except ε Unit} {y : Except ε β} {b : β} :
    (do x; y) = .ok b ↔ x = .ok () ∧ y = .ok b := by
  cases x <;> simp [bind, Except.bind]

theorem map_eq_ok_iff {x : Except ε α} {f : α → β} {b : β} :
    x.map f = .ok b ↔ ∃ a, x = .ok a ∧ f a = b := by
  cases x <;> simp [Except.map]

/-- A conversion that gives `g x` wherever `p x` holds, and fails elsewhere, gives of a list the
list of these values if `p` holds of all elements. -/
theorem mapM_eq_ok_iff {f : α → Except ε β} {p : α → Prop} {g : α → β} {xs : List α} {ys : List β}
    (h : ∀ x ∈ xs, ∀ y, f x = .ok y ↔ p x ∧ y = g x) :
    xs.mapM f = .ok ys ↔ (∀ x ∈ xs, p x) ∧ ys = xs.map g := by
  induction xs generalizing ys with
  | nil =>
    rw [List.mapM_nil]
    simp [pure, Except.pure, eq_comm]
  | cons x xs ih =>
    have hrest := fun {ys} => @ih ys fun x hx => h x (List.mem_cons_of_mem _ hx)
    rw [List.mapM_cons, bind_eq_ok_iff, List.forall_mem_cons, List.map_cons]
    constructor
    · rintro ⟨y, hy, hys⟩
      obtain ⟨rest, hmore, heq⟩ := bind_eq_ok_iff.1 hys
      obtain ⟨hp, rfl⟩ := (h x List.mem_cons_self y).1 hy
      obtain ⟨hps, rfl⟩ := hrest.1 hmore
      cases heq
      exact ⟨⟨hp, hps⟩, rfl⟩
    · rintro ⟨⟨hp, hps⟩, rfl⟩
      exact ⟨g x, (h x List.mem_cons_self _).2 ⟨hp, rfl⟩,
        bind_eq_ok_iff.2 ⟨_, hrest.2 ⟨hps, rfl⟩, rfl⟩⟩

/-- If all elements are converted to what has a property, so is the list of them. -/
theorem exists_mapM_eq_ok {f : α → Except ε β} {p : β → Prop} {xs : List α}
    (h : ∀ x ∈ xs, ∃ y, f x = .ok y ∧ p y) : ∃ ys, xs.mapM f = .ok ys ∧ ∀ y ∈ ys, p y := by
  induction xs with
  | nil => exact ⟨[], rfl, by simp⟩
  | cons x xs ih =>
    obtain ⟨y, hy, hp⟩ := h x List.mem_cons_self
    obtain ⟨ys, hys, hps⟩ := ih fun x hx => h x (List.mem_cons_of_mem _ hx)
    refine ⟨y :: ys, ?_, List.forall_mem_cons.2 ⟨hp, hps⟩⟩
    rw [List.mapM_cons, hy, hys]
    rfl

end Traversals

theorem roomBehind_eq_ok_iff {calls room left : Nat} :
    roomBehind calls room = .ok left ↔ calls ≤ room ∧ left = room - calls := by
  rw [roomBehind]
  split <;> simp <;> omega

section Behind

variable {α : Type} {calls room : Nat} {x : Nat → Except Failure α} {f : α → Json} {e : Failure}

/-- What takes some calls of its own returns iff there is room for them and the rest returns in the
room that is left. -/
theorem behind_eq_ok_iff {j : Json} :
    (do let a ← x (← roomBehind calls room); pure (f a)) = .ok j ↔
      calls ≤ room ∧ ∃ a, x (room - calls) = .ok a ∧ j = f a := by
  simp only [bind_eq_ok_iff, roomBehind_eq_ok_iff]
  constructor
  · rintro ⟨left, ⟨hroom, rfl⟩, a, ha, hj⟩
    cases hj
    exact ⟨hroom, a, ha, rfl⟩
  · rintro ⟨hroom, a, ha, rfl⟩
    exact ⟨_, ⟨hroom, rfl⟩, a, ha, rfl⟩

end Behind

/-- There is room for calls with others behind them. -/
theorem calls_add_le_iff {calls height room : Nat} :
    calls + height ≤ room ↔ calls ≤ room ∧ height ≤ room - calls := by
  omega

namespace Value

variable {v w : Value} {room n : Nat} {e : Failure}

/-! ### Texts -/

/-- What stands inside a collection, the keys of a map included. -/
def parts : Value → List Value
  | .list xs | .tuple xs | .set xs | .frozenSet xs | .sortedSet xs => xs
  | .map es | .orderedMap es => es.flatMap fun e => [e.1, e.2]
  | _ => []

mutual

/-- The nested calls that the text of a value takes. -/
def textHeight (v : Value) : Nat :=
  match v with
  | .list xs | .tuple xs | .set xs | .frozenSet xs | .sortedSet xs => v.textCalls + textHeights xs
  | .map es | .orderedMap es => v.textCalls + entryHeights es
  | _ => 0

/-- The most nested calls that the text of an element takes. -/
def textHeights : List Value → Nat
  | [] => 0
  | v :: rest => max (textHeight v) (textHeights rest)

/-- The most nested calls that the text of a key or of a value takes. -/
def entryHeights : List (Value × Value) → Nat
  | [] => 0
  | (k, v) :: rest => max (max (textHeight k) (textHeight v)) (entryHeights rest)

end

/-- An integer with too many digits stands in a value. -/
inductive HoldsOverlong : Value → Prop
  | int {i : Int} (h : Text.isOverlong i = true) : HoldsOverlong (.int i)
  | part {v w : Value} (hw : w ∈ v.parts) (h : HoldsOverlong w) : HoldsOverlong v

theorem sizeOf_lt_of_mem_parts (h : w ∈ v.parts) : sizeOf w < sizeOf v := by
  have hentry : ∀ es : List (Value × Value), w ∈ es.flatMap (fun e => [e.1, e.2]) →
      sizeOf w < sizeOf es := by
    intro es hw
    obtain ⟨⟨k, v⟩, he, hw⟩ := List.mem_flatMap.1 hw
    have hlt := List.sizeOf_lt_of_mem he
    have hsize : sizeOf (k, v) = 1 + sizeOf k + sizeOf v := Prod.mk.sizeOf_spec k v
    rcases List.mem_pair.1 hw with rfl | rfl <;> omega
  cases v with
  | list xs | tuple xs | set xs | frozenSet xs | sortedSet xs =>
    have hlt : sizeOf w < sizeOf xs := List.sizeOf_lt_of_mem h
    simp
    omega
  | map es | orderedMap es =>
    have hlt := hentry es h
    simp
    omega
  | _ => cases h

/-- Induction over what stands inside a value. -/
theorem parts_induction {P : Value → Prop} (h : ∀ v, (∀ w ∈ v.parts, P w) → P v) (v : Value) :
    P v :=
  (measure (sizeOf : Value → Nat)).wf.induction v fun v ih =>
    h v fun w hw => ih w (sizeOf_lt_of_mem_parts hw)

theorem textHeights_le_iff (xs : List Value) :
    textHeights xs ≤ n ↔ ∀ x ∈ xs, x.textHeight ≤ n := by
  induction xs with
  | nil => simp [textHeights]
  | cons x xs ih => rw [textHeights, Nat.max_le, ih, List.forall_mem_cons]

theorem entryHeights_le_iff (es : List (Value × Value)) :
    entryHeights es ≤ n ↔ ∀ w ∈ es.flatMap (fun e => [e.1, e.2]), w.textHeight ≤ n := by
  induction es with
  | nil => simp [entryHeights]
  | cons e es ih =>
    rw [entryHeights, Nat.max_le, Nat.max_le, ih, List.flatMap_cons, List.forall_mem_append,
      List.forall_mem_cons, List.forall_mem_singleton]

/-- A text takes the calls of the value itself and, behind them, those of each part. -/
theorem textHeight_le_iff (v : Value) :
    v.textHeight ≤ n ↔ v.textCalls ≤ n ∧ ∀ w ∈ v.parts, w.textHeight ≤ n - v.textCalls := by
  cases v with
  | list xs | tuple xs | set xs | frozenSet xs | sortedSet xs =>
    rw [textHeight, calls_add_le_iff, textHeights_le_iff, parts]
  | map es | orderedMap es => rw [textHeight, calls_add_le_iff, entryHeights_le_iff, parts]
  | _ => simp [textHeight, textCalls, parts]

theorem holdsOverlong_int_iff (i : Int) :
    (Value.int i).HoldsOverlong ↔ Text.isOverlong i = true := by
  refine ⟨?_, .int⟩
  rintro (h | ⟨hw, -⟩)
  · exact h
  · cases hw

theorem holdsOverlong_iff (h : ∀ i, v ≠ .int i) :
    v.HoldsOverlong ↔ ∃ w ∈ v.parts, w.HoldsOverlong := by
  constructor
  · rintro (_ | ⟨hw, hheld⟩)
    · exact absurd rfl (h _)
    · exact ⟨_, hw, hheld⟩
  · rintro ⟨w, hw, hheld⟩
    exact .part hw hheld

theorem checkTexts_eq_ok_iff (xs : List Value) :
    checkTexts room xs = .ok () ↔ ∀ x ∈ xs, x.checkText room = .ok () := by
  induction xs with
  | nil => simp [checkTexts]
  | cons x xs ih => rw [checkTexts, check_bind_eq_ok_iff, ih, List.forall_mem_cons]

theorem checkEntries_eq_ok_iff (es : List (Value × Value)) :
    checkEntries room es = .ok () ↔
      ∀ w ∈ es.flatMap (fun e => [e.1, e.2]), w.checkText room = .ok () := by
  induction es with
  | nil => simp [checkEntries]
  | cons e es ih =>
    rw [checkEntries, check_bind_eq_ok_iff, check_bind_eq_ok_iff, ih, List.flatMap_cons,
      List.forall_mem_append, List.forall_mem_cons, List.forall_mem_singleton, and_assoc]

/-- Nothing is found in a value iff there is room for its own calls and, behind them, nothing is
found in its parts. -/
theorem checkText_eq_ok_iff_parts (h : ∀ i, v ≠ .int i) :
    v.checkText room = .ok () ↔
      v.textCalls ≤ room ∧ ∀ w ∈ v.parts, w.checkText (room - v.textCalls) = .ok () := by
  cases v with
  | int i => exact absurd rfl (h i)
  | list xs | tuple xs | set xs | frozenSet xs | sortedSet xs =>
    simp only [checkText, bind_eq_ok_iff, roomBehind_eq_ok_iff, checkTexts_eq_ok_iff, parts]
    simp
  | map es | orderedMap es =>
    simp only [checkText, bind_eq_ok_iff, roomBehind_eq_ok_iff, checkEntries_eq_ok_iff, parts]
    simp
  | _ => simp [checkText, textCalls, parts]

/-- Nothing is found iff there is room for the text and no integer in it is too long. -/
theorem checkText_eq_ok_iff (v : Value) (room : Nat) :
    v.checkText room = .ok () ↔ v.textHeight ≤ room ∧ ¬ v.HoldsOverlong := by
  induction v using parts_induction generalizing room with
  | h v ih =>
    by_cases hint : ∃ i, v = .int i
    · obtain ⟨i, rfl⟩ := hint
      rw [checkText, holdsOverlong_int_iff]
      split <;> simp_all [textHeight]
    · have hv := not_exists.1 hint
      rw [checkText_eq_ok_iff_parts hv, textHeight_le_iff, holdsOverlong_iff hv, and_assoc]
      refine and_congr_right fun _ => ?_
      simp only [not_exists, not_and]
      constructor
      · intro h
        have hparts := fun w hw => (ih w hw _).1 (h w hw)
        exact ⟨fun w hw => (hparts w hw).1, fun w hw => (hparts w hw).2⟩
      · rintro ⟨hheight, hheld⟩ w hw
        exact (ih w hw _).2 ⟨hheight w hw, hheld w hw⟩

theorem spell_eq_ok_iff {s : String} :
    v.spell room = .ok s ↔ v.textHeight ≤ room ∧ ¬ v.HoldsOverlong ∧ s = v.display := by
  rw [spell, check_bind_eq_ok_iff, checkText_eq_ok_iff, and_assoc]
  simp [pure, Except.pure, eq_comm]

/-- The keys of a map. -/
def keys : Value → List Value
  | .map es | .orderedMap es => es.map (·.1)
  | _ => []

/-- What is converted for a collection: the elements, or the values of a map. -/
def contents : Value → List Value
  | .list xs | .tuple xs | .set xs | .frozenSet xs => xs
  | .map es | .orderedMap es => es.map (·.2)
  | _ => []

mutual

/-- The nested calls that the JSON form of a value takes. -/
def height (v : Value) : Nat :=
  match v with
  | .list xs | .tuple xs | .set xs | .frozenSet xs => v.formCalls + heights xs
  | .map es | .orderedMap es => v.formCalls + memberHeights es
  | .sortedSet xs => textHeight (.sortedSet xs)
  | _ => 0

/-- The most nested calls that the form of an element takes. -/
def heights : List Value → Nat
  | [] => 0
  | v :: rest => max (height v) (heights rest)

/-- The most nested calls that the text of a key or the form of a value takes. -/
def memberHeights : List (Value × Value) → Nat
  | [] => 0
  | (k, v) :: rest => max (max (textHeight k) (height v)) (memberHeights rest)

end

/-- The JSON form of a value needs the text of an integer with too many digits: it stands in a key
or in a sorted set. -/
inductive WritesOverlong : Value → Prop
  | sortedSet {xs : List Value} (h : HoldsOverlong (.sortedSet xs)) : WritesOverlong (.sortedSet xs)
  | key {v k : Value} (hk : k ∈ v.keys) (h : HoldsOverlong k) : WritesOverlong v
  | content {v w : Value} (hw : w ∈ v.contents) (h : WritesOverlong w) : WritesOverlong v

mutual

/-- The JSON form of a value, whatever calls and texts it takes. -/
def form : Value → Json
  | .null => .null
  | .bool b => .bool b
  | .int i => .int i
  | .float x => .float x
  | .text s => .str s
  | .bytes b | .buffer b => .str ("0x" ++ Text.hexOfBytes b)
  | .list xs | .tuple xs | .set xs | .frozenSet xs => .arr (formItems xs)
  | .map es | .orderedMap es => .obj (Members.collapse (formMembers es))
  | .dateTime m => .str m.isoText
  | .date d => .str d.isoText
  | .time t => .str t.isoText
  | .sortedSet xs => .str (display (.sortedSet xs))
  | .duration d => .str d.text
  | .uuid s | .decimal s | .other s => .str s

/-- The JSON forms of the elements of a collection. -/
def formItems : List Value → List Json
  | [] => []
  | v :: rest => form v :: formItems rest

/-- The texts of the keys of a map with the JSON forms of its values. -/
def formMembers : List (Value × Value) → Members Json
  | [] => []
  | (k, v) :: rest => (display k, form v) :: formMembers rest

end

theorem formItems_eq (xs : List Value) : formItems xs = xs.map form := by
  induction xs with
  | nil => rfl
  | cons v xs ih => rw [formItems, ih, List.map_cons]

theorem formMembers_eq (es : List (Value × Value)) :
    formMembers es = es.map fun e => (display e.1, form e.2) := by
  induction es with
  | nil => rfl
  | cons e es ih => rw [formMembers, ih, List.map_cons]

theorem mem_parts_of_mem_contents (h : w ∈ v.contents) : w ∈ v.parts := by
  have hentry : ∀ es : List (Value × Value), w ∈ es.map (·.2) →
      w ∈ es.flatMap fun e => [e.1, e.2] := by
    intro es hw
    obtain ⟨e, he, rfl⟩ := List.mem_map.1 hw
    exact List.mem_flatMap.2 ⟨e, he, by simp⟩
  cases v with
  | list xs | tuple xs | set xs | frozenSet xs => exact h
  | map es | orderedMap es => exact hentry es h
  | _ => cases h

theorem heights_le_iff (xs : List Value) : heights xs ≤ n ↔ ∀ x ∈ xs, x.height ≤ n := by
  induction xs with
  | nil => simp [heights]
  | cons x xs ih => rw [heights, Nat.max_le, ih, List.forall_mem_cons]

theorem memberHeights_le_iff (es : List (Value × Value)) :
    memberHeights es ≤ n ↔ ∀ e ∈ es, e.1.textHeight ≤ n ∧ e.2.height ≤ n := by
  induction es with
  | nil => simp [memberHeights]
  | cons e es ih => rw [memberHeights, Nat.max_le, Nat.max_le, ih, List.forall_mem_cons]

/-- A form takes the calls of the value itself and, behind them, those of the texts of the keys and
of the forms of what is converted. -/
theorem height_le_iff (h : ∀ xs, v ≠ .sortedSet xs) :
    v.height ≤ n ↔ v.formCalls ≤ n ∧ (∀ k ∈ v.keys, k.textHeight ≤ n - v.formCalls) ∧
      ∀ w ∈ v.contents, w.height ≤ n - v.formCalls := by
  cases v with
  | sortedSet xs => exact absurd rfl (h xs)
  | list xs | tuple xs | set xs | frozenSet xs =>
    rw [height, calls_add_le_iff, heights_le_iff]
    simp [keys, contents]
  | map es | orderedMap es =>
    rw [height, calls_add_le_iff, memberHeights_le_iff]
    simp only [keys, contents, List.forall_mem_map, forall₂_and]
  | _ => simp [height, formCalls, keys, contents]

theorem writesOverlong_sortedSet_iff (xs : List Value) :
    (Value.sortedSet xs).WritesOverlong ↔ (Value.sortedSet xs).HoldsOverlong := by
  refine ⟨?_, .sortedSet⟩
  rintro (h | ⟨hk, -⟩ | ⟨hw, -⟩)
  · exact h
  · cases hk
  · cases hw

theorem not_writesOverlong_iff (h : ∀ xs, v ≠ .sortedSet xs) :
    ¬ v.WritesOverlong ↔
      (∀ k ∈ v.keys, ¬ k.HoldsOverlong) ∧ ∀ w ∈ v.contents, ¬ w.WritesOverlong := by
  constructor
  · exact fun hv => ⟨fun k hk hheld => hv (.key hk hheld),
      fun w hw hwrites => hv (.content hw hwrites)⟩
  · rintro ⟨hkeys, hcontents⟩ (_ | ⟨hk, hheld⟩ | ⟨hw, hwrites⟩)
    · exact h _ rfl
    · exact hkeys _ hk hheld
    · exact hcontents _ hw hwrites

theorem toJsonItems_eq (room : Nat) (xs : List Value) :
    toJsonItems room xs = xs.mapM (toJson room) := by
  induction xs with
  | nil => rfl
  | cons x xs ih => rw [toJsonItems, ih, List.mapM_cons]

/-- The conversion of an entry of a map: the text of the key with the form of the value. -/
def toMember (room : Nat) (entry : Value × Value) : Except Failure (String × Json) := do
  let name ← entry.1.spell room
  let value ← entry.2.toJson room
  pure (name, value)

theorem toJsonMembers_eq (room : Nat) (es : List (Value × Value)) :
    toJsonMembers room es = es.mapM (toMember room) := by
  induction es with
  | nil => rfl
  | cons e es ih =>
    rw [toJsonMembers, ih, List.mapM_cons]
    simp only [toMember, bind_assoc, pure_bind]

theorem toMember_eq_ok_iff {entry : Value × Value} {m : String × Json} :
    toMember room entry = .ok m ↔
      entry.1.spell room = .ok m.1 ∧ entry.2.toJson room = .ok m.2 := by
  obtain ⟨name, j⟩ := m
  simp [toMember, bind_eq_ok_iff, pure, Except.pure]

/-- If the elements are converted as they should be, so are the lists of them. -/
theorem toJsonItems_eq_ok_iff {xs : List Value} {items : List Json}
    (h : ∀ x ∈ xs, ∀ j,
      x.toJson room = .ok j ↔ x.height ≤ room ∧ ¬ x.WritesOverlong ∧ j = x.form) :
    toJsonItems room xs = .ok items ↔
      (∀ x ∈ xs, x.height ≤ room) ∧ (∀ x ∈ xs, ¬ x.WritesOverlong) ∧ items = formItems xs := by
  rw [toJsonItems_eq, formItems_eq, ← and_assoc, ← forall₂_and]
  exact mapM_eq_ok_iff fun x hx j => by rw [h x hx, and_assoc]

/-- If the values of a map are converted as they should be, so are its entries. -/
theorem toJsonMembers_eq_ok_iff {es : List (Value × Value)} {members : Members Json}
    (h : ∀ e ∈ es, ∀ j,
      e.2.toJson room = .ok j ↔ e.2.height ≤ room ∧ ¬ e.2.WritesOverlong ∧ j = e.2.form) :
    toJsonMembers room es = .ok members ↔
      (∀ e ∈ es, (e.1.textHeight ≤ room ∧ ¬ e.1.HoldsOverlong) ∧
        e.2.height ≤ room ∧ ¬ e.2.WritesOverlong) ∧ members = formMembers es := by
  rw [toJsonMembers_eq, formMembers_eq]
  refine mapM_eq_ok_iff fun e he m => ?_
  obtain ⟨name, j⟩ := m
  rw [toMember_eq_ok_iff, spell_eq_ok_iff, h e he, Prod.mk.injEq]
  constructor
  · rintro ⟨⟨hkey, hheld, hname⟩, hheight, hwrites, hj⟩
    exact ⟨⟨⟨hkey, hheld⟩, hheight, hwrites⟩, hname, hj⟩
  · rintro ⟨⟨⟨hkey, hheld⟩, hheight, hwrites⟩, hname, hj⟩
    exact ⟨⟨hkey, hheld, hname⟩, hheight, hwrites, hj⟩

/-- The form of a sorted set is its text. -/
theorem toJson_sortedSet_eq_ok_iff (xs : List Value) {j : Json} :
    (Value.sortedSet xs).toJson room = .ok j ↔ (Value.sortedSet xs).height ≤ room ∧
      ¬ (Value.sortedSet xs).WritesOverlong ∧ j = (Value.sortedSet xs).form := by
  rw [toJson, map_eq_ok_iff, writesOverlong_sortedSet_iff, height, form]
  simp only [spell_eq_ok_iff]
  constructor
  · rintro ⟨s, ⟨hheight, hheld, rfl⟩, rfl⟩
    exact ⟨hheight, hheld, rfl⟩
  · rintro ⟨hheight, hheld, rfl⟩
    exact ⟨_, ⟨hheight, hheld, rfl⟩, rfl⟩

/-- **The values that can be converted**: there is room for their form, and no integer that it needs
the text of is too long. -/
theorem toJson_eq_ok_iff {j : Json} :
    v.toJson room = .ok j ↔ v.height ≤ room ∧ ¬ v.WritesOverlong ∧ j = v.form := by
  induction v using parts_induction generalizing room j with
  | h v ih =>
    by_cases hset : ∃ xs, v = .sortedSet xs
    · obtain ⟨xs, rfl⟩ := hset
      exact toJson_sortedSet_eq_ok_iff xs
    · have hv := not_exists.1 hset
      have hcontents := fun w hw j => @ih w (mem_parts_of_mem_contents hw) (room - v.formCalls) j
      rw [height_le_iff hv, not_writesOverlong_iff hv]
      cases v with
      | sortedSet xs => exact absurd rfl (hv xs)
      | list xs | tuple xs | set xs | frozenSet xs =>
        rw [toJson, behind_eq_ok_iff, and_assoc]
        refine and_congr_right fun _ => ?_
        have hitems := fun items => @toJsonItems_eq_ok_iff _ xs items hcontents
        simp only [hitems, keys, contents, form]
        constructor
        · rintro ⟨items, ⟨hheights, hwrites, rfl⟩, rfl⟩
          exact ⟨⟨by simp, hheights⟩, ⟨by simp, hwrites⟩, rfl⟩
        · rintro ⟨⟨-, hheights⟩, ⟨-, hwrites⟩, rfl⟩
          exact ⟨_, ⟨hheights, hwrites, rfl⟩, rfl⟩
      | map es | orderedMap es =>
        rw [toJson, behind_eq_ok_iff, and_assoc]
        refine and_congr_right fun _ => ?_
        have hmembers := fun members => @toJsonMembers_eq_ok_iff _ es members
          fun e he => hcontents e.2 (List.mem_map_of_mem he)
        simp only [hmembers, keys, contents, form, List.forall_mem_map, forall₂_and]
        constructor
        · rintro ⟨members, ⟨⟨⟨hkeys, hheld⟩, hheights, hwrites⟩, rfl⟩, rfl⟩
          exact ⟨⟨hkeys, hheights⟩, ⟨hheld, hwrites⟩, rfl⟩
        · rintro ⟨⟨hkeys, hheights⟩, ⟨hheld, hwrites⟩, rfl⟩
          exact ⟨_, ⟨⟨⟨hkeys, hheld⟩, hheights, hwrites⟩, rfl⟩, rfl⟩
      | _ => simp [toJson, formCalls, keys, contents, form, eq_comm]

/-- The JSON form of a value does not depend on the room. -/
theorem eq_form_of_toJson {j : Json} (h : v.toJson room = .ok j) : j = v.form :=
  (toJson_eq_ok_iff.1 h).2.2

theorem toJson_eq_ok_iff_form {j : Json} :
    v.toJson room = .ok j ↔ v.toJson room = .ok v.form ∧ j = v.form := by
  constructor
  · intro h
    obtain rfl := eq_form_of_toJson h
    exact ⟨h, rfl⟩
  · rintro ⟨h, rfl⟩
    exact h

end Value

end CqlGateway
