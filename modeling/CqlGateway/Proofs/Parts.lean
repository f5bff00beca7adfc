import CqlGateway.Proofs.Conversions
import Mathlib.Data.List.Forall2

/-!
# What the JSON form of a value keeps of its parts

A collection is to become the array or the object of the forms of its parts.  `Shape.Builds` says
so of a form and `Partwise` of a conversion at a value.  Where the conversion of a collection
returns, it is so but for the sorted sets, which are replaced by their texts
(`sortedSet_becomes_text`).

A path leads from a value to a part of it at any depth, and from a JSON tree to a part of it.  Where
a path does not lead through a sorted set, the form of a value has there the form of what the value
has there; where it does, the form has nothing.  A value has the same form as with a conversion that
is part by part everywhere, such as `Value.toTree`, iff none of its paths leads to a sorted set
(`json_form_of_parts`).
-/

namespace CqlGateway

/-! ### Parts -/

/-- A value as a collection. -/
inductive Shape where
  /-- It has elements in order. -/
  | items (xs : List Value)
  /-- It has values under names. -/
  | members (ms : Members Value)
  /-- It is no collection. -/
  | plain

/-- A step from a collection to one of its parts. -/
inductive PathStep where
  /-- To the element at a place. -/
  | item (place : Nat)
  /-- To the value under a name. -/
  | member (name : String)

/-- What stands in a collection where a step leads. -/
def Shape.part? : Shape → PathStep → Option Value
  | .items xs, .item place => xs[place]?
  | .members ms, .member name => Entries.find? (· == ·) name ms
  | _, _ => none

/-- A JSON tree is the array or the object of what is given for the parts of a collection. -/
inductive Shape.Builds (gives : Value → Json → Prop) : Shape → Json → Prop
  | items {xs : List Value} {items : List Json} (each : List.Forall₂ gives xs items) :
    Builds gives (.items xs) (.arr items)
  | members {ms : Members Value} {members : Members Json}
    (each : List.Forall₂ (fun m n => n.1 = m.1 ∧ gives m.2 n.2) ms members) :
    Builds gives (.members ms) (.obj members)

namespace Value

/-- What a value is as a collection.  The values of a map stand under the texts of its keys; of the
keys with one text the first tells the place, and the last the value. -/
def shape : Value → Shape
  | .list xs | .tuple xs | .set xs | .frozenSet xs | .sortedSet xs => .items xs
  | .map es | .orderedMap es => .members (Members.collapse (es.map fun e => (display e.1, e.2)))
  | _ => .plain

/-- The part of a value to which a step leads. -/
def part? (v : Value) (step : PathStep) : Option Value :=
  v.shape.part? step

/-- The part of a value to which a path leads. -/
def at? (v : Value) (path : List PathStep) : Option Value :=
  path.foldlM part? v

/-- A path leads through a sorted set, to something in it. -/
def PassesSortedSet (v : Value) (path : List PathStep) : Prop :=
  ∃ before step after xs, path = before ++ step :: after ∧ v.at? before = some (.sortedSet xs)

end Value

namespace Json

/-- The part of a JSON tree to which a step leads. -/
def part? (j : Json) (step : PathStep) : Option Json :=
  match j, step with
  | .arr items, .item place => items[place]?
  | j, .member name => j.member? name
  | _, _ => none

/-- The part of a JSON tree to which a path leads. -/
def at? (j : Json) (path : List PathStep) : Option Json :=
  path.foldlM part? j

end Json

section Paths

variable {v w : Value} {step : PathStep} {path : List PathStep}

@[simp] theorem Value.at?_nil (v : Value) : v.at? [] = some v := rfl

theorem Value.at?_cons (v : Value) (step : PathStep) (path : List PathStep) :
    v.at? (step :: path) = (v.part? step).bind (·.at? path) :=
  List.foldlM_cons

@[simp] theorem Json.at?_nil (j : Json) : j.at? [] = some j := rfl

theorem Json.at?_cons (j : Json) (step : PathStep) (path : List PathStep) :
    j.at? (step :: path) = (j.part? step).bind (·.at? path) :=
  List.foldlM_cons

theorem not_passesSortedSet_nil : ¬ v.PassesSortedSet [] := by
  rintro ⟨before, step, after, xs, hpath, -⟩
  simp at hpath

theorem passesSortedSet_cons_iff :
    v.PassesSortedSet (step :: path) ↔
      (∃ xs, v = .sortedSet xs) ∨ ∃ w, v.part? step = some w ∧ w.PassesSortedSet path := by
  constructor
  · rintro ⟨_ | ⟨step', before⟩, step'', after, xs, hpath, hat⟩
    · exact .inl ⟨xs, Option.some.inj hat⟩
    · obtain ⟨rfl, rfl⟩ := List.cons.inj hpath
      rw [Value.at?_cons] at hat
      obtain ⟨w, hw, hat⟩ := Option.bind_eq_some_iff.1 hat
      exact .inr ⟨w, hw, before, step'', after, xs, rfl, hat⟩
  · rintro (⟨xs, rfl⟩ | ⟨w, hw, before, step', after, xs, rfl, hat⟩)
    · exact ⟨[], step, path, xs, rfl, rfl⟩
    · refine ⟨step :: before, step', after, xs, rfl, ?_⟩
      rw [Value.at?_cons, hw]
      exact hat

/-! ### Parts are contents -/

theorem nodup_names {ms : Members Value} (h : v.shape = .members ms) :
    (ms.map (·.1)).Nodup := by
  cases v <;> cases h <;> exact Entries.nodup_keys_ofPairs _

/-- What is found under the text of a key is the value of an entry. -/
theorem exists_entry_of_collapse {es : List (Value × Value)} {name : String}
    (h : Entries.find? (· == ·) name
      (Members.collapse (es.map fun e => (e.1.display, e.2))) = some w) : ∃ e ∈ es, e.2 = w := by
  rw [Members.collapse, Entries.find?_ofPairs, Entries.find?, Option.map_eq_some_iff] at h
  obtain ⟨m, hm, rfl⟩ := h
  obtain ⟨e, he, rfl⟩ := List.mem_map.1 (List.mem_reverse.1 (List.mem_of_find?_eq_some hm))
  exact ⟨e, he, rfl⟩

/-- A step leads to what is converted for a collection. -/
theorem mem_contents_of_part (hv : ∀ xs, v ≠ .sortedSet xs) (h : v.part? step = some w) :
    w ∈ v.contents := by
  cases v with
  | sortedSet xs => exact absurd rfl (hv xs)
  | list xs | tuple xs | set xs | frozenSet xs =>
    cases step with
    | item place => exact List.mem_of_getElem? h
    | member name => cases h
  | map es | orderedMap es =>
    cases step with
    | item place => cases h
    | member name =>
      obtain ⟨e, he, rfl⟩ := exists_entry_of_collapse h
      exact List.mem_map_of_mem he
  | _ => cases step <;> cases h

theorem mem_parts_of_part (h : v.part? step = some w) : w ∈ v.parts := by
  by_cases hv : ∃ xs, v = .sortedSet xs
  · obtain ⟨xs, rfl⟩ := hv
    cases step with
    | item place => exact List.mem_of_getElem? h
    | member name => cases h
  · exact Value.mem_parts_of_mem_contents (mem_contents_of_part (not_exists.1 hv) h)

/-- An element is a part. -/
theorem exists_part_of_mem_items {xs : List Value} (h : v.shape = .items xs) (hw : w ∈ xs) :
    ∃ step, v.part? step = some w := by
  obtain ⟨place, hplace⟩ := List.getElem?_of_mem hw
  exact ⟨.item place, by rw [Value.part?, h]; exact hplace⟩

/-- The value of a member is a part. -/
theorem exists_part_of_mem_members {ms : Members Value} {m : String × Value}
    (h : v.shape = .members ms) (hm : m ∈ ms) : ∃ step, v.part? step = some m.2 :=
  ⟨.member m.1, by rw [Value.part?, h]; exact Entries.find?_of_mem (nodup_names h) hm⟩

/-- Induction over the parts of a value. -/
theorem part_induction {P : Value → Prop}
    (h : ∀ v, (∀ step w, v.part? step = some w → P w) → P v) (v : Value) : P v :=
  Value.parts_induction (fun v ih => h v fun _ _ hw => ih _ (mem_parts_of_part hw)) v

end Paths

/-! ### Conversions part by part -/

/-- A conversion makes of a collection the array or the object of what it makes of the parts, and of
any other value, for which no room is needed, the JSON form. -/
def Partwise (f : Value → Json) (v : Value) : Prop :=
  match v.shape with
  | .items xs => f v = .arr (xs.map f)
  | .members ms => f v = .obj (ms.map fun m => (m.1, f m.2))
  | .plain => v.toJson 0 = .ok (f v)

section Conversion

variable {f : Value → Json} {v w : Value} {step : PathStep} {path : List PathStep} {room : Nat}
  {j : Json}

theorem Partwise.of_items (h : Partwise f v) {xs : List Value} (hshape : v.shape = .items xs) :
    f v = .arr (xs.map f) := by
  rw [Partwise, hshape] at h
  exact h

theorem Partwise.of_members (h : Partwise f v) {ms : Members Value}
    (hshape : v.shape = .members ms) : f v = .obj (ms.map fun m => (m.1, f m.2)) := by
  rw [Partwise, hshape] at h
  exact h

theorem Partwise.of_plain (h : Partwise f v) (hshape : v.shape = .plain) : f v = v.form := by
  rw [Partwise, hshape] at h
  exact Value.eq_form_of_toJson h

/-- Members may be united before their values are converted. -/
theorem collapse_displayed (f : Value → Json) (es : List (Value × Value)) :
    Members.collapse (es.map fun e => (e.1.display, f e.2)) =
      (Members.collapse (es.map fun e => (e.1.display, e.2))).map fun m => (m.1, f m.2) := by
  have hmap := Entries.ofPairs_mapValues (· == ·) f (es.map fun e => (e.1.display, e.2))
  rw [List.map_map] at hmap
  exact hmap

theorem partwise_form (h : ∀ xs, v ≠ .sortedSet xs) : Partwise Value.form v := by
  cases v with
  | sortedSet xs => exact absurd rfl (h xs)
  | list xs | tuple xs | set xs | frozenSet xs => exact congrArg Json.arr (Value.formItems_eq xs)
  | map es | orderedMap es =>
    refine congrArg Json.obj ?_
    rw [Value.formMembers_eq]
    exact collapse_displayed Value.form es
  | _ => rfl

theorem part?_form_of_plain (h : v.shape = .plain) (step : PathStep) :
    v.form.part? step = none := by
  cases v <;> cases h <;> cases step <;> rfl

/-- What a step leads to in a converted value is the converted part. -/
theorem Partwise.part? (h : Partwise f v) (step : PathStep) :
    (f v).part? step = (v.part? step).map f := by
  rw [Value.part?]
  cases hshape : v.shape with
  | items xs =>
    rw [h.of_items hshape]
    cases step with
    | item place => exact List.getElem?_map
    | member name => rfl
  | members ms =>
    rw [h.of_members hshape]
    cases step with
    | item place => rfl
    | member name =>
      have hnodup : ((ms.map fun m => (m.1, f m.2)).map (·.1)).Nodup := by
        rw [List.map_map]
        exact nodup_names hshape
      exact (Entries.find?_reverse name hnodup).trans (Entries.find?_mapValues (· == ·) f name ms)
  | plain =>
    rw [h.of_plain hshape, part?_form_of_plain hshape]
    rfl

/-- Where a collection is converted, so is each of its parts. -/
theorem toJson_part (hj : v.toJson room = .ok j) (hv : ∀ xs, v ≠ .sortedSet xs)
    (hw : v.part? step = some w) : w.toJson room = .ok w.form := by
  obtain ⟨hheight, hwrites, -⟩ := Value.toJson_eq_ok_iff.1 hj
  have hmem := mem_contents_of_part hv hw
  have hroom := ((Value.height_le_iff hv).1 hheight).2.2 w hmem
  refine Value.toJson_eq_ok_iff.2 ⟨Nat.le_trans hroom (Nat.sub_le _ _), fun h => ?_, rfl⟩
  exact hwrites (.content hmem h)

/-- A collection that is no sorted set becomes the array or the object of the forms of its parts. -/
theorem builds_of_toJson (hj : v.toJson room = .ok j) (hv : ∀ xs, v ≠ .sortedSet xs)
    (hshape : v.shape ≠ .plain) : v.shape.Builds (fun w i => w.toJson room = .ok i) j := by
  obtain rfl := Value.eq_form_of_toJson hj
  cases hs : v.shape with
  | items xs =>
    rw [(partwise_form hv).of_items hs]
    refine .items (List.forall₂_map_right_iff.2 (List.forall₂_same.2 fun x hx => ?_))
    obtain ⟨step, hstep⟩ := exists_part_of_mem_items hs hx
    exact toJson_part hj hv hstep
  | members ms =>
    rw [(partwise_form hv).of_members hs]
    refine .members (List.forall₂_map_right_iff.2 (List.forall₂_same.2 fun m hm => ⟨rfl, ?_⟩))
    obtain ⟨step, hstep⟩ := exists_part_of_mem_members hs hm
    exact toJson_part hj hv hstep
  | plain => exact absurd hs hshape

/-- **The collections that are not converted part by part** are the sorted sets. -/
theorem builds_iff (hj : v.toJson room = .ok j) (hshape : v.shape ≠ .plain) :
    v.shape.Builds (fun w i => w.toJson room = .ok i) j ↔ ∀ xs, v ≠ .sortedSet xs := by
  refine ⟨?_, fun hv => builds_of_toJson hj hv hshape⟩
  rintro h xs rfl
  obtain rfl := Value.eq_form_of_toJson hj
  cases h

/-! ### Paths into the JSON form -/

theorem part?_form_sortedSet (xs : List Value) (step : PathStep) :
    (Value.sortedSet xs).form.part? step = none := by
  cases step <;> rfl

/-- What does not lie in a sorted set is found where it was. -/
theorem at?_form (h : ¬ v.PassesSortedSet path) :
    v.form.at? path = (v.at? path).map Value.form := by
  induction path generalizing v with
  | nil => simp
  | cons step path ih =>
    rw [passesSortedSet_cons_iff, not_or, not_exists] at h
    rw [Json.at?_cons, Value.at?_cons, (partwise_form h.1).part? step]
    cases hw : v.part? step with
    | none => rfl
    | some w => exact ih fun hpasses => h.2 ⟨w, hw, hpasses⟩

/-- What lies in a sorted set is not found. -/
theorem at?_form_of_passes (h : v.PassesSortedSet path) : v.form.at? path = none := by
  induction path generalizing v with
  | nil => exact absurd h not_passesSortedSet_nil
  | cons step path ih =>
    rw [Json.at?_cons]
    by_cases hv : ∃ xs, v = .sortedSet xs
    · obtain ⟨xs, rfl⟩ := hv
      rw [part?_form_sortedSet]
      rfl
    · obtain ⟨w, hw, hpasses⟩ := (passesSortedSet_cons_iff.1 h).resolve_left hv
      rw [(partwise_form (not_exists.1 hv)).part? step, hw]
      exact ih hpasses

/-- Where a value is converted, so is what does not lie in a sorted set of it. -/
theorem toJson_at (hj : v.toJson room = .ok j) (h : ¬ v.PassesSortedSet path)
    (hw : v.at? path = some w) : w.toJson room = .ok w.form := by
  induction path generalizing v j with
  | nil =>
    obtain rfl : v = w := Option.some.inj hw
    exact (Value.toJson_eq_ok_iff_form.1 hj).1
  | cons step path ih =>
    rw [passesSortedSet_cons_iff, not_or, not_exists] at h
    rw [Value.at?_cons] at hw
    obtain ⟨u, hu, hat⟩ := Option.bind_eq_some_iff.1 hw
    exact ih (toJson_part hj h.1 hu) (fun hpasses => h.2 ⟨u, hu, hpasses⟩) hat

/-- The form of a collection is a string only if the collection is a sorted set. -/
theorem form_eq_str_iff (h : v.shape ≠ .plain) (s : String) :
    v.form = .str s ↔ (∃ xs, v = .sortedSet xs) ∧ s = v.display := by
  by_cases hv : ∃ xs, v = .sortedSet xs
  · obtain ⟨xs, rfl⟩ := hv
    rw [Value.form, Json.str.injEq, and_iff_right ⟨xs, rfl⟩]
    exact eq_comm
  · refine ⟨fun hs => ?_, fun hs => absurd hs.1 hv⟩
    have hpartwise := partwise_form (not_exists.1 hv)
    cases hshape : v.shape with
    | items xs => exact absurd ((hpartwise.of_items hshape).symm.trans hs) Json.noConfusion
    | members ms => exact absurd ((hpartwise.of_members hshape).symm.trans hs) Json.noConfusion
    | plain => exact absurd hshape h

/-! ### Comparison with a conversion part by part -/

/-- Without sorted sets the JSON form is what any conversion part by part gives. -/
theorem form_eq_of_partwise (hf : ∀ v, Partwise f v) (v : Value)
    (h : ∀ path xs, v.at? path ≠ some (.sortedSet xs)) : v.form = f v := by
  induction v using part_induction with
  | h v ih =>
    have hv : Partwise Value.form v :=
      partwise_form fun xs hxs => h [] xs (congrArg some hxs)
    have hpart : ∀ step w, v.part? step = some w → w.form = f w := fun step w hw =>
      ih step w hw fun path xs hat => h (step :: path) xs (by rw [Value.at?_cons, hw]; exact hat)
    cases hshape : v.shape with
    | items xs =>
      rw [hv.of_items hshape, (hf v).of_items hshape]
      refine congrArg Json.arr (List.map_congr_left fun x hx => ?_)
      obtain ⟨step, hstep⟩ := exists_part_of_mem_items hshape hx
      exact hpart step x hstep
    | members ms =>
      rw [hv.of_members hshape, (hf v).of_members hshape]
      refine congrArg Json.obj (List.map_congr_left fun m hm => ?_)
      obtain ⟨step, hstep⟩ := exists_part_of_mem_members hshape hm
      rw [hpart step m.2 hstep]
    | plain => exact ((hf v).of_plain hshape).symm

/-- A sorted set anywhere makes the difference. -/
theorem form_ne_of_sortedSet (hf : ∀ v, Partwise f v) {xs : List Value}
    (h : v.at? path = some (.sortedSet xs)) : v.form ≠ f v := by
  have hset : ∀ ys, (Value.sortedSet ys).form ≠ f (.sortedSet ys) := fun ys => by
    rw [(hf _).of_items rfl, Value.form]
    exact Json.noConfusion
  induction path generalizing v with
  | nil =>
    obtain rfl : v = .sortedSet xs := Option.some.inj h
    exact hset xs
  | cons step path ih =>
    by_cases hv : ∃ ys, v = .sortedSet ys
    · obtain ⟨ys, rfl⟩ := hv
      exact hset ys
    · rw [Value.at?_cons] at h
      obtain ⟨w, hw, hat⟩ := Option.bind_eq_some_iff.1 h
      intro heq
      -- the same step leads to the two forms of one part
      have hpart := (partwise_form (not_exists.1 hv)).part? step
      rw [heq, (hf v).part? step, hw] at hpart
      exact ih hat (Option.some.inj hpart).symm

end Conversion

/-- **The JSON form of a value is made of those of its parts, but for sorted sets.**  If a value is
converted, a collection becomes the array or the object of the forms of its parts unless it is a
sorted set; of all collections only those become a string, which is their text.  At any depth the
form of a part is where the part was, unless it lies in a sorted set, and then there is nothing.  If
a conversion is part by part everywhere, the form of a value is what the conversion gives iff there
is no sorted set at any path of it. -/
theorem json_form_of_parts (f : Value → Json) (hf : ∀ v, Partwise f v) (v : Value) (room : Nat)
    (j : Json) (hj : v.toJson room = .ok j) :
    (v.shape ≠ .plain →
      (v.shape.Builds (fun w i => w.toJson room = .ok i) j ↔ ∀ xs, v ≠ .sortedSet xs) ∧
      ∀ s, j = .str s ↔ (∃ xs, v = .sortedSet xs) ∧ s = v.display) ∧
      (∀ path,
        (¬ v.PassesSortedSet path →
          (∀ w, v.at? path = some w → ∃ i, w.toJson room = .ok i ∧ j.at? path = some i) ∧
          (v.at? path = none → j.at? path = none)) ∧
        (v.PassesSortedSet path → j.at? path = none)) ∧
      (j = f v ↔ ∀ path xs, v.at? path ≠ some (.sortedSet xs)) := by
  obtain rfl := Value.eq_form_of_toJson hj
  refine ⟨fun hshape => ⟨builds_iff hj hshape, form_eq_str_iff hshape⟩,
    fun path => ⟨fun h => ⟨fun w hw => ?_, fun hnone => ?_⟩, at?_form_of_passes⟩,
    fun heq path xs hat => form_ne_of_sortedSet hf hat heq, form_eq_of_partwise hf v⟩
  · exact ⟨w.form, toJson_at hj h hw, by rw [at?_form h, hw]; rfl⟩
  · rw [at?_form h, hnone]
    rfl

namespace Value

mutual

/-- The conversion that is part by part at every value. -/
def toTree : Value → Json
  | .list xs | .tuple xs | .set xs | .frozenSet xs | .sortedSet xs => .arr (toTreeItems xs)
  | .map es | .orderedMap es => .obj (Members.collapse (toTreeMembers es))
  | v => v.form

/-- The conversions of the elements of a collection. -/
def toTreeItems : List Value → List Json
  | [] => []
  | v :: rest => toTree v :: toTreeItems rest

/-- The texts of the keys of a map with the conversions of its values. -/
def toTreeMembers : List (Value × Value) → Members Json
  | [] => []
  | (k, v) :: rest => (display k, toTree v) :: toTreeMembers rest

end

theorem toTreeItems_eq (xs : List Value) : toTreeItems xs = xs.map toTree := by
  induction xs with
  | nil => rfl
  | cons v xs ih => rw [toTreeItems, ih, List.map_cons]

theorem toTreeMembers_eq (es : List (Value × Value)) :
    toTreeMembers es = es.map fun e => (display e.1, toTree e.2) := by
  induction es with
  | nil => rfl
  | cons e es ih => rw [toTreeMembers, ih, List.map_cons]

end Value

theorem partwise_toTree (v : Value) : Partwise Value.toTree v := by
  cases v with
  | list xs | tuple xs | set xs | frozenSet xs | sortedSet xs =>
    exact congrArg Json.arr (Value.toTreeItems_eq xs)
  | map es | orderedMap es =>
    refine congrArg Json.obj ?_
    rw [Value.toTreeMembers_eq]
    exact collapse_displayed Value.toTree es
  | _ => rfl

/-- A map with two keys of one text, of which the first has a sorted set, and with a sorted set in a
list. -/
def sortedSetsInMap : Value :=
  .orderedMap [(.int 1, .sortedSet [.int 3]), (.text "1", .frozenSet [.int 2]),
    (.text "b", .list [.null, .sortedSet [.text "x", .text "y"]])]

theorem json_form_of_sortedSetsInMap :
    ∃ j, (∀ v, Partwise Value.toTree v) ∧ sortedSetsInMap.toJson 990 = .ok j ∧
      j ≠ sortedSetsInMap.toTree ∧
      sortedSetsInMap.shape.Builds (fun w i => w.toJson 990 = .ok i) j ∧
      (∃ i, (Value.frozenSet [.int 2]).toJson 990 = .ok i ∧ j.at? [.member "1"] = some i) ∧
      j.at? [.member "b", .item 1, .item 0] = none := by
  obtain ⟨hcollection, hpaths, htree⟩ :=
    json_form_of_parts Value.toTree partwise_toTree sortedSetsInMap 990 _ rfl
  refine ⟨_, partwise_toTree, rfl, fun h => ?_, ?_, ?_, ?_⟩
  · exact htree.1 h [.member "b", .item 1] [.text "x", .text "y"] rfl
  · exact (hcollection Shape.noConfusion).1.2 fun _ => Value.noConfusion
  · refine ((hpaths _).1 ?_).1 _ rfl
    rw [passesSortedSet_cons_iff]
    rintro (⟨xs, hxs⟩ | ⟨w, -, hpasses⟩)
    · cases hxs
    · exact not_passesSortedSet_nil hpasses
  · exact (hpaths _).2 ⟨[.member "b", .item 1], .item 0, [], [.text "x", .text "y"], rfl, rfl⟩

/-- A sorted set is a collection of its elements and becomes one string. -/
theorem sortedSet_becomes_text :
    (Value.sortedSet [.int 1, .int 2]).shape = .items [.int 1, .int 2] ∧
      (Value.sortedSet [.int 1, .int 2]).toJson 990 = .ok (.str "SortedSet([1, 2])") ∧
      ∀ gives, ¬ (Shape.items [.int 1, .int 2]).Builds gives (.str "SortedSet([1, 2])") :=
  ⟨rfl, rfl, fun _ h => by cases h⟩

end CqlGateway
