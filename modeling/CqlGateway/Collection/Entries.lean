import CqlGateway.Collection.Distinct

/-!
# Entries in order

Keys with values, in the order in which the keys came first.  `put` gives a key a value: in place if
there is the same key already, which then keeps its first form, and at the end if there is none.
-/

namespace CqlGateway.Entries

variable {κ α : Type}

/-- Gives a key a value. -/
def put (same : κ → κ → Bool) (key : κ) (value : α) : List (κ × α) → List (κ × α)
  | [] => [(key, value)]
  | (k, v) :: rest =>
    if same k key then (k, value) :: rest else (k, v) :: put same key value rest

/-- The entries that arise when keys are given values one after the other. -/
def ofPairs (same : κ → κ → Bool) (pairs : List (κ × α)) : List (κ × α) :=
  pairs.foldl (fun done p => put same p.1 p.2 done) []

/-- The value of a key. -/
def find? (same : κ → κ → Bool) (key : κ) (entries : List (κ × α)) : Option α :=
  (entries.find? fun e => same e.1 key).map (·.2)

/-- What was put is found again, and nothing else is touched. -/
theorem find?_put [DecidableEq κ] (key other : κ) (value : α) (es : List (κ × α)) :
    find? (· == ·) other (put (· == ·) key value es) =
      if key = other then some value else find? (· == ·) other es := by
  induction es with
  | nil => by_cases h : key = other <;> simp [put, find?, h]
  | cons e es ih =>
    obtain ⟨k, v⟩ := e
    by_cases h : k = key
    · subst h
      by_cases h' : k = other <;> simp [put, find?, h']
    · by_cases h' : k = other
      · subst h'
        have hne : ¬ key = k := fun e => h e.symm
        simp [put, find?, h, hne]
      · simpa [put, find?, h, h'] using ih

/-! ### Entries made of pairs -/

section OfPairs

variable [DecidableEq κ]

theorem mem_keys_put {key k : κ} {value : α} {es : List (κ × α)} :
    k ∈ (put (· == ·) key value es).map (·.1) ↔ k = key ∨ k ∈ es.map (·.1) := by
  induction es with
  | nil => simp [put]
  | cons e es ih =>
    by_cases h : e.1 = key
    · simp [put, h]
    · rw [put, if_neg (by simpa using h), List.map_cons, List.map_cons, List.mem_cons,
        List.mem_cons, ih]
      exact or_left_comm

/-- Putting keeps the keys distinct. -/
theorem nodup_keys_put {key : κ} {value : α} {es : List (κ × α)} (h : (es.map (·.1)).Nodup) :
    ((put (· == ·) key value es).map (·.1)).Nodup := by
  induction es with
  | nil => simp [put]
  | cons e es ih =>
    obtain ⟨hnew, hes⟩ := List.nodup_cons.1 h
    by_cases he : e.1 = key
    · rw [put, if_pos (by simpa using he)]
      exact List.nodup_cons.2 ⟨hnew, hes⟩
    · rw [put, if_neg (by simpa using he), List.map_cons]
      refine List.nodup_cons.2 ⟨fun hmem => ?_, ih hes⟩
      rcases mem_keys_put.1 hmem with rfl | hold
      · exact he rfl
      · exact hnew hold

theorem nodup_keys_foldl_put (pairs es : List (κ × α)) (h : (es.map (·.1)).Nodup) :
    ((pairs.foldl (fun done p => put (· == ·) p.1 p.2 done) es).map (·.1)).Nodup := by
  induction pairs generalizing es with
  | nil => exact h
  | cons p pairs ih => exact ih _ (nodup_keys_put h)

theorem nodup_keys_ofPairs (pairs : List (κ × α)) :
    ((ofPairs (· == ·) pairs).map (·.1)).Nodup :=
  nodup_keys_foldl_put pairs [] List.nodup_nil

theorem find?_append (key : κ) (es es' : List (κ × α)) :
    find? (· == ·) key (es ++ es') = (find? (· == ·) key es).or (find? (· == ·) key es') := by
  rw [find?, List.find?_append, Option.map_or]
  rfl

theorem find?_foldl_put (key : κ) (pairs es : List (κ × α)) :
    find? (· == ·) key (pairs.foldl (fun done p => put (· == ·) p.1 p.2 done) es) =
      (find? (· == ·) key pairs.reverse).or (find? (· == ·) key es) := by
  induction pairs generalizing es with
  | nil => rfl
  | cons p pairs ih =>
    rw [List.foldl_cons, ih, find?_put, List.reverse_cons, find?_append, Option.or_assoc]
    by_cases h : p.1 = key <;> simp [find?, h]

/-- Of the pairs of a key the last one counts. -/
theorem find?_ofPairs (key : κ) (pairs : List (κ × α)) :
    find? (· == ·) key (ofPairs (· == ·) pairs) = find? (· == ·) key pairs.reverse := by
  rw [ofPairs, find?_foldl_put]
  exact Option.or_none

/-- Entries with distinct keys may be searched from either end. -/
theorem find?_reverse (key : κ) {es : List (κ × α)} (h : (es.map (·.1)).Nodup) :
    find? (· == ·) key es.reverse = find? (· == ·) key es := by
  induction es with
  | nil => rfl
  | cons e es ih =>
    obtain ⟨hnew, hes⟩ := List.nodup_cons.1 h
    rw [List.reverse_cons, find?_append, ih hes]
    by_cases he : e.1 = key
    · -- the entry in front is the only one of its key
      have hnone : find? (· == ·) key es = none := by
        rw [find?, Option.map_eq_none_iff, List.find?_eq_none]
        intro e' he' hkey
        exact hnew (List.mem_map.2 ⟨e', he', (eq_of_beq hkey).trans he.symm⟩)
      rw [hnone]
      simp [find?, he]
    · simp [find?, he]

/-- Of entries with distinct keys each is found by its key. -/
theorem find?_of_mem {e : κ × α} {es : List (κ × α)} (h : (es.map (·.1)).Nodup) (he : e ∈ es) :
    find? (· == ·) e.1 es = some e.2 := by
  induction es with
  | nil => cases he
  | cons e' es ih =>
    obtain ⟨hnew, hes⟩ := List.nodup_cons.1 h
    rcases List.mem_cons.1 he with rfl | he
    · simp [find?]
    · have hne : e'.1 ≠ e.1 := fun hkey => hnew (List.mem_map.2 ⟨e, he, hkey.symm⟩)
      rw [← ih hes he, find?, List.find?_cons_of_neg (by simpa using hne)]
      rfl

end OfPairs

/-! ### Entries with other values -/

section Values

variable {β : Type} (same : κ → κ → Bool) (f : α → β)

theorem find?_mapValues (key : κ) (es : List (κ × α)) :
    find? same key (es.map fun e => (e.1, f e.2)) = (find? same key es).map f := by
  rw [find?, find?, List.find?_map, Option.map_map, Option.map_map]
  rfl

theorem put_mapValues (key : κ) (value : α) (es : List (κ × α)) :
    put same key (f value) (es.map fun e => (e.1, f e.2)) =
      (put same key value es).map fun e => (e.1, f e.2) := by
  induction es with
  | nil => rfl
  | cons e es ih =>
    by_cases h : same e.1 key = true
    · simp [put, h]
    · simp [put, h, ih]

/-- Where the keys go does not depend on the values. -/
theorem ofPairs_mapValues (pairs : List (κ × α)) :
    ofPairs same (pairs.map fun p => (p.1, f p.2)) =
      (ofPairs same pairs).map fun e => (e.1, f e.2) := by
  have hfoldl : ∀ es : List (κ × α),
      (pairs.map fun p => (p.1, f p.2)).foldl (fun done p => put same p.1 p.2 done)
          (es.map fun e => (e.1, f e.2)) =
        (pairs.foldl (fun done p => put same p.1 p.2 done) es).map fun e => (e.1, f e.2) := by
    induction pairs with
    | nil => exact fun _ => rfl
    | cons p pairs ih =>
      intro es
      rw [List.map_cons, List.foldl_cons, List.foldl_cons, ← ih, ← put_mapValues]
  exact hfoldl []

end Values

/-! ### Entries made of a list of keys -/

section Table

variable {same : κ → κ → Bool} {f : κ → α} {key : κ} {ks : List κ}

theorem find?_map_of_absent (h : ∀ k ∈ ks, same k key = false) :
    find? same key (ks.map fun k => (k, f k)) = none := by
  simp only [find?, Option.map_eq_none_iff, List.find?_eq_none, List.mem_map]
  rintro _ ⟨k, hk, rfl⟩
  simp [h k hk]

theorem find?_map_of_present {value : α} (h : ∃ k ∈ ks, same k key = true)
    (hf : ∀ k ∈ ks, same k key = true → f k = value) :
    find? same key (ks.map fun k => (k, f k)) = some value := by
  obtain ⟨k, hk, hs⟩ := h
  have hfind : ((ks.map fun k => (k, f k)).find? fun e => same e.1 key).isSome := by
    simp only [List.find?_isSome, List.mem_map]
    exact ⟨_, ⟨k, hk, rfl⟩, hs⟩
  obtain ⟨e, he⟩ := Option.isSome_iff_exists.1 hfind
  obtain ⟨k', hk', rfl⟩ := List.mem_map.1 (List.mem_of_find?_eq_some he)
  have hs' : same k' key = true := by simpa using List.find?_some he
  rw [find?, he, Option.map_some, hf k' hk' hs']

/-- A new key goes to the end. -/
theorem put_map_of_absent (value : α) (h : ∀ k ∈ ks, same k key = false) :
    put same key value (ks.map fun k => (k, f k)) =
      (ks.map fun k => (k, f k)) ++ [(key, value)] := by
  induction ks with
  | nil => rfl
  | cons k ks ih =>
    have hk : same k key = false := h k List.mem_cons_self
    have hks := ih fun k' hk' => h k' (List.mem_cons_of_mem _ hk')
    simp [put, hk, hks]

/-- A key that is there already keeps its place and its form. -/
theorem put_map_of_present (value : α) (h : ∃ k ∈ ks, same k key = true)
    (hone : ks.Pairwise fun a b => same a key = true → same b key = false) :
    put same key value (ks.map fun k => (k, f k)) =
      ks.map fun k => (k, if same k key then value else f k) := by
  induction ks with
  | nil => simp at h
  | cons k ks ih =>
    obtain ⟨hk, hks⟩ := List.pairwise_cons.1 hone
    cases hs : same k key with
    | true =>
      have hrest : (ks.map fun k => (k, f k)) =
          ks.map fun k => (k, if same k key then value else f k) :=
        List.map_congr_left fun b hb => by simp [hk b hb hs]
      simp [put, hs, hrest]
    | false =>
      have hrest : ∃ k ∈ ks, same k key = true := by simpa [hs] using h
      simp [put, hs, ih hrest hks]

end Table

end CqlGateway.Entries
