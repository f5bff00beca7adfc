import CqlGateway.Proofs.Listings

/-!
# Names among values and existence checks

A listing is made of values of any kind.  The texts among them that are not blank name something,
and what they name is always accepted, since the blanks around it are taken off.  `NamesOf` says
what is listed: the keys of these texts in strict order, each in the spelling that came first.  If
the values come in another order, only the spelling may change (`keys_listing_of_perm`).

An existence check looks a name up among all that is listed, up to case.  So a keyspace exists iff a
row of the metadata table names it, and every keyspace that is listed exists (`listing_of_values`).
-/

namespace CqlGateway

namespace Identifier

variable {c : NameClass} {values values' : List Value} {a : Identifier c} {s : String}

/-- `names` are the names of the values: every text that is not blank names something, the keys of
the names are those of these texts, in strict order, and each name is spelled as the first text with
its key, without the blanks around it. -/
structure NamesOf (values : List Value) (names : List (Identifier c)) : Prop where
  accepted : ∀ s, .text s ∈ values → Text.isBlankText s = false →
    ∃ name, ofValue c (.text (Text.strip s)) = .ok name
  ordered : names.Pairwise fun a b => a.key < b.key
  mem_keys_iff : ∀ k, k ∈ names.map key ↔
    ∃ s, .text s ∈ values ∧ Text.isBlankText s = false ∧ Text.lower (Text.strip s) = k
  first_spelling : ∀ name ∈ names, ∃ before s after, values = before ++ .text s :: after ∧
    Text.strip s = name.text ∧ ∀ t, .text t ∈ before → Text.lower (Text.strip t) ≠ name.key

/-! ### Names of values -/

theorem ofText?_eq_some_iff : ofText? c s = some a ↔ a.text = s := by
  rw [ofText?]
  split
  · next h =>
    constructor
    · rintro ⟨⟩
      rfl
    · rintro rfl
      rfl
  · next h =>
    constructor
    · rintro ⟨⟩
    · rintro rfl
      exact absurd a.not_blank h

theorem exists_ofValue_text (c : NameClass) (h : Text.isBlankText s = false) :
    ∃ name, ofValue c (.text s) = .ok name ∧ name.text = s := by
  have hname : ofText? c s = some ⟨s, h⟩ := ofText?_eq_some_iff.2 rfl
  exact ⟨⟨s, h⟩, by rw [ofValue, Value.text?, Option.bind_some, hname], rfl⟩

/-- A value names something iff it is a text that leaves it when the blanks around are taken off. -/
theorem name_of_value_iff {v : Value} :
    (v.text?.bind fun s => ofText? c (Text.strip s)) = some a ↔
      ∃ s, v = .text s ∧ Text.strip s = a.text := by
  constructor
  · intro h
    obtain ⟨s, hs, hname⟩ := Option.bind_eq_some_iff.1 h
    have htext : a.text = Text.strip s := ofText?_eq_some_iff.1 hname
    cases v with
    | text t =>
      cases hs
      exact ⟨s, rfl, htext.symm⟩
    | _ => cases hs
  · rintro ⟨s, rfl, htext⟩
    rw [Value.text?, Option.bind_some, ofText?_eq_some_iff]
    exact htext.symm

theorem key_ne_empty (a : Identifier c) : a.key ≠ "" := by
  intro hempty
  have htext : a.text = "" := Text.lower_eq_empty_iff.1 hempty
  have hnot := a.not_blank
  rw [htext] at hnot
  cases hnot

/-- A text with the key of a name is not blank. -/
theorem not_blank_of_key_eq (h : Text.lower (Text.strip s) = a.key) :
    Text.isBlankText s = false := by
  by_contra hblank
  rw [Bool.not_eq_false, ← Text.strip_eq_empty_iff] at hblank
  rw [hblank] at h
  exact a.key_ne_empty h.symm

theorem mem_keys_named_iff {k : String} :
    k ∈ (named c values).map key ↔
      ∃ s, .text s ∈ values ∧ Text.isBlankText s = false ∧ Text.lower (Text.strip s) = k := by
  rw [List.mem_map]
  constructor
  · rintro ⟨a, ha, rfl⟩
    obtain ⟨v, hv, hname⟩ := List.mem_filterMap.1 ha
    obtain ⟨s, rfl, htext⟩ := name_of_value_iff.1 hname
    have hblank : Text.isBlankText s = false := by
      rw [← Text.isBlankText_strip, htext]
      exact a.not_blank
    exact ⟨s, hv, hblank, by rw [htext, key]⟩
  · rintro ⟨s, hs, hblank, rfl⟩
    rw [← Text.isBlankText_strip] at hblank
    refine ⟨⟨Text.strip s, hblank⟩, List.mem_filterMap.2 ⟨.text s, hs, ?_⟩, rfl⟩
    exact name_of_value_iff.2 ⟨s, rfl, rfl⟩

/-- A listed name is spelled as the first text with its key. -/
theorem first_of_mem_listing (h : a ∈ listing c values) :
    ∃ before s after, values = before ++ .text s :: after ∧ Text.strip s = a.text ∧
      ∀ t, .text t ∈ before → Text.lower (Text.strip t) ≠ a.key := by
  have hfind : (named c values).find? (fun b => b.key == a.key) = some a :=
    mem_sortedDistinct_iff.1 h
  rw [named, List.find?_filterMap] at hfind
  obtain ⟨v, hv, hname⟩ := Option.bind_eq_some_iff.1 hfind
  obtain ⟨s, rfl, htext⟩ := name_of_value_iff.1 hname
  obtain ⟨-, before, after, hsplit, hbefore⟩ := List.find?_eq_some_iff_append.1 hv
  refine ⟨before, s, after, hsplit, htext, fun t ht hkey => ?_⟩
  -- a text with the key of `a` would have been found before
  have hblank : Text.isBlankText (Text.strip t) = false := by
    rw [Text.isBlankText_strip]
    exact not_blank_of_key_eq hkey
  have hname : ((Value.text t).text?.bind fun s => ofText? c (Text.strip s)) =
      some ⟨Text.strip t, hblank⟩ := name_of_value_iff.2 ⟨t, rfl, rfl⟩
  have hfound := hbefore _ ht
  rw [hname, Option.any_some, Bool.not_eq_true', beq_eq_false_iff_ne] at hfound
  exact hfound hkey

/-- **A listing holds the names of its values.** -/
theorem namesOf_listing (c : NameClass) (values : List Value) :
    NamesOf values (listing c values) where
  accepted s _ hblank := by
    rw [← Text.isBlankText_strip] at hblank
    obtain ⟨name, hname, -⟩ := exists_ofValue_text c hblank
    exact ⟨name, hname⟩
  ordered := pairwise_sortedDistinct _
  mem_keys_iff _ := mem_keys_sortedDistinct_iff.trans mem_keys_named_iff
  first_spelling _ h := first_of_mem_listing h

theorem keys_listing_of_perm (c : NameClass) (h : values.Perm values') :
    (listing c values').map key = (listing c values).map key :=
  keys_sortedDistinct_of_perm (h.filterMap _)

end Identifier

/-! ### Existence checks -/

/-- The keyspaces that are looked up in an existence check. -/
theorem result_keyspaceExists (ex : Executor) (k : Keyspace) :
    (Listing.keyspaceExists ex (some k)).result =
      .ok ((Listing.listed .keyspace "keyspace_name"
        (ex.rows? MetadataQuery.keyspaces.cql)).any k.same) :=
  Outcome.result_bind_of_ok (result_keyspaces ex) _

theorem any_same_iff {c : NameClass} {names : List (Identifier c)} {a : Identifier c} :
    names.any a.same = true ↔ a.key ∈ names.map Identifier.key := by
  rw [List.any_eq_true, List.mem_map]
  constructor
  · rintro ⟨b, hb, hsame⟩
    exact ⟨b, hb, (eq_of_beq hsame).symm⟩
  · rintro ⟨b, hb, hkey⟩
    exact ⟨b, hb, beq_iff_eq.2 hkey.symm⟩

/-- **A keyspace exists iff a row names it**, up to case and without the blanks around the name. -/
theorem result_keyspaceExists_of_answer {ex : Executor}
    (h : (ex.stream MetadataQuery.keyspaces.cql).interruption? = none) (k : Keyspace) :
    ∃ found, (Listing.keyspaceExists ex (some k)).result = .ok found ∧
      (found = true ↔ ∃ row ∈ (ex.stream MetadataQuery.keyspaces.cql).rows, ∃ s,
        valueOf row "keyspace_name" = .text s ∧ Text.lower (Text.strip s) = k.key) := by
  refine ⟨_, result_keyspaceExists ex k, ?_⟩
  rw [rows?_eq_some ex _ h, Listing.listed, any_same_iff, Identifier.listing,
    Identifier.mem_keys_sortedDistinct_iff, Identifier.mem_keys_named_iff]
  constructor
  · rintro ⟨s, hs, -, hkey⟩
    obtain ⟨row, hrow, hvalue⟩ := List.mem_map.1 hs
    exact ⟨row, hrow, s, hvalue, hkey⟩
  · rintro ⟨row, hrow, s, hvalue, hkey⟩
    refine ⟨s, List.mem_map.2 ⟨row, hrow, hvalue⟩, ?_, hkey⟩
    exact Identifier.not_blank_of_key_eq hkey

/-- **What is listed exists.**  A listing holds the names of its values, and its keys do not depend
on their order.  If the keyspaces can be read, then an existence check finds every keyspace that is
listed, and it finds a name iff a row holds a text that is this name, up to case and the blanks
around it. -/
theorem listing_of_values :
    (∀ (c : NameClass) (values : List Value),
      Identifier.NamesOf values (Identifier.listing c values) ∧
      ∀ values' : List Value, values.Perm values' →
        (Identifier.listing c values').map Identifier.key =
          (Identifier.listing c values).map Identifier.key) ∧
    ∀ ex : Executor, (ex.stream MetadataQuery.keyspaces.cql).interruption? = none →
      (∃ all, (Listing.keyspaces ex).result = .ok all ∧
        ∀ k ∈ all, (Listing.keyspaceExists ex (some k)).result = .ok true) ∧
      ∀ k : Keyspace, ∃ found, (Listing.keyspaceExists ex (some k)).result = .ok found ∧
        (found = true ↔ ∃ row ∈ (ex.stream MetadataQuery.keyspaces.cql).rows, ∃ s,
          valueOf row "keyspace_name" = .text s ∧ Text.lower (Text.strip s) = k.key) := by
  refine ⟨fun c values => ⟨Identifier.namesOf_listing c values, fun values' hperm => ?_⟩,
    fun ex h => ⟨⟨_, result_keyspaces ex, fun k hk => ?_⟩, result_keyspaceExists_of_answer h⟩⟩
  · exact Identifier.keys_listing_of_perm c hperm
  · rw [result_keyspaceExists, any_same_iff.2 (List.mem_map_of_mem hk)]

/-- A session with two spellings of one keyspace, and with rows that name none. -/
def keyspaceSession : Session := fun _ =>
  .delivered
    { names := ["keyspace_name"]
      rows := [[.text " Shop "], [.null], [.text "beta"], [.text "  "], [.int 7], [.text "SHOP"]] }

/-- The keyspace is found in a third spelling. -/
theorem keyspaceSession_has_shop :
    (Listing.keyspaceExists ⟨⟨120, 990⟩, keyspaceSession⟩ (some ⟨"sHop", by decide⟩)).result =
      .ok true := by
  obtain ⟨-, hchecks⟩ := listing_of_values
  obtain ⟨-, hexists⟩ := hchecks ⟨⟨120, 990⟩, keyspaceSession⟩ rfl
  obtain ⟨found, hfound, hiff⟩ := hexists ⟨"sHop", by decide⟩
  rw [hfound, hiff.2]
  exact ⟨_, List.mem_cons_self, " Shop ", rfl, by decide⟩

end CqlGateway
