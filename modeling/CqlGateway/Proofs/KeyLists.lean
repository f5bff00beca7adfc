import CqlGateway.Proofs.ColumnTypes
import CqlGateway.Proofs.Existence

/-!
# Columns and the lists of key columns

The two generations differ in how they list columns: the older one lacks the partition keys and adds
those that the rows of the tables list as JSON.  `Extends` says what that makes of the listing of
the newer generation: the union of both by their keys, in strict order.  A listed name keeps its
spelling, and any other one is spelled as the first name in the lists.  The lists of clustering
columns stand in the same rows and add nothing (`columns_of_generations`).
-/

namespace CqlGateway

/-! ### Names in lists -/

theorem not_blank_of_mem_namesOfItems {items : List Json} {name : String}
    (h : name ∈ namesOfItems items) : Text.isBlankText name = false := by
  obtain ⟨item, -, hname⟩ := List.mem_filterMap.1 h
  cases item with
  | str s =>
    dsimp only at hname
    split at hname
    · cases hname
    · next hblank =>
      cases hname
      rw [Text.isBlankText_strip]
      exact Bool.not_eq_true _ ▸ hblank
  | _ => cases hname

theorem not_blank_of_mem_aliases {room : Nat} {v : Value} {name : String}
    (h : name ∈ v.aliases room) : Text.isBlankText name = false := by
  cases v with
  | text s =>
    rw [Value.aliases] at h
    split at h
    · cases h
    · split at h
      · exact not_blank_of_mem_namesOfItems h
      · cases h
  | _ => cases h

/-- The names that rows list in a column. -/
def aliasesIn (room : Nat) (column : String) (rows : List (List Cell)) : List String :=
  rows.flatMap fun row => (valueOf row column).aliases room

theorem aliasesIn_cons (room : Nat) (column : String) (row : List Cell)
    (rest : List (List Cell)) :
    aliasesIn room column (row :: rest) =
      (valueOf row column).aliases room ++ aliasesIn room column rest :=
  List.flatMap_cons

theorem not_blank_of_mem_aliasesIn {room : Nat} {column : String} {rows : List (List Cell)}
    {name : String} (h : name ∈ aliasesIn room column rows) : Text.isBlankText name = false := by
  obtain ⟨row, -, hname⟩ := List.mem_flatMap.1 h
  exact not_blank_of_mem_aliases hname

namespace Identifier

variable {c : NameClass} {listed names : List (Identifier c)} {aliases : List String}

/-- `names` are the listed names and those in `aliases`, which are all accepted: the keys of both in
strict order, where a listed name keeps its spelling and any other one is spelled as the first alias
with its key. -/
structure Extends (listed : List (Identifier c)) (aliases : List String)
    (names : List (Identifier c)) : Prop where
  accepted : ∀ s ∈ aliases, ∃ name, ofValue c (.text s) = .ok name ∧ name.text = s
  ordered : names.Pairwise fun a b => a.key < b.key
  mem_keys_iff : ∀ k, k ∈ names.map key ↔ k ∈ listed.map key ∨ k ∈ aliases.map Text.lower
  keeps_spelling : ∀ name ∈ listed, name ∈ names
  first_alias : ∀ name ∈ names, name.key ∉ listed.map key →
    aliases.find? (fun s => Text.lower s == name.key) = some name.text

/-- Texts that are not blank all become names. -/
theorem text_filterMap_ofText? (c : NameClass)
    (h : ∀ s ∈ aliases, Text.isBlankText s = false) :
    (aliases.filterMap (ofText? c)).map text = aliases := by
  have hsome : ∀ s ∈ aliases, (ofText? c s).map text = some s := by
    intro s hs
    have hname : ofText? c s = some ⟨s, h s hs⟩ := ofText?_eq_some_iff.2 rfl
    rw [hname, Option.map_some]
  rw [List.map_filterMap, List.filterMap_congr hsome, List.filterMap_some]

/-- **To list names together with aliases extends their listing.** -/
theorem extends_sortedDistinct (hlisted : listed.Pairwise fun a b => a.key < b.key)
    (haliases : ∀ s ∈ aliases, Text.isBlankText s = false) :
    Extends listed aliases (sortedDistinct (listed ++ aliases.filterMap (ofText? c))) := by
  have htexts := text_filterMap_ofText? c haliases
  have hkeys : (aliases.filterMap (ofText? c)).map key = aliases.map Text.lower := by
    rw [← congrArg (List.map Text.lower) htexts, List.map_map]
    rfl
  refine ⟨fun s hs => exists_ofValue_text c (haliases s hs), pairwise_sortedDistinct _,
    fun k => ?_, fun name hname => ?_, fun name hname hother => ?_⟩
  · rw [mem_keys_sortedDistinct_iff, List.map_append, List.mem_append, hkeys]
  · -- a listed name is found before any alias
    rw [← sortedDistinct_of_pairwise hlisted, mem_sortedDistinct_iff] at hname
    rw [mem_sortedDistinct_iff, List.find?_append, hname, Option.some_or]
  · have hnone : listed.find? (fun b => b.key == name.key) = none := by
      refine List.find?_eq_none.2 fun b hb hkey => hother ?_
      exact eq_of_beq hkey ▸ List.mem_map_of_mem hb
    rw [mem_sortedDistinct_iff, List.find?_append, hnone, Option.none_or] at hname
    rw [← htexts, List.find?_map]
    exact congrArg (Option.map text) hname

end Identifier

/-! ### Columns of both generations -/

variable {ex : Executor} {room limit : Nat} {table? : Option Table} {rows : List (List Cell)}

theorem result_partitionKeyNames
    (h : ∀ row ∈ rows, (valueOf row "key_aliases").Readable room) :
    (Listing.partitionKeyNames room rows).result =
      .ok ((aliasesIn room "key_aliases" rows).filterMap (Identifier.ofText? .column)) := by
  induction rows with
  | nil => rfl
  | cons row rest ih =>
    have hrow := result_readAliases (h row List.mem_cons_self)
    have hrest := ih fun row hrow => h row (List.mem_cons_of_mem _ hrow)
    rw [Listing.partitionKeyNames, Outcome.result_bind_of_ok hrow,
      Outcome.result_bind_of_ok hrest, aliasesIn_cons, List.filterMap_append]
    rfl

theorem result_partitionKeys
    (hanswer : ex.rows? (MetadataQuery.keyAliases (table?.map Identifier.key)).cql = some rows)
    (h : ∀ row ∈ rows, (valueOf row "key_aliases").Readable ex.room) :
    (Listing.partitionKeys ex table?).result =
      .ok ((aliasesIn ex.room "key_aliases" rows).filterMap (Identifier.ofText? .column)) := by
  rw [Listing.partitionKeys, result_executeSilent_bind, hanswer]
  exact result_partitionKeyNames h

/-- **The columns of the older generation extend those of the newer one** by the partition keys that
the rows of the tables list, if both metadata queries are answered and the lists can be read. -/
theorem columns_of_generations (ex : Executor) (limit : Nat) (table? : Option Table)
    {columnRows tableRows : List (List Cell)}
    (hcolumns : ex.rows? (MetadataQuery.columns (table?.map Identifier.key) limit).cql =
      some columnRows)
    (htables : ex.rows? (MetadataQuery.keyAliases (table?.map Identifier.key)).cql =
      some tableRows)
    (hread : ∀ row ∈ tableRows, (valueOf row "key_aliases").Readable ex.room) :
    ∃ newer older, (Listing.columns .v2 ex limit table?).result = .ok newer ∧
      (Listing.columns .v1 ex limit table?).result = .ok older ∧
      Identifier.Extends newer (aliasesIn ex.room "key_aliases" tableRows) older := by
  have hnewer := result_columns ex limit table?
  rw [hcolumns] at hnewer
  have hblank : ∀ name ∈ aliasesIn ex.room "key_aliases" tableRows, Text.isBlankText name = false :=
    fun name hname => not_blank_of_mem_aliasesIn hname
  have hextends := Identifier.extends_sortedDistinct
    (Identifier.pairwise_sortedDistinct
      (Identifier.named .column (Listing.column columnRows "column_name"))) hblank
  refine ⟨_, _, hnewer, ?_, hextends⟩
  rw [Listing.columns, result_executeSilent_bind, hcolumns]
  dsimp only
  rw [Outcome.result_bind_of_ok (result_partitionKeys htables hread)]
  rfl

/-- A session with the columns of a table, whose partition keys are listed twice. -/
def listedSession : Session := fun cql =>
  if cql = (MetadataQuery.columns none 10).cql then
    .delivered { names := ["column_name"], rows := [[.text "id"], [.text "note"]] }
  else
    .delivered
      { names := ["key_aliases", "column_aliases"]
        rows := [[.text "[\"ID\", \"Day\"]", .text "[\"at\"]"], [.null, .null]] }

/-- Of the partition keys one is listed already and the other one is added; the clustering column is
not. -/
theorem listedSession_extends :
    ∃ newer older,
      (Listing.columns .v2 ⟨⟨120, 990⟩, listedSession⟩ 10 none).result = .ok newer ∧
      (Listing.columns .v1 ⟨⟨120, 990⟩, listedSession⟩ 10 none).result = .ok older ∧
      Identifier.Extends newer ["ID", "Day"] older := by
  have hread : Json.readText 990 "[\"ID\", \"Day\"]" = .ok (.arr [.str "ID", .str "Day"]) := by rfl
  have hreadable : ∀ row ∈ (listedSession (MetadataQuery.keyAliases none).cql).stream.rows,
      (valueOf row "key_aliases").Readable 990 := by
    intro row hrow
    have hother : (MetadataQuery.keyAliases none).cql ≠ (MetadataQuery.columns none 10).cql := by
      decide
    rw [listedSession, if_neg hother] at hrow
    rcases List.mem_cons.1 hrow with rfl | hrow
    · exact Value.readable_of_readText hread
    · obtain rfl := List.mem_singleton.1 hrow
      exact .inl rfl
  exact columns_of_generations ⟨⟨120, 990⟩, listedSession⟩ 10 none
    (rows?_eq_some _ _ (by decide)) (rows?_eq_some _ _ (by decide)) hreadable

end CqlGateway
