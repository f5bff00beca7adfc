import CqlGateway.Proofs.Lookups
import CqlGateway.Proofs.Names

/-!
# Listings and faults

A listing stands or falls with its metadata query.  If the query is answered to its end, what is
listed are the names that its rows hold.  If a fault comes first, there is nothing to list, however
many rows were read before it, and the fault is passed over.  Existence checks go with the listings:
a fault makes them negative.

The older generation reads the columns with two queries.  The second one, of the key columns, is
sent only if the first one was answered, and if it meets a fault the listing is that of the first
one (`listings_of_faults`).
-/

namespace CqlGateway

/-- The answer to a question about the metadata if nothing can be read. -/
def Operation.nothing? : Operation → Option Reply
  | .keyspaces | .tables _ | .activeTables _ | .columns _ | .indexes _ => some (.names [])
  | .keyspaceExists _ | .tableExists _ => some (.found false)
  | .generation | .typeMap _ | .execute _ _ => none

/-- Where the names of a listing are read: a metadata query, and the column that holds them. -/
structure Origin where
  query : MetadataQuery
  column : String

/-- The names that are read, if no fault is met. -/
def Origin.held (o : Origin) (session : Session) : List String :=
  (session o.query.cql).stream.rows.filterMap (heldName? o.column)

/-- The origin of a listing.  The older generation has no metadata of indexes. -/
def Service.origin? (s : Service) : Operation → Option Origin
  | .keyspaces => some ⟨.keyspaces, "keyspace_name"⟩
  | .tables keyspace? => some ⟨.tables (keyspace?.map Identifier.key), "columnfamily_name"⟩
  | .activeTables context =>
    some ⟨.tables (context.keyspace?.map Identifier.key), "columnfamily_name"⟩
  | .columns table? =>
    some ⟨.columns (table?.map Identifier.key) s.limits.result, "column_name"⟩
  | .indexes keyspace? =>
    match s.generation with
    | .v1 => none
    | .v2 => some ⟨.indexes (keyspace?.map Identifier.key), "index_name"⟩
  | _ => none

/-- The question is answered by one metadata query at most: all are but for the columns in the older
generation. -/
def Service.AsksOnce (s : Service) (op : Operation) : Prop :=
  s.generation = .v2 ∨ ∀ table?, op ≠ .columns table?

variable {s : Service} {session : Session} {ex : Executor} {op : Operation} {o : Origin}

/-! ### Lookups -/

/-- The names that the rows of a lookup hold in a column; none without rows. -/
def Listing.listed (c : NameClass) (name : String) :
    Option (List (List Cell)) → List (Identifier c)
  | some rows => Identifier.listing c (column rows name)
  | none => []

theorem result_keyspaces (ex : Executor) :
    (Listing.keyspaces ex).result =
      .ok (Listing.listed .keyspace "keyspace_name" (ex.rows? MetadataQuery.keyspaces.cql)) := by
  rw [Listing.keyspaces, result_executeSilent_bind]
  cases ex.rows? MetadataQuery.keyspaces.cql <;> rfl

theorem result_tables (ex : Executor) (keyspace? : Option Keyspace) :
    (Listing.tables ex keyspace?).result =
      .ok (Listing.listed .table "columnfamily_name"
        (ex.rows? (MetadataQuery.tables (keyspace?.map Identifier.key)).cql)) := by
  rw [Listing.tables, result_executeSilent_bind]
  cases ex.rows? (MetadataQuery.tables (keyspace?.map Identifier.key)).cql <;> rfl

theorem result_indexes (ex : Executor) (keyspace? : Option Keyspace) :
    (Listing.indexes .v2 ex keyspace?).result =
      .ok (Listing.listed .index "index_name"
        (ex.rows? (MetadataQuery.indexes (keyspace?.map Identifier.key)).cql)) := by
  rw [Listing.indexes, result_executeSilent_bind]
  cases ex.rows? (MetadataQuery.indexes (keyspace?.map Identifier.key)).cql <;> rfl

theorem result_columns (ex : Executor) (limit : Nat) (table? : Option Table) :
    (Listing.columns .v2 ex limit table?).result =
      .ok (Listing.listed .column "column_name"
        (ex.rows? (MetadataQuery.columns (table?.map Identifier.key) limit).cql)) := by
  rw [Listing.columns, result_executeSilent_bind]
  cases ex.rows? (MetadataQuery.columns (table?.map Identifier.key) limit).cql <;> rfl

/-- Without the partition keys, the columns of the older generation are those of the first query. -/
theorem result_columns_of_no_keys (ex : Executor) (limit : Nat) (table? : Option Table)
    (h : ex.rows? (MetadataQuery.columns (table?.map Identifier.key) limit).cql = none ∨
      ex.rows? (MetadataQuery.keyAliases (table?.map Identifier.key)).cql = none) :
    (Listing.columns .v1 ex limit table?).result =
      .ok (Listing.listed .column "column_name"
        (ex.rows? (MetadataQuery.columns (table?.map Identifier.key) limit).cql)) := by
  rw [Listing.columns, result_executeSilent_bind]
  cases hrows : ex.rows? (MetadataQuery.columns (table?.map Identifier.key) limit).cql with
  | none => rfl
  | some rows =>
    have haliases := h.resolve_left (by simp [hrows])
    have hkeys : (Listing.partitionKeys ex table?).result = .ok [] := by
      rw [Listing.partitionKeys, result_executeSilent_bind, haliases]
      rfl
    dsimp only
    rw [Outcome.result_bind_of_ok hkeys, List.append_nil, Identifier.listing,
      Identifier.sortedDistinct_sortedDistinct]
    rfl

/-! ### Services -/

/-- A lookup that is answered lists the names that its rows hold. -/
theorem isListing_listed (c : NameClass) {cql : String}
    (h : (session cql).stream.interruption? = none) (column : String) :
    IsListing ((session cql).stream.rows.filterMap (heldName? column))
      (Service.texts (Listing.listed c column ((s.executor session).rows? cql))) := by
  rw [rows?_eq_some (s.executor session) cql h]
  exact isListing_column c column _

/-- The older generation asks for the partition keys only behind an answer. -/
theorem questions_of_columns (session : Session) (hold : s.generation = .v1)
    {table? : Option Table} (hop : s.origin? (.columns table?) = some o) :
    s.questions session (.columns table?) =
      if (session o.query.cql).stream.interruption? = none then
        [o.query, .keyAliases (table?.map Identifier.key)]
      else [o.query] := by
  cases hop
  rw [Service.questions, hold]
  split
  · next hrows =>
    rw [if_pos]
    by_contra hfault
    rw [rows?_eq_none (s.executor session) _ hfault] at hrows
    cases hrows
  · next hrows =>
    rw [if_neg]
    exact fun hfirst => hrows _ rfl (rows?_eq_some (s.executor session) _ hfirst)

/-- A listing asks its origin first, and further questions only behind an answer. -/
theorem questions_of_origin (session : Session) (hop : s.origin? op = some o) :
    ∃ later, s.questions session op = o.query :: later ∧
      (s.AsksOnce op ∨ (session o.query.cql).stream.interruption? ≠ none → later = []) := by
  obtain ⟨g, limits, allowance⟩ := s
  cases op with
  | keyspaces | tables _ | activeTables _ =>
    cases hop
    exact ⟨[], rfl, fun _ => rfl⟩
  | columns table? =>
    cases hop
    cases g with
    | v2 => exact ⟨[], rfl, fun _ => rfl⟩
    | v1 =>
      rw [questions_of_columns session rfl rfl]
      split
      · rename_i hfirst
        refine ⟨_, rfl, fun h => ?_⟩
        rcases h with honce | hfault
        · exact absurd rfl (honce.resolve_left (by simp) table?)
        · exact absurd hfirst hfault
      · exact ⟨[], rfl, fun _ => rfl⟩
  | indexes keyspace? =>
    cases g with
    | v1 => cases hop
    | v2 =>
      cases hop
      exact ⟨[], rfl, fun _ => rfl⟩
  | _ => cases hop

/-- A listing is what its first query finds, if the later ones meet faults. -/
theorem result_perform_of_origin (hop : s.origin? op = some o)
    (hlater : ∀ m ∈ (s.questions session op).tail, (session m.cql).stream.interruption? ≠ none) :
    ∃ c, (s.perform session op).result = .ok (.names (Service.texts
      (Listing.listed c o.column ((s.executor session).rows? o.query.cql)))) := by
  obtain ⟨g, limits, allowance⟩ := s
  cases op with
  | keyspaces =>
    cases hop
    exact ⟨_, Outcome.result_bind_of_ok (result_keyspaces _) _⟩
  | tables keyspace? =>
    cases hop
    exact ⟨_, Outcome.result_bind_of_ok (result_tables _ _) _⟩
  | activeTables context =>
    cases hop
    exact ⟨_, Outcome.result_bind_of_ok (result_tables _ _) _⟩
  | columns table? =>
    cases hop
    cases g with
    | v2 => exact ⟨_, Outcome.result_bind_of_ok (result_columns _ _ _) _⟩
    | v1 =>
      refine ⟨_, Outcome.result_bind_of_ok (result_columns_of_no_keys _ _ _ ?_) _⟩
      rw [Service.questions] at hlater
      cases hrows : (Service.executor ⟨.v1, limits, allowance⟩ session).rows?
          (MetadataQuery.columns (table?.map Identifier.key) limits.result).cql with
      | none => exact .inl rfl
      | some rows =>
        rw [hrows] at hlater
        exact .inr (rows?_eq_none _ _ (hlater _ List.mem_cons_self))
  | indexes keyspace? =>
    cases g with
    | v1 => cases hop
    | v2 =>
      cases hop
      exact ⟨_, Outcome.result_bind_of_ok (result_indexes _ _) _⟩
  | _ => cases hop

/-- The listing that is read before the later queries meet faults. -/
theorem names_of_origin (hop : s.origin? op = some o)
    (hfirst : (session o.query.cql).stream.interruption? = none)
    (hlater : ∀ m ∈ (s.questions session op).tail, (session m.cql).stream.interruption? ≠ none) :
    ∃ names, (s.perform session op).result = .ok (.names names) ∧
      IsListing (o.held session) names := by
  obtain ⟨c, hresult⟩ := result_perform_of_origin hop hlater
  exact ⟨_, hresult, isListing_listed c hfirst o.column⟩

/-- An existence check is negative if its query meets a fault. -/
theorem result_perform_of_check (hop : op.nothing? = some (.found false))
    (hfault : ∀ m ∈ (s.questions session op).head?,
      (session m.cql).stream.interruption? ≠ none) :
    (s.perform session op).result = .ok (.found false) := by
  have hrows : ∀ m ∈ (s.questions session op).head?, (s.executor session).rows? m.cql = none :=
    fun m hm => rows?_eq_none (s.executor session) m.cql (hfault m hm)
  cases op with
  | keyspaceExists keyspace? =>
    cases keyspace? with
    | none => rfl
    | some keyspace =>
      have hall : (Listing.keyspaces (s.executor session)).result = .ok [] := by
        rw [result_keyspaces, hrows _ rfl]
        rfl
      exact Outcome.result_bind_of_ok (Outcome.result_bind_of_ok hall _) _
  | tableExists table? =>
    cases table? with
    | none => rfl
    | some table =>
      have hfound : (Listing.tableExists (s.executor session) (some table)).result = .ok false := by
        rw [Listing.tableExists, result_executeSilent_bind, hrows _ rfl]
        rfl
      exact Outcome.result_bind_of_ok hfound _
  | _ => cases hop

theorem nothing?_of_origin (hop : s.origin? op = some o) : op.nothing? = some (.names []) := by
  cases op <;> first | rfl | cases hop

/-- A fault in the first query leaves nothing, whatever was read before it. -/
theorem result_perform_of_fault {reply : Reply} (hop : op.nothing? = some reply)
    (hfault : ∀ m ∈ (s.questions session op).head?,
      (session m.cql).stream.interruption? ≠ none) :
    (s.perform session op).result = .ok reply := by
  cases horigin : s.origin? op with
  | some o =>
    obtain rfl := Option.some.inj ((nothing?_of_origin horigin).symm.trans hop)
    obtain ⟨later, hquestions, hnone⟩ := questions_of_origin session horigin
    have hfirst : (session o.query.cql).stream.interruption? ≠ none :=
      hfault _ (by rw [hquestions]; rfl)
    have hlater : ∀ m ∈ (s.questions session op).tail,
        (session m.cql).stream.interruption? ≠ none := by
      rw [hquestions, hnone (.inr hfirst)]
      exact fun m hm => absurd hm List.not_mem_nil
    obtain ⟨c, hresult⟩ := result_perform_of_origin horigin hlater
    rw [hresult, rows?_eq_none (s.executor session) _ hfirst]
    rfl
  | none =>
    obtain ⟨g, limits, allowance⟩ := s
    cases op with
    | keyspaceExists _ | tableExists _ =>
      cases hop
      exact result_perform_of_check rfl hfault
    | indexes keyspace? =>
      cases g with
      | v1 =>
        cases hop
        rfl
      | v2 => cases horigin
    | keyspaces | tables _ | activeTables _ | columns _ => cases horigin
    | generation | typeMap _ | execute _ _ => cases hop

theorem texts_perform_of_nothing? {reply : Reply} (hop : op.nothing? = some reply) :
    (s.perform session op).texts = (s.questions session op).map MetadataQuery.cql := by
  rw [texts_perform]
  cases op <;> first | rfl | cases hop

/-- **What can be listed in spite of faults.**  If the first text that a question about the
metadata sends meets a fault, the listing is empty and the existence check negative, and nothing
fails.  A listing that asks once, and is answered, is that of the names in the rows; a row that
holds none is left out.  In the older generation the columns are asked for a second time only
behind an answer, and if that meets a fault they are those of the first query. -/
theorem listings_of_faults (s : Service) (session : Session) :
    (∀ op reply, op.nothing? = some reply →
      (∀ text ∈ (s.perform session op).texts.head?,
        (session text).stream.interruption? ≠ none) →
      (s.perform session op).result = .ok reply) ∧
    (∀ op o, s.origin? op = some o → s.AsksOnce op →
      (s.perform session op).texts = [o.query.cql] ∧
      ((session o.query.cql).stream.interruption? = none →
        ∃ names, (s.perform session op).result = .ok (.names names) ∧
          IsListing (o.held session) names)) ∧
    (s.generation = .v1 → ∀ table? o, s.origin? (.columns table?) = some o →
      let aliases := (MetadataQuery.keyAliases (table?.map Identifier.key)).cql
      (s.perform session (.columns table?)).texts =
        (if (session o.query.cql).stream.interruption? = none then [o.query.cql, aliases]
          else [o.query.cql]) ∧
      ((session o.query.cql).stream.interruption? = none →
        (session aliases).stream.interruption? ≠ none →
        ∃ names, (s.perform session (.columns table?)).result = .ok (.names names) ∧
          IsListing (o.held session) names)) := by
  refine ⟨fun op reply hop hfault => ?_, fun op o hop honce => ?_, fun hold table? o hop => ?_⟩
  · refine result_perform_of_fault hop fun m hm => hfault m.cql ?_
    rw [texts_perform_of_nothing? hop, List.head?_map]
    exact Option.mem_map_of_mem MetadataQuery.cql hm
  · obtain ⟨later, hquestions, hnone⟩ := questions_of_origin session hop
    rw [hnone (.inl honce)] at hquestions
    refine ⟨?_, fun hfirst => names_of_origin hop hfirst ?_⟩
    · rw [texts_perform_of_nothing? (nothing?_of_origin hop), hquestions]
      rfl
    · rw [hquestions]
      exact fun m hm => absurd hm List.not_mem_nil
  · have hquestions := questions_of_columns session hold hop
    refine ⟨?_, fun hfirst haliases => names_of_origin hop hfirst ?_⟩
    · rw [texts_perform_of_nothing? rfl, hquestions, apply_ite (List.map MetadataQuery.cql)]
      rfl
    · rw [hquestions, if_pos hfirst]
      intro m hm
      obtain rfl := List.mem_singleton.1 hm
      exact haliases

/-- A session that lists columns, not all of them by a name, and breaks off every other result
behind its first row. -/
def columnSession : Session := fun cql =>
  if cql = (MetadataQuery.columns none 10).cql then
    .delivered
      { names := ["column_name"]
        rows := [[.text " Id "], [.null], [.int 7], [.text "name"], [.text "ID"], [.text " "]] }
  else
    .delivered
      { names := ["keyspace_name"]
        rows := [[.text "ks"]]
        interruption? := some ⟨.timeout, "page"⟩ }

/-- The columns are listed without the partition keys, and no keyspace is listed. -/
theorem columnSession_lists :
    (twoRowService.perform columnSession .keyspaces).result = .ok (.names []) ∧
    ∃ names, (twoRowService.perform columnSession (.columns none)).result = .ok (.names names) ∧
      IsListing ["Id", "name", "ID"] names := by
  obtain ⟨hnothing, -, hcolumns⟩ := listings_of_faults twoRowService columnSession
  have hkeyspaces : ∀ text ∈ (twoRowService.perform columnSession .keyspaces).texts.head?,
      (columnSession text).stream.interruption? ≠ none := by
    intro text htext
    rw [texts_perform] at htext
    obtain rfl := Option.some.inj htext
    decide
  refine ⟨hnothing .keyspaces _ rfl hkeyspaces, ?_⟩
  exact (hcolumns rfl none _ rfl).2 (by decide) (by decide)

end CqlGateway
