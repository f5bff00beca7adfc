import CqlGateway.Proofs.Execution

/-!
# The texts that are sent

Every question of a client sends a known list of texts: first its own text, if it is a query, and
then metadata queries (`texts_perform`).  The version of the store is in none of these lists, and no
other metadata query has its text (`eq_release_of_cql`).
-/

namespace CqlGateway

variable {α β : Type} {x : Outcome α} {f : α → Outcome β} {s : Service} {session : Session}
  {ex : Executor} {q : Query} {m : MetadataQuery}

/-! ### Outcomes -/

/-- The texts that were sent, in order. -/
def Outcome.texts (x : Outcome α) : List String :=
  x.statements.map Statement.cql

theorem texts_bind_of_silent (h : ∀ a, (f a).texts = []) : (x >>= f).texts = x.texts := by
  cases hx : x.result with
  | error e => rw [Outcome.bind_of_error hx]; rfl
  | ok a =>
    have ha := h a
    rw [Outcome.texts] at ha
    rw [Outcome.bind_of_ok hx, Outcome.texts, List.map_append, ha, List.append_nil, Outcome.texts]

/-- The rows of a lookup that meets no fault. -/
def Executor.rows? (ex : Executor) (cql : String) : Option (List (List Cell)) :=
  match (ex.stream cql).interruption? with
  | none => some (ex.stream cql).rows
  | some _ => none

theorem result_executeSilent (ex : Executor) (cql : String) :
    (ex.executeSilent cql).result = .ok (ex.rows? cql) := by
  cases hf : (ex.stream cql).interruption? <;>
    simp only [Executor.executeSilent, Executor.rows?, hf]

theorem result_executeSilent_bind (ex : Executor) (cql : String)
    (f : Option (List (List Cell)) → Outcome β) :
    (ex.executeSilent cql >>= f).result = (f (ex.rows? cql)).result :=
  Outcome.result_bind_of_ok (result_executeSilent ex cql) f

/-- The rows that are handed over are all rows of an answer that ends without a fault. -/
theorem rows?_eq_some_iff {ex : Executor} {cql : String} {rows : List (List Cell)} :
    ex.rows? cql = some rows ↔
      (ex.stream cql).interruption? = none ∧ (ex.stream cql).rows = rows := by
  rw [Executor.rows?]
  cases (ex.stream cql).interruption? <;> simp

theorem rows?_eq_some (ex : Executor) (cql : String) (h : (ex.stream cql).interruption? = none) :
    ex.rows? cql = some (ex.stream cql).rows :=
  rows?_eq_some_iff.2 ⟨h, rfl⟩

theorem rows?_eq_none (ex : Executor) (cql : String) (h : (ex.stream cql).interruption? ≠ none) :
    ex.rows? cql = none := by
  obtain ⟨f, hf⟩ := Option.ne_none_iff_exists'.1 h
  rw [Executor.rows?, hf]

theorem texts_executeSilent (ex : Executor) (cql : String) :
    (ex.executeSilent cql).texts = [cql] := by
  cases hf : (ex.stream cql).interruption? <;> simp only [Executor.executeSilent, hf] <;> rfl

theorem texts_executeSilent_bind (ex : Executor) (cql : String)
    (f : Option (List (List Cell)) → Outcome β) :
    (ex.executeSilent cql >>= f).texts = cql :: (f (ex.rows? cql)).texts := by
  rw [Outcome.bind_of_ok (result_executeSilent ex cql), Outcome.texts, List.map_append]
  exact congrArg (· ++ _) (texts_executeSilent ex cql)

/-! ### Metadata queries -/

/-- A character of a text that is written out. -/
theorem getElem?_of_eq_ofList {text : String} {cs : List Char} {i : Nat} {c : Char}
    (htext : text = String.ofList cs) (hcs : cs[i]? = some c) : text.toList[i]? = some c := by
  rw [htext, String.toList_ofList, hcs]

/-- The eighth character of its front tells the query of the version from the others. -/
theorem exists_getElem?_front (m : MetadataQuery) :
    ∃ c, m.front.toList[7]? = some c ∧ (c = 'r' → m = .release) := by
  cases m with
  | release => exact ⟨'r', getElem?_of_eq_ofList rfl rfl, fun _ => rfl⟩
  | keyspaces => exact ⟨'k', getElem?_of_eq_ofList rfl rfl, fun h => absurd h (by decide)⟩
  | indexes name? =>
    cases name? <;> exact ⟨'i', getElem?_of_eq_ofList rfl rfl, fun h => absurd h (by decide)⟩
  | tables name? | columns name? _ =>
    cases name? <;> exact ⟨'c', getElem?_of_eq_ofList rfl rfl, fun h => absurd h (by decide)⟩
  | tablesNamed table | columnTypes table =>
    exact ⟨'c', getElem?_of_eq_ofList rfl rfl, fun h => absurd h (by decide)⟩
  | keyAliases name? =>
    refine ⟨'c', ?_, fun h => absurd h (by decide)⟩
    cases name? with
    | none => exact getElem?_of_eq_ofList rfl rfl
    | some name =>
      -- the front is written in two parts, which have to be joined first
      unfold MetadataQuery.front
      dsimp only [String.reduceAppend]
      exact getElem?_of_eq_ofList rfl rfl

theorem getElem?_cql {i : Nat} {c : Char} (h : m.front.toList[i]? = some c) :
    m.cql.toList[i]? = some c := by
  obtain ⟨hlen, -⟩ := List.getElem?_eq_some_iff.1 h
  rw [MetadataQuery.cql, String.toList_append, String.toList_append, List.append_assoc,
    List.getElem?_append_left hlen, h]

/-- **Only the query of the version has its text.** -/
theorem eq_release_of_cql (h : m.cql = MetadataQuery.release.cql) : m = .release := by
  -- a text begins with its front, whatever name it holds
  obtain ⟨c, hc, hrelease⟩ := exists_getElem?_front m
  have hr : MetadataQuery.release.cql.toList[7]? = some 'r' :=
    getElem?_cql (getElem?_of_eq_ofList rfl rfl)
  rw [← h, getElem?_cql hc] at hr
  exact hrelease (Option.some.inj hr)

/-! ### Names in metadata cells -/

theorem texts_readAliases (room : Nat) (v : Value) : (readAliases room v).texts = [] := by
  unfold readAliases
  split
  · rfl
  split
  · rfl
  split
  · rfl
  split <;> rfl

theorem texts_addAliases (room : Nat) (types : TypeMap) (row : List Cell) :
    (types.addAliases room row).texts = [] := by
  unfold TypeMap.addAliases
  rw [texts_bind_of_silent fun _ => ?_, texts_readAliases]
  rw [texts_bind_of_silent fun _ => rfl, texts_readAliases]

theorem texts_readColumnType (v : Value) : (readColumnType v).texts = [] := by
  unfold readColumnType
  extract_lets type?
  clear_value type?
  rcases type? with e | _ | type <;> rfl

theorem texts_addColumn (types : TypeMap) (row : List Cell) :
    (types.addColumn row).texts = [] := by
  unfold TypeMap.addColumn
  rw [texts_bind_of_silent fun type => ?_]
  · rfl
  rw [texts_bind_of_silent fun name => ?_]
  · rfl
  split
  · rw [texts_bind_of_silent fun _ => ?_, texts_readColumnType]
    rw [texts_bind_of_silent fun _ => rfl]
    rfl
  · rfl

theorem texts_addRows {add : TypeMap → List Cell → Outcome TypeMap}
    (h : ∀ types row, (add types row).texts = []) (types : TypeMap) (rows : List (List Cell)) :
    (types.addRows add rows).texts = [] := by
  induction rows generalizing types with
  | nil => rfl
  | cons row rest ih => rw [TypeMap.addRows, texts_bind_of_silent fun _ => ih _, h]

theorem texts_partitionKeyNames (room : Nat) (rows : List (List Cell)) :
    (Listing.partitionKeyNames room rows).texts = [] := by
  induction rows with
  | nil => rfl
  | cons row rest ih =>
    rw [Listing.partitionKeyNames, texts_bind_of_silent fun _ => ?_, texts_readAliases]
    rw [texts_bind_of_silent fun _ => rfl, ih]

/-! ### Questions -/

/-- The metadata query that looks up the column types for a query. -/
def TypeMap.question? (generation : Generation) (q : Query) : Option MetadataQuery :=
  q.sourceTable?.map fun table =>
    match generation with
    | .v1 => .keyAliases (some table.text)
    | .v2 => .columnTypes table.text

/-- The text of a query of a client. -/
def Operation.own? : Operation → Option String
  | .execute q _ => some q.cql
  | _ => none

/-- The metadata queries that answer a question.  The older generation asks for the partition keys
of a listing of columns only if that was answered, and the column types for a query are looked up
only if it has a row. -/
def Service.questions (s : Service) (session : Session) : Operation → List MetadataQuery
  | .generation | .keyspaceExists none | .tableExists none => []
  | .keyspaces | .keyspaceExists (some _) => [.keyspaces]
  | .tables keyspace? => [.tables (keyspace?.map Identifier.key)]
  | .activeTables context => [.tables (context.keyspace?.map Identifier.key)]
  | .tableExists (some table) => [.tablesNamed table.key]
  | .columns table? =>
    let listing := MetadataQuery.columns (table?.map Identifier.key) s.limits.result
    match s.generation, (s.executor session).rows? listing.cql with
    | .v1, some _ => [listing, .keyAliases (table?.map Identifier.key)]
    | _, _ => [listing]
  | .indexes keyspace? =>
    match s.generation with
    | .v1 => []
    | .v2 => [.indexes (keyspace?.map Identifier.key)]
  | .typeMap q => (TypeMap.question? s.generation q).toList
  | .execute q _ =>
    if (session q.cql).stream.rows.isEmpty then []
    else (TypeMap.question? s.generation q).toList

theorem release_not_mem_question? (g : Generation) (q : Query) :
    MetadataQuery.release ∉ (TypeMap.question? g q).toList := by
  rw [Option.mem_toList, TypeMap.question?]
  intro hmem
  obtain ⟨table, -, htable⟩ := Option.map_eq_some_iff.1 hmem
  cases g <;> cases htable

/-- No question of a client asks for the version of the store. -/
theorem release_not_mem_questions (s : Service) (session : Session) (op : Operation) :
    MetadataQuery.release ∉ s.questions session op := by
  cases op with
  | generation | keyspaces | tables _ | activeTables _ => simp [Service.questions]
  | keyspaceExists name? | tableExists name? => cases name? <;> simp [Service.questions]
  | columns table? => rw [Service.questions]; split <;> simp
  | indexes keyspace? => rw [Service.questions]; split <;> simp
  | typeMap q => exact release_not_mem_question? s.generation q
  | execute q context =>
    rw [Service.questions]
    split
    · exact List.not_mem_nil
    · exact release_not_mem_question? s.generation q

/-! ### Listings -/

theorem texts_keyspaces (ex : Executor) :
    (Listing.keyspaces ex).texts = [MetadataQuery.keyspaces.cql] := by
  rw [Listing.keyspaces, texts_executeSilent_bind]
  cases ex.rows? MetadataQuery.keyspaces.cql <;> rfl

theorem texts_tables (ex : Executor) (keyspace? : Option Keyspace) :
    (Listing.tables ex keyspace?).texts =
      [(MetadataQuery.tables (keyspace?.map Identifier.key)).cql] := by
  rw [Listing.tables, texts_executeSilent_bind]
  cases ex.rows? (MetadataQuery.tables (keyspace?.map Identifier.key)).cql <;> rfl

theorem texts_tableExists (ex : Executor) (table : Table) :
    (Listing.tableExists ex (some table)).texts = [(MetadataQuery.tablesNamed table.key).cql] := by
  rw [Listing.tableExists, texts_executeSilent_bind]
  cases ex.rows? (MetadataQuery.tablesNamed table.key).cql <;> rfl

theorem texts_indexes (ex : Executor) (keyspace? : Option Keyspace) :
    (Listing.indexes .v2 ex keyspace?).texts =
      [(MetadataQuery.indexes (keyspace?.map Identifier.key)).cql] := by
  rw [Listing.indexes, texts_executeSilent_bind]
  cases ex.rows? (MetadataQuery.indexes (keyspace?.map Identifier.key)).cql <;> rfl

theorem texts_partitionKeys (ex : Executor) (table? : Option Table) :
    (Listing.partitionKeys ex table?).texts =
      [(MetadataQuery.keyAliases (table?.map Identifier.key)).cql] := by
  rw [Listing.partitionKeys, texts_executeSilent_bind]
  cases ex.rows? (MetadataQuery.keyAliases (table?.map Identifier.key)).cql with
  | none => rfl
  | some rows => exact congrArg _ (texts_partitionKeyNames ex.room rows)

theorem texts_columns (g : Generation) (ex : Executor) (limit : Nat) (table? : Option Table) :
    (Listing.columns g ex limit table?).texts =
      (MetadataQuery.columns (table?.map Identifier.key) limit).cql ::
        match g, ex.rows? (MetadataQuery.columns (table?.map Identifier.key) limit).cql with
        | .v1, some _ => [(MetadataQuery.keyAliases (table?.map Identifier.key)).cql]
        | _, _ => [] := by
  rw [Listing.columns, texts_executeSilent_bind]
  cases ex.rows? (MetadataQuery.columns (table?.map Identifier.key) limit).cql with
  | none => cases g <;> rfl
  | some rows =>
    cases g with
    | v2 => rfl
    | v1 =>
      refine congrArg _ ?_
      exact (texts_bind_of_silent fun _ => rfl).trans (texts_partitionKeys ex table?)

theorem texts_lookup (g : Generation) (ex : Executor) (q : Query) :
    (TypeMap.lookup g ex q).texts =
      (TypeMap.question? g q).toList.map MetadataQuery.cql := by
  rw [TypeMap.lookup, TypeMap.question?]
  cases q.sourceTable? with
  | none => rfl
  | some table =>
    cases g with
    | v1 =>
      refine (texts_executeSilent_bind ex _ _).trans (congrArg _ ?_)
      cases ex.rows? (MetadataQuery.keyAliases (some table.text)).cql with
      | none => rfl
      | some rows => exact texts_addRows (texts_addAliases ex.room) .empty rows
    | v2 =>
      refine (texts_executeSilent_bind ex _ _).trans (congrArg _ ?_)
      cases ex.rows? (MetadataQuery.columnTypes table.text).cql with
      | none => rfl
      | some rows => exact texts_addRows texts_addColumn .empty rows

/-! ### Services -/

theorem texts_execute (s : Service) (session : Session) (q : Query) (context : Context) :
    (s.execute session q context).texts =
      q.cql :: (s.questions session (.execute q context)).map MetadataQuery.cql := by
  cases hanswer : session q.cql with
  | refused f =>
    rw [execute_of_refused hanswer, Service.questions, hanswer]
    rfl
  | delivered r =>
    have hstream : (session q.cql).stream.rows = r.stream.rows := by rw [hanswer, Answer.stream]
    cases hrows : r.stream.rows with
    | nil =>
      rw [execute_of_no_rows hanswer hrows, Service.questions, hstream, hrows]
      rfl
    | cons first rest =>
      rw [Service.questions, hstream, hrows]
      -- the lookup is sent whether it succeeds or not
      cases htypes : (TypeMap.lookup s.generation (s.executor session) q).result with
      | error e =>
        rw [execute_of_lookup_error hanswer hrows htypes]
        exact congrArg _ (texts_lookup s.generation (s.executor session) q)
      | ok map =>
        rw [execute_of_rows hanswer hrows htypes]
        exact congrArg _ (texts_lookup s.generation (s.executor session) q)

/-- **The texts that a question sends** are its own and then the metadata queries that answer it. -/
theorem texts_perform (s : Service) (session : Session) (op : Operation) :
    (s.perform session op).texts =
      op.own?.toList ++ (s.questions session op).map MetadataQuery.cql := by
  have hreply {α : Type} (x : Outcome α) (f : α → Reply) :
      (x >>= fun a => pure (f a)).texts = x.texts := texts_bind_of_silent fun _ => rfl
  cases op with
  | generation => rfl
  | keyspaces => exact (hreply _ _).trans (texts_keyspaces _)
  | keyspaceExists keyspace? =>
    cases keyspace? with
    | none => rfl
    | some keyspace =>
      refine (hreply _ _).trans ?_
      exact (texts_bind_of_silent fun _ => rfl).trans (texts_keyspaces _)
  | tables keyspace? => exact (hreply _ _).trans (texts_tables _ _)
  | activeTables context => exact (hreply _ _).trans (texts_tables _ _)
  | tableExists table? =>
    cases table? with
    | none => rfl
    | some table => exact (hreply _ _).trans (texts_tableExists _ _)
  | columns table? =>
    refine (hreply _ _).trans ((texts_columns _ _ _ _).trans ?_)
    rw [Service.questions]
    split <;> rfl
  | indexes keyspace? =>
    obtain ⟨g, limits, allowance⟩ := s
    cases g with
    | v1 => rfl
    | v2 => exact (hreply _ _).trans (texts_indexes _ _)
  | typeMap q => exact (hreply _ _).trans (texts_lookup _ _ _)
  | execute q context => exact (hreply _ _).trans (texts_execute _ _ _ _)

end CqlGateway
