import CqlGateway.Proofs.KeyColumns
import CqlGateway.Proofs.Lookups
import CqlGateway.Proofs.Names

/-!
# Column types and metadata rows

The type of a column is what the metadata rows of the table say of its name.  A row of the newer
generation says something of the one name that it holds, and a row of the older one of all names
that it lists, where the partition key goes before the clustering key.  `Generation.typeIn` is what
the last row says that says something; rows that do not mention a name have no part in its type
(`typeIn_filter`).

A lookup enters the rows one after the other into a map (`enter_of_canRead` is the step and
`exists_addRows` the run).  So every column of the result of a query has the type that the rows say,
if they can be read (`types_of_columns`).
-/

namespace CqlGateway

namespace Value

/-- The value is null or a text. -/
def Textual (v : Value) : Prop :=
  v = .null ∨ ∃ s, v = .text s

/-- The value is one that a metadata row should hold: it is null, or a text on which the reader of
JSON does not give up for want of room. -/
def Readable (room : Nat) (v : Value) : Prop :=
  v = .null ∨ ∃ s, v = .text s ∧ ∀ container, Json.readText room s ≠ .error (.tooDeep container)

/-- The names that a value lists: those in the JSON array that it holds as a text. -/
def aliases (room : Nat) : Value → List String
  | .text s =>
    if Text.isBlankText s then []
    else match Json.readText room s with
      | .ok (.arr items) => namesOfItems items
      | _ => []
  | _ => []

theorem Readable.textual {room : Nat} {v : Value} (h : v.Readable room) : v.Textual :=
  h.imp_right fun ⟨s, hs, _⟩ => ⟨s, hs⟩

/-- A text that is read as JSON is readable. -/
theorem readable_of_readText {room : Nat} {s : String} {json : Json}
    (h : Json.readText room s = .ok json) : (Value.text s).Readable room := by
  refine .inr ⟨s, rfl, fun container hdeep => ?_⟩
  cases h.symm.trans hdeep

end Value

namespace Generation

/-- The values that a generation looks up in a metadata row can be read. -/
def CanRead (room : Nat) : Generation → List Cell → Prop
  | .v1, row =>
    (valueOf row "key_aliases").Readable room ∧ (valueOf row "column_aliases").Readable room
  | .v2, row => (valueOf row "column_name").Textual ∧ (valueOf row "type").Textual

/-- The names in lower case that a metadata row mentions. -/
def keysOf (room : Nat) : Generation → List Cell → List String
  | .v1, row =>
    ((valueOf row "key_aliases").aliases room ++ (valueOf row "column_aliases").aliases room).map
      Text.lower
  | .v2, row => ((heldName? "column_name" row).map Text.lower).toList

/-- The type that a metadata row says of a name in lower case. -/
def typeSaid? (room : Nat) : Generation → String → List Cell → Option ColumnType
  | .v1, key, row =>
    if key ∈ ((valueOf row "key_aliases").aliases room).map Text.lower then some .partitionKey
    else if key ∈ ((valueOf row "column_aliases").aliases room).map Text.lower then
      some .clusteringKey
    else none
  | .v2, key, row =>
    if (heldName? "column_name" row).map Text.lower = some key then
      (heldName? "type" row).map fun s => (ColumnType.ofText? s).getD .regular
    else none

/-- The type of a name in lower case: that of the last row that says one. -/
def typeIn (room : Nat) (g : Generation) (rows : List (List Cell)) (key : String) : ColumnType :=
  (rows.filterMap (g.typeSaid? room key)).getLast?.getD .regular

end Generation

variable {g : Generation} {room : Nat} {row : List Cell} {rows : List (List Cell)}
  {column key : String} {v : Value}

/-! ### Values of metadata rows -/

theorem trimmedCell_text (s : String) : trimmedCell (.text s) = .ok (.text (Text.strip s)) := by
  by_cases hempty : s = ""
  · subst hempty
    rfl
  · rw [trimmedCell, if_neg]
    simpa [Value.isTruthy] using hempty

/-- A value that holds no name counts as an empty text. -/
theorem trimmedCell_valueOf (h : (valueOf row column).Textual) :
    trimmedCell (valueOf row column) = .ok (.text ((heldName? column row).getD "")) := by
  rw [heldName?]
  rcases h with hnull | ⟨s, hs⟩
  · rw [hnull]
    rfl
  · rw [hs, trimmedCell_text]
    dsimp only
    split
    · next hblank => rw [Text.strip_eq_empty_iff.2 hblank, Option.getD_none]
    · rfl

theorem ne_empty_of_heldName? {s : String} (h : heldName? column row = some s) : s ≠ "" := by
  rw [heldName?] at h
  split at h
  · split at h
    · cases h
    · next hblank =>
      cases h
      exact fun hempty => hblank (Text.strip_eq_empty_iff.1 hempty)
  · cases h

/-- What names no column type is read as the regular one. -/
theorem result_readColumnType (s : String) :
    (readColumnType (.text s)).result = .ok ((ColumnType.ofText? s).getD .regular) := by
  have hstrip : ColumnType.ofText? (Text.strip s) = ColumnType.ofText? s := by
    rw [ColumnType.ofText?, Text.strip_strip, ColumnType.ofText?]
  rw [readColumnType, trimmedCell_text]
  dsimp only
  rw [hstrip]
  cases ColumnType.ofText? s <;> rfl

/-- What is read of a text. -/
theorem result_readAliases_text (room : Nat) (s : String) :
    (readAliases room (.text s)).result =
      if Text.isBlankText s then .ok []
      else match Json.readText room s with
        | .ok (.arr items) => .ok (namesOfItems items)
        | .error (.tooDeep container) => .error (.nestedTooDeep container)
        | _ => .ok [] := by
  have hspell : (Value.text s).spell room = .ok s := rfl
  by_cases hempty : s = ""
  · subst hempty
    rfl
  · rw [readAliases, if_neg (by simp [Value.isTruthy, hempty]), hspell, readCellJson]
    dsimp only
    cases Text.isBlankText s with
    | true => rfl
    | false =>
      cases Json.readText room s with
      | ok json => cases json <;> rfl
      | error e => cases e <;> rfl

theorem result_readAliases (h : v.Readable room) :
    (readAliases room v).result = .ok (v.aliases room) := by
  rcases h with rfl | ⟨s, rfl, hread⟩
  · rfl
  · rw [result_readAliases_text, Value.aliases]
    split
    · rfl
    · cases hjson : Json.readText room s with
      | ok json => cases json <;> rfl
      | error e =>
        cases e with
        | tooDeep container => exact absurd hjson (hread container)
        | malformed | numberTooLong digits => rfl

/-! ### What rows say -/

theorem typeSaid?_of_not_mem (h : key ∉ g.keysOf room row) : g.typeSaid? room key row = none := by
  cases g with
  | v1 =>
    rw [Generation.keysOf, List.map_append, List.mem_append, not_or] at h
    rw [Generation.typeSaid?, if_neg h.1, if_neg h.2]
  | v2 =>
    rw [Generation.keysOf, Option.mem_toList] at h
    rw [Generation.typeSaid?, if_neg h]

/-- **Rows that do not mention a name have no part in its type.** -/
theorem typeIn_filter (room : Nat) (g : Generation) (rows : List (List Cell)) (key : String) :
    g.typeIn room (rows.filter fun row => key ∈ g.keysOf room row) key =
      g.typeIn room rows key := by
  have hsaid : ∀ row ∈ rows,
      (if decide (key ∈ g.keysOf room row) then g.typeSaid? room key row else none) =
        g.typeSaid? room key row := by
    intro row _
    by_cases hmem : key ∈ g.keysOf room row
    · rw [decide_eq_true hmem, if_pos rfl]
    · rw [typeSaid?_of_not_mem hmem, ite_self]
  rw [Generation.typeIn, List.filterMap_filter, List.filterMap_congr hsaid, Generation.typeIn]

/-- What the last element gives of those that give something comes before anything else. -/
theorem getLast?_filterMap_cons {α β : Type} (f : α → Option β) (a : α) (rest : List α)
    (other : Option β) :
    ((a :: rest).filterMap f).getLast?.or other =
      (rest.filterMap f).getLast?.or ((f a).or other) := by
  cases ha : f a with
  | none => rw [List.filterMap_cons_none ha, Option.none_or]
  | some b =>
    rw [List.filterMap_cons_some ha, List.getLast?_cons, Option.some_or, Option.some_or]
    cases (rest.filterMap f).getLast? <;> rfl

/-! ### Maps of rows -/

theorem find?_insertNames (m : TypeMap) (names : List String) (type : ColumnType) (key : String) :
    (m.insertNames names type).find? key =
      if key ∈ names.map Text.lower then some type else m.find? key := by
  induction names generalizing m with
  | nil => rfl
  | cons name rest ih =>
    have hrest := ih (m.insert (.text (Text.lower name)) type)
    rw [TypeMap.find?_insert_text] at hrest
    rw [TypeMap.insertNames, List.foldl_cons, ← TypeMap.insertNames, hrest]
    simp only [List.map_cons, List.mem_cons, eq_comm (a := key)]
    by_cases hmem : key ∈ rest.map Text.lower
    · rw [if_pos hmem, if_pos (.inr hmem)]
    · simp only [hmem, if_false, or_false]

theorem result_addAliases (m : TypeMap) (h : Generation.v1.CanRead room row) :
    (m.addAliases room row).result =
      .ok ((m.insertNames ((valueOf row "column_aliases").aliases room) .clusteringKey).insertNames
        ((valueOf row "key_aliases").aliases room) .partitionKey) := by
  obtain ⟨hpartition, hclustering⟩ := h
  rw [TypeMap.addAliases, Outcome.result_bind_of_ok (result_readAliases hclustering),
    Outcome.result_bind_of_ok (result_readAliases hpartition)]
  rfl

theorem result_addColumn (m : TypeMap) (h : Generation.v2.CanRead room row) :
    (m.addColumn row).result =
      .ok (match heldName? "column_name" row, heldName? "type" row with
        | some name, some s =>
          m.insert (.text (Text.lower name)) ((ColumnType.ofText? s).getD .regular)
        | _, _ => m) := by
  obtain ⟨hname, htype⟩ := h
  rw [TypeMap.addColumn, trimmedCell_valueOf hname, trimmedCell_valueOf htype,
    Outcome.result_bind_of_ok rfl, Outcome.result_bind_of_ok rfl]
  cases hheld : heldName? "type" row with
  | none => cases heldName? "column_name" row <;> rfl
  | some s =>
    cases hheld' : heldName? "column_name" row with
    | none =>
      rw [if_neg (by simp [Value.isTruthy])]
      rfl
    | some name =>
      have hs := ne_empty_of_heldName? hheld
      have hn := ne_empty_of_heldName? hheld'
      rw [if_pos (by simp [Value.isTruthy, hs, hn])]
      exact Outcome.result_bind_of_ok (result_readColumnType s) _

/-- **What a row says of a name goes before what the map had.** -/
theorem enter_of_canRead (h : g.CanRead room row) (m : TypeMap) :
    ∃ m', (TypeMap.enter room g m row).result = .ok m' ∧
      ∀ key, m'.find? key = (g.typeSaid? room key row).or (m.find? key) := by
  cases g with
  | v1 =>
    refine ⟨_, result_addAliases m h, fun key => ?_⟩
    rw [find?_insertNames, find?_insertNames, Generation.typeSaid?]
    split
    · rfl
    · split <;> rfl
  | v2 =>
    refine ⟨_, result_addColumn m h, fun key => ?_⟩
    rw [Generation.typeSaid?]
    cases heldName? "column_name" row with
    | none => rfl
    | some name =>
      cases heldName? "type" row with
      | none =>
        rw [Option.map_none, ite_self]
        rfl
      | some s =>
        simp only [TypeMap.find?_insert_text, Option.map_some, Option.some_inj]
        split <;> rfl

/-- **A map of rows has what the last row says**, and of other names what it had before. -/
theorem exists_addRows (h : ∀ row ∈ rows, g.CanRead room row) (m : TypeMap) :
    ∃ m', (m.addRows (TypeMap.enter room g) rows).result = .ok m' ∧
      ∀ key, m'.find? key =
        (rows.filterMap (g.typeSaid? room key)).getLast?.or (m.find? key) := by
  induction rows generalizing m with
  | nil => exact ⟨m, rfl, fun _ => rfl⟩
  | cons row rest ih =>
    obtain ⟨m', hrow, hsaid⟩ := enter_of_canRead (h row List.mem_cons_self) m
    obtain ⟨m'', hrest, hfind⟩ := ih (fun row hrow => h row (List.mem_cons_of_mem _ hrow)) m'
    refine ⟨m'', ?_, fun key => ?_⟩
    · rw [TypeMap.addRows, Outcome.result_bind_of_ok hrow]
      exact hrest
    · rw [hfind, hsaid, getLast?_filterMap_cons]

variable {s : Service} {session : Session} {q : Query} {context context' : Context}
  {m : MetadataQuery} {selection : Selection}

/-- A lookup whose question is answered finds what the rows of the answer say. -/
theorem exists_types_of_answer {ex : Executor} (hquestion : TypeMap.question? g q = some m)
    (hrows : ex.rows? m.cql = some rows) (h : ∀ row ∈ rows, g.CanRead ex.room row) :
    ∃ types, (TypeMap.lookup g ex q).result = .ok types ∧
      ∀ key, (types.find? key).getD .regular = g.typeIn ex.room rows key := by
  obtain ⟨types, htypes, hfind⟩ := exists_addRows h .empty
  refine ⟨types, ?_, fun key => ?_⟩
  · rw [result_lookup_eq, hquestion]
    dsimp only
    rw [hrows]
    exact htypes
  · have hempty : TypeMap.empty.find? key = none := rfl
    rw [hfind, hempty, Option.or_none, Generation.typeIn]

/-! ### Columns of a query -/

/-- The columns of a result are those of its cells, in whatever list they stand. -/
theorem Selection.Tallied.mem_cellColumns (h : selection.Tallied) {c : Column}
    (hc : c ∈ selection.cellColumns ∨ c ∈ selection.columns ∨ c ∈ selection.partitionColumns) :
    c ∈ selection.cellColumns := by
  rcases hc with hc | hc | hc
  · exact hc
  · exact (mem_of_mem_firstsFrom (h.columns_perm.mem_iff.1 hc)).1
  · rw [h.partitionColumns, partitionFirsts] at hc
    exact List.mem_of_mem_filter (mem_of_mem_firstsFrom hc).1

/-- The type of a column is the one under which its name is found. -/
theorem type_of_resultOn {a : Answer} {types : TypeMap} {limits : Limits}
    (h : q.resultOn a types limits context = .ok (selection, context')) {c : Column}
    (hc : c ∈ selection.cellColumns ∨ c ∈ selection.columns ∨ c ∈ selection.partitionColumns) :
    c.type = (types.find? c.key).getD .regular := by
  rw [Query.resultOn] at h
  cases hresult : (materialize types limits a.stream.rows
      (a.stream.interruption?.map (Executor.failed q.cql))).result with
  | error e =>
    rw [hresult] at h
    cases h
  | ok found =>
    rw [hresult] at h
    cases h
    have hmem := (tallied_of_materialize hresult).mem_cellColumns hc
    rw [cellColumns_of_materialize hresult] at hmem
    exact type_of_mem_countedColumns hmem

/-- **The type of a column is what the metadata rows say of its name.**  If the rows of the lookup
are all delivered and can be read, then the query returns unless its own answer has an early fault
or shows a blank name.  Every column of its result, in whatever list it stands, has the type that
the last row says of its name, and is regular if no row says one.  Rows that do not mention the name
have no part in this. -/
theorem types_of_columns (s : Service) (session : Session) (q : Query) (context : Context)
    (hquestion : TypeMap.question? s.generation q = some m)
    (hanswer : (session m.cql).stream.interruption? = none)
    (hread : ∀ row ∈ (session m.cql).stream.rows, s.generation.CanRead s.allowance.room row) :
    ((session q.cql).showsBlankName s.limits = false →
      (session q.cql).earlyFault? s.limits.rows = none →
      ∃ reply, (s.execute session q context).result = .ok reply) ∧
    (∀ selection context', (s.execute session q context).result = .ok (selection, context') →
      ∀ c, c ∈ selection.cellColumns ∨ c ∈ selection.columns ∨ c ∈ selection.partitionColumns →
        c.type = s.generation.typeIn s.allowance.room (session m.cql).stream.rows c.key) ∧
    ∀ rows key,
      s.generation.typeIn s.allowance.room
          (rows.filter fun row => key ∈ s.generation.keysOf s.allowance.room row) key =
        s.generation.typeIn s.allowance.room rows key := by
  obtain ⟨types, htypes, hfind⟩ :=
    exists_types_of_answer hquestion (rows?_eq_some (s.executor session) m.cql hanswer) hread
  have hresult := result_execute_of_types context fun _ => htypes
  refine ⟨fun hnamed hfault => ?_, fun selection context' hreply c hc => ?_,
    typeIn_filter s.allowance.room s.generation⟩
  · rw [hresult, resultOn_eq, hnamed, hfault]
    exact ⟨_, rfl⟩
  · rw [hresult] at hreply
    rw [type_of_resultOn hreply hc, hfind]
    rfl

/-- A session with one user, where two tables have the same name.  The first one has a partition key
that is a clustering key of the second one, which lists its own partition key twice. -/
def namesakeSession : Session := fun cql =>
  if cql = allUsers.cql then
    .delivered { names := ["ID", "At", "note"], rows := [[.int 1, .int 2, .text "x"]] }
  else
    .delivered
      { names := ["key_aliases", "column_aliases"]
        rows := [[.text "[\"at\"]", .text "[\"Note\"]"],
          [.text "[\" id \"]", .text "[\"id\", \"AT\"]"]] }

/-- The rows of the second table decide, but for the column that only the first one mentions. -/
theorem types_of_namesakes :
    TypeMap.question? .v1 allUsers = some (.keyAliases (some "users")) ∧
      (∀ row ∈ (namesakeSession (MetadataQuery.keyAliases (some "users")).cql).stream.rows,
        Generation.v1.CanRead 990 row) ∧
      ∃ selection context',
        (twoRowService.execute namesakeSession allUsers {}).result = .ok (selection, context') ∧
        (∀ c ∈ selection.columns, c.type = Generation.v1.typeIn 990
          (namesakeSession (MetadataQuery.keyAliases (some "users")).cql).stream.rows c.key) ∧
        selection.columns.map (fun c => (c.text, c.type)) =
          [("ID", .partitionKey), ("At", .clusteringKey), ("note", .clusteringKey)] := by
  have hquestion : TypeMap.question? .v1 allUsers = some (.keyAliases (some "users")) := by decide
  have hread : ∀ row ∈
      (namesakeSession (MetadataQuery.keyAliases (some "users")).cql).stream.rows,
      Generation.v1.CanRead 990 row := by
    have hother : (MetadataQuery.keyAliases (some "users")).cql ≠ allUsers.cql := by decide
    rw [namesakeSession, if_neg hother]
    intro row hrow
    rcases List.mem_cons.1 hrow with rfl | hrow
    · have hkey : Json.readText 990 "[\"at\"]" = .ok (.arr [.str "at"]) := by rfl
      have hcolumn : Json.readText 990 "[\"Note\"]" = .ok (.arr [.str "Note"]) := by rfl
      exact ⟨Value.readable_of_readText hkey, Value.readable_of_readText hcolumn⟩
    · obtain rfl := List.mem_singleton.1 hrow
      have hkey : Json.readText 990 "[\" id \"]" = .ok (.arr [.str " id "]) := by rfl
      have hcolumn : Json.readText 990 "[\"id\", \"AT\"]" = .ok (.arr [.str "id", .str "AT"]) := by
        rfl
      exact ⟨Value.readable_of_readText hkey, Value.readable_of_readText hcolumn⟩
  have htypes := types_of_columns twoRowService namesakeSession allUsers {} hquestion (by decide)
    hread
  obtain ⟨⟨selection, context'⟩, hreply⟩ := htypes.1 (by decide) (by decide)
  refine ⟨hquestion, hread, selection, context', hreply,
    fun c hc => htypes.2.1 _ _ hreply c (.inr (.inl hc)), ?_⟩
  have hresult : (twoRowService.execute namesakeSession allUsers {}).result.map
      (fun reply => reply.1.columns.map (fun c => (c.text, c.type))) =
        .ok [("ID", .partitionKey), ("At", .clusteringKey), ("note", .clusteringKey)] := by
    rfl
  rw [hreply] at hresult
  exact Except.ok.inj hresult

end CqlGateway
