import CqlGateway.Proofs.Statements

/-!
# Names in metadata queries

The texts that a question sends besides its own are those of a few *forms*, fixed texts with a place
for one name or for none.  Whatever the name is, it stands in its place as exactly one literal: when
the text is read, the front of the form comes first, then a literal that spells the name, and then
the back of the form, with nothing in between (`fills_form`).  So a name can neither end its literal
early nor reach into the text behind it (`names_sent_as_literals`).

A text can therefore be read back to the name in it, and two names that a client browses by send the
same texts iff they are equal up to case.
-/

namespace CqlGateway

/-! ### Forms -/

namespace MetadataQuery

/-- The query with the empty name in the place of its name. -/
def form : MetadataQuery → MetadataQuery
  | .release => .release
  | .keyspaces => .keyspaces
  | .tables name? => .tables (name?.map fun _ => "")
  | .tablesNamed _ => .tablesNamed ""
  | .indexes name? => .indexes (name?.map fun _ => "")
  | .columns name? limit => .columns (name?.map fun _ => "") limit
  | .keyAliases name? => .keyAliases (name?.map fun _ => "")
  | .columnTypes _ => .columnTypes ""

/-- The forms of the queries that answer questions, under a limit for the columns that are listed.
-/
def forms (limit : Nat) : List MetadataQuery :=
  [.keyspaces, .tables none, .tables (some ""), .tablesNamed "", .indexes none, .indexes (some ""),
    .columns none limit, .columns (some "") limit, .keyAliases none, .keyAliases (some ""),
    .columnTypes ""]

/-- The pieces that a form is to be read as with a name in its place. -/
def piecesWith (form : MetadataQuery) : Option String → List Literal.Piece
  | none => [.plain (form.front ++ form.back).toList]
  | some name => [.plain form.front.toList, .literal name.toList, .plain form.back.toList]

/-- A text is that of a form, with a name as the only literal in the place that the form has for
one. -/
structure Fills (form : MetadataQuery) (name? : Option String) (text : String) : Prop where
  slot : form.slot?.isSome = name?.isSome
  text_eq : text = form.front ++ (name?.map Literal.quote).getD "" ++ form.back
  pieces : Literal.pieces text.toList = some (form.piecesWith name?)

theorem form_mem_forms {m : MetadataQuery} {limit : Nat} (hrelease : m ≠ .release)
    (hlimit : ∀ name? n, m = .columns name? n → n = limit) : m.form ∈ forms limit := by
  cases m with
  | release => exact absurd rfl hrelease
  | keyspaces | tablesNamed _ | columnTypes _ => simp [form, forms]
  | tables name? | indexes name? | keyAliases name? => cases name? <;> simp [form, forms]
  | columns name? n =>
    obtain rfl := hlimit name? n rfl
    cases name? <;> simp [form, forms]

theorem front_form (m : MetadataQuery) : m.form.front = m.front := by
  cases m with
  | release | keyspaces | tablesNamed _ | columnTypes _ => rfl
  | tables name? | indexes name? | columns name? _ | keyAliases name? => cases name? <;> rfl

theorem back_form (m : MetadataQuery) : m.form.back = m.back := by
  cases m <;> rfl

theorem slot?_form (m : MetadataQuery) : m.form.slot? = m.slot?.map fun _ => "" := by
  cases m <;> rfl

/-! ### Reading a query -/

/-- A character that is not in a text that is written out. -/
theorem not_mem_of_eq_ofList {text : String} {cs : List Char} {c : Char}
    (htext : text = String.ofList cs) (hc : c ∉ cs) : c ∉ text.toList := by
  rwa [htext, String.toList_ofList]

theorem quote_not_mem_front (m : MetadataQuery) : '\'' ∉ m.front.toList := by
  cases m with
  | release | keyspaces | tablesNamed _ | columnTypes _ =>
    exact not_mem_of_eq_ofList rfl (by decide)
  | tables name? | indexes name? | columns name? _ =>
    cases name? <;> exact not_mem_of_eq_ofList rfl (by decide)
  | keyAliases name? =>
    cases name? with
    | none => exact not_mem_of_eq_ofList rfl (by decide)
    | some name =>
      -- the front is written in two parts, which have to be joined first
      unfold MetadataQuery.front
      dsimp only [String.reduceAppend]
      exact not_mem_of_eq_ofList rfl (by decide)

theorem quote_not_mem_toString (n : Nat) : '\'' ∉ (toString n).toList := by
  intro hmem
  rw [Nat.toString_eq_repr, Nat.toList_repr] at hmem
  have hdigit := Nat.isDigit_of_mem_toDigits (by decide) (by decide) hmem
  revert hdigit
  decide

theorem quote_not_mem_back (m : MetadataQuery) : '\'' ∉ m.back.toList := by
  cases m with
  | release | keyspaces | tables _ | indexes _ | tablesNamed _ | keyAliases _ | columnTypes _ =>
    exact not_mem_of_eq_ofList rfl (by decide)
  | columns name? limit =>
    have hfront : '\'' ∉ " limit ".toList := by decide
    have hback : '\'' ∉ " allow filtering".toList := by decide
    unfold MetadataQuery.back
    simp only [String.toList_append, List.mem_append, quote_not_mem_toString, hfront, hback,
      or_self, not_false_eq_true]

/-- **The name in a query is one literal.** -/
theorem pieces_cql (m : MetadataQuery) :
    Literal.pieces m.cql.toList = some (m.piecesWith m.slot?) := by
  have hfront := quote_not_mem_front m
  have hback := quote_not_mem_back m
  cases hslot : m.slot? with
  | none =>
    have hcql : m.cql.toList = (m.front ++ m.back).toList := by
      simp only [cql, hslot, Option.map_none, Option.getD_none, String.append_empty]
    have hnone : '\'' ∉ (m.front ++ m.back).toList := by
      simp only [String.toList_append, List.mem_append, hfront, hback, or_self, not_false_eq_true]
    rw [hcql, Literal.pieces_of_plain hnone]
    rfl
  | some name =>
    have hcql : m.cql.toList =
        m.front.toList ++ '\'' :: (Literal.encode name.toList ++ '\'' :: m.back.toList) := by
      simp [cql, hslot, Literal.quote]
    have hhead : m.back.toList.head? ≠ some '\'' := fun h => hback (List.mem_of_head? h)
    rw [hcql, Literal.pieces_of_literal hfront hhead, Literal.pieces_of_plain hback]
    rfl

theorem fills_form (m : MetadataQuery) : m.form.Fills m.slot? m.cql where
  slot := by rw [slot?_form, Option.isSome_map]
  text_eq := by rw [front_form, back_form, cql]
  pieces := by
    rw [pieces_cql]
    cases m.slot? <;> simp only [piecesWith, front_form, back_form]

/-- Forms that are filled to the same text hold the same name. -/
theorem Fills.name_inj {form form' : MetadataQuery} {name name' text : String}
    (h : form.Fills (some name) text) (h' : form'.Fills (some name') text) : name = name' := by
  have hpieces := h.pieces.symm.trans h'.pieces
  simp only [piecesWith, Option.some.injEq, List.cons.injEq, Literal.Piece.literal.injEq] at hpieces
  exact String.toList_inj.1 hpieces.2.1

end MetadataQuery

/-! ### Names of questions -/

/-- The name that the metadata queries of a question hold: that by which a client browses, in lower
case, or the table of a query, as it is written. -/
def Operation.slot? : Operation → Option String
  | .generation | .keyspaces | .keyspaceExists _ => none
  | .tables keyspace? | .indexes keyspace? => keyspace?.map Identifier.key
  | .activeTables context => context.keyspace?.map Identifier.key
  | .tableExists table? | .columns table? => table?.map Identifier.key
  | .typeMap q | .execute q _ => q.sourceTable?.map Identifier.text

/-- The questions by which a client browses with a name. -/
inductive Browsing : NameClass → Type where
  | tables : Browsing .keyspace
  | activeTables : Browsing .keyspace
  | indexes : Browsing .keyspace
  | tableExists : Browsing .table
  | columns : Browsing .table

/-- The question about a name. -/
def Browsing.ask {c : NameClass} : Browsing c → Identifier c → Operation
  | .tables, keyspace => .tables (some keyspace)
  | .activeTables, keyspace => .activeTables ⟨some keyspace⟩
  | .indexes, keyspace => .indexes (some keyspace)
  | .tableExists, table => .tableExists (some table)
  | .columns, table => .columns (some table)

variable {s : Service} {session : Session} {op : Operation} {m : MetadataQuery} {c : NameClass}

theorem form_of_mem_question? {g : Generation} {q : Query}
    (h : m ∈ (TypeMap.question? g q).toList) (limit : Nat) :
    m.form ∈ MetadataQuery.forms limit ∧ m.slot? = q.sourceTable?.map Identifier.text := by
  rw [Option.mem_toList, TypeMap.question?] at h
  obtain ⟨table, htable, rfl⟩ := Option.map_eq_some_iff.1 h
  rw [htable]
  cases g <;> exact ⟨MetadataQuery.form_mem_forms (by simp) (by simp), rfl⟩

/-- The queries that answer a question are of known forms and hold the name of the question. -/
theorem form_of_mem_questions (h : m ∈ s.questions session op) :
    m.form ∈ MetadataQuery.forms s.limits.result ∧ m.slot? = op.slot? := by
  cases op with
  | generation => cases h
  | keyspaces | tables _ | activeTables _ =>
    obtain rfl := List.mem_singleton.1 h
    exact ⟨MetadataQuery.form_mem_forms (by simp) (by simp), rfl⟩
  | keyspaceExists name? | tableExists name? =>
    cases name? with
    | none => cases h
    | some name =>
      obtain rfl := List.mem_singleton.1 h
      exact ⟨MetadataQuery.form_mem_forms (by simp) (by simp), rfl⟩
  | columns table? =>
    -- the listing itself, and in the older generation perhaps the lists of key columns
    have hm : m = .columns (table?.map Identifier.key) s.limits.result ∨
        m = .keyAliases (table?.map Identifier.key) := by
      rw [Service.questions] at h
      split at h
      · simpa using h
      · exact .inl (List.mem_singleton.1 h)
    rcases hm with rfl | rfl
    · exact ⟨MetadataQuery.form_mem_forms (by simp) fun _ _ h => by cases h; rfl, rfl⟩
    · exact ⟨MetadataQuery.form_mem_forms (by simp) (by simp), rfl⟩
  | indexes keyspace? =>
    rw [Service.questions] at h
    split at h
    · cases h
    · obtain rfl := List.mem_singleton.1 h
      exact ⟨MetadataQuery.form_mem_forms (by simp) (by simp), rfl⟩
  | typeMap q => exact form_of_mem_question? h _
  | execute q context =>
    rw [Service.questions] at h
    split at h
    · cases h
    · exact form_of_mem_question? h _

/-! ### Names that clients browse by -/

variable {b : Browsing c} {x y : Identifier c}

theorem texts_ask (s : Service) (session : Session) (b : Browsing c) (x : Identifier c) :
    (s.perform session (b.ask x)).texts =
      (s.questions session (b.ask x)).map MetadataQuery.cql := by
  rw [texts_perform]
  cases b <;> rfl

theorem slot?_ask (b : Browsing c) (x : Identifier c) : (b.ask x).slot? = some x.key := by
  cases b <;> rfl

theorem questions_ask_of_key (s : Service) (session : Session) (b : Browsing c)
    (h : x.key = y.key) : s.questions session (b.ask x) = s.questions session (b.ask y) := by
  cases b <;> simp only [Browsing.ask, Service.questions, Option.map_some, h]

/-- The first text that is sent tells the name, whatever the store answers. -/
theorem key_of_texts_ask {session' : Session} (hsent : (s.perform session (b.ask x)).texts ≠ [])
    (h : (s.perform session (b.ask x)).texts = (s.perform session' (b.ask y)).texts) :
    x.key = y.key := by
  rw [texts_ask] at hsent
  rw [texts_ask, texts_ask] at h
  obtain ⟨m, ms, hm⟩ := List.exists_cons_of_ne_nil fun hnil => hsent (List.map_eq_nil_iff.2 hnil)
  rw [hm] at h
  obtain ⟨m', ms', hm', hcql, -⟩ := List.map_eq_cons_iff.1 h.symm
  have hslot : m.slot? = some x.key :=
    (form_of_mem_questions (hm ▸ List.mem_cons_self)).2.trans (slot?_ask b x)
  have hslot' : m'.slot? = some y.key :=
    (form_of_mem_questions (hm' ▸ List.mem_cons_self)).2.trans (slot?_ask b y)
  have hfills := hslot ▸ m.fills_form
  have hfills' := hslot' ▸ m'.fills_form
  exact hfills.name_inj (hcql ▸ hfills')

/-- **Names are sent as literals.**  Besides its own text a question sends texts of the known forms,
in each of which the name of the question is one literal or, if the form has no place for it, does
not occur.  A client that browses by two names sends the same texts for both iff these are equal up
to case, unless the generation has nothing to ask. -/
theorem names_sent_as_literals (s : Service) (session : Session) :
    (∀ op, ∃ asked, (s.perform session op).texts = op.own?.toList ++ asked ∧
      ∀ text ∈ asked, ∃ form ∈ MetadataQuery.forms s.limits.result, form.Fills op.slot? text) ∧
    (∀ (c : NameClass) (b : Browsing c) (x y : Identifier c),
      (s.perform session (b.ask x)).texts ≠ [] →
        ((s.perform session (b.ask x)).texts = (s.perform session (b.ask y)).texts ↔
          x.same y = true)) := by
  refine ⟨fun op => ⟨_, texts_perform s session op, fun text htext => ?_⟩, fun c b x y hsent => ?_⟩
  · obtain ⟨m, hm, rfl⟩ := List.mem_map.1 htext
    obtain ⟨hform, hslot⟩ := form_of_mem_questions hm
    exact ⟨m.form, hform, hslot ▸ m.fills_form⟩
  · rw [Identifier.same, beq_iff_eq]
    constructor
    · exact key_of_texts_ask hsent
    · intro hkey
      rw [texts_ask, texts_ask, questions_ask_of_key s session b hkey]

/-- A table with quotes in its name, which seem to end a literal and to open another one. -/
def quotedTable : Table :=
  ⟨"x' or name='Y", by decide⟩

/-- The table of the same name in lower case. -/
def lowerQuotedTable : Table :=
  ⟨"x' or name='y", by decide⟩

theorem names_sent_of_quotedTable :
    (twoRowService.perform brokenSession (Browsing.tableExists.ask quotedTable)).texts ≠ [] ∧
      ((twoRowService.perform brokenSession (Browsing.tableExists.ask quotedTable)).texts =
          (twoRowService.perform brokenSession (Browsing.tableExists.ask lowerQuotedTable)).texts ↔
        quotedTable.same lowerQuotedTable = true) := by
  have hsent : (twoRowService.perform brokenSession
      (Browsing.tableExists.ask quotedTable)).texts ≠ [] := by
    rw [texts_ask]
    exact List.cons_ne_nil _ _
  exact ⟨hsent, (names_sent_as_literals twoRowService brokenSession).2 .table .tableExists
    quotedTable lowerQuotedTable hsent⟩

end CqlGateway
