import CqlGateway.Proofs.ColumnTypes
import CqlGateway.Proofs.Nesting

/-!
# Names listed in texts

A cell of the older metadata tables lists the names in the JSON array that it holds, and no names if
it holds none (`Json.ListsNames`).  This is what is read of every text, with one exception: on a
text that is nested too deep the reading fails, even if the text is an array without names.  The
lookups that read such cells have no guard of their own and fail with it (`names_of_texts`).
-/

namespace CqlGateway

variable {room : Nat} {v : Value} {s : String} {names : List String} {container : Json.Container}

/-! ### Texts -/

namespace Json

/-- The names that a text lists: those in the array that it writes, none if it writes no array. -/
def ListsNames (s : String) (names : List String) : Prop :=
  (∃ items, Writes s (.arr items) ∧ names = namesOfItems items) ∨
    (∀ items, ¬ Writes s (.arr items)) ∧ names = []

theorem isBlank_of_startsValue {c : Char} (h : startsValue c = true) : Text.isBlank c = false := by
  simp only [startsValue, startsScalar, Bool.or_eq_true, beq_iff_eq, List.contains_eq_mem,
    List.mem_cons, List.not_mem_nil, or_false, decide_eq_true_eq] at h
  rcases h with ((((rfl | rfl) | rfl | rfl | rfl | rfl | rfl) | hdigit) | rfl) | rfl
  all_goals try rfl
  obtain ⟨hlow, hhigh⟩ : 48 ≤ c.toNat ∧ c.toNat ≤ 57 := by
    simpa [Char.isDigit, UInt32.le_iff_toNat_le] using hdigit
  simp [Text.isBlank]
  omega

/-- A text that begins with a value is not blank. -/
theorem not_blank_of_startsValue {c : Char} {tail : List Char}
    (hskip : skipSpace s.toList = c :: tail) (h : startsValue c = true) :
    Text.isBlankText s = false := by
  have hc : c ∈ s.toList := (suffix_skipSpace s.toList).subset (hskip ▸ List.mem_cons_self)
  rw [Text.isBlankText, List.all_eq_false]
  exact ⟨c, hc, by rw [isBlank_of_startsValue h]; decide⟩

theorem not_within_nil (n : Nat) (v : Json) (rest : List Char) : ¬ Within n [] v rest := by
  intro h
  cases (readValue_nil 0 n).symm.trans ((reads_readValue 0 n [] (Nat.le_refl 0) v rest).2 h)

theorem not_blank_of_writes {v : Json} (h : Writes s v) : Text.isBlankText s = false := by
  obtain ⟨n, rest, hvalue, -⟩ := h
  revert hvalue
  cases hskip : skipSpace s.toList with
  | nil => exact fun hvalue => absurd hvalue (not_within_nil n _ _)
  | cons c tail => exact fun hvalue => not_blank_of_startsValue hskip (startsValue_of_within hvalue)

theorem not_blank_of_nestsTooDeep (h : NestsTooDeep room container s) :
    Text.isBlankText s = false := by
  rw [NestsTooDeep] at h
  rcases exists_opening_or (skipSpace s.toList) with ⟨other, tail, hskip⟩ | hscalar
  · refine not_blank_of_startsValue hskip ?_
    cases other <;> rfl
  · exact absurd h (not_reaches_of_scalar hscalar)

theorem namesOfItems_nestedArray (n : Nat) : namesOfItems [nestedArray n] = [] := by
  cases n <;> rfl

theorem listsNames_brackets (n : Nat) : ListsNames (brackets (n + 1)) [] := by
  cases n with
  | zero => exact .inl ⟨[], writes_brackets 0, rfl⟩
  | succ n => exact .inl ⟨_, writes_brackets (n + 1), (namesOfItems_nestedArray n).symm⟩

end Json

namespace Value

/-- The value is a text that is nested too deep. -/
def NestsTooDeep (room : Nat) (v : Value) : Prop :=
  ∃ s container, v = .text s ∧ Json.NestsTooDeep room container s

theorem readable_text_iff :
    (Value.text s).Readable room ↔ ∀ container, ¬ Json.NestsTooDeep room container s := by
  constructor
  · rintro (hnull | ⟨s', hs, hread⟩) container hdeep
    · cases hnull
    · cases hs
      exact hread container (Json.readText_eq_tooDeep_iff.2 hdeep)
  · intro h
    exact .inr ⟨s, rfl, fun container hread => h container (Json.readText_eq_tooDeep_iff.1 hread)⟩

theorem readable_iff : v.Readable room ↔ v.Textual ∧ ¬ v.NestsTooDeep room := by
  constructor
  · intro h
    refine ⟨h.textual, ?_⟩
    rintro ⟨s, container, rfl, hdeep⟩
    exact readable_text_iff.1 h container hdeep
  · rintro ⟨rfl | ⟨s, rfl⟩, hdeep⟩
    · exact .inl rfl
    · exact readable_text_iff.2 fun container h => hdeep ⟨s, container, rfl, h⟩

/-- The names that a text lists are those that its value has, unless it is nested too deep. -/
theorem listsNames_iff (h : ∀ container, ¬ Json.NestsTooDeep room container s) :
    Json.ListsNames s names ↔ names = (Value.text s).aliases room := by
  simp only [Json.ListsNames, ← Json.readText_eq_ok_iff_writes h]
  by_cases harray : ∃ items, Json.readText room s = .ok (.arr items)
  · obtain ⟨items, hitems⟩ := harray
    have hblank := Json.not_blank_of_writes ((Json.readText_eq_ok_iff_writes h).1 hitems)
    have haliases : (Value.text s).aliases room = namesOfItems items := by
      simp only [aliases, hblank, hitems, Bool.false_eq_true, if_false]
    rw [haliases]
    constructor
    · rintro (⟨items', hitems', rfl⟩ | ⟨hnone, -⟩)
      · cases hitems.symm.trans hitems'
        rfl
      · exact absurd hitems (hnone items)
    · exact fun hnames => .inl ⟨items, hitems, hnames⟩
  · have haliases : (Value.text s).aliases room = [] := by
      rw [aliases]
      split
      · rfl
      · split
        · next items hitems => exact absurd ⟨items, hitems⟩ harray
        · rfl
    rw [haliases]
    constructor
    · rintro (⟨items, hitems, -⟩ | ⟨-, hnames⟩)
      · exact absurd ⟨items, hitems⟩ harray
      · exact hnames
    · exact fun hnames => .inr ⟨fun items hitems => harray ⟨items, hitems⟩, hnames⟩

end Value

/-! ### Cells -/

theorem result_readAliases_of_nestsTooDeep (h : Json.NestsTooDeep room container s) :
    (readAliases room (.text s)).result = .error (.nestedTooDeep container) := by
  rw [result_readAliases_text, Json.not_blank_of_nestsTooDeep h, Json.readText_eq_tooDeep_iff.2 h]
  rfl

/-- **The names that a text lists are read of it, unless it is nested too deep.** -/
theorem result_readAliases_eq_ok_iff (room : Nat) (s : String) (names : List String) :
    (readAliases room (.text s)).result = .ok names ↔
      Json.ListsNames s names ∧ ∀ container, ¬ Json.NestsTooDeep room container s := by
  by_cases h : ∃ container, Json.NestsTooDeep room container s
  · obtain ⟨container, hdeep⟩ := h
    rw [result_readAliases_of_nestsTooDeep hdeep]
    exact iff_of_false (by simp) fun h => h.2 container hdeep
  · have hdeep := not_exists.1 h
    rw [result_readAliases (Value.readable_text_iff.2 hdeep), Value.listsNames_iff hdeep]
    exact ⟨fun h => ⟨(Except.ok.inj h).symm, hdeep⟩, fun h => h.1 ▸ rfl⟩

/-- **Reading names fails on the texts that are nested too deep, and on no other text.** -/
theorem result_readAliases_eq_error_iff (room : Nat) (s : String) (e : Failure) :
    (readAliases room (.text s)).result = .error e ↔
      ∃ container, e = .nestedTooDeep container ∧ Json.NestsTooDeep room container s := by
  constructor
  · intro h
    by_cases hdeep : ∃ container, Json.NestsTooDeep room container s
    · obtain ⟨container, hdeep⟩ := hdeep
      cases h.symm.trans (result_readAliases_of_nestsTooDeep hdeep)
      exact ⟨container, rfl, hdeep⟩
    · have hread := Value.readable_text_iff.2 (not_exists.1 hdeep)
      cases h.symm.trans (result_readAliases hread)
  · rintro ⟨container, rfl, hdeep⟩
    exact result_readAliases_of_nestsTooDeep hdeep

theorem fails_readAliases_iff (room : Nat) (h : v.Textual) :
    (readAliases room v).Fails ↔ v.NestsTooDeep room := by
  constructor
  · rintro ⟨e, hfails⟩
    by_contra hdeep
    cases hfails.symm.trans (result_readAliases (Value.readable_iff.2 ⟨h, hdeep⟩))
  · rintro ⟨s, container, rfl, hdeep⟩
    exact ⟨_, result_readAliases_of_nestsTooDeep hdeep⟩

/-! ### Rows -/

variable {columns : List String} {row : List Cell} {rows : List (List Cell)}

/-- The values of these columns are null or texts. -/
def TextualIn (columns : List String) (row : List Cell) : Prop :=
  ∀ column ∈ columns, (valueOf row column).Textual

/-- One of these columns holds a text that is nested too deep. -/
def NestsTooDeepIn (room : Nat) (columns : List String) (row : List Cell) : Prop :=
  ∃ column ∈ columns, (valueOf row column).NestsTooDeep room

theorem fails_enter_iff (m : TypeMap) (h : TextualIn ["key_aliases", "column_aliases"] row) :
    (TypeMap.enter room .v1 m row).Fails ↔
      NestsTooDeepIn room ["key_aliases", "column_aliases"] row := by
  have hpartition := fails_readAliases_iff room (h "key_aliases" (by simp))
  have hclustering := fails_readAliases_iff room (h "column_aliases" (by simp))
  rw [TypeMap.enter, TypeMap.addAliases, Outcome.fails_bind_iff fun _ _ =>
    (Outcome.fails_bind_pure_iff _).trans hpartition, hclustering]
  simp [NestsTooDeepIn, or_comm]

theorem fails_addRows_iff (m : TypeMap)
    (h : ∀ row ∈ rows, TextualIn ["key_aliases", "column_aliases"] row) :
    (m.addRows (TypeMap.enter room .v1) rows).Fails ↔
      ∃ row ∈ rows, NestsTooDeepIn room ["key_aliases", "column_aliases"] row := by
  induction rows generalizing m with
  | nil => exact iff_of_false (Outcome.not_fails_pure m) (by simp)
  | cons row rest ih =>
    have hrest := fun m' => ih m' fun row hrow => h row (List.mem_cons_of_mem _ hrow)
    rw [TypeMap.addRows, Outcome.fails_bind_iff fun m' _ => hrest m',
      fails_enter_iff m (h row List.mem_cons_self), List.exists_mem_cons_iff]

theorem fails_partitionKeyNames_iff (h : ∀ row ∈ rows, TextualIn ["key_aliases"] row) :
    (Listing.partitionKeyNames room rows).Fails ↔
      ∃ row ∈ rows, NestsTooDeepIn room ["key_aliases"] row := by
  induction rows with
  | nil => exact iff_of_false (Outcome.not_fails_pure _) (by simp)
  | cons row rest ih =>
    have hrest := ih fun row hrow => h row (List.mem_cons_of_mem _ hrow)
    have hrow := fails_readAliases_iff room (h row List.mem_cons_self "key_aliases" (by simp))
    rw [Listing.partitionKeyNames, Outcome.fails_bind_iff fun _ _ =>
      (Outcome.fails_bind_pure_iff _).trans hrest, hrow, List.exists_mem_cons_iff]
    simp [NestsTooDeepIn]

/-! ### Lookups and listings -/

namespace Executor

variable {ex : Executor} {m : MetadataQuery}

/-- The rows that answer a metadata query hold nothing but null and texts in these columns. -/
def AnswersTexts (ex : Executor) (m : MetadataQuery) (columns : List String) : Prop :=
  ∀ rows, ex.rows? m.cql = some rows → ∀ row ∈ rows, TextualIn columns row

/-- A row that answers a metadata query holds a text in one of these columns that is nested too
deep. -/
def AnswersTooDeep (ex : Executor) (m : MetadataQuery) (columns : List String) : Prop :=
  ∃ rows, ex.rows? m.cql = some rows ∧ ∃ row ∈ rows, NestsTooDeepIn ex.room columns row

theorem not_answersTooDeep (h : ex.rows? m.cql = none) : ¬ ex.AnswersTooDeep m columns := by
  rintro ⟨rows, hrows, -⟩
  cases h.symm.trans hrows

theorem answersTooDeep_iff (h : ex.rows? m.cql = some rows) :
    ex.AnswersTooDeep m columns ↔ ∃ row ∈ rows, NestsTooDeepIn ex.room columns row := by
  simp [AnswersTooDeep, h]

end Executor

variable {ex : Executor} {q : Query} {table? : Option Table}

theorem fails_lookup_iff
    (h : ∀ m, TypeMap.question? .v1 q = some m →
      ex.AnswersTexts m ["key_aliases", "column_aliases"]) :
    (TypeMap.lookup .v1 ex q).Fails ↔
      ∃ m, TypeMap.question? .v1 q = some m ∧
        ex.AnswersTooDeep m ["key_aliases", "column_aliases"] := by
  rw [Outcome.Fails, result_lookup_eq]
  cases hquestion : TypeMap.question? .v1 q with
  | none => simp
  | some m =>
    simp only [Option.some.injEq, exists_eq_left']
    cases hrows : ex.rows? m.cql with
    | none => simp [Executor.not_answersTooDeep hrows]
    | some rows =>
      exact (fails_addRows_iff .empty (h m hquestion rows hrows)).trans
        (Executor.answersTooDeep_iff hrows).symm

theorem fails_partitionKeys_iff
    (h : ex.AnswersTexts (.keyAliases (table?.map Identifier.key)) ["key_aliases"]) :
    (Listing.partitionKeys ex table?).Fails ↔
      ex.AnswersTooDeep (.keyAliases (table?.map Identifier.key)) ["key_aliases"] := by
  rw [Outcome.Fails, Listing.partitionKeys, result_executeSilent_bind]
  cases hrows : ex.rows? (MetadataQuery.keyAliases (table?.map Identifier.key)).cql with
  | none => exact iff_of_false (Outcome.not_fails_pure _) (Executor.not_answersTooDeep hrows)
  | some rows =>
    exact (fails_partitionKeyNames_iff (h rows hrows)).trans
      (Executor.answersTooDeep_iff hrows).symm

theorem fails_columns_iff (limit : Nat)
    (h : ex.AnswersTexts (.keyAliases (table?.map Identifier.key)) ["key_aliases"]) :
    (Listing.columns .v1 ex limit table?).Fails ↔
      (ex.rows? (MetadataQuery.columns (table?.map Identifier.key) limit).cql).isSome ∧
        ex.AnswersTooDeep (.keyAliases (table?.map Identifier.key)) ["key_aliases"] := by
  rw [Outcome.Fails, Listing.columns, result_executeSilent_bind]
  cases ex.rows? (MetadataQuery.columns (table?.map Identifier.key) limit).cql with
  | none => exact iff_of_false (Outcome.not_fails_pure _) (by simp)
  | some rows =>
    rw [Option.isSome_some, eq_self, true_and, ← fails_partitionKeys_iff h]
    exact Outcome.fails_bind_pure_iff _

/-- **Names are read of every text that is not nested too deep.**  Such a text gives the names in
the array that it writes, and none if it writes no array; null gives none.  On a text that is nested
too deep the reading fails, whatever the text writes.  A text that writes a value is one of these
just if the value is nested deeper than there is room for, and each of them has more opening
brackets than that.  A lookup of column types and a listing of columns fail on such a text in a row
that they read, and otherwise return, if the rows hold nothing but null and texts. -/
theorem names_of_texts (ex : Executor) (q : Query) (limit : Nat) (table? : Option Table)
    (hlookup : ∀ m, TypeMap.question? .v1 q = some m →
      ex.AnswersTexts m ["key_aliases", "column_aliases"])
    (hlisting : ex.AnswersTexts (.keyAliases (table?.map Identifier.key)) ["key_aliases"]) :
    (readAliases ex.room .null).result = .ok [] ∧
    (∀ s names, (readAliases ex.room (.text s)).result = .ok names ↔
      Json.ListsNames s names ∧ ∀ container, ¬ Json.NestsTooDeep ex.room container s) ∧
    (∀ s e, (readAliases ex.room (.text s)).result = .error e ↔
      ∃ container, e = .nestedTooDeep container ∧ Json.NestsTooDeep ex.room container s) ∧
    (∀ s v, Json.Writes s v → ((∃ container, Json.NestsTooDeep ex.room container s) ↔
      ¬ Json.WritesWithin ex.room s v)) ∧
    (∀ s container, Json.NestsTooDeep ex.room container s →
      ex.room < s.toList.countP Json.isOpening) ∧
    ((TypeMap.lookup .v1 ex q).Fails ↔ ∃ m, TypeMap.question? .v1 q = some m ∧
      ex.AnswersTooDeep m ["key_aliases", "column_aliases"]) ∧
    ((Listing.columns .v1 ex limit table?).Fails ↔
      (ex.rows? (MetadataQuery.columns (table?.map Identifier.key) limit).cql).isSome ∧
        ex.AnswersTooDeep (.keyAliases (table?.map Identifier.key)) ["key_aliases"]) :=
  ⟨rfl, result_readAliases_eq_ok_iff ex.room, result_readAliases_eq_error_iff ex.room,
    fun _ _ => Json.exists_nestsTooDeep_iff, fun _ _ => Json.lt_of_nestsTooDeep,
    fails_lookup_iff hlookup, fails_columns_iff limit hlisting⟩

/-- A session that answers everything with one row, in which the key columns are listed as `s`. -/
def listingSession (s : String) : Session := fun _ =>
  .delivered { names := ["key_aliases"], rows := [[.text s]] }

theorem rows?_listingSession {ex : Executor} (h : ex.session = listingSession s) (cql : String) :
    ex.rows? cql = some [[⟨"key_aliases", none, .text s⟩]] := by
  rw [rows?_eq_some ex cql (by rw [Executor.stream, h]; rfl), Executor.stream, h]
  rfl

theorem answersTexts_listingSession {ex : Executor} (h : ex.session = listingSession s)
    (m : MetadataQuery) (columns : List String) : ex.AnswersTexts m columns := by
  intro rows hrows row hrow column _
  rw [rows?_listingSession h] at hrows
  cases hrows
  rw [List.mem_singleton.1 hrow, valueOf, List.find?_cons]
  split
  · exact .inr ⟨s, rfl⟩
  · exact .inl rfl

theorem answersTooDeep_listingSession {ex : Executor} (h : ex.session = listingSession s)
    (hdeep : Json.NestsTooDeep ex.room container s) (m : MetadataQuery) (columns : List String)
    (hcolumns : "key_aliases" ∈ columns) : ex.AnswersTooDeep m columns := by
  refine ⟨_, rows?_listingSession h m.cql, _, List.mem_singleton_self _, "key_aliases", hcolumns,
    s, container, ?_, hdeep⟩
  simp [valueOf, Cell.key]

/-- A list of key columns that is nested too deep fails the lookup and the listing that read it. -/
theorem lookups_of_brackets :
    let ex : Executor := ⟨⟨120, 990⟩, listingSession (Json.brackets 50000)⟩
    (∀ m, TypeMap.question? .v1 allUsers = some m →
      ex.AnswersTexts m ["key_aliases", "column_aliases"]) ∧
    ex.AnswersTexts (.keyAliases none) ["key_aliases"] ∧
    (TypeMap.lookup .v1 ex allUsers).Fails ∧ (Listing.columns .v1 ex 10 none).Fails := by
  intro ex
  have htexts : ∀ m columns, ex.AnswersTexts m columns := answersTexts_listingSession rfl
  have hdeep : ∀ m columns, "key_aliases" ∈ columns → ex.AnswersTooDeep m columns :=
    answersTooDeep_listingSession rfl (Json.nestsTooDeep_brackets (by decide))
  have hnames := names_of_texts ex allUsers 10 none (fun m _ => htexts m _) (htexts _ _)
  obtain ⟨-, -, -, -, -, hlookup, hlisting⟩ := hnames
  refine ⟨fun m _ => htexts m _, htexts _ _, hlookup.2 ⟨.keyAliases (some "users"), ?_, ?_⟩,
    hlisting.2 ⟨rfl, ?_⟩⟩
  · decide
  · exact hdeep _ _ (by decide)
  · exact hdeep _ _ (by decide)

/-- **An array without names is refused for its depth**, unless there is room for all of it. -/
theorem deep_array_is_refused :
    Json.ListsNames (Json.brackets 50000) [] ∧
      ∀ room < 50000, (readAliases room (.text (Json.brackets 50000))).result =
        .error (.nestedTooDeep .array) :=
  ⟨Json.listsNames_brackets 49999, fun _ hroom =>
    result_readAliases_of_nestsTooDeep (Json.nestsTooDeep_brackets hroom)⟩

end CqlGateway
