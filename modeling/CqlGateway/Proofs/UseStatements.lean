import CqlGateway.Proofs.Contexts
import CqlGateway.Proofs.Frames
import CqlGateway.Proofs.Mentions

/-!
# Statements that select a keyspace

A `use` statement is the word in any case, blanks, and the name of a keyspace (`UseStatement`).  In
whatever frame it is typed, it is read as a query of its kind; the name is found behind the word, as
it is written but for the quotes; and if the query returns, then it is the name of the active
keyspace from then on (`keyspace_of_use`).

Three readers have to agree for this: the one that takes the statement out of its frame, the one
that tells its kind by the first word, and the one that looks for the name.
-/

namespace CqlGateway

namespace Text

variable {c : Char} {cs : List Char}

/-! ### Lower case in ASCII -/

theorem lowerAt_of_ascii (h : c.toNat < 0x80) (before after : List Char) :
    lowerAt before c after = [c.toLower] := by
  have hsigma : (c.toNat == 0x3A3) = false := by rw [beq_eq_false_iff_ne]; omega
  have hdotted : (c.toNat == 0x130) = false := by rw [beq_eq_false_iff_ne]; omega
  rw [lowerAt, hsigma, hdotted, if_neg Bool.false_ne_true, if_neg Bool.false_ne_true, lowerChar,
    if_pos h]

theorem lowerChars_go_of_ascii (h : ∀ c ∈ cs, c.toNat < 0x80) (before done : List Char) :
    lowerChars.go before done cs = done.reverse ++ cs.map Char.toLower := by
  induction cs generalizing before done with
  | nil => rw [lowerChars.go, List.map_nil, List.append_nil]
  | cons c rest ih =>
    rw [lowerChars.go, lowerAt_of_ascii (h c List.mem_cons_self),
      ih fun d hd => h d (List.mem_cons_of_mem _ hd)]
    simp

/-- A text of ASCII is lowered character by character. -/
theorem lowerChars_of_ascii (h : ∀ c ∈ cs, c.toNat < 0x80) : lowerChars cs = cs.map Char.toLower :=
  lowerChars_go_of_ascii h [] []

end Text

/-! ### Written statements -/

/-- A `use` statement as it is written. -/
structure UseStatement where
  word : List Char
  gap : List Char
  target : WrittenName
  same_word : word.map Char.toLower = "use".toList
  gap_nonempty : gap ≠ []
  gap_blank : ∀ c ∈ gap, Text.isBlank c = true

namespace UseStatement

variable (u : UseStatement)

/-- The characters that are written. -/
def chars : List Char :=
  u.word ++ (u.gap ++ u.target.chars)

/-- The name of the keyspace. -/
def name : String :=
  String.ofList u.target.name

theorem ascii_of_mem_use : ∀ c ∈ "use".toList, c.toNat < 0x80 := by
  have hall : ("use".toList.all fun c => c.toNat < 0x80) = true := by decide
  intro c hc
  simpa using List.all_eq_true.1 hall c hc

theorem ascii_of_mem_word : ∀ c ∈ u.word, c.toNat < 0x80 := by
  intro c hc
  have hlower : c.toLower ∈ "use".toList := u.same_word ▸ List.mem_map_of_mem hc
  exact Text.toNat_lt_of_toLower (ascii_of_mem_use _ hlower)

theorem not_isBlank_of_mem_word : ∀ c ∈ u.word, Text.isBlank c = false := by
  intro c hc
  have hlower : c.toLower ∈ "use".toList := u.same_word ▸ List.mem_map_of_mem hc
  exact Text.of_ascii (P := fun c => c.toLower ∈ "use".toList → Text.isBlank c = false)
    (by decide) (u.ascii_of_mem_word c hc) hlower

theorem word_ne_nil : u.word ≠ [] := by
  intro hnil
  have hword := u.same_word
  rw [hnil] at hword
  exact absurd hword (by decide)

theorem chars_ne_nil : u.chars ≠ [] :=
  List.append_ne_nil_of_left_ne_nil u.word_ne_nil _

theorem not_isBlank_of_mem_head? : ∀ c ∈ u.chars.head?, Text.isBlank c = false := by
  intro c hc
  obtain ⟨first, rest, hword⟩ := List.exists_cons_of_ne_nil u.word_ne_nil
  rw [chars, hword] at hc
  cases hc
  exact u.not_isBlank_of_mem_word _ (hword ▸ List.mem_cons_self)

theorem getLast?_chars : u.chars.getLast? = u.target.chars.getLast? := by
  rw [chars, ← List.append_assoc, List.getLast?_append_of_ne_nil _ u.target.chars_ne_nil]

/-- A `use` statement fits into every frame. -/
theorem fits (f : Frame) : f.Fits u.chars where
  trimmed := by
    refine Text.trim_of_ends u.not_isBlank_of_mem_head? ?_
    rw [u.getLast?_chars]
    exact u.target.not_isBlank_of_mem_getLast?
  separated := by
    intro hlast
    rw [u.getLast?_chars] at hlast
    rcases u.target.isBareChar_of_mem_getLast? ';' hlast with hbare | hquote
    · exact absurd hbare (by decide)
    · exact absurd hquote (by decide)

theorem firstWord_chars : Text.firstWord u.chars = u.word := by
  refine Text.takeWhile_append_of_head (fun c hc => ?_) fun c hc => ?_
  · rw [u.not_isBlank_of_mem_word c hc]
    rfl
  · obtain ⟨blank, gap, hgap⟩ := List.exists_cons_of_ne_nil u.gap_nonempty
    rw [hgap] at hc
    cases hc
    rw [u.gap_blank _ (hgap ▸ List.mem_cons_self)]
    rfl

/-- **A `use` statement is read out of its frame.** -/
theorem ofText_around (f : Frame) :
    Query.ofText (String.ofList (f.around u.chars)) = .ok ⟨String.ofList u.chars, .use⟩ := by
  have hkind :
      QueryKind.ofWord (String.ofList (Text.lowerChars (Text.firstWord u.chars))) = .use := by
    rw [u.firstWord_chars, Text.lowerChars_of_ascii u.ascii_of_mem_word, u.same_word,
      String.ofList_toList]
    rfl
  rw [Query.ofText_eq, String.toList_ofList, Frame.statement_around (u.fits f),
    Query.ofStatement_of_ne_nil u.chars_ne_nil, hkind]

/-- **The name in a `use` statement is found.** -/
theorem useTarget?_chars : Query.useTarget? u.chars = some u.target.name := by
  have hstart : Text.trimStart u.chars = u.chars :=
    Text.dropWhile_of_head u.not_isBlank_of_mem_head?
  have hsame := Text.sameWord_of_map_toLower u.same_word ascii_of_mem_use
  have hhead := u.target.not_isBlank_of_mem_head? []
  have htake : takeName? (u.target.chars ++ []) = some (u.target.chars, []) :=
    u.target.takeName?_chars fun _ => nofun
  rw [List.append_nil] at hhead htake
  have hdrop : dropKeyword? "use".toList u.chars = some u.target.chars :=
    dropKeyword?_append hsame u.gap_nonempty u.gap_blank hhead
  simp only [Query.useTarget?, hstart, hdrop, htake, Option.bind_eq_bind, Option.bind_some]
  exact u.target.unquoteName?_chars

theorem keyspace?_chars :
    (Query.keyspace? ⟨String.ofList u.chars, .use⟩).map Identifier.text = some u.name := by
  rw [Query.keyspace?]
  simp only [String.toList_ofList, u.useTarget?_chars, Option.bind_some]
  exact u.target.text_ofText?_name .keyspace

end UseStatement

/-! ### Executing a written statement -/

/-- The tables of the active keyspace are asked for by its name in lower case. -/
theorem texts_activeTables {s : Service} {context : Context} {name : String}
    (h : context.name? = some name) (session : Session) :
    (s.perform session (.activeTables context)).texts =
      [(MetadataQuery.tables (some (Text.lower name))).cql] := by
  obtain ⟨k, hk, rfl⟩ := Option.map_eq_some_iff.1 h
  calc (s.perform session (.activeTables context)).texts =
        [(MetadataQuery.tables (context.keyspace?.map Identifier.key)).cql] :=
        texts_perform s session (.activeTables context)
    _ = _ := by rw [hk]; rfl

/-- **A `use` statement selects the keyspace that is written in it.**  In whatever frame it stands,
it is read as a `use` query that mentions the keyspace by the name that is written, without its
quotes.  If the query returns, then the context behind it holds this name, and the tables of the
active keyspace are asked for by this name in lower case. -/
theorem keyspace_of_use (u : UseStatement) (f : Frame) :
    ∃ q, Query.ofText (String.ofList (f.around u.chars)) = .ok q ∧ q.kind = .use ∧
      q.keyspace?.map Identifier.text = some u.name ∧
      ∀ (s : Service) (session : Session) (context context' : Context) (selection : Selection),
        (s.execute session q context).result = .ok (selection, context') →
          context'.name? = some u.name ∧
            ∀ (browser : Service) (session' : Session),
              (browser.perform session' (.activeTables context')).texts =
                [(MetadataQuery.tables (some (Text.lower u.name))).cql] := by
  refine ⟨_, u.ofText_around f, rfl, u.keyspace?_chars, ?_⟩
  intro s session context context' selection hresult
  have hname : context'.name? = some u.name := by
    rw [context_of_execute hresult, Context.name?, keyspace_after, if_pos rfl]
    exact u.keyspace?_chars
  exact ⟨hname, fun browser session' => texts_activeTables hname session'⟩

theorem isBlank_of_mem_wideBlank : ∀ c ∈ "\u3000".toList, Text.isBlank c = true :=
  List.all_eq_true.1 (by decide)

/-- A `use` statement with a quoted name, in capitals and with a wide blank. -/
def useShop : UseStatement where
  word := "uSE".toList
  gap := "\u3000".toList
  target := .quoted "My; Shop".toList (by decide) (by decide) (by decide)
  same_word := by decide
  gap_nonempty := by decide
  gap_blank := isBlank_of_mem_wideBlank

/-- A frame with blanks and semicolons. -/
def untidyFrame : Frame where
  front := "\n ".toList
  left := "\t".toList
  semicolons := ";;".toList
  right := "\u00a0".toList
  front_blank := List.all_eq_true.1 (by decide)
  left_blank := List.all_eq_true.1 (by decide)
  eq_semicolon c hc :=
    eq_of_beq (List.all_eq_true.1 (show ";;".toList.all (· == ';') from rfl) c hc)
  right_blank := List.all_eq_true.1 (by decide)

/-- A session that answers without rows. -/
def silentSession : Session := fun _ =>
  .delivered { names := [] }

/-- The keyspace is selected with its capitals, and its tables are asked for without them. -/
theorem keyspace_of_useShop :
    ∃ q selection context', Query.ofText "\n uSE\u3000\"My; Shop\"\t;;\u00a0" = .ok q ∧
      (twoRowService.execute silentSession q {}).result = .ok (selection, context') ∧
      context'.name? = some "My; Shop" ∧
      (twoRowService.perform silentSession (.activeTables context')).texts =
        ["select columnfamily_name from system.schema_columnfamilies " ++
          "where keyspace_name='my; shop'"] := by
  obtain ⟨q, hq, -, -, hexecute⟩ := keyspace_of_use useShop untidyFrame
  have hanswer : silentSession q.cql = .delivered { names := [] } := rfl
  have hresult : (twoRowService.execute silentSession q {}).result =
      .ok (.empty, Context.after q {}) := by
    rw [execute_of_no_rows hanswer rfl]
    rfl
  obtain ⟨hname, htexts⟩ := hexecute _ _ _ _ _ hresult
  exact ⟨q, _, _, hq, hresult, hname, htexts twoRowService silentSession⟩

end CqlGateway
