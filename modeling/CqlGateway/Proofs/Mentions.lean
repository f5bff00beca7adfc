import CqlGateway.Proofs.WrittenNames
import Mathlib.Data.List.Forall2

/-!
# Tables that statements mention

A statement mentions a table behind a keyword, which is written in any case and with at least one
blank behind it.  `Mention` is what is written, and `Mention.StandsIn` says between which texts it
may stand: the word begins with the keyword, nothing before looks like the keyword, and what follows
is no part of the name.  Whatever these texts are, the search behind the keyword finds the table and
its keyspace as they are written (`names_of_mention`).
-/

namespace CqlGateway

namespace Text

variable {c : Char} {word cs rest : List Char}

/-! ### Words up to case -/

theorem matchesIgnoringCase_toLower (h : c.toNat < 0x80) :
    matchesIgnoringCase c.toLower c = true :=
  of_ascii (P := fun c => matchesIgnoringCase c.toLower c = true) (by decide) h

theorem isWordChar_toLower (h : c.toNat < 0x80) : isWordChar c.toLower = isWordChar c :=
  of_ascii (P := fun c => isWordChar c.toLower = isWordChar c) (by decide) h

/-- The two words are equal up to case. -/
def SameWord (word word' : List Char) : Prop :=
  List.Forall₂ (fun a b => matchesIgnoringCase a b = true) word word'

theorem dropWord?_eq_some_iff :
    dropWord? word cs = some rest ↔ ∃ front, cs = front ++ rest ∧ SameWord word front := by
  induction word generalizing cs with
  | nil =>
    constructor
    · rintro ⟨⟩
      exact ⟨[], rfl, .nil⟩
    · rintro ⟨front, rfl, hsame⟩
      cases hsame
      rfl
  | cons w word ih =>
    constructor
    · intro h
      cases cs with
      | nil => cases h
      | cons c cs =>
        obtain ⟨hc, hrest⟩ := Option.ite_none_right_eq_some.1 h
        obtain ⟨front, rfl, hsame⟩ := ih.1 hrest
        exact ⟨c :: front, rfl, .cons hc hsame⟩
    · rintro ⟨front, rfl, hsame⟩
      cases hsame with
      | cons hc hsame =>
        rw [List.cons_append, dropWord?, if_pos hc]
        exact ih.2 ⟨_, rfl, hsame⟩

/-- A word of ASCII is the same in any other case. -/
theorem sameWord_of_map_toLower (h : cs.map Char.toLower = word)
    (hascii : ∀ c ∈ word, c.toNat < 0x80) : SameWord word cs := by
  subst h
  rw [SameWord, List.forall₂_map_left_iff, List.forall₂_same]
  intro c hc
  exact matchesIgnoringCase_toLower (toNat_lt_of_toLower (hascii _ (List.mem_map_of_mem hc)))

end Text

/-! ### Keywords -/

/-- The keyword stands at the start of a text, up to case, with a blank behind it. -/
def StartsKeyword (keyword cs : List Char) : Prop :=
  ∃ word blank rest, cs = word ++ blank :: rest ∧ Text.SameWord keyword word ∧
    Text.isBlank blank = true

variable {keyword word gap before cs rest : List Char} {previous? : Option Char}

theorem dropKeyword?_of_sameWord {blank : Char} (hword : Text.SameWord keyword word)
    (hblank : Text.isBlank blank = true) :
    dropKeyword? keyword (word ++ blank :: rest) = some (Text.trimStart rest) := by
  have hdrop : Text.dropWord? keyword (word ++ blank :: rest) = some (blank :: rest) :=
    Text.dropWord?_eq_some_iff.2 ⟨word, rfl, hword⟩
  rw [dropKeyword?, hdrop]
  exact if_pos hblank

/-- The keyword stands at the start of a text iff it can be dropped there. -/
theorem startsKeyword_iff :
    StartsKeyword keyword cs ↔ ∃ rest, dropKeyword? keyword cs = some rest := by
  constructor
  · rintro ⟨word, blank, rest, rfl, hword, hblank⟩
    exact ⟨Text.trimStart rest, dropKeyword?_of_sameWord hword hblank⟩
  · rintro ⟨rest, h⟩
    rw [dropKeyword?] at h
    split at h
    · next blank after hdrop =>
      obtain ⟨hblank, -⟩ := Option.ite_none_right_eq_some.1 h
      obtain ⟨word, rfl, hword⟩ := Text.dropWord?_eq_some_iff.1 hdrop
      exact ⟨word, blank, after, rfl, hword, hblank⟩
    · cases h

instance : Decidable (StartsKeyword keyword cs) :=
  decidable_of_iff ((dropKeyword? keyword cs).isSome = true)
    (Option.isSome_iff_exists.trans startsKeyword_iff.symm)

theorem dropKeyword?_append (hword : Text.SameWord keyword word) (hgap : gap ≠ [])
    (hblank : ∀ c ∈ gap, Text.isBlank c = true)
    (hrest : ∀ c ∈ rest.head?, Text.isBlank c = false) :
    dropKeyword? keyword (word ++ (gap ++ rest)) = some rest := by
  obtain ⟨first, more, rfl⟩ := List.exists_cons_of_ne_nil hgap
  have hmore : ∀ c ∈ more, Text.isBlank c = true := fun c hc =>
    hblank c (List.mem_cons_of_mem _ hc)
  rw [List.cons_append, dropKeyword?_of_sameWord hword (hblank first List.mem_cons_self),
    Text.trimStart, Text.dropWhile_append_of_head hmore hrest]

/-! ### Searching for a keyword -/

/-- A text in which the keyword never stands is passed over. -/
theorem findQualifiedName?_append
    (h : ∀ i < before.length, ¬StartsKeyword keyword ((before ++ rest).drop i)) :
    findQualifiedName? keyword previous? (before ++ rest) =
      findQualifiedName? keyword (before.getLast?.or previous?) rest := by
  induction before generalizing previous? with
  | nil => rfl
  | cons c before ih =>
    have hnone : dropKeyword? keyword (c :: (before ++ rest)) = none := by
      rw [Option.eq_none_iff_forall_ne_some]
      intro named hnamed
      exact h 0 (Nat.zero_lt_succ _) (startsKeyword_iff.2 ⟨named, hnamed⟩)
    have hrest : ∀ i < before.length, ¬StartsKeyword keyword ((before ++ rest).drop i) :=
      fun i hi => h (i + 1) (Nat.succ_lt_succ hi)
    rw [List.cons_append, findQualifiedName?, hnone, Option.bind_none, ite_self]
    dsimp only
    rw [ih hrest, List.getLast?_cons]
    cases before.getLast? <;> rfl

/-- The name behind a keyword at the start of a text is found. -/
theorem findQualifiedName?_of_start {c : Char} {name : QualifiedName}
    (hboundary : Text.isBoundary previous? (some c) = true)
    (hdrop : dropKeyword? keyword (c :: cs) = some rest)
    (hname : takeQualifiedName? rest = some name) :
    findQualifiedName? keyword previous? (c :: cs) = some name := by
  rw [findQualifiedName?, if_pos hboundary, hdrop, Option.bind_some, hname]

/-! ### Mentions -/

/-- A table behind a keyword, as it is written. -/
structure Mention (keyword : String) where
  word : List Char
  gap : List Char
  target : WrittenTable
  same_word : word.map Char.toLower = keyword.toList
  gap_nonempty : gap ≠ []
  gap_blank : ∀ c ∈ gap, Text.isBlank c = true

namespace Mention

/-- The characters that are written. -/
def chars {keyword : String} (m : Mention keyword) : List Char :=
  m.word ++ (m.gap ++ m.target.chars)

/-- The mention stands between two texts: a word begins with it, the keyword stands nowhere before
it, and what follows is no part of the name. -/
structure StandsIn {keyword : String} (m : Mention keyword) (before after : List Char) : Prop where
  boundary : ∀ c ∈ before.getLast?, Text.isWordChar c = false
  first : ∀ i < before.length,
    ¬StartsKeyword keyword.toList ((before ++ (m.chars ++ after)).drop i)
  ends : m.target.EndsBefore after

end Mention

/-- The keywords are words of letters of ASCII. -/
theorem ascii_of_mem_tableKeywords {keyword : String} (h : keyword ∈ tableKeywords) :
    keyword.toList ≠ [] ∧
      ∀ c ∈ keyword.toList, c.toNat < 0x80 ∧ Text.isWordChar c = true := by
  have hall : ∀ keyword ∈ tableKeywords, keyword.toList ≠ [] ∧
      (keyword.toList.all fun c => c.toNat < 0x80 && Text.isWordChar c) = true := by decide
  obtain ⟨hnonempty, hchars⟩ := hall keyword h
  refine ⟨hnonempty, fun c hc => ?_⟩
  simpa using List.all_eq_true.1 hchars c hc

variable {keyword : String} {m : Mention keyword} {before after : List Char} {q : Query}

/-- A keyword as it is written begins with a letter. -/
theorem Mention.exists_cons_word (hkeyword : keyword ∈ tableKeywords) (m : Mention keyword) :
    ∃ c rest, m.word = c :: rest ∧ Text.isWordChar c = true := by
  obtain ⟨hnonempty, hascii⟩ := ascii_of_mem_tableKeywords hkeyword
  have hsame := m.same_word
  cases hword : m.word with
  | nil =>
    rw [hword, List.map_nil] at hsame
    exact absurd hsame.symm hnonempty
  | cons c rest =>
    refine ⟨c, rest, rfl, ?_⟩
    have hmem : c.toLower ∈ keyword.toList := by
      rw [← hsame, hword]
      exact List.mem_cons_self
    obtain ⟨hlower, hletter⟩ := hascii _ hmem
    rwa [Text.isWordChar_toLower (Text.toNat_lt_of_toLower hlower)] at hletter

/-- **The search finds the first mention.** -/
theorem qualifiedName?_of_mention (hkeyword : keyword ∈ tableKeywords)
    (h : m.StandsIn before after) (htext : q.cql.toList = before ++ (m.chars ++ after)) :
    q.qualifiedName? keyword = some m.target.names := by
  obtain ⟨c, word, hcons, hc⟩ := m.exists_cons_word hkeyword
  have hboundary : Text.isBoundary before.getLast? (some c) = true := by
    rw [Text.isBoundary, Option.any_some, hc]
    cases hlast : before.getLast? with
    | none => rfl
    | some previous =>
      rw [Option.any_some, h.boundary previous hlast]
      rfl
  have hsame := Text.sameWord_of_map_toLower m.same_word fun c hc =>
    ((ascii_of_mem_tableKeywords hkeyword).2 c hc).1
  have hdrop := dropKeyword?_append hsame m.gap_nonempty m.gap_blank
    (m.target.not_isBlank_of_mem_head? after)
  rw [Query.qualifiedName?, htext, findQualifiedName?_append h.first, Option.or_none]
  simp only [Mention.chars, List.append_assoc]
  rw [hcons] at hdrop ⊢
  exact findQualifiedName?_of_start hboundary hdrop
    (WrittenTable.takeQualifiedName?_chars h.ends)

theorem tableAfter?_of_mention (hkeyword : keyword ∈ tableKeywords)
    (h : m.StandsIn before after) (htext : q.cql.toList = before ++ (m.chars ++ after)) :
    (q.tableAfter? keyword).map Identifier.text = some (String.ofList m.target.table.name) := by
  have hnames := qualifiedName?_of_mention hkeyword h htext
  have hname : unquoteName? m.target.names.name = some m.target.table.name :=
    m.target.table.unquoteName?_chars
  simp only [Query.tableAfter?, hnames, hname, Option.bind_eq_bind, Option.bind_some]
  exact m.target.table.text_ofText?_name .table

theorem keyspaceAfter?_of_mention (hkeyword : keyword ∈ tableKeywords)
    (h : m.StandsIn before after) (htext : q.cql.toList = before ++ (m.chars ++ after))
    {k : Qualifier} (hk : m.target.qualifier? = some k) :
    (q.keyspaceAfter? keyword).map Identifier.text = some (String.ofList k.keyspace.name) := by
  have hnames := qualifiedName?_of_mention hkeyword h htext
  have hwritten : m.target.names.keyspace? = some k.keyspace.chars := by
    rw [WrittenTable.names, hk, Option.map_some]
  simp only [Query.keyspaceAfter?, hnames, hwritten, k.keyspace.unquoteName?_chars,
    Option.bind_eq_bind, Option.bind_some]
  exact k.keyspace.text_ofText?_name .keyspace

/-- **A mention is found as it is written.**  If a text mentions a table behind a keyword for the
first time, then the table behind this keyword is the one that is written, without its quotes.  If
it stands behind `from`, with its keyspace in front of it, then that is the keyspace that the query
mentions, unless the query selects one. -/
theorem names_of_mention {keyword : String} (hkeyword : keyword ∈ tableKeywords)
    (m : Mention keyword) {before after : List Char} (h : m.StandsIn before after) (q : Query)
    (htext : q.cql.toList = before ++ (m.chars ++ after)) :
    (q.tableAfter? keyword).map Identifier.text = some (String.ofList m.target.table.name) ∧
      (keyword = "from" → q.kind ≠ .use → ∀ k, m.target.qualifier? = some k →
        q.keyspace?.map Identifier.text = some (String.ofList k.keyspace.name)) := by
  refine ⟨tableAfter?_of_mention hkeyword h htext, ?_⟩
  rintro rfl hkind k hk
  have hkeyspace := keyspaceAfter?_of_mention hkeyword h htext hk
  obtain ⟨found, hfound, -⟩ := Option.map_eq_some_iff.1 hkeyspace
  have hsome : q.keyspace? = some found := by
    rw [Query.keyspace?]
    split
    · contradiction
    · rw [tableKeywords, List.findSome?_cons, hfound]
  rw [hsome, ← hfound, hkeyspace]

/-- A table behind its quoted keyspace, with blanks of several kinds. -/
def usersMention : Mention "from" where
  word := "FrOm".toList
  gap := "\n\t".toList
  target :=
    { qualifier? := some
        { keyspace := .quoted "My Ks".toList (by decide) (by decide) (by decide)
          left := " ".toList
          right := "\u3000".toList
          left_blank := List.all_eq_true.1 (by decide)
          right_blank := List.all_eq_true.1 (by decide) }
      table := .bare "Users_1".toList (by decide) (List.all_eq_true.1 (by decide)) }
  same_word := by decide
  gap_nonempty := by decide
  gap_blank := List.all_eq_true.1 (by decide)

/-- The mention is found behind a longer word that begins like the keyword. -/
theorem names_of_usersMention :
    "from" ∈ tableKeywords ∧
      usersMention.StandsIn "select fromage ".toList ";from x".toList ∧
      (Query.tableAfter? "from"
        ⟨"select fromage FrOm\n\t\"My Ks\" .\u3000Users_1;from x", .select⟩).map Identifier.text =
          some "Users_1" ∧
      (Query.keyspace?
        ⟨"select fromage FrOm\n\t\"My Ks\" .\u3000Users_1;from x", .select⟩).map
          Identifier.text = some "My Ks" := by
  have hmem : "from" ∈ tableKeywords := by decide
  have hstands : usersMention.StandsIn "select fromage ".toList ";from x".toList := by
    refine ⟨?_, by decide +kernel, ⟨fun _ => ?_, fun hnone => ?_⟩⟩
    · rintro c ⟨⟩
      rfl
    · rintro c ⟨⟩
      decide
    · cases hnone
  obtain ⟨htable, hkeyspace⟩ := names_of_mention hmem usersMention hstands
    ⟨"select fromage FrOm\n\t\"My Ks\" .\u3000Users_1;from x", .select⟩ (by decide)
  exact ⟨hmem, hstands, htable, hkeyspace rfl (by decide) _ rfl⟩

end CqlGateway
