import CqlGateway.Proofs.Existence
import CqlGateway.Proofs.MentionedKeyspaces

/-!
# Names that are found

Behind a keyword a text may hold anything: quotes without a partner, names of nothing but blanks,
dots without a name.  What is found there is a name nevertheless.  It is tidy (`IsTidy`), so that
the identifier is made of it without fail, and it is a piece of what stands behind the keyword
(`StandsBehind`), or behind the word `use` at the start of a statement of this kind
(`StandsBehindUse`).

The readers that ask for a name pass over one of which no identifier can be made.  The checked
readers fail on it, and have the same answers (`names_found_in_texts`).
-/

namespace CqlGateway

theorem Text.trim_infix (cs : List Char) : trim cs <:+: cs :=
  (List.rdropWhile_prefix isBlank _).isInfix.trans (List.dropWhile_suffix isBlank).isInfix

variable {cs written inner name rest : List Char}

/-! ### Tidy names -/

/-- A name that is not blank, has no blanks around it and holds no quote. -/
structure IsTidy (name : List Char) : Prop where
  not_blank : ∃ c ∈ name, Text.isBlank c = false
  head_not_blank : ∀ c ∈ name.head?, Text.isBlank c = false
  last_not_blank : ∀ c ∈ name.getLast?, Text.isBlank c = false
  unquoted : '"' ∉ name

theorem isTidy_of_trim (hne : name ≠ []) (htrim : Text.trim name = name) (hquote : '"' ∉ name) :
    IsTidy name := by
  obtain ⟨hhead, hlast⟩ := Text.ends_of_trim htrim
  obtain ⟨c, more, rfl⟩ := List.exists_cons_of_ne_nil hne
  exact ⟨⟨c, List.mem_cons_self, hhead c rfl⟩, hhead, hlast, hquote⟩

/-! ### Spellings in a text -/

/-- A spelling stands in a text. -/
def SpelledIn (cs written : List Char) : Prop :=
  (∃ inner, Spells written inner) ∧ written <:+: cs

theorem Spells.infix_written (h : Spells written inner) : inner <:+: written := by
  cases h with
  | bare nonempty plain => exact List.infix_rfl
  | quoted nonempty unquoted =>
    exact (List.prefix_append inner ['"']).isInfix.trans (List.suffix_cons '"' _).isInfix

theorem Spells.quote_not_mem (h : Spells written inner) : '"' ∉ inner := by
  cases h with
  | bare nonempty plain => exact fun hquote => ne_quote_of_isNameChar (plain _ hquote) rfl
  | quoted nonempty unquoted => exact unquoted

theorem SpelledIn.trans {text : List Char} (h : SpelledIn cs written) (hcs : cs <:+: text) :
    SpelledIn text written :=
  ⟨h.1, h.2.trans hcs⟩

/-- **What a spelling names is a tidy piece of the text.** -/
theorem SpelledIn.tidy (h : SpelledIn cs written) (hname : unquoteName? written = some name) :
    IsTidy name ∧ name <:+: cs := by
  obtain ⟨⟨inner, hspells⟩, hinfix⟩ := h
  rw [unquoteName?_of_spells hspells] at hname
  obtain ⟨hne, htrim⟩ := Option.ite_none_left_eq_some.1 hname
  cases htrim
  have hinner := Text.trim_infix inner
  refine ⟨isTidy_of_trim hne (Text.trim_trim inner) fun hquote => ?_, ?_⟩
  · exact hspells.quote_not_mem (hinner.subset hquote)
  · exact hinner.trans (hspells.infix_written.trans hinfix)

theorem spelledIn_of_takeName? (h : takeName? cs = some (written, rest)) :
    SpelledIn cs written := by
  obtain ⟨rfl, hspells⟩ := spells_of_takeName? h
  exact ⟨hspells, (List.prefix_append written rest).isInfix⟩

/-- Both names in a qualified name are spelled in the text that it is taken of. -/
theorem spelledIn_of_takeQualifiedName? {n : QualifiedName} (h : takeQualifiedName? cs = some n) :
    SpelledIn cs n.name ∧ ∀ k ∈ n.keyspace?, SpelledIn cs k := by
  unfold takeQualifiedName? at h
  split at h
  · cases h
  · next first rest hfirst =>
    have hspelled := spelledIn_of_takeName? hfirst
    obtain ⟨rfl, -⟩ := spells_of_takeName? hfirst
    have hunqualified : SpelledIn (first ++ rest) first ∧ ∀ k ∈ (none : Option (List Char)),
        SpelledIn (first ++ rest) k := ⟨hspelled, nofun⟩
    split at h
    · next more hdot =>
      split at h
      · next second _ hsecond =>
        cases h
        -- the second name is part of what follows the dot
        have hmore : '.' :: more <:+ rest := hdot ▸ List.dropWhile_suffix Text.isBlank
        have hsuffix : Text.trimStart more <:+ first ++ rest :=
          (List.dropWhile_suffix Text.isBlank).trans <| (List.suffix_cons '.' more).trans <|
            hmore.trans (List.suffix_append first rest)
        refine ⟨(spelledIn_of_takeName? hsecond).trans hsuffix.isInfix, ?_⟩
        rintro k ⟨⟩
        exact hspelled
      · cases h
        exact hunqualified
    · cases h
      exact hunqualified

/-! ### Places of names -/

/-- The name is a piece of what stands behind the keyword at some place of the text. -/
def StandsBehind (keyword : String) (text name : List Char) : Prop :=
  ∃ i rest, KeywordAt keyword text i rest ∧ name <:+: rest

/-- The text begins with the word `use` in any case, but for blanks in front of it, and the name is
a piece of what stands behind it. -/
def StandsBehindUse (text name : List Char) : Prop :=
  ∃ front word gap rest, text = front ++ (word ++ (gap ++ rest)) ∧
    (∀ c ∈ front, Text.isBlank c = true) ∧ Text.SameWord "use".toList word ∧
    gap ≠ [] ∧ (∀ c ∈ gap, Text.isBlank c = true) ∧ name <:+: rest

/-- What the table in a qualified name is called. -/
def QualifiedName.tableName? (n : QualifiedName) : Option (List Char) :=
  unquoteName? n.name

namespace Query

variable {q : Query} {keyword : String}

/-- What the table behind a keyword is called. -/
def tableName? (keyword : String) (q : Query) : Option (List Char) :=
  (q.qualifiedName? keyword).bind QualifiedName.tableName?

/-- What the keyspace is called that a query selects or mentions. -/
def keyspaceName? (q : Query) : Option (List Char) :=
  if q.kind = .use then useTarget? q.cql.toList
  else tableKeywords.findSome? fun keyword =>
    (q.qualifiedName? keyword).bind QualifiedName.keyspaceName?

theorem exists_keywordAt {n : QualifiedName} (h : q.qualifiedName? keyword = some n) :
    ∃ i rest, KeywordAt keyword q.cql.toList i rest ∧ takeQualifiedName? rest = some n := by
  obtain ⟨i, hi, -⟩ := qualifiedName?_eq_some_iff.1 h
  exact ⟨i, exists_of_nameAt? hi⟩

theorem tidy_of_tableName? (h : q.tableName? keyword = some name) :
    IsTidy name ∧ StandsBehind keyword q.cql.toList name := by
  obtain ⟨n, hn, hname⟩ := Option.bind_eq_some_iff.1 h
  obtain ⟨i, rest, hkeyword, htake⟩ := exists_keywordAt hn
  obtain ⟨htidy, hinfix⟩ := (spelledIn_of_takeQualifiedName? htake).1.tidy hname
  exact ⟨htidy, i, rest, hkeyword, hinfix⟩

theorem tidy_of_qualifiedName?
    (h : (q.qualifiedName? keyword).bind QualifiedName.keyspaceName? = some name) :
    IsTidy name ∧ StandsBehind keyword q.cql.toList name := by
  obtain ⟨n, hn, hkeyspace⟩ := Option.bind_eq_some_iff.1 h
  obtain ⟨written, hwritten, hname⟩ := Option.bind_eq_some_iff.1 hkeyspace
  obtain ⟨i, rest, hkeyword, htake⟩ := exists_keywordAt hn
  obtain ⟨htidy, hinfix⟩ := ((spelledIn_of_takeQualifiedName? htake).2 _ hwritten).tidy hname
  exact ⟨htidy, i, rest, hkeyword, hinfix⟩

theorem tidy_of_useTarget? (h : useTarget? cs = some name) :
    IsTidy name ∧ StandsBehindUse cs name := by
  unfold useTarget? at h
  obtain ⟨named, hdrop, htaken⟩ := Option.bind_eq_some_iff.1 h
  obtain ⟨⟨written, rest⟩, htake, htarget⟩ := Option.bind_eq_some_iff.1 htaken
  have hname := (Option.ite_none_right_eq_some.1 htarget).2
  obtain ⟨htidy, hinfix⟩ := (spelledIn_of_takeName? htake).tidy hname
  obtain ⟨word, gap, hstart, hword, hgap, hblank⟩ := exists_of_dropKeyword? hdrop
  refine ⟨htidy, cs.takeWhile Text.isBlank, word, gap, named, ?_, fun _ => List.mem_takeWhile_imp,
    hword, hgap, hblank, hinfix⟩
  rw [← hstart, Text.trimStart, List.takeWhile_append_dropWhile]

/-- Where the keyspace that a query selects or mentions stands in its text. -/
def KeyspaceStands (q : Query) (name : List Char) : Prop :=
  if q.kind = .use then StandsBehindUse q.cql.toList name
  else ∃ keyword ∈ tableKeywords, StandsBehind keyword q.cql.toList name

theorem tidy_of_keyspaceName? (h : q.keyspaceName? = some name) :
    IsTidy name ∧ q.KeyspaceStands name := by
  unfold keyspaceName? at h
  unfold KeyspaceStands
  split at h
  · next huse =>
    rw [if_pos huse]
    exact tidy_of_useTarget? h
  · next huse =>
    rw [if_neg huse]
    obtain ⟨keyword, hmem, hname⟩ := List.exists_of_findSome?_eq_some h
    obtain ⟨htidy, hstands⟩ := tidy_of_qualifiedName? hname
    exact ⟨htidy, keyword, hmem, hstands⟩

end Query

/-! ### Identifiers of names -/

namespace Identifier

variable {c : NameClass} {name? : Option (List Char)}

/-- The identifier of a name, if one was found; a blank name is a failure. -/
def ofFound (c : NameClass) : Option (List Char) → Except Failure (Option (Identifier c))
  | none => .ok none
  | some name => (ofValue c (.text (String.ofList name))).map some

/-- A tidy name is the name of an identifier. -/
theorem exists_ofText?_of_isTidy (c : NameClass) (h : IsTidy name) :
    ∃ a, ofText? c (String.ofList name) = some a := by
  have hblank : Text.isBlankText (String.ofList name) = false := by
    obtain ⟨char, hchar, hchar'⟩ := h.not_blank
    rw [Text.isBlankText, String.toList_ofList, List.all_eq_false]
    exact ⟨char, hchar, Bool.eq_false_iff.1 hchar'⟩
  exact ⟨⟨_, hblank⟩, ofText?_eq_some_iff.2 rfl⟩

/-- The check that a name is not blank never fails on a tidy one. -/
theorem ofFound_eq (h : ∀ name ∈ name?, IsTidy name) :
    ofFound c name? = .ok (name?.bind fun name => ofText? c (String.ofList name)) := by
  cases name? with
  | none => rfl
  | some name =>
    obtain ⟨a, ha⟩ := exists_ofText?_of_isTidy c (h name rfl)
    rw [ofFound, ofValue, Value.text?, Option.bind_some, Option.bind_some, ha]
    rfl

/-- An identifier has the name that it is made of. -/
theorem exists_of_mem_bind {a : Identifier c}
    (h : a ∈ name?.bind fun name => ofText? c (String.ofList name)) :
    name? = some a.text.toList := by
  obtain ⟨name, hname, ha⟩ := Option.bind_eq_some_iff.1 h
  rw [hname, ofText?_eq_some_iff.1 ha, String.toList_ofList]

end Identifier

/-- To go on with what the first of some functions finds is to find what one goes on with, if this
never fails. -/
theorem findSome?_bind {α β γ : Type} {f : α → Option β} {g : β → Option γ} {keys : List α}
    (h : ∀ a b, f a = some b → ∃ c, g b = some c) :
    (keys.findSome? fun a => (f a).bind g) = (keys.findSome? f).bind g := by
  induction keys with
  | nil => rfl
  | cons a keys ih =>
    rw [List.findSome?_cons, List.findSome?_cons]
    cases hfound : f a with
    | none => exact ih
    | some b =>
      obtain ⟨c, hc⟩ := h a b hfound
      simp only [Option.bind_some, hc]

namespace Query

variable {q : Query} {keyword : String}

/-- The table named behind a keyword; a blank name is a failure. -/
def readTableAfter (keyword : String) (q : Query) : Except Failure (Option Table) :=
  Identifier.ofFound .table (q.tableName? keyword)

/-- The keyspace that a query selects or mentions; a blank name is a failure. -/
def readKeyspace (q : Query) : Except Failure (Option Keyspace) :=
  Identifier.ofFound .keyspace q.keyspaceName?

theorem tableAfter?_eq (keyword : String) (q : Query) :
    q.tableAfter? keyword =
      (q.tableName? keyword).bind fun name => Identifier.ofText? .table (String.ofList name) := by
  simp only [tableAfter?, tableName?, QualifiedName.tableName?, Option.bind_eq_bind,
    Option.bind_assoc]

/-- No name that is found is passed over. -/
theorem keyspace?_eq (q : Query) :
    q.keyspace? =
      q.keyspaceName?.bind fun name => Identifier.ofText? .keyspace (String.ofList name) := by
  by_cases huse : q.kind = .use
  · rw [keyspace?, keyspaceName?, if_pos huse, huse]
  · rw [keyspace?_of_kind huse, keyspaceName?, if_neg huse]
    simp only [keyspaceAfter?_eq]
    exact findSome?_bind fun keyword name hname =>
      Identifier.exists_ofText?_of_isTidy .keyspace (tidy_of_qualifiedName? hname).1

end Query

/-- **What is found in a text is a name.**  Whatever the text of a query is, the identifiers of the
table behind a keyword and of the keyspace are made without fail.  Their names are not blank, have
no blanks around them and hold no quote, and they are pieces of what stands behind a keyword, or
behind the word `use` if the query selects the keyspace. -/
theorem names_found_in_texts (q : Query) :
    (∀ keyword, q.readTableAfter keyword = .ok (q.tableAfter? keyword) ∧
      ∀ t ∈ q.tableAfter? keyword,
        IsTidy t.text.toList ∧ StandsBehind keyword q.cql.toList t.text.toList) ∧
    q.readKeyspace = .ok q.keyspace? ∧
    ∀ k ∈ q.keyspace?, IsTidy k.text.toList ∧ q.KeyspaceStands k.text.toList := by
  refine ⟨fun keyword => ⟨?_, fun t ht => ?_⟩, ?_, fun k hk => ?_⟩
  · rw [Query.tableAfter?_eq]
    exact Identifier.ofFound_eq fun name hname => (Query.tidy_of_tableName? hname).1
  · rw [Query.tableAfter?_eq] at ht
    exact Query.tidy_of_tableName? (Identifier.exists_of_mem_bind ht)
  · rw [Query.keyspace?_eq]
    exact Identifier.ofFound_eq fun name hname => (Query.tidy_of_keyspaceName? hname).1
  · rw [Query.keyspace?_eq] at hk
    exact Query.tidy_of_keyspaceName? (Identifier.exists_of_mem_bind hk)

/-- An insertion with a dotted capital I in its keyword and with blanks inside the quoted names. -/
def dottedInsert : Query where
  cql := "insert \u0130NTO \"shop \" . \" t;1\" x"
  kind := .insert

theorem names_found_of_dottedInsert :
    ∃ t k, dottedInsert.tableAfter? "into" = some t ∧ dottedInsert.keyspace? = some k ∧
      t.text = "t;1" ∧ k.text = "shop" ∧
      StandsBehind "into" dottedInsert.cql.toList t.text.toList ∧
      dottedInsert.KeyspaceStands k.text.toList := by
  obtain ⟨htables, -, hkeyspaces⟩ := names_found_in_texts dottedInsert
  have htable : dottedInsert.tableAfter? "into" = some ⟨"t;1", by decide +kernel⟩ := by
    decide +kernel
  have hkeyspace : dottedInsert.keyspace? = some ⟨"shop", by decide +kernel⟩ := by
    decide +kernel
  exact ⟨_, _, htable, hkeyspace, rfl, rfl, ((htables "into").2 _ htable).2,
    (hkeyspaces _ hkeyspace).2⟩

end CqlGateway
