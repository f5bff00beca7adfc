import CqlGateway.Proofs.Mentions

/-!
# Keyspaces that statements mention

A statement mentions a keyspace where a name with its keyspace stands behind one of the keywords of
tables (`KeyspaceAt`).  It should be understood to mention the one that comes first in the text
(`Leftmost`).

The search goes by keywords and not by places.  For each keyword in turn it looks at the first name
behind it, and is content with the first of these names that has a keyspace (`Decides`).  So every
keyspace that is found is mentioned, but the search `Overlooks` the leftmost one if its keyword
stands in front of another name before, or if a keyword that is tried earlier finds a keyspace
further on; otherwise it is found (`keyspace_of_first_names`).
-/

namespace CqlGateway

/-! ### Names at the start of a text -/

/-- A name stands at the start of a text. -/
def StartsName (cs : List Char) : Prop :=
  ∃ written inner rest, Spells written inner ∧ cs = written ++ rest

/-- A name with its keyspace stands at the start of a text; `keyspace` is what stands in the name of
the keyspace. -/
def StartsQualified (cs keyspace : List Char) : Prop :=
  ∃ written left right table inner rest,
    cs = written ++ (left ++ '.' :: (right ++ (table ++ rest))) ∧ Spells written keyspace ∧
      (∀ c ∈ left, Text.isBlank c = true) ∧ (∀ c ∈ right, Text.isBlank c = true) ∧
      Spells table inner

/-- What the keyspace in a qualified name is called. -/
def QualifiedName.keyspaceName? (n : QualifiedName) : Option (List Char) :=
  n.keyspace?.bind unquoteName?

variable {cs rest written inner keyspace : List Char}

/-- A text in which a keyspace is written is one in which a name is. -/
theorem StartsQualified.startsName (h : StartsQualified cs keyspace) : StartsName cs := by
  obtain ⟨written, left, right, table, inner, rest, rfl, hwritten, -, -, -⟩ := h
  exact ⟨written, keyspace, _, hwritten, rfl⟩

theorem StartsName.not_isBlank_of_mem_head? (h : StartsName cs) :
    ∀ c ∈ cs.head?, Text.isBlank c = false := by
  obtain ⟨written, inner, rest, hwritten, rfl⟩ := h
  exact hwritten.not_isBlank_of_mem_head? rest

/-- **A qualified name is taken wherever a name stands.** -/
theorem isSome_takeQualifiedName?_iff : (takeQualifiedName? cs).isSome = true ↔ StartsName cs := by
  constructor
  · intro h
    cases htake : takeName? cs with
    | none => rw [takeQualifiedName?, htake] at h; cases h
    | some taken =>
      obtain ⟨hcs, inner, hwritten⟩ := spells_of_takeName? htake
      exact ⟨taken.1, inner, taken.2, hwritten, hcs⟩
  · rintro ⟨written, inner, rest, hwritten, rfl⟩
    obtain ⟨taken, htake⟩ := exists_takeName?_of_spells hwritten rest
    rw [takeQualifiedName?, htake]
    dsimp only
    split
    · split <;> rfl
    · rfl

theorem takeQualifiedName?_of_startsQualified (h : StartsQualified cs keyspace) :
    ∃ written table, Spells written keyspace ∧
      takeQualifiedName? cs = some ⟨some written, table⟩ := by
  obtain ⟨written, left, right, table, inner, rest, rfl, hwritten, hleft, hright, htable⟩ := h
  -- neither a blank nor a dot belongs to the name of the keyspace
  have hstop : ∀ c ∈ (left ++ '.' :: (right ++ (table ++ rest))).head?, isNameChar c = false := by
    intro c hc
    cases left with
    | nil => cases hc; decide
    | cons blank left => cases hc; exact not_isNameChar_of_isBlank (hleft _ List.mem_cons_self)
  have hdot : Text.trimStart (left ++ '.' :: (right ++ (table ++ rest))) =
      '.' :: (right ++ (table ++ rest)) :=
    Text.dropWhile_append_of_head hleft (by rintro c ⟨⟩; rfl)
  have hright : Text.trimStart (right ++ (table ++ rest)) = table ++ rest :=
    Text.dropWhile_append_of_head hright (htable.not_isBlank_of_mem_head? rest)
  obtain ⟨taken, htaken⟩ := exists_takeName?_of_spells htable rest
  refine ⟨written, taken.1, hwritten, ?_⟩
  rw [takeQualifiedName?, takeName?_of_spells hwritten fun _ => hstop]
  simp only [hdot, hright, htaken]

theorem startsQualified_of_takeQualifiedName? {table : List Char}
    (h : takeQualifiedName? cs = some ⟨some written, table⟩) :
    ∃ keyspace, Spells written keyspace ∧ StartsQualified cs keyspace := by
  unfold takeQualifiedName? at h
  split at h
  · cases h
  · next first rest htake =>
    obtain ⟨rfl, keyspace, hwritten⟩ := spells_of_takeName? htake
    split at h
    · next more hdot =>
      split at h
      · next second after hsecond =>
        cases h
        obtain ⟨hmore, inner, htable⟩ := spells_of_takeName? hsecond
        refine ⟨keyspace, hwritten, written, rest.takeWhile Text.isBlank,
          more.takeWhile Text.isBlank, table, inner, after, ?_, hwritten,
          fun _ => List.mem_takeWhile_imp, fun _ => List.mem_takeWhile_imp, htable⟩
        rw [← hmore, Text.trimStart, List.takeWhile_append_dropWhile, ← hdot, Text.trimStart,
          List.takeWhile_append_dropWhile]
      · cases h
    · cases h

/-- **The keyspace that is taken is the one that is written**, if that is not blank. -/
theorem keyspaceName?_eq_some_iff :
    (takeQualifiedName? cs).bind QualifiedName.keyspaceName? = some keyspace ↔
      keyspace ≠ [] ∧ ∃ inner, StartsQualified cs inner ∧ Text.trim inner = keyspace := by
  constructor
  · intro h
    obtain ⟨⟨written?, table⟩, htake, hname⟩ := Option.bind_eq_some_iff.1 h
    obtain ⟨written, rfl, hunquote⟩ := Option.bind_eq_some_iff.1 hname
    obtain ⟨inner, hwritten, hstarts⟩ := startsQualified_of_takeQualifiedName? htake
    rw [unquoteName?_of_spells hwritten] at hunquote
    obtain ⟨hne, htrim⟩ := Option.ite_none_left_eq_some.1 hunquote
    cases htrim
    exact ⟨hne, inner, hstarts, rfl⟩
  · rintro ⟨hne, inner, hstarts, rfl⟩
    obtain ⟨written, table, hwritten, htake⟩ := takeQualifiedName?_of_startsQualified hstarts
    have hunquote : unquoteName? written = some (Text.trim inner) := by
      rw [unquoteName?_of_spells hwritten, if_neg hne]
    rw [htake, Option.bind_some]
    exact hunquote

/-! ### Names at places of a text -/

section Places

variable {keyword : String} {text : List Char} {i : Nat}

/-- At a place of a text the keyword opens a word, up to case, and blanks follow; `rest` is what
stands behind them. -/
def KeywordAt (keyword : String) (text : List Char) (i : Nat) (rest : List Char) : Prop :=
  Text.isBoundary (text.take i).getLast? (text.drop i).head? = true ∧
    ∃ word gap, text.drop i = word ++ (gap ++ rest) ∧ Text.SameWord keyword.toList word ∧
      gap ≠ [] ∧ ∀ c ∈ gap, Text.isBlank c = true

/-- A name stands behind the keyword at a place of a text. -/
def NameAt (keyword : String) (text : List Char) (i : Nat) : Prop :=
  ∃ rest, KeywordAt keyword text i rest ∧ StartsName rest

/-- A name with its keyspace stands behind the keyword at a place of a text, and `keyspace` is what
the keyspace is called, without quotes and blanks around it. -/
def KeyspaceAt (keyword : String) (text : List Char) (i : Nat) (keyspace : List Char) : Prop :=
  keyspace ≠ [] ∧ ∃ rest inner, KeywordAt keyword text i rest ∧ StartsQualified rest inner ∧
    Text.trim inner = keyspace

/-- The qualified name that is taken behind a keyword at the start of a text; `before` is the
character in front of the text. -/
def nameHere? (keyword : List Char) (before : Option Char) (cs : List Char) :
    Option QualifiedName :=
  if Text.isBoundary before cs.head? then (dropKeyword? keyword cs).bind takeQualifiedName?
  else none

/-- The qualified name that is taken behind a keyword at a place of a text. -/
def nameAt? (keyword : String) (text : List Char) (i : Nat) : Option QualifiedName :=
  nameHere? keyword.toList (text.take i).getLast? (text.drop i)

theorem exists_of_dropKeyword? {keyword : List Char} (h : dropKeyword? keyword cs = some rest) :
    ∃ word gap, cs = word ++ (gap ++ rest) ∧ Text.SameWord keyword word ∧ gap ≠ [] ∧
      ∀ c ∈ gap, Text.isBlank c = true := by
  rw [dropKeyword?] at h
  split at h
  · next blank after hdrop =>
    obtain ⟨hblank, hrest⟩ := Option.ite_none_right_eq_some.1 h
    cases hrest
    obtain ⟨word, rfl, hword⟩ := Text.dropWord?_eq_some_iff.1 hdrop
    refine ⟨word, blank :: after.takeWhile Text.isBlank, ?_, hword, List.cons_ne_nil _ _, ?_⟩
    · rw [List.cons_append, Text.trimStart, List.takeWhile_append_dropWhile]
    · intro c hc
      rcases List.mem_cons.1 hc with rfl | hc
      · exact hblank
      · exact List.mem_takeWhile_imp hc
  · cases h

/-- What the keyword leaves for a name is what stands behind the blanks. -/
theorem dropKeyword?_of_keywordAt (h : KeywordAt keyword text i rest) (hname : StartsName rest) :
    dropKeyword? keyword.toList (text.drop i) = some rest := by
  obtain ⟨-, word, gap, hdrop, hword, hgap, hblank⟩ := h
  rw [hdrop]
  exact dropKeyword?_append hword hgap hblank hname.not_isBlank_of_mem_head?

theorem nameAt?_of_keywordAt (h : KeywordAt keyword text i rest) (hname : StartsName rest) :
    nameAt? keyword text i = takeQualifiedName? rest := by
  rw [nameAt?, nameHere?, if_pos h.1, dropKeyword?_of_keywordAt h hname, Option.bind_some]

theorem exists_of_nameAt? {name : QualifiedName} (h : nameAt? keyword text i = some name) :
    ∃ rest, KeywordAt keyword text i rest ∧ takeQualifiedName? rest = some name := by
  obtain ⟨hboundary, htake⟩ := Option.ite_none_right_eq_some.1 h
  obtain ⟨rest, hdrop, hname⟩ := Option.bind_eq_some_iff.1 htake
  exact ⟨rest, ⟨hboundary, exists_of_dropKeyword? hdrop⟩, hname⟩

theorem isSome_nameAt?_iff : (nameAt? keyword text i).isSome = true ↔ NameAt keyword text i := by
  constructor
  · intro h
    obtain ⟨name, hname⟩ := Option.isSome_iff_exists.1 h
    obtain ⟨rest, hkeyword, htake⟩ := exists_of_nameAt? hname
    exact ⟨rest, hkeyword, isSome_takeQualifiedName?_iff.1 (by rw [htake]; rfl)⟩
  · rintro ⟨rest, hkeyword, hstarts⟩
    rw [nameAt?_of_keywordAt hkeyword hstarts]
    exact isSome_takeQualifiedName?_iff.2 hstarts

theorem nameAt?_eq_none_iff : nameAt? keyword text i = none ↔ ¬ NameAt keyword text i := by
  rw [← isSome_nameAt?_iff, Option.not_isSome_iff_eq_none]

theorem keyspaceAt_iff :
    KeyspaceAt keyword text i keyspace ↔
      (nameAt? keyword text i).bind QualifiedName.keyspaceName? = some keyspace := by
  constructor
  · rintro ⟨hne, rest, inner, hkeyword, hstarts, htrim⟩
    rw [nameAt?_of_keywordAt hkeyword hstarts.startsName]
    exact keyspaceName?_eq_some_iff.2 ⟨hne, inner, hstarts, htrim⟩
  · intro h
    obtain ⟨name, hname, hkeyspace⟩ := Option.bind_eq_some_iff.1 h
    obtain ⟨rest, hkeyword, htake⟩ := exists_of_nameAt? hname
    obtain ⟨hne, inner, hstarts, htrim⟩ := keyspaceName?_eq_some_iff.1
      (show (takeQualifiedName? rest).bind QualifiedName.keyspaceName? = some keyspace by
        rw [htake, Option.bind_some, hkeyspace])
    exact ⟨hne, rest, inner, hkeyword, hstarts, htrim⟩

instance : Decidable (NameAt keyword text i) :=
  decidable_of_iff _ isSome_nameAt?_iff

instance : Decidable (KeyspaceAt keyword text i keyspace) :=
  decidable_of_iff _ keyspaceAt_iff.symm

end Places

/-! ### The first name behind a keyword -/

theorem findQualifiedName?_cons (keyword : List Char) (before : Option Char) (c : Char)
    (text : List Char) :
    findQualifiedName? keyword before (c :: text) =
      (nameHere? keyword before (c :: text)).or (findQualifiedName? keyword (some c) text) := by
  rw [findQualifiedName?, nameHere?]
  split
  · next hhere => exact (congrArg (Option.or · _) hhere).symm
  · next hhere => exact (congrArg (Option.or · _) hhere).symm

/-- The search takes the name at the first place where there is one. -/
theorem findQualifiedName?_eq_some_iff {keyword text : List Char} {before : Option Char}
    {name : QualifiedName} :
    findQualifiedName? keyword before text = some name ↔
      ∃ i, nameHere? keyword ((text.take i).getLast?.or before) (text.drop i) = some name ∧
        ∀ j < i, nameHere? keyword ((text.take j).getLast?.or before) (text.drop j) = none := by
  induction text generalizing before with
  | nil =>
    have hnone : ∀ before, nameHere? keyword before [] = none := by
      intro before
      have hdrop : dropKeyword? keyword [] = none := by cases keyword <;> rfl
      rw [nameHere?, hdrop, Option.bind_none, ite_self]
    simp [findQualifiedName?, hnone]
  | cons c text ih =>
    -- one character further on, `c` is the one in front
    have hshift : ∀ i, ((c :: text).take (i + 1)).getLast?.or before =
        (text.take i).getLast?.or (some c) := by
      intro i
      rw [List.take_succ_cons, List.getLast?_cons]
      cases (text.take i).getLast? <;> rfl
    cases hhere : nameHere? keyword before (c :: text) with
    | some found =>
      rw [findQualifiedName?_cons, hhere, Option.some_or]
      constructor
      · rintro ⟨⟩
        exact ⟨0, hhere, fun j hj => absurd hj j.not_lt_zero⟩
      · rintro ⟨i, hi, hbefore⟩
        cases i with
        | zero => exact hhere.symm.trans hi
        | succ i => exact absurd (hhere.symm.trans (hbefore 0 i.succ_pos)) (Option.some_ne_none _)
    | none =>
      rw [findQualifiedName?_cons, hhere, Option.none_or, ih]
      constructor
      · rintro ⟨i, hi, hbefore⟩
        refine ⟨i + 1, by rw [hshift]; exact hi, fun j hj => ?_⟩
        cases j with
        | zero => exact hhere
        | succ j => rw [hshift]; exact hbefore j (Nat.lt_of_succ_lt_succ hj)
      · rintro ⟨i, hi, hbefore⟩
        cases i with
        | zero => exact absurd (hhere.symm.trans hi) (Option.some_ne_none _).symm
        | succ i =>
          refine ⟨i, by rw [← hshift]; exact hi, fun j hj => ?_⟩
          rw [← hshift]
          exact hbefore (j + 1) (Nat.succ_lt_succ hj)

section Queries

variable {q : Query} {keyword : String} {text : List Char} {i : Nat} {name : String}

/-- The first name behind the keyword has a keyspace. -/
structure FirstKeyspace (keyword : String) (text : List Char) (i : Nat) (keyspace : List Char) :
    Prop where
  here : KeyspaceAt keyword text i keyspace
  no_name : ∀ j < i, ¬ NameAt keyword text j

theorem qualifiedName?_eq_some_iff {name : QualifiedName} :
    q.qualifiedName? keyword = some name ↔
      ∃ i, nameAt? keyword q.cql.toList i = some name ∧
        ∀ j < i, nameAt? keyword q.cql.toList j = none := by
  rw [Query.qualifiedName?, findQualifiedName?_eq_some_iff]
  simp only [Option.or_none, nameAt?]

theorem keyspaceName?_qualifiedName?_iff {keyspace : List Char} :
    (q.qualifiedName? keyword).bind QualifiedName.keyspaceName? = some keyspace ↔
      ∃ i, FirstKeyspace keyword q.cql.toList i keyspace := by
  constructor
  · intro h
    obtain ⟨name, hname, hkeyspace⟩ := Option.bind_eq_some_iff.1 h
    obtain ⟨i, hi, hbefore⟩ := qualifiedName?_eq_some_iff.1 hname
    refine ⟨i, keyspaceAt_iff.2 ?_, fun j hj => nameAt?_eq_none_iff.1 (hbefore j hj)⟩
    rw [hi, Option.bind_some, hkeyspace]
  · rintro ⟨i, hhere, hbefore⟩
    obtain ⟨name, hi, hkeyspace⟩ := Option.bind_eq_some_iff.1 (keyspaceAt_iff.1 hhere)
    have hname : q.qualifiedName? keyword = some name :=
      qualifiedName?_eq_some_iff.2 ⟨i, hi, fun j hj => nameAt?_eq_none_iff.2 (hbefore j hj)⟩
    rw [hname, Option.bind_some, hkeyspace]

theorem KeyspaceAt.trim_keyspace {keyspace : List Char}
    (h : KeyspaceAt keyword text i keyspace) : Text.trim keyspace = keyspace := by
  obtain ⟨-, rest, inner, -, -, rfl⟩ := h
  exact Text.trim_trim inner

theorem keyspaceAfter?_eq (keyword : String) (q : Query) :
    q.keyspaceAfter? keyword =
      ((q.qualifiedName? keyword).bind QualifiedName.keyspaceName?).bind fun name =>
        Identifier.ofText? .keyspace (String.ofList name) := by
  simp only [Query.keyspaceAfter?, QualifiedName.keyspaceName?, Option.bind_eq_bind,
    Option.bind_assoc]

/-- **The keyspace behind a keyword is that of the first name behind it.** -/
theorem keyspaceAfter?_iff :
    (q.keyspaceAfter? keyword).map Identifier.text = some name ↔
      ∃ i, FirstKeyspace keyword q.cql.toList i name.toList := by
  -- whatever is taken for a keyspace is a name
  have htext : ∀ keyspace i, FirstKeyspace keyword q.cql.toList i keyspace →
      (q.keyspaceAfter? keyword).map Identifier.text = some (String.ofList keyspace) := by
    intro keyspace i hfirst
    rw [keyspaceAfter?_eq, keyspaceName?_qualifiedName?_iff.2 ⟨i, hfirst⟩]
    exact text_ofText?_of_trim .keyspace hfirst.here.trim_keyspace hfirst.here.1
  constructor
  · intro h
    obtain ⟨found, hfound, -⟩ := Option.map_eq_some_iff.1 h
    rw [keyspaceAfter?_eq] at hfound
    obtain ⟨keyspace, hkeyspace, -⟩ := Option.bind_eq_some_iff.1 hfound
    obtain ⟨i, hfirst⟩ := keyspaceName?_qualifiedName?_iff.1 hkeyspace
    have hname : name = String.ofList keyspace :=
      Option.some.inj (h.symm.trans (htext keyspace i hfirst))
    rw [hname, String.toList_ofList]
    exact ⟨i, hfirst⟩
  · rintro ⟨i, hfirst⟩
    rw [htext _ i hfirst, String.ofList_toList]

theorem keyspaceAfter?_eq_none_iff :
    q.keyspaceAfter? keyword = none ↔
      ∀ i keyspace, ¬ FirstKeyspace keyword q.cql.toList i keyspace := by
  constructor
  · intro h i keyspace hfirst
    have hsome := keyspaceAfter?_iff.2 ⟨i, (String.toList_ofList (l := keyspace)).symm ▸ hfirst⟩
    rw [h] at hsome
    cases hsome
  · intro h
    rw [Option.eq_none_iff_forall_ne_some]
    intro found hfound
    have htext : (q.keyspaceAfter? keyword).map Identifier.text = some found.text := by
      rw [hfound, Option.map_some]
    obtain ⟨i, hfirst⟩ := keyspaceAfter?_iff.1 htext
    exact h i _ hfirst

/-! ### Keywords in their order -/

/-- The keywords that are tried before a keyword. -/
def triedBefore (keyword : String) : List String :=
  tableKeywords.takeWhile (· != keyword)

/-- The keyspace behind the keyword at a place of a text is the answer: it belongs to the first name
behind the keyword, and behind no keyword that is tried before does the first name have one. -/
structure Decides (text : List Char) (keyword : String) (i : Nat) (keyspace : List Char) :
    Prop where
  keyword_mem : keyword ∈ tableKeywords
  first : FirstKeyspace keyword text i keyspace
  not_before : ∀ other ∈ triedBefore keyword, ∀ j k, ¬ FirstKeyspace other text j k

/-- The keyspace behind the keyword at a place of a text is the first one of all. -/
structure Leftmost (text : List Char) (keyword : String) (i : Nat) (keyspace : List Char) :
    Prop where
  keyword_mem : keyword ∈ tableKeywords
  here : KeyspaceAt keyword text i keyspace
  not_before : ∀ other ∈ tableKeywords, ∀ j < i, ∀ k, ¬ KeyspaceAt other text j k

/-- The search does not look at a keyword at a place of a text. -/
inductive Overlooks (text : List Char) (keyword : String) (i : Nat) : Prop
  /-- The keyword stands in front of another name before. -/
  | behindName {j : Nat} (hj : j < i) (hname : NameAt keyword text j)
  /-- A keyword that is tried before finds a keyspace. -/
  | behindKeyword {other : String} {j : Nat} {k : List Char} (hother : other ∈ triedBefore keyword)
    (hfirst : FirstKeyspace other text j k)

/-- The first keyword that gives an answer is one before which none does. -/
theorem findSome?_eq_some_iff_takeWhile {α : Type} {f : String → Option α} {keywords : List String}
    {a : α} :
    keywords.findSome? f = some a ↔ ∃ keyword ∈ keywords, f keyword = some a ∧
      ∀ other ∈ keywords.takeWhile (· != keyword), f other = none := by
  constructor
  · intro h
    obtain ⟨before, keyword, after, rfl, hkeyword, hbefore⟩ := List.findSome?_eq_some_iff.1 h
    have hne : ∀ other ∈ before, (other != keyword) = true := by
      intro other hother
      rw [bne_iff_ne]
      rintro rfl
      exact absurd ((hbefore _ hother).symm.trans hkeyword) (Option.some_ne_none a).symm
    refine ⟨keyword, List.mem_append_right _ List.mem_cons_self, hkeyword, ?_⟩
    rw [List.takeWhile_append_of_pos hne, List.takeWhile_cons_of_neg (by simp), List.append_nil]
    exact hbefore
  · rintro ⟨keyword, hmem, hkeyword, hbefore⟩
    induction keywords with
    | nil => cases hmem
    | cons other keywords ih =>
      by_cases hother : other = keyword
      · rw [List.findSome?_cons, hother, hkeyword]
      · rw [List.takeWhile_cons_of_pos (by simpa using hother)] at hbefore
        rw [List.findSome?_cons, hbefore other List.mem_cons_self]
        exact ih ((List.mem_cons.1 hmem).resolve_left (Ne.symm hother)) fun o ho =>
          hbefore o (List.mem_cons_of_mem _ ho)

theorem keyspace?_of_kind (hkind : q.kind ≠ .use) :
    q.keyspace? = tableKeywords.findSome? fun keyword => q.keyspaceAfter? keyword := by
  rw [Query.keyspace?]
  split
  · contradiction
  · rfl

/-- **The answer is the keyspace that decides.** -/
theorem keyspace?_iff (hkind : q.kind ≠ .use) :
    q.keyspace?.map Identifier.text = some name ↔
      ∃ keyword i, Decides q.cql.toList keyword i name.toList := by
  rw [keyspace?_of_kind hkind]
  constructor
  · intro h
    obtain ⟨found, hfound, htext⟩ := Option.map_eq_some_iff.1 h
    obtain ⟨keyword, hmem, hkeyword, hbefore⟩ := findSome?_eq_some_iff_takeWhile.1 hfound
    have hname : (q.keyspaceAfter? keyword).map Identifier.text = some name := by
      rw [hkeyword, Option.map_some, htext]
    obtain ⟨i, hfirst⟩ := keyspaceAfter?_iff.1 hname
    exact ⟨keyword, i, hmem, hfirst, fun other hother =>
      keyspaceAfter?_eq_none_iff.1 (hbefore other hother)⟩
  · rintro ⟨keyword, i, hmem, hfirst, hbefore⟩
    have hname := keyspaceAfter?_iff.2 ⟨i, hfirst⟩
    obtain ⟨found, hfound, -⟩ := Option.map_eq_some_iff.1 hname
    have hanswer := findSome?_eq_some_iff_takeWhile.2 ⟨keyword, hmem, hfound, fun other hother =>
      keyspaceAfter?_eq_none_iff.2 (hbefore other hother)⟩
    rw [hanswer, ← hfound, hname]

/-- A text that mentions no keyspace has no answer. -/
theorem keyspace?_of_unmentioned (hkind : q.kind ≠ .use)
    (h : ∀ keyword ∈ tableKeywords, ∀ i k, ¬ KeyspaceAt keyword q.cql.toList i k) :
    q.keyspace? = none := by
  rw [Option.eq_none_iff_forall_ne_some]
  intro found hfound
  have htext : q.keyspace?.map Identifier.text = some found.text := by rw [hfound, Option.map_some]
  obtain ⟨keyword, i, hdecides⟩ := (keyspace?_iff hkind).1 htext
  exact h keyword hdecides.keyword_mem i _ hdecides.first.here

theorem not_keyspaceAt_iff :
    (∀ k, ¬ KeyspaceAt keyword text i k) ↔
      (nameAt? keyword text i).bind QualifiedName.keyspaceName? = none := by
  rw [Option.eq_none_iff_forall_ne_some]
  exact forall_congr' fun k => not_congr keyspaceAt_iff

instance : Decidable (∀ k, ¬ KeyspaceAt keyword text i k) :=
  decidable_of_iff _ not_keyspaceAt_iff.symm

instance {keyspace : List Char} : Decidable (Leftmost text keyword i keyspace) :=
  decidable_of_iff (keyword ∈ tableKeywords ∧ KeyspaceAt keyword text i keyspace ∧
      ∀ other ∈ tableKeywords, ∀ j < i, ∀ k, ¬ KeyspaceAt other text j k)
    ⟨fun ⟨hmem, hhere, hbefore⟩ => ⟨hmem, hhere, hbefore⟩,
      fun h => ⟨h.keyword_mem, h.here, h.not_before⟩⟩

theorem Leftmost.decides_iff {keyspace : List Char} (h : Leftmost text keyword i keyspace) :
    Decides text keyword i keyspace ↔ ¬ Overlooks text keyword i := by
  constructor
  · rintro hdecides (⟨hj, hname⟩ | ⟨hother, hfirst⟩)
    · exact hdecides.first.no_name _ hj hname
    · exact hdecides.not_before _ hother _ _ hfirst
  · intro hnot
    exact ⟨h.keyword_mem, ⟨h.here, fun j hj hname => hnot (.behindName hj hname)⟩,
      fun other hother j k hfirst => hnot (.behindKeyword hother hfirst)⟩

/-- Nothing in front of the leftmost keyspace is the answer. -/
theorem Leftmost.le_of_decides {keyspace : List Char} (h : Leftmost text keyword i keyspace)
    {other : String} {j : Nat} {k : List Char} (hdecides : Decides text other j k) : i ≤ j := by
  by_contra hlt
  exact h.not_before other hdecides.keyword_mem j (Nat.lt_of_not_le hlt) k hdecides.first.here

/-- **Which mentioned keyspace is found.**  Of a query that selects no keyspace, the answer is the
keyspace at the place that decides, and there is none if no keyspace is mentioned.  If one is, then
nothing in front of the leftmost one decides; the leftmost one does, and is the answer, iff the
search does not overlook it. -/
theorem keyspace_of_first_names (q : Query) (hkind : q.kind ≠ .use) :
    (∀ name, q.keyspace?.map Identifier.text = some name ↔
      ∃ keyword i, Decides q.cql.toList keyword i name.toList) ∧
    ((∀ keyword ∈ tableKeywords, ∀ i k, ¬ KeyspaceAt keyword q.cql.toList i k) →
      q.keyspace? = none) ∧
    ∀ keyword i k, Leftmost q.cql.toList keyword i k →
      (∀ other j k', Decides q.cql.toList other j k' → i ≤ j) ∧
      (Decides q.cql.toList keyword i k ↔ ¬ Overlooks q.cql.toList keyword i) ∧
      (¬ Overlooks q.cql.toList keyword i →
        q.keyspace?.map Identifier.text = some (String.ofList k)) := by
  refine ⟨fun name => keyspace?_iff hkind, keyspace?_of_unmentioned hkind, fun keyword i k h => ?_⟩
  refine ⟨fun other j k' => h.le_of_decides, h.decides_iff, fun hnot => ?_⟩
  refine (keyspace?_iff hkind).2 ⟨keyword, i, ?_⟩
  rw [String.toList_ofList]
  exact h.decides_iff.2 hnot

/-- A batch in which a name without a keyspace comes first, behind another keyword. -/
def mixedBatch : Query :=
  ⟨"begin batch update t set v = 1 where k = 1; delete from a.t where k = 1; apply batch", .other⟩

/-- The name without a keyspace is passed over. -/
theorem keyspace_of_mixedBatch :
    mixedBatch.kind ≠ .use ∧ Leftmost mixedBatch.cql.toList "from" 51 ['a'] ∧
      ¬ Overlooks mixedBatch.cql.toList "from" 51 ∧
      mixedBatch.keyspace?.map Identifier.text = some "a" := by
  have hkind : mixedBatch.kind ≠ .use := by decide
  have hleftmost : Leftmost mixedBatch.cql.toList "from" 51 ['a'] := by decide +kernel
  have hnot : ¬ Overlooks mixedBatch.cql.toList "from" 51 := by
    rintro (⟨hj, hname⟩ | ⟨hother, -⟩)
    · have hnone : ∀ j < 51, ¬ NameAt "from" mixedBatch.cql.toList j := by decide +kernel
      exact hnone _ hj hname
    · cases hother
  obtain ⟨-, -, hfound⟩ := keyspace_of_first_names mixedBatch hkind
  exact ⟨hkind, hleftmost, hnot, (hfound "from" 51 ['a'] hleftmost).2.2 hnot⟩

/-- A batch that mentions a second keyspace behind a keyword that is tried before. -/
def insertBatch : Query :=
  ⟨"begin batch insert into a.t (k) values (1); delete from b.t where k = 1; apply batch", .other⟩

/-- A batch with two names behind one keyword, of which the second one has a keyspace. -/
def updateBatch : Query :=
  ⟨"begin batch update t set v = 1 where k = 1; update a.t set v = 1 where k = 1; apply batch",
    .other⟩

/-- In both batches the leftmost keyspace is overlooked: another one is found, or none. -/
theorem leftmost_keyspace_is_overlooked :
    (insertBatch.kind ≠ .use ∧ Leftmost insertBatch.cql.toList "into" 19 ['a'] ∧
      insertBatch.keyspace?.map Identifier.text = some "b") ∧
    updateBatch.kind ≠ .use ∧ Leftmost updateBatch.cql.toList "update" 44 ['a'] ∧
      updateBatch.keyspace? = none := by
  decide +kernel

end Queries

end CqlGateway
