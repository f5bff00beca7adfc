import CqlGateway.Json.Reader

/-!
# The grammar of JSON

What it means that a text writes a JSON value.  The grammar is given by what stands at the start of
a text: the entries of a container are `Listed` with commas between them and `Enclosed` by its
brackets, and a value with at most so many containers inside each other (`Within`) is a scalar or a
container of values with one less.  The characters that begin a value tell which of these it is.

The reader accepts what the grammar has and nothing else (`reads_readValue`).  Its bound on the
number of entries has no part in this, as the length of the text is always enough.
-/

namespace CqlGateway.Json

variable {α β : Type} {cs tail rest mid place : List Char} {c : Char} {v : Json} {n fuel : Nat}

/-! ### The grammar -/

/-- What stands at the start of a text, with the text that follows it. -/
abbrev Rule (α : Type) := List Char → α → List Char → Prop

/-- Entries with commas between them and a closing bracket after the last one. -/
inductive Listed (entry : Rule α) (closing : Char) : Rule (List α)
  | last {cs mid rest : List Char} {a : α} (hentry : entry cs a mid)
      (hclosing : skipSpace mid = closing :: rest) : Listed entry closing cs [a] rest
  | next {cs mid more rest : List Char} {a : α} {as : List α} (hentry : entry cs a mid)
      (hcomma : skipSpace mid = ',' :: more)
      (hmore : Listed entry closing (skipSpace more) as rest) :
      Listed entry closing cs (a :: as) rest

/-- What stands between the brackets of a container, with the closing one. -/
inductive Enclosed (entry : Rule α) (closing : Char) : Rule (List α)
  | nothing {cs rest : List Char} (hclosing : skipSpace cs = closing :: rest) :
      Enclosed entry closing cs [] rest
  | entries {cs rest : List Char} {as : List α}
      (hlisted : Listed entry closing (skipSpace cs) as rest) : Enclosed entry closing cs as rest

/-- A name in quotes with a colon, up to the place of the value after it. -/
inductive MemberName : Rule String
  | mk {named afterName valued : List Char} {name : String}
      (hname : readString .plain none [] named = .ok (name, afterName))
      (hcolon : skipSpace afterName = ':' :: valued) :
      MemberName ('"' :: named) name (skipSpace valued)

/-- A member of an object. -/
def Member (value : Rule Json) : Rule (String × Json) :=
  fun cs m rest => ∃ place, MemberName cs m.1 place ∧ value place m.2 rest

/-- A scalar, or a container of the given values. -/
inductive Layer (inner : Rule Json) : Rule Json
  | scalar {cs rest : List Char} {v : Json} (hscalar : readScalar cs = .ok (v, rest)) :
      Layer inner cs v rest
  | array {cs rest : List Char} {items : List Json} (hitems : Enclosed inner ']' cs items rest) :
      Layer inner ('[' :: cs) (.arr items) rest
  | object {cs rest : List Char} {members : List (String × Json)}
      (hmembers : Enclosed (Member inner) '\x7d' cs members rest) :
      Layer inner ('\x7b' :: cs) (.obj members) rest

/-- A value with at most so many containers inside each other; it is a scalar if there are none. -/
def Within : Nat → Rule Json
  | 0 => fun cs v rest => readScalar cs = .ok (v, rest)
  | nesting + 1 => Layer (Within nesting)

/-- The character that opens a container. -/
def Container.opening : Container → Char
  | .array => '['
  | .object => '\x7b'

/-- A scalar can begin with this character. -/
def startsScalar (c : Char) : Bool :=
  c == '"' || c == '-' || ['n', 't', 'f', 'N', 'I'].contains c || c.isDigit

/-! ### Strings -/

theorem suffix_skipSpace (cs : List Char) : skipSpace cs <:+ cs :=
  List.dropWhile_suffix _

/-- A step inside a string refuses the text, ends the string or goes on to the next character. -/
theorem readString_cons (state : StringState) (high? : Option Nat) (done : List Char) (c : Char)
    (cs : List Char) :
    readString state high? done (c :: cs) = .error .malformed ∨
      (∃ s, readString state high? done (c :: cs) = .ok (s, cs)) ∨
      ∃ state' high' done', readString state high? done (c :: cs) =
        readString state' high' done' cs := by
  rw [readString.eq_def]
  dsimp only
  cases state with
  | plain =>
    dsimp only
    split
    · exact .inr (.inl ⟨_, rfl⟩)
    · split
      · exact .inr (.inr ⟨_, _, _, rfl⟩)
      · split
        · exact .inl rfl
        · exact .inr (.inr ⟨_, _, _, rfl⟩)
  | escape =>
    dsimp only
    split
    · exact .inr (.inr ⟨_, _, _, rfl⟩)
    · split
      · exact .inr (.inr ⟨_, _, _, rfl⟩)
      · exact .inl rfl
  | hex missing value =>
    dsimp only
    split
    · exact .inl rfl
    · split
      · exact .inr (.inr ⟨_, _, _, rfl⟩)
      · exact .inr (.inr ⟨_, _, _, rfl⟩)

theorem suffix_of_readString {state : StringState} {high? : Option Nat} {done : List Char}
    {s : String} (h : readString state high? done cs = .ok (s, rest)) : rest <:+ cs := by
  induction cs generalizing state high? done with
  | nil => cases h
  | cons c cs ih =>
    refine List.IsSuffix.trans ?_ (List.suffix_cons c cs)
    rcases readString_cons state high? done c cs with hstep | ⟨_, hstep⟩ | ⟨_, _, _, hstep⟩
    · cases hstep.symm.trans h
    · cases hstep.symm.trans h
      exact List.suffix_rfl
    · exact ih (hstep.symm.trans h)

theorem eq_malformed_of_readString {state : StringState} {high? : Option Nat} {done : List Char}
    {e : ReadError} (h : readString state high? done cs = .error e) : e = .malformed := by
  induction cs generalizing state high? done with
  | nil =>
    cases h
    rfl
  | cons c cs ih =>
    rcases readString_cons state high? done c cs with hstep | ⟨_, hstep⟩ | ⟨_, _, _, hstep⟩
    · cases hstep.symm.trans h
      rfl
    · cases hstep.symm.trans h
    · exact ih (hstep.symm.trans h)

/-! ### Scalars -/

theorem map_eq_ok_iff {x : Step α} {f : α × List Char → β × List Char} {r : β × List Char} :
    x.map f = .ok r ↔ ∃ a, x = .ok a ∧ f a = r := by
  cases x <;> simp [Except.map]

theorem map_eq_error_iff {x : Step α} {f : α × List Char → β × List Char} {e : ReadError} :
    x.map f = .error e ↔ x = .error e := by
  cases x <;> simp [Except.map]

theorem exists_of_readNumber {negative : Bool} (h : readNumber negative cs = .ok (v, rest)) :
    ∃ d, Decimal.take? cs = some (d, rest) := by
  rw [readNumber] at h
  split at h
  · cases h
  · next d after htake =>
    refine ⟨d, htake.trans ?_⟩
    split at h
    · split at h
      · cases h
      · cases h
        rfl
    · cases h
      rfl

theorem readNumber_ne_tooDeep (negative : Bool) (cs : List Char) (container : Container) :
    readNumber negative cs ≠ .error (.tooDeep container) := by
  intro h
  rw [readNumber] at h
  split at h
  · cases h
  · split at h
    · split at h
      · cases h
      · cases h
    · cases h

theorem exists_of_readWord? (h : readWord? cs = some (v, rest)) :
    ∃ w ∈ words, w.1.toList.isPrefixOf cs = true ∧ rest = cs.drop w.1.length := by
  obtain ⟨w, hw, hdrop⟩ := List.exists_of_findSome?_eq_some h
  refine ⟨w, hw, ?_⟩
  obtain ⟨rest', hrest, heq⟩ := Option.map_eq_some_iff.1 hdrop
  cases heq
  rw [dropLiteral?] at hrest
  split at hrest
  · next hword =>
    cases hrest
    exact ⟨hword, rfl⟩
  · cases hrest

/-- The forms of a scalar: a string, a word, or a number with or without a sign. -/
theorem readScalar_cases (h : readScalar cs = .ok (v, rest)) :
    (∃ tail s, cs = '"' :: tail ∧ readString .plain none [] tail = .ok (s, rest)) ∨
      (∃ w ∈ words, w.1.toList.isPrefixOf cs = true ∧ rest = cs.drop w.1.length) ∨
      (∃ tail d, cs = '-' :: tail ∧ Decimal.take? tail = some (d, rest)) ∨
      ∃ d, Decimal.take? cs = some (d, rest) := by
  rw [readScalar.eq_def] at h
  split at h
  · next tail =>
    obtain ⟨⟨s, after⟩, hstring, heq⟩ := map_eq_ok_iff.1 h
    cases heq
    exact .inl ⟨tail, s, rfl, hstring⟩
  · split at h
    · next hword =>
      cases h
      exact .inr (.inl (exists_of_readWord? hword))
    · split at h
      · obtain ⟨d, htake⟩ := exists_of_readNumber h
        exact .inr (.inr (.inl ⟨_, d, rfl, htake⟩))
      · exact .inr (.inr (.inr (exists_of_readNumber h)))

theorem suffix_of_readScalar (h : readScalar cs = .ok (v, rest)) : rest <:+ cs := by
  rcases readScalar_cases h with
    ⟨tail, s, rfl, hstring⟩ | ⟨w, -, -, rfl⟩ | ⟨tail, d, rfl, htake⟩ | ⟨d, htake⟩
  · exact (suffix_of_readString hstring).trans (List.suffix_cons _ _)
  · exact List.drop_suffix _ _
  · exact (Decimal.suffix_of_take? htake).trans (List.suffix_cons _ _)
  · exact Decimal.suffix_of_take? htake

theorem startsScalar_of_readScalar (h : readScalar (c :: cs) = .ok (v, rest)) :
    startsScalar c = true := by
  rcases readScalar_cases h with
    ⟨tail, s, heq, -⟩ | ⟨w, hw, hword, -⟩ | ⟨tail, d, heq, -⟩ | ⟨d, htake⟩
  · cases heq
    rfl
  · have hwords : ∀ w ∈ words, ∃ d ds, w.1.toList = d :: ds ∧ startsScalar d = true := by
      simp [words, startsScalar]
    obtain ⟨d, ds, hd, hstarts⟩ := hwords w hw
    rw [hd, List.isPrefixOf_cons_cons, Bool.and_eq_true, beq_iff_eq] at hword
    exact hword.1 ▸ hstarts
  · cases heq
    rfl
  · rw [startsScalar, Decimal.isDigit_of_take? htake, Bool.or_true]

theorem readScalar_ne_tooDeep (cs : List Char) (container : Container) :
    readScalar cs ≠ .error (.tooDeep container) := by
  intro h
  rw [readScalar.eq_def] at h
  split at h
  · cases eq_malformed_of_readString (map_eq_error_iff.1 h)
  · split at h
    · cases h
    · split at h
      · exact readNumber_ne_tooDeep _ _ _ h
      · exact readNumber_ne_tooDeep _ _ _ h

/-! ### What a value leaves -/

/-- What follows is the end of the text. -/
def Rule.LeavesEnd (rule : Rule α) : Prop :=
  ∀ cs a rest, rule cs a rest → rest <:+ cs

section

variable {entry : Rule α} {closing : Char} {as : List α}

theorem suffix_of_skipSpace {after : List Char} (h : skipSpace cs = c :: after) : after <:+ cs :=
  (List.suffix_cons c after).trans (h ▸ suffix_skipSpace cs)

/-- An entry takes at least the sign after it from the text. -/
theorem length_lt_of_entry (hends : entry.LeavesEnd) {a : α} {after : List Char}
    (hentry : entry cs a mid) (h : skipSpace mid = c :: after) : after.length < cs.length := by
  have hmid : (c :: after).length ≤ mid.length := h ▸ (suffix_skipSpace mid).length_le
  exact Nat.lt_of_lt_of_le (Nat.lt_of_succ_le hmid) (hends _ _ _ hentry).length_le

/-- The entry after a comma is part of a shorter text. -/
theorem length_lt_of_next (hends : entry.LeavesEnd) {a : α} {more : List Char}
    (hentry : entry cs a mid) (hcomma : skipSpace mid = ',' :: more) :
    (skipSpace more).length < cs.length :=
  Nat.lt_of_le_of_lt (suffix_skipSpace more).length_le (length_lt_of_entry hends hentry hcomma)

theorem Listed.leavesEnd (hentry : entry.LeavesEnd) : (Listed entry closing).LeavesEnd := by
  intro cs as rest h
  induction h with
  | last hfirst hclosing => exact (suffix_of_skipSpace hclosing).trans (hentry _ _ _ hfirst)
  | next hfirst hcomma _ ih =>
    exact ih.trans <| (suffix_skipSpace _).trans <| (suffix_of_skipSpace hcomma).trans <|
      hentry _ _ _ hfirst

theorem Enclosed.leavesEnd (hentry : entry.LeavesEnd) : (Enclosed entry closing).LeavesEnd := by
  intro cs as rest h
  cases h with
  | nothing hclosing => exact suffix_of_skipSpace hclosing
  | entries hlisted =>
    exact (Listed.leavesEnd hentry _ _ _ hlisted).trans (suffix_skipSpace _)

end

theorem MemberName.leavesEnd : Rule.LeavesEnd MemberName := by
  rintro _ name _ ⟨hname, hcolon⟩
  exact (suffix_skipSpace _).trans <| (suffix_of_skipSpace hcolon).trans <|
    (suffix_of_readString hname).trans (List.suffix_cons _ _)

theorem Member.leavesEnd {value : Rule Json} (hvalue : value.LeavesEnd) :
    (Member value).LeavesEnd := by
  rintro cs m rest ⟨place, hname, hv⟩
  exact (hvalue _ _ _ hv).trans (MemberName.leavesEnd _ _ _ hname)

theorem Within.leavesEnd (n : Nat) : (Within n).LeavesEnd := by
  induction n with
  | zero => exact fun cs v rest h => suffix_of_readScalar h
  | succ n ih =>
    intro cs v rest h
    cases h with
    | scalar hscalar => exact suffix_of_readScalar hscalar
    | array hitems => exact (Enclosed.leavesEnd ih _ _ _ hitems).trans (List.suffix_cons _ _)
    | object hmembers =>
      exact (Enclosed.leavesEnd (Member.leavesEnd ih) _ _ _ hmembers).trans (List.suffix_cons _ _)

/-! ### The reader and the grammar -/

/-- On texts of at most so many characters, a reader accepts what the grammar has. -/
def Reads (fuel : Nat) (reader : List Char → Step α) (rule : Rule α) : Prop :=
  ∀ cs, cs.length ≤ fuel → ∀ a rest, reader cs = .ok (a, rest) ↔ rule cs a rest

section

variable {entry : List Char → Step α} {rule : Rule α} {closing : Char} {as done : List α}
  {a : α} {more : List Char} {loop : Nat}

theorem readEntries_of_last (hentry : entry cs = .ok (a, mid))
    (hskip : skipSpace mid = closing :: rest) (hclosing : closing ≠ ',') :
    readEntries entry closing (loop + 1) done cs = .ok ((a :: done).reverse, rest) := by
  simp only [readEntries, hentry, hskip, beq_self_eq_true, if_true]

theorem readEntries_of_next (hentry : entry cs = .ok (a, mid))
    (hcomma : skipSpace mid = ',' :: more) :
    readEntries entry closing (loop + 1) done cs =
      readEntries entry closing loop (a :: done) (skipSpace more) := by
  simp only [readEntries, hentry, hcomma]

theorem listed_of_readEntries (hreads : Reads fuel entry rule) (hends : rule.LeavesEnd)
    (hfuel : cs.length ≤ fuel) (h : readEntries entry closing loop done cs = .ok (as, rest)) :
    ∃ more, as = done.reverse ++ more ∧ Listed rule closing cs more rest := by
  induction loop generalizing done cs with
  | zero => cases h
  | succ loop ih =>
    rw [readEntries] at h
    split at h
    · cases h
    · next a mid hentry =>
      have hfirst := (hreads cs hfuel a mid).1 hentry
      split at h
      · next more hcomma =>
        have hlt := length_lt_of_next hends hfirst hcomma
        obtain ⟨others, rfl, hlisted⟩ := ih (by omega) h
        exact ⟨a :: others, by simp, .next hfirst hcomma hlisted⟩
      · next c after _ hskip =>
        split at h
        · next hc =>
          cases h
          obtain rfl := eq_of_beq hc
          exact ⟨[a], List.reverse_cons, .last hfirst hskip⟩
        · cases h
      · cases h

theorem readEntries_of_listed (hreads : Reads fuel entry rule) (hends : rule.LeavesEnd)
    (hclosing : closing ≠ ',') (hfuel : cs.length ≤ fuel) (hloop : cs.length ≤ loop)
    (h : Listed rule closing cs as rest) :
    readEntries entry closing loop done cs = .ok (done.reverse ++ as, rest) := by
  induction h generalizing loop done with
  | last hfirst hskip =>
    have hlt := length_lt_of_entry hends hfirst hskip
    obtain ⟨loop, rfl⟩ := Nat.exists_eq_add_one_of_ne_zero (show loop ≠ 0 by omega)
    rw [readEntries_of_last ((hreads _ hfuel _ _).2 hfirst) hskip hclosing, List.reverse_cons]
  | next hfirst hcomma _ ih =>
    have hlt := length_lt_of_next hends hfirst hcomma
    obtain ⟨loop, rfl⟩ := Nat.exists_eq_add_one_of_ne_zero (show loop ≠ 0 by omega)
    rw [readEntries_of_next ((hreads _ hfuel _ _).2 hfirst) hcomma, ih (by omega) (by omega),
      List.reverse_cons, List.append_assoc, List.singleton_append]

theorem Listed.length_lt (hends : rule.LeavesEnd) (h : Listed rule closing cs as rest) :
    rest.length < cs.length := by
  induction h with
  | last hfirst hskip => exact length_lt_of_entry hends hfirst hskip
  | next hfirst hcomma _ ih =>
    have hlt := length_lt_of_next hends hfirst hcomma
    omega

theorem Listed.exists_first (h : Listed rule closing cs as rest) :
    ∃ a mid, rule cs a mid := by
  cases h with
  | last hfirst _ => exact ⟨_, _, hfirst⟩
  | next hfirst _ _ => exact ⟨_, _, hfirst⟩

theorem Reads.enclosed (hreads : Reads fuel entry rule) (hends : rule.LeavesEnd)
    (hclosing : closing ≠ ',') (hstarts : ∀ after a rest, ¬ rule (closing :: after) a rest) :
    Reads fuel (readEnclosed entry closing fuel) (Enclosed rule closing) := by
  intro cs hfuel as rest
  have hlength := (suffix_skipSpace cs).length_le
  rw [readEnclosed]
  constructor
  · intro h
    split at h
    · cases h
    · next c after hskip =>
      split at h
      · next hc =>
        cases h
        obtain rfl := eq_of_beq hc
        exact .nothing hskip
      · rw [← hskip] at h
        obtain ⟨more, rfl, hlisted⟩ :=
          listed_of_readEntries hreads hends (Nat.le_trans hlength hfuel) h
        exact .entries hlisted
  · intro h
    cases h with
    | nothing hskip => simp only [hskip, beq_self_eq_true, if_true]
    | entries hlisted =>
      have hle := Nat.le_trans hlength hfuel
      have hread : readEntries entry closing fuel [] (skipSpace cs) = .ok (as, rest) :=
        readEntries_of_listed hreads hends hclosing hle hle hlisted
      obtain ⟨a, mid, hfirst⟩ := hlisted.exists_first
      have hlt := hlisted.length_lt hends
      revert hread hfirst hlt
      cases hskip : skipSpace cs with
      | nil => exact fun _ _ hlt => absurd hlt (Nat.not_lt_zero _)
      | cons c after =>
        intro hread hfirst _
        have hc : (c == closing) = false := by
          rw [beq_eq_false_iff_ne]
          rintro rfl
          exact hstarts _ _ _ hfirst
        simpa only [hc, Bool.false_eq_true, if_false] using hread

end

theorem readMember_of_memberName {name : String} (h : MemberName cs name place)
    (value : List Char → Step Json) :
    readMember value cs = (value place).map fun r => ((name, r.1), r.2) := by
  obtain ⟨hname, hcolon⟩ := h
  simp only [readMember, hname, hcolon]

theorem memberName_or_malformed (value : List Char → Step Json) (cs : List Char) :
    (∃ name place, MemberName cs name place) ∨ readMember value cs = .error .malformed := by
  rw [readMember.eq_def]
  split
  · split
    · next hname =>
      rw [eq_malformed_of_readString hname]
      exact .inr rfl
    · next hname =>
      split
      · next hcolon => exact .inl ⟨_, _, .mk hname hcolon⟩
      · exact .inr rfl
  · exact .inr rfl

theorem Reads.member {value : List Char → Step Json} {rule : Rule Json}
    (hreads : Reads fuel value rule) : Reads fuel (readMember value) (Member rule) := by
  intro cs hfuel m rest
  constructor
  · intro h
    rcases memberName_or_malformed value cs with ⟨name, place, hname⟩ | hmalformed
    · rw [readMember_of_memberName hname] at h
      obtain ⟨⟨v, after⟩, hv, heq⟩ := map_eq_ok_iff.1 h
      cases heq
      have hlength := (MemberName.leavesEnd _ _ _ hname).length_le
      exact ⟨place, hname, (hreads _ (Nat.le_trans hlength hfuel) _ _).1 hv⟩
    · cases hmalformed.symm.trans h
  · rintro ⟨place, hname, hv⟩
    have hlength := (MemberName.leavesEnd _ _ _ hname).length_le
    rw [readMember_of_memberName hname, (hreads _ (Nat.le_trans hlength hfuel) _ _).2 hv]
    rfl

/-! ### Values -/

/-- A container is no scalar. -/
theorem startsScalar_opening (container : Container) : startsScalar container.opening = false := by
  cases container <;> rfl

theorem readScalar_opening (container : Container) (cs : List Char) (r : Json × List Char) :
    readScalar (container.opening :: cs) ≠ .ok r := by
  intro h
  cases (startsScalar_opening container).symm.trans (startsScalar_of_readScalar h)

/-- What no bracket opens is read as a scalar. -/
theorem readValue_of_scalar (h : ∀ container : Container, cs.head? ≠ some container.opening)
    (fuel n : Nat) : readValue fuel n cs = readScalar cs := by
  have harray : ∀ tail, cs ≠ '[' :: tail := fun tail heq => h .array (heq ▸ rfl)
  have hobject : ∀ tail, cs ≠ '\x7b' :: tail := fun tail heq => h .object (heq ▸ rfl)
  cases n with
  | zero =>
    rw [readValue]
    · exact harray
    · exact hobject
  | succ n =>
    rw [readValue]
    · exact harray
    · exact hobject

theorem exists_opening_or (cs : List Char) :
    (∃ (container : Container) (tail : List Char), cs = container.opening :: tail) ∨
      ∀ container : Container, cs.head? ≠ some container.opening := by
  by_cases h : ∃ container : Container, cs.head? = some container.opening
  · obtain ⟨container, h⟩ := h
    obtain ⟨tail, rfl⟩ := List.head?_eq_some_iff.1 h
    exact .inl ⟨container, tail, rfl⟩
  · exact .inr fun container hhead => h ⟨container, hhead⟩

/-- The character begins a value. -/
def startsValue (c : Char) : Bool :=
  startsScalar c || c == '[' || c == '\x7b'

theorem startsValue_of_within (h : Within n (c :: cs) v rest) : startsValue c = true := by
  cases n with
  | zero => rw [startsValue, startsScalar_of_readScalar h, Bool.true_or, Bool.true_or]
  | succ n =>
    cases h with
    | scalar hscalar =>
      rw [startsValue, startsScalar_of_readScalar hscalar, Bool.true_or, Bool.true_or]
    | array _ => rfl
    | object _ => rfl

theorem layer_iff_of_scalar {inner : Rule Json}
    (h : ∀ container : Container, cs.head? ≠ some container.opening) :
    Layer inner cs v rest ↔ readScalar cs = .ok (v, rest) := by
  refine ⟨fun hlayer => ?_, .scalar⟩
  cases hlayer with
  | scalar hscalar => exact hscalar
  | array _ => exact absurd rfl (h .array)
  | object _ => exact absurd rfl (h .object)

/-- **The reader accepts what the grammar has, nested as deep as allowed, and nothing else.** -/
theorem reads_readValue (fuel n : Nat) : Reads fuel (readValue fuel n) (Within n) := by
  induction n with
  | zero =>
    intro cs _ v rest
    rcases exists_opening_or cs with ⟨container, tail, rfl⟩ | hscalar
    · refine iff_of_false (fun h => ?_) (readScalar_opening container tail _)
      cases container <;> cases h
    · rw [readValue_of_scalar hscalar]
      rfl
  | succ n ih =>
    have hitems : Reads fuel (readEnclosed (readValue fuel n) ']' fuel)
        (Enclosed (Within n) ']') :=
      ih.enclosed (Within.leavesEnd n) (by decide)
        fun after v rest h => by cases startsValue_of_within h
    have hmembers : Reads fuel (readEnclosed (readMember (readValue fuel n)) '\x7d' fuel)
        (Enclosed (Member (Within n)) '\x7d') :=
      ih.member.enclosed (Member.leavesEnd (Within.leavesEnd n)) (by decide)
        fun after v rest ⟨_, hname, _⟩ => by cases hname
    intro cs hfuel v rest
    rcases exists_opening_or cs with ⟨container, tail, rfl⟩ | hscalar
    · have htail : tail.length ≤ fuel := Nat.le_trans (Nat.le_succ _) hfuel
      cases container with
      | array =>
        refine Iff.trans map_eq_ok_iff ⟨?_, fun h => ?_⟩
        · rintro ⟨⟨items, after⟩, hread, heq⟩
          cases heq
          exact .array ((hitems tail htail _ _).1 hread)
        · cases h with
          | scalar hscalar => exact absurd hscalar (readScalar_opening .array tail _)
          | array h => exact ⟨(_, _), (hitems tail htail _ _).2 h, rfl⟩
      | object =>
        refine Iff.trans map_eq_ok_iff ⟨?_, fun h => ?_⟩
        · rintro ⟨⟨members, after⟩, hread, heq⟩
          cases heq
          exact .object ((hmembers tail htail _ _).1 hread)
        · cases h with
          | scalar hscalar => exact absurd hscalar (readScalar_opening .object tail _)
          | object h => exact ⟨(_, _), (hmembers tail htail _ _).2 h, rfl⟩
    · rw [readValue_of_scalar hscalar]
      exact (layer_iff_of_scalar hscalar).symm

end CqlGateway.Json
