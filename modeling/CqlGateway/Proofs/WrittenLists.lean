import CqlGateway.Proofs.ListedNames
import CqlGateway.Proofs.WrittenScalars

/-!
# Lists of names as they are written

A text writes a list if it is an array of strings and of other values, with white space wherever two
tokens meet (`Json.WritesList`).  The strings may be spelled in any way; of the other values it is
only said that they are values and not nested too deep (`Json.IsValue`).

The reader takes every entry of a container up to the sign behind it, which a number could not go on
with.  So an entry is found wherever it stands (`Json.Stands`), and from the entries the container
is found; this is said once for arrays and objects (`Json.exists_enclosed`).  The names that are
read of a cell with such a text are those among its strings (`names_of_written_lists`).
-/

namespace CqlGateway.Json

variable {α β : Type} {cs rest e : List Char} {es : List (List Char)}

/-! ### Containers as they are written -/

/-- Nothing but white space. -/
def IsGap (cs : List Char) : Prop :=
  ∀ c ∈ cs, isSpace c = true

/-- Some texts, with commas between them and white space around each. -/
inductive Joined : List (List Char) → List Char → Prop
  | last {left e right : List Char} (hleft : IsGap left) (hright : IsGap right) :
    Joined [e] (left ++ (e ++ right))
  | next {left e right more : List Char} {es : List (List Char)} (hleft : IsGap left)
    (hright : IsGap right) (hmore : Joined es more) :
    Joined (e :: es) (left ++ (e ++ (right ++ ',' :: more)))

/-- Some texts, or none, between the brackets of a container. -/
inductive Bracketed (opening closing : Char) : List (List Char) → List Char → Prop
  | nothing {gap : List Char} (hgap : IsGap gap) :
    Bracketed opening closing [] (opening :: (gap ++ [closing]))
  | entries {es : List (List Char)} {cs : List Char} (hjoined : Joined es cs) :
    Bracketed opening closing es (opening :: (cs ++ [closing]))

/-- A name in quotes, a colon and a value. -/
inductive IsMember (value : List Char → Prop) : List Char → Prop
  | mk {name left right v : List Char} (hname : IsString name) (hleft : IsGap left)
    (hright : IsGap right) (hvalue : value v) :
    IsMember value (name ++ (left ++ ':' :: (right ++ v)))

/-- A scalar, or a container of the given values. -/
inductive IsLayer (inner : List Char → Prop) : List Char → Prop
  | scalar {cs : List Char} (hscalar : IsScalar cs) : IsLayer inner cs
  | array {es : List (List Char)} {cs : List Char} (hcs : Bracketed '[' ']' es cs)
    (hitems : ∀ e ∈ es, inner e) : IsLayer inner cs
  | object {es : List (List Char)} {cs : List Char} (hcs : Bracketed '\x7b' '\x7d' es cs)
    (hmembers : ∀ e ∈ es, IsMember inner e) : IsLayer inner cs

/-- The text is a value with at most so many containers inside each other. -/
def IsValue : Nat → List Char → Prop
  | 0 => IsScalar
  | nesting + 1 => IsLayer (IsValue nesting)

/-! ### Reading containers -/

theorem skipSpace_gap {gap : List Char} (hgap : IsGap gap)
    (hrest : ∀ c ∈ rest.head?, isSpace c = false) : skipSpace (gap ++ rest) = rest :=
  Text.dropWhile_append_of_head hgap hrest

theorem skipSpace_gap_cons {gap : List Char} {c : Char} (hgap : IsGap gap)
    (hc : isSpace c = false) : skipSpace (gap ++ c :: rest) = c :: rest := by
  refine skipSpace_gap hgap ?_
  rintro _ ⟨⟩
  exact hc

/-- What ends a value stands behind the white space. -/
theorem endsValue_gap {gap : List Char} {c : Char} (hgap : IsGap gap) (hc : endsValue c = true) :
    EndsValue (gap ++ c :: rest) := by
  cases gap with
  | nil =>
    rintro _ ⟨⟩
    exact hc
  | cons d gap =>
    rintro _ ⟨⟩
    rw [endsValue, hgap d List.mem_cons_self]
    rfl

/-- In front of what ends a value, the rule finds an entry at the text, and `P` holds of it. -/
structure Stands (entry : Rule α) (P : α → Prop) (cs : List Char) : Prop where
  starts : ∀ rest, ∀ c ∈ (cs ++ rest).head?, isSpace c = false
  found : ∀ rest, EndsValue rest → ∃ a, entry (cs ++ rest) a rest ∧ P a

section

variable {entry : Rule α} {R : α → β → Prop} {opening closing : Char} {bs : List β}

/-- The entry behind white space is found, up to the sign behind it. -/
theorem Stands.found_in_gap {P : α → Prop} {left right : List Char} {c : Char}
    (h : Stands entry P e) (hleft : IsGap left) (hright : IsGap right) (hc : endsValue c = true)
    (hspace : isSpace c = false) (after : List Char) :
    ∃ a mid, entry (skipSpace (left ++ (e ++ (right ++ c :: after)))) a mid ∧
      skipSpace mid = c :: after ∧ P a := by
  obtain ⟨a, hentry, ha⟩ := h.found (right ++ c :: after) (endsValue_gap hright hc)
  refine ⟨a, right ++ c :: after, ?_, skipSpace_gap_cons hright hspace, ha⟩
  rwa [skipSpace_gap hleft (h.starts _)]

theorem exists_listed (hends : endsValue closing = true) (hspace : isSpace closing = false)
    (hjoined : Joined es cs) (hes : List.Forall₂ (fun e b => Stands entry (R · b) e) es bs) :
    ∃ as, Listed entry closing (skipSpace (cs ++ closing :: rest)) as rest ∧
      List.Forall₂ R as bs := by
  -- what is found is collected from the last entry on, as the texts are joined
  induction hjoined generalizing bs with
  | last hleft hright =>
    obtain _ | ⟨he, ⟨⟩⟩ := hes
    obtain ⟨a, mid, hentry, hclosing, ha⟩ := he.found_in_gap hleft hright hends hspace rest
    refine ⟨[a], ?_, .cons ha .nil⟩
    simp only [List.append_assoc]
    exact .last hentry hclosing
  | next hleft hright hmore ih =>
    obtain _ | ⟨he, hes⟩ := hes
    obtain ⟨as, hlisted, has⟩ := ih hes
    obtain ⟨a, mid, hentry, hcomma, ha⟩ := he.found_in_gap hleft hright (c := ',') rfl rfl _
    refine ⟨a :: as, ?_, .cons ha has⟩
    simp only [List.append_assoc, List.cons_append]
    exact .next hentry hcomma hlisted

theorem exists_enclosed (hends : endsValue closing = true) (hspace : isSpace closing = false)
    (hcs : Bracketed opening closing es cs)
    (hes : List.Forall₂ (fun e b => Stands entry (R · b) e) es bs) :
    ∃ inside, cs = opening :: inside ∧
      ∀ rest, ∃ as, Enclosed entry closing (inside ++ rest) as rest ∧ List.Forall₂ R as bs := by
  cases hcs with
  | nothing hgap =>
    cases hes
    refine ⟨_, rfl, fun rest => ⟨[], .nothing ?_, .nil⟩⟩
    rw [List.append_assoc]
    exact skipSpace_gap_cons hgap hspace
  | entries hjoined =>
    refine ⟨_, rfl, fun rest => ?_⟩
    obtain ⟨as, hlisted, has⟩ := exists_listed hends hspace hjoined hes
    rw [List.append_assoc]
    exact ⟨as, .entries hlisted, has⟩

end

/-! ### Reading values -/

theorem not_isSpace_of_startsValue {c : Char} (h : startsValue c = true) : isSpace c = false := by
  by_contra hspace
  simp only [Bool.not_eq_false, isSpace, Bool.or_eq_true, beq_iff_eq] at hspace
  rcases hspace with ((rfl | rfl) | rfl) | rfl <;> cases h

/-- A text at which a value is found does not begin with white space. -/
theorem stands_of_within {n : Nat} {P : Json → Prop}
    (h : ∀ rest, EndsValue rest → ∃ v, Within n (cs ++ rest) v rest ∧ P v) :
    Stands (Within n) P cs := by
  refine ⟨fun rest c hc => ?_, h⟩
  obtain ⟨v, hvalue, -⟩ := h [] (by rintro _ ⟨⟩)
  cases cs with
  | nil => exact absurd hvalue (not_within_nil n v [])
  | cons d tail =>
    cases hc
    exact not_isSpace_of_startsValue (startsValue_of_within hvalue)

theorem stands_of_isMember {value : Rule Json} {inner : List Char → Prop}
    (hvalue : ∀ v, inner v → Stands value (fun _ => True) v) (h : IsMember inner cs) :
    Stands (Member value) (fun _ => True) cs := by
  obtain @⟨name, left, right, v, hname, hleft, hright, hv⟩ := h
  have hstands := hvalue v hv
  constructor
  · obtain ⟨inside, rfl, -⟩ := hname
    rintro rest _ ⟨⟩
    rfl
  · intro rest hrest
    obtain ⟨a, hfound, -⟩ := hstands.found rest hrest
    obtain ⟨inside, s, heq, hread⟩ := exists_inside hname (left ++ ':' :: (right ++ (v ++ rest)))
    have hcolon : skipSpace (left ++ ':' :: (right ++ (v ++ rest))) =
        ':' :: (right ++ (v ++ rest)) := skipSpace_gap_cons hleft rfl
    have hplace := skipSpace_gap hright (hstands.starts rest)
    simp only [List.append_assoc, List.cons_append]
    refine ⟨(s, a), ⟨v ++ rest, ?_, hfound⟩, trivial⟩
    rw [heq, ← hplace]
    exact .mk hread hcolon

/-- **A value is found wherever it stands**, if it is not nested too deep. -/
theorem stands_of_isValue {n : Nat} (h : IsValue n cs) : Stands (Within n) (fun _ => True) cs := by
  -- the entries of a container are nested less deep, and for them the induction speaks
  induction n generalizing cs with
  | zero =>
    refine stands_of_within fun rest hrest => ?_
    obtain ⟨v, hread⟩ := exists_readScalar h hrest
    exact ⟨v, hread, trivial⟩
  | succ n ih =>
    refine stands_of_within fun rest hrest => ?_
    cases h with
    | scalar hscalar =>
      obtain ⟨v, hread⟩ := exists_readScalar hscalar hrest
      exact ⟨v, .scalar hread, trivial⟩
    | @array es _ hcs hitems =>
      have hes : List.Forall₂ (fun e _ => Stands (Within n) (fun _ => True) e) es es :=
        List.forall₂_same.2 fun e he => ih (hitems e he)
      obtain ⟨inside, rfl, hinside⟩ := exists_enclosed rfl rfl hcs hes
      obtain ⟨items, henclosed, -⟩ := hinside rest
      exact ⟨_, .array henclosed, trivial⟩
    | @object es _ hcs hmembers =>
      have hes : List.Forall₂ (fun e _ => Stands (Member (Within n)) (fun _ => True) e) es es :=
        List.forall₂_same.2 fun e he => stands_of_isMember (fun v => ih) (hmembers e he)
      obtain ⟨inside, rfl, hinside⟩ := exists_enclosed rfl rfl hcs hes
      obtain ⟨members, henclosed, -⟩ := hinside rest
      exact ⟨_, .object henclosed, trivial⟩

/-! ### Lists -/

/-- The string that a value is, if it is one. -/
def string? : Json → Option String
  | .str s => some s
  | _ => none

/-- What is written for a member of a list: a string, or another value in place of `none`. -/
inductive WritesMember (nesting : Nat) : List Char → Option String → Prop
  | string {cs : List Char} {s : String} (h : WritesString cs s) : WritesMember nesting cs (some s)
  | other {cs : List Char} (h : IsValue nesting cs) (hother : cs.head? ≠ some '"') :
    WritesMember nesting cs none

/-- The text writes a list: an array, with white space around it, of the members, which are strings
and, in place of `none`, other values.  No member is nested deeper than allowed. -/
def WritesList (nesting : Nat) (s : String) (members : List (Option String)) : Prop :=
  ∃ left body right es, s.toList = left ++ (body ++ right) ∧ IsGap left ∧ IsGap right ∧
    Bracketed '[' ']' es body ∧ List.Forall₂ (WritesMember nesting) es members

variable {n nesting : Nat} {v : Json} {s : String}

theorem within_of_readScalar (h : readScalar cs = .ok (v, rest)) : Within n cs v rest := by
  cases n with
  | zero => exact h
  | succ n => exact .scalar h

theorem string?_of_readNumber {negative : Bool} (h : readNumber negative cs = .ok (v, rest)) :
    v.string? = none := by
  rw [readNumber] at h
  split at h
  · cases h
  · split at h
    · split at h
      · cases h
      · cases h
        rfl
    · cases h
      rfl

theorem string?_of_readWord? (h : readWord? cs = some (v, rest)) : v.string? = none := by
  have hwords : ∀ w ∈ words, w.2.string? = none := by
    simp [words, string?]
  obtain ⟨w, hw, hdrop⟩ := List.exists_of_findSome?_eq_some h
  obtain ⟨rest', -, heq⟩ := Option.map_eq_some_iff.1 hdrop
  cases heq
  exact hwords w hw

/-- A string is read only of a text that begins with a quote. -/
theorem quote_of_readScalar (h : readScalar cs = .ok (.str s, rest)) : cs.head? = some '"' := by
  rw [readScalar.eq_def] at h
  split at h
  · rfl
  · split at h
    · next hword =>
      cases h
      cases string?_of_readWord? hword
    · split at h
      · cases string?_of_readNumber h
      · cases string?_of_readNumber h

theorem quote_of_within (h : Within n cs (.str s) rest) : cs.head? = some '"' := by
  cases n with
  | zero => exact quote_of_readScalar h
  | succ n =>
    cases h with
    | scalar hscalar => exact quote_of_readScalar hscalar

theorem stands_of_writesMember {m : Option String} (h : WritesMember n cs m) :
    Stands (Within n) (fun v => v.string? = m) cs := by
  refine stands_of_within fun rest hrest => ?_
  cases h with
  | string h => exact ⟨_, within_of_readScalar (readScalar_of_writesString h rest), rfl⟩
  | other h hother =>
    have hstands := stands_of_isValue h
    obtain ⟨v, hvalue, -⟩ := hstands.found rest hrest
    refine ⟨v, hvalue, ?_⟩
    cases v with
    | str s =>
      -- the text is not empty, so it would begin with the quote itself
      cases cs with
      | nil => cases hstands.starts [' '] ' ' rfl
      | cons c tail => exact absurd (quote_of_within hvalue) hother
    | _ => rfl

/-- **A list is read with its members**, if there is room for one more level than these have. -/
theorem readText_of_writesList {members : List (Option String)}
    (h : WritesList nesting s members) :
    ∃ items, readText (nesting + 1) s = .ok (.arr items) ∧ items.map string? = members := by
  obtain ⟨left, body, right, es, hs, hleft, hright, hbody, hes⟩ := h
  have hstands : List.Forall₂
      (fun e m => Stands (Within nesting) (fun v => v.string? = m) e) es members :=
    hes.imp fun _ _ => stands_of_writesMember
  obtain ⟨inside, rfl, hinside⟩ := exists_enclosed rfl rfl hbody hstands
  obtain ⟨items, henclosed, hitems⟩ := hinside right
  refine ⟨items, readText_eq_ok_iff.2 ⟨right, ?_, ?_⟩, ?_⟩
  · rw [hs, List.cons_append, skipSpace_gap_cons hleft rfl]
    exact .array henclosed
  · rw [← List.append_nil right]
    exact skipSpace_gap hright nofun
  · rw [← List.forall₂_eq_eq_eq, List.forall₂_map_left_iff]
    exact hitems

/-! ### Writing lists -/

theorem toList_writeItems (out : String) (names : List String) :
    (writeItems out false (names.map .str)).toList =
      out.toList ++ (names.map fun s => (writeString s).toList).flatMap (',' :: ·) := by
  induction names generalizing out with
  | nil => simp [writeItems]
  | cons s names ih => simp [writeItems, writeOnto, ih]

theorem isGap_nil : IsGap [] :=
  nofun

/-- Texts may be joined without white space. -/
theorem joined_flatMap (e : List Char) (es : List (List Char)) :
    Joined (e :: es) (e ++ es.flatMap (',' :: ·)) := by
  induction es generalizing e with
  | nil => exact .last isGap_nil isGap_nil
  | cons e' es ih => exact .next isGap_nil isGap_nil (ih e')

theorem bracketed_write (names : List String) :
    Bracketed '[' ']' (names.map fun s => (writeString s).toList)
      (write (.arr (names.map .str))).toList := by
  cases names with
  | nil =>
    have hwrite : (write (.arr [])).toList = ['[', ']'] := by
      simp [write, writeOnto, writeItems]
    rw [List.map_nil, List.map_nil, hwrite]
    exact .nothing isGap_nil
  | cons s names =>
    have hwrite : (write (.arr ((s :: names).map .str))).toList =
        '[' :: ((writeString s).toList ++
          (names.map fun s => (writeString s).toList).flatMap (',' :: ·) ++ [']']) := by
      simp [write, writeOnto, writeItems, toList_writeItems]
    rw [hwrite]
    exact .entries (joined_flatMap _ _)

/-- The text of an array of strings writes the list of them. -/
theorem writesList_write (nesting : Nat) (names : List String) :
    WritesList nesting (write (.arr (names.map .str))) (names.map some) := by
  have hbody := bracketed_write names
  generalize write (.arr (names.map .str)) = s at hbody ⊢
  refine ⟨[], s.toList, [], _, (List.append_nil _).symm, isGap_nil, isGap_nil, hbody, ?_⟩
  rw [List.forall₂_map_left_iff, List.forall₂_map_right_iff, List.forall₂_same]
  exact fun s _ => .string (writesString_writeString s)

end CqlGateway.Json

namespace CqlGateway

/-- The strings among the members of a list that are not blank, without the blanks around them. -/
def namesAmong (members : List (Option String)) : List String :=
  ((members.filterMap id).filter (!Text.isBlankText ·)).map Text.strip

theorem namesOfItems_eq (items : List Json) :
    namesOfItems items = namesAmong (items.map Json.string?) := by
  rw [namesAmong, List.filterMap_map, ← List.filterMap_eq_filter, List.filterMap_filterMap,
    List.map_filterMap, namesOfItems]
  refine List.filterMap_congr fun v _ => ?_
  cases v with
  | str s =>
    by_cases hblank : Text.isBlankText s = true <;> simp [Json.string?, Option.guard, hblank]
  | _ => rfl

/-- **The names in a written list are read back.**  Whichever spelling is chosen for each character
and whatever white space stands between the members, the names are the strings that are not blank,
without the blanks around them, in their order; the other members are left out.  There has to be
room for one more level than the members have.  The array of any names is such a list. -/
theorem names_of_written_lists :
    (∀ nesting s members, Json.WritesList nesting s members →
      readAliases (nesting + 1) (.text s) = pure (namesAmong members)) ∧
    ∀ nesting, ∀ names : List String,
      Json.WritesList nesting (Json.write (.arr (names.map .str))) (names.map some) := by
  refine ⟨fun nesting s members h => ?_, Json.writesList_write⟩
  obtain ⟨items, hread, rfl⟩ := Json.readText_of_writesList h
  have hblank : Text.isBlankText s = false :=
    Json.not_blank_of_writes ⟨_, Json.readText_eq_ok_iff.1 hread⟩
  have hempty : s ≠ "" := by
    rintro rfl
    cases hblank
  have hspell : (Value.text s).spell (nesting + 1) = .ok s := rfl
  rw [readAliases, if_neg (by simp [Value.isTruthy, hempty]), hspell, readCellJson, hread]
  dsimp only
  rw [hblank]
  exact congrArg pure (namesOfItems_eq items)

/-- Two spellings of a name, a character of two code units, a blank text, and between them a number
and a list. -/
theorem names_of_written_lists_spelled :
    readAliases 990 (.text "[\"\\u00E9\", -7 ,[null],\"\\ud83d\\uDE00 \",\" \",\"é\"]") =
      pure ["é", "😀", "é"] := by
  have hescaped : Json.WritesString "\"\\u00E9\"".toList "é" :=
    ⟨"\\u00E9".toList, by decide +kernel,
      .cons (.unit (@Json.WritesUnit.mk "00E9".toList _ (by decide) (by decide +kernel))) .nil⟩
  have hpair : Json.WritesString "\"\\ud83d\\uDE00 \"".toList "😀 " :=
    ⟨"\\ud83d\\uDE00 ".toList, by decide +kernel,
      .cons (.pair (by decide) (@Json.WritesUnit.mk "d83d".toList _ (by decide) (by decide +kernel))
        (@Json.WritesUnit.mk "DE00".toList _ (by decide) (by decide +kernel)))
        (.cons (.literal (by decide)) .nil)⟩
  have hblank : Json.WritesString "\" \"".toList " " :=
    ⟨" ".toList, by decide +kernel, .cons (.literal (by decide)) .nil⟩
  have hliteral : Json.WritesString "\"é\"".toList "é" :=
    ⟨"é".toList, by decide +kernel, .cons (.literal (by decide)) .nil⟩
  have hnumber : Json.IsScalar "-7".toList := by
    have hwhole : Json.IsWhole ['7'] := .digits (by decide) ⟨nofun, by simp⟩
    exact .number (.negative (.mk hwhole .none .none fun _ _ => by decide))
  have hnull : Json.IsScalar "null".toList := .word (by decide)
  have hlist : Json.IsLayer (Json.IsValue 988) "[null]".toList :=
    .array (@Json.Bracketed.entries '[' ']' _ _ (Json.joined_flatMap "null".toList []))
      (List.forall_mem_singleton.2 (.scalar hnull))
  have hjoined : Json.Joined ["\"\\u00E9\"".toList, "-7".toList, "[null]".toList,
      "\"\\ud83d\\uDE00 \"".toList, "\" \"".toList, "\"é\"".toList]
      "\"\\u00E9\", -7 ,[null],\"\\ud83d\\uDE00 \",\" \",\"é\"".toList := by
    have hspace : Json.IsGap [' '] := by simp [Json.IsGap, Json.isSpace]
    have htail := Json.joined_flatMap "[null]".toList
      ["\"\\ud83d\\uDE00 \"".toList, "\" \"".toList, "\"é\"".toList]
    exact @Json.Joined.next [] _ [] _ _ Json.isGap_nil Json.isGap_nil
      (@Json.Joined.next [' '] "-7".toList [' '] _ _ hspace hspace htail)
  have hmembers : List.Forall₂ (Json.WritesMember 989)
      ["\"\\u00E9\"".toList, "-7".toList, "[null]".toList, "\"\\ud83d\\uDE00 \"".toList,
        "\" \"".toList, "\"é\"".toList]
      [some "é", none, none, some "😀 ", some " ", some "é"] :=
    .cons (.string hescaped) <| .cons (.other (.scalar hnumber) (by decide +kernel)) <|
      .cons (.other hlist (by decide +kernel)) <| .cons (.string hpair) <|
      .cons (.string hblank) <| .cons (.string hliteral) .nil
  have hwritten : Json.WritesList 989
      "[\"\\u00E9\", -7 ,[null],\"\\ud83d\\uDE00 \",\" \",\"é\"]"
      [some "é", none, none, some "😀 ", some " ", some "é"] :=
    ⟨[], _, [], _, by decide +kernel, Json.isGap_nil, Json.isGap_nil, .entries hjoined, hmembers⟩
  rw [names_of_written_lists.1 _ _ _ hwritten]
  exact congrArg pure (by decide +kernel)

end CqlGateway
