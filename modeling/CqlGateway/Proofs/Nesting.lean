import CqlGateway.Proofs.Grammar

/-!
# How deep containers are nested

The reader of JSON gives up on a text in which a container stands deeper than the stack has room
for; the room is a parameter of the reader.  It gives up where it comes to the bracket that opens
the container (`Reaches`): everything before this place is as the grammar wants it, and what comes
after it has no part in the answer (`readValue_eq_tooDeep_iff`).  A value of the grammar is
therefore read or comes to such a bracket (`within_or_reaches`), and a text with no more brackets
than may be nested never does (`lt_of_reaches`).

A text `Writes` the values that the grammar has for it, however deep they are nested.
-/

namespace CqlGateway.Json

variable {α : Type} {cs rest mid more place tail : List Char} {v : Json}
  {m n fuel room : Nat}
  {container : Container} {s : String}

/-! ### Places in a text -/

/-- An entry of those that are listed stands at this place. -/
inductive Comes (entry : Rule α) : List Char → List Char → Prop
  | first (cs : List Char) : Comes entry cs cs
  | next {cs mid more place : List Char} {a : α} (hentry : entry cs a mid)
      (hcomma : skipSpace mid = ',' :: more) (hmore : Comes entry (skipSpace more) place) :
      Comes entry cs place

/-- A bracket inside `n` containers opens a container, and nothing before it is amiss or nested
deeper. -/
inductive Reaches (container : Container) : Nat → List Char → Prop
  | opening (cs : List Char) : Reaches container 0 (container.opening :: cs)
  | item {n : Nat} {cs place : List Char} (hcomes : Comes (Within n) (skipSpace cs) place)
      (hplace : Reaches container n place) : Reaches container (n + 1) ('[' :: cs)
  | member {n : Nat} {cs place valued : List Char} {name : String}
      (hcomes : Comes (Member (Within n)) (skipSpace cs) place)
      (hname : MemberName place name valued) (hvalued : Reaches container n valued) :
      Reaches container (n + 1) ('\x7b' :: cs)

theorem Comes.suffix {entry : Rule α} (hends : entry.LeavesEnd) (h : Comes entry cs place) :
    place <:+ cs := by
  induction h with
  | first _ => exact List.suffix_rfl
  | next hentry hcomma _ ih =>
    exact ih.trans <| (suffix_skipSpace _).trans <| (suffix_of_skipSpace hcomma).trans <|
      hends _ _ _ hentry

theorem not_reaches_of_scalar (h : ∀ container : Container, cs.head? ≠ some container.opening) :
    ¬ Reaches container n cs := by
  rintro (_ | _ | _)
  · exact h container rfl
  · exact h .array rfl
  · exact h .object rfl

theorem opening_injective {a b : Container} (h : a.opening = b.opening) : a = b := by
  cases a <;> cases b <;> first | rfl | cases h

theorem reaches_zero_iff : Reaches container 0 cs ↔ ∃ tail, cs = container.opening :: tail := by
  constructor
  · rintro ⟨tail⟩
    exact ⟨tail, rfl⟩
  · rintro ⟨tail, rfl⟩
    exact .opening tail

theorem reaches_array_iff :
    Reaches container (n + 1) ('[' :: tail) ↔
      ∃ place, Comes (Within n) (skipSpace tail) place ∧ Reaches container n place := by
  constructor
  · rintro (_ | ⟨hcomes, hplace⟩ | _)
    exact ⟨_, hcomes, hplace⟩
  · rintro ⟨place, hcomes, hplace⟩
    exact .item hcomes hplace

theorem reaches_object_iff :
    Reaches container (n + 1) ('\x7b' :: tail) ↔
      ∃ place, Comes (Member (Within n)) (skipSpace tail) place ∧
        ∃ name valued, MemberName place name valued ∧ Reaches container n valued := by
  constructor
  · rintro (_ | _ | ⟨hcomes, hname, hvalued⟩)
    exact ⟨_, hcomes, _, _, hname, hvalued⟩
  · rintro ⟨place, hcomes, name, valued, hname, hvalued⟩
    exact .member hcomes hname hvalued

/-- The character opens a container. -/
def isOpening (c : Char) : Bool :=
  c == '[' || c == '\x7b'

/-- **To reach a bracket takes all the brackets around it.** -/
theorem lt_of_reaches (h : Reaches container n cs) : n < cs.countP isOpening := by
  induction h with
  | opening cs =>
    rw [List.countP_cons_of_pos (by cases container <;> rfl)]
    exact Nat.succ_pos _
  | @item n cs place hcomes _ ih =>
    have hplace := (hcomes.suffix (Within.leavesEnd n)).trans (suffix_skipSpace cs)
    rw [List.countP_cons_of_pos rfl]
    exact Nat.succ_lt_succ (Nat.lt_of_lt_of_le ih (hplace.sublist.countP_le))
  | @member n cs place valued name hcomes hname _ ih =>
    have hplace := (MemberName.leavesEnd _ _ _ hname).trans <|
      (hcomes.suffix (Member.leavesEnd (Within.leavesEnd n))).trans (suffix_skipSpace cs)
    rw [List.countP_cons_of_pos rfl]
    exact Nat.succ_lt_succ (Nat.lt_of_lt_of_le ih (hplace.sublist.countP_le))

/-! ### Where the reader gives up -/

section

variable {entry : List Char → Step α} {rule : Rule α} {closing : Char} {done : List α}
  {loop : Nat}

theorem comes_of_readEntries (hreads : Reads fuel entry rule) (hends : rule.LeavesEnd)
    (hfuel : cs.length ≤ fuel)
    (h : readEntries entry closing loop done cs = .error (.tooDeep container)) :
    ∃ place, Comes rule cs place ∧ entry place = .error (.tooDeep container) := by
  induction loop generalizing done cs with
  | zero => cases h
  | succ loop ih =>
    rw [readEntries] at h
    split at h
    · next hentry =>
      cases h
      exact ⟨cs, .first cs, hentry⟩
    · next a mid hentry =>
      have hfirst := (hreads cs hfuel a mid).1 hentry
      split at h
      · next more hcomma =>
        have hlt := length_lt_of_next hends hfirst hcomma
        obtain ⟨place, hcomes, hplace⟩ := ih (by omega) h
        exact ⟨place, .next hfirst hcomma hcomes, hplace⟩
      · split at h <;> cases h
      · cases h

theorem readEntries_of_comes (hreads : Reads fuel entry rule) (hends : rule.LeavesEnd)
    (hfuel : cs.length ≤ fuel) (hloop : cs.length < loop) (hcomes : Comes rule cs place)
    (h : entry place = .error (.tooDeep container)) :
    readEntries entry closing loop done cs = .error (.tooDeep container) := by
  induction hcomes generalizing loop done with
  | first cs =>
    obtain ⟨loop, rfl⟩ := Nat.exists_eq_add_one_of_ne_zero (Nat.ne_zero_of_lt hloop)
    simp only [readEntries, h]
  | next hfirst hcomma _ ih =>
    -- the entry in front of the comma is read, and the rest of the text is shorter
    have hlt := length_lt_of_next hends hfirst hcomma
    obtain ⟨loop, rfl⟩ := Nat.exists_eq_add_one_of_ne_zero (Nat.ne_zero_of_lt hloop)
    rw [readEntries_of_next ((hreads _ hfuel _ _).2 hfirst) hcomma]
    exact ih (by omega) (by omega) h

/-- Nothing comes after a place where no entry stands. -/
theorem not_comes_of_malformed (hreads : Reads fuel entry rule) (hfuel : cs.length ≤ fuel)
    (hfirst : entry cs = .error .malformed) (hcomes : Comes rule cs place) :
    entry place ≠ .error (.tooDeep container) := by
  intro h
  cases hcomes with
  | first _ => cases hfirst.symm.trans h
  | next hentry _ _ => cases hfirst.symm.trans ((hreads _ hfuel _ _).2 hentry)

/-- A container is given up where one of its entries is. -/
theorem readEnclosed_eq_tooDeep_iff (hreads : Reads fuel entry rule) (hends : rule.LeavesEnd)
    (hnothing : entry [] = .error .malformed)
    (hclosing : ∀ after, entry (closing :: after) = .error .malformed) (hfuel : cs.length < fuel) :
    readEnclosed entry closing fuel cs = .error (.tooDeep container) ↔
      ∃ place, Comes rule (skipSpace cs) place ∧ entry place = .error (.tooDeep container) := by
  have hlt := Nat.lt_of_le_of_lt (suffix_skipSpace cs).length_le hfuel
  have hlength := Nat.le_of_lt hlt
  rw [readEnclosed]
  constructor
  · intro h
    split at h
    · cases h
    · next c after hskip =>
      split at h
      · cases h
      · rw [← hskip] at h
        exact comes_of_readEntries hreads hends hlength h
  · rintro ⟨place, hcomes, hplace⟩
    have hread : readEntries entry closing fuel [] (skipSpace cs) = .error (.tooDeep container) :=
      readEntries_of_comes hreads hends hlength hlt hcomes hplace
    revert hlength hcomes hread
    cases hskip : skipSpace cs with
    | nil =>
      intro hlength hcomes _
      exact absurd hplace (not_comes_of_malformed hreads hlength hnothing hcomes)
    | cons c after =>
      intro hlength hcomes hread
      dsimp only
      split
      · next hc =>
        obtain rfl := eq_of_beq hc
        exact absurd hplace (not_comes_of_malformed hreads hlength (hclosing after) hcomes)
      · exact hread

end

theorem readMember_eq_tooDeep_iff (value : List Char → Step Json) :
    readMember value cs = .error (.tooDeep container) ↔
      ∃ name place, MemberName cs name place ∧ value place = .error (.tooDeep container) := by
  constructor
  · intro h
    rcases memberName_or_malformed value cs with ⟨name, place, hname⟩ | hmalformed
    · rw [readMember_of_memberName hname] at h
      exact ⟨name, place, hname, map_eq_error_iff.1 h⟩
    · cases hmalformed.symm.trans h
  · rintro ⟨name, place, hname, hplace⟩
    rw [readMember_of_memberName hname, hplace]
    rfl

theorem readValue_nil (fuel n : Nat) : readValue fuel n [] = .error .malformed := by
  cases n <;> rfl

theorem readValue_closing (fuel n : Nat) (after : List Char) :
    readValue fuel n (']' :: after) = .error .malformed := by
  cases n <;> rfl

/-- **The reader gives up where it comes to a bracket inside as many containers as allowed.** -/
theorem readValue_eq_tooDeep_iff (hfuel : cs.length ≤ fuel) :
    readValue fuel n cs = .error (.tooDeep container) ↔ Reaches container n cs := by
  induction n generalizing cs with
  | zero =>
    rcases exists_opening_or cs with ⟨other, tail, rfl⟩ | hscalar
    · have hopening : readValue fuel 0 (other.opening :: tail) = .error (.tooDeep other) := by
        cases other <;> rfl
      rw [hopening, reaches_zero_iff]
      constructor
      · intro h
        cases h
        exact ⟨tail, rfl⟩
      · rintro ⟨tail', heq⟩
        rw [opening_injective (List.cons.inj heq).1]
    · rw [readValue_of_scalar hscalar]
      exact iff_of_false (readScalar_ne_tooDeep cs container) (not_reaches_of_scalar hscalar)
  | succ n ih =>
    have hreads := reads_readValue fuel n
    have hends := Within.leavesEnd n
    rcases exists_opening_or cs with ⟨other, tail, rfl⟩ | hscalar
    · have htail : tail.length < fuel := hfuel
      have hskip := (suffix_skipSpace tail).length_le
      cases other with
      | array =>
        have hplace : ∀ place, Comes (Within n) (skipSpace tail) place →
            (readValue fuel n place = .error (.tooDeep container) ↔ Reaches container n place) := by
          intro place hcomes
          have hlength := (hcomes.suffix hends).length_le
          exact ih (by omega)
        refine Iff.trans ?_ reaches_array_iff.symm
        rw [← exists_congr fun place => and_congr_right (hplace place)]
        exact map_eq_error_iff.trans <| readEnclosed_eq_tooDeep_iff hreads hends
          (readValue_nil fuel n) (readValue_closing fuel n) htail
      | object =>
        have hplace : ∀ place, Comes (Member (Within n)) (skipSpace tail) place →
            (readMember (readValue fuel n) place = .error (.tooDeep container) ↔
              ∃ name valued, MemberName place name valued ∧ Reaches container n valued) := by
          intro place hcomes
          have hlength := (hcomes.suffix (Member.leavesEnd hends)).length_le
          refine (readMember_eq_tooDeep_iff _).trans <| exists_congr fun name =>
            exists_congr fun valued => and_congr_right fun hname => ?_
          have hvalued := (MemberName.leavesEnd _ _ _ hname).length_le
          exact ih (by omega)
        refine Iff.trans ?_ reaches_object_iff.symm
        rw [← exists_congr fun place => and_congr_right (hplace place)]
        exact map_eq_error_iff.trans <| readEnclosed_eq_tooDeep_iff hreads.member
          (Member.leavesEnd hends) rfl (fun _ => rfl) htail
    · rw [readValue_of_scalar hscalar]
      exact iff_of_false (readScalar_ne_tooDeep cs container) (not_reaches_of_scalar hscalar)

/-! ### Values of any depth -/

section

variable {rule inner : Rule α} {deep : List Char → Prop} {closing : Char} {as : List α}

theorem Listed.or_comes (h : ∀ cs a rest, rule cs a rest → inner cs a rest ∨ deep cs)
    (hlisted : Listed rule closing cs as rest) :
    Listed inner closing cs as rest ∨ ∃ place, Comes inner cs place ∧ deep place := by
  induction hlisted with
  | last hfirst hclosing =>
    rcases h _ _ _ hfirst with hinner | hdeep
    · exact .inl (.last hinner hclosing)
    · exact .inr ⟨_, .first _, hdeep⟩
  | next hfirst hcomma _ ih =>
    rcases h _ _ _ hfirst with hinner | hdeep
    · rcases ih with hmore | ⟨place, hcomes, hdeep⟩
      · exact .inl (.next hinner hcomma hmore)
      · exact .inr ⟨place, .next hinner hcomma hcomes, hdeep⟩
    · exact .inr ⟨_, .first _, hdeep⟩

theorem Enclosed.or_comes (h : ∀ cs a rest, rule cs a rest → inner cs a rest ∨ deep cs)
    (henclosed : Enclosed rule closing cs as rest) :
    Enclosed inner closing cs as rest ∨ ∃ place, Comes inner (skipSpace cs) place ∧ deep place := by
  cases henclosed with
  | nothing hclosing => exact .inl (.nothing hclosing)
  | entries hlisted => exact (hlisted.or_comes h).imp_left .entries

end

/-- **A value that is nested deeper than allowed comes to a bracket that is.** -/
theorem within_or_reaches (h : Within m cs v rest) (n : Nat) :
    Within n cs v rest ∨ ∃ container, Reaches container n cs := by
  induction n generalizing m cs v rest with
  | zero =>
    cases m with
    | zero => exact .inl h
    | succ m =>
      cases h with
      | scalar hscalar => exact .inl hscalar
      | array _ => exact .inr ⟨.array, .opening _⟩
      | object _ => exact .inr ⟨.object, .opening _⟩
  | succ n ih =>
    cases m with
    | zero => exact .inl (.scalar h)
    | succ m =>
      cases h with
      | scalar hscalar => exact .inl (.scalar hscalar)
      | array hitems =>
        have hitem : ∀ cs v rest, Within m cs v rest → Within n cs v rest ∨
            ∃ container, Reaches container n cs := fun _ _ _ => ih
        rcases hitems.or_comes hitem with hinner | ⟨place, hcomes, container, hplace⟩
        · exact .inl (.array hinner)
        · exact .inr ⟨container, .item hcomes hplace⟩
      | object hmembers =>
        have hmember : ∀ cs m' rest, Member (Within m) cs m' rest → Member (Within n) cs m' rest ∨
            ∃ name valued, MemberName cs name valued ∧ ∃ container, Reaches container n valued := by
          rintro cs m' rest ⟨valued, hname, hv⟩
          rcases ih hv with hinner | hdeep
          · exact .inl ⟨valued, hname, hinner⟩
          · exact .inr ⟨_, valued, hname, hdeep⟩
        rcases hmembers.or_comes hmember with
          hinner | ⟨place, hcomes, name, valued, hname, container, hvalued⟩
        · exact .inl (.object hinner)
        · exact .inr ⟨container, .member hcomes hname hvalued⟩

/-! ### Texts -/

/-- The text writes the value, with at most `n` containers inside each other. -/
def WritesWithin (n : Nat) (s : String) (v : Json) : Prop :=
  ∃ rest, Within n (skipSpace s.toList) v rest ∧ skipSpace rest = []

/-- The text writes the value. -/
def Writes (s : String) (v : Json) : Prop :=
  ∃ n, WritesWithin n s v

/-- The reader comes to a bracket of the text that opens a container deeper than there is room for.
-/
def NestsTooDeep (room : Nat) (container : Container) (s : String) : Prop :=
  Reaches container room (skipSpace s.toList)

theorem readText_eq_readChars (room : Nat) (s : String) :
    readText room s = readChars room s.toList := by
  rw [readText]
  cases hs : s.toList with
  | nil => rfl
  | cons c cs =>
    split
    · next hmark =>
      obtain rfl : c = Char.ofNat 0xFEFF := Option.some.inj (eq_of_beq hmark)
      have hscalar : ∀ container : Container,
          (Char.ofNat 0xFEFF :: cs).head? ≠ some container.opening := by
        intro container heq
        cases container <;> cases heq
      have hskip : skipSpace (Char.ofNat 0xFEFF :: cs) = Char.ofNat 0xFEFF :: cs := rfl
      rw [readChars, hskip, readValue_of_scalar hscalar]
      rfl
    · rfl

theorem readText_eq_ok_iff : readText room s = .ok v ↔ WritesWithin room s v := by
  have hlength := (suffix_skipSpace s.toList).length_le
  rw [readText_eq_readChars, readChars]
  constructor
  · intro h
    split at h
    · cases h
    · next v' rest hvalue =>
      split at h
      · next hrest =>
        cases h
        exact ⟨rest, (reads_readValue _ _ _ hlength _ _).1 hvalue, List.isEmpty_iff.1 hrest⟩
      · cases h
  · rintro ⟨rest, hvalue, hrest⟩
    rw [(reads_readValue _ _ _ hlength _ _).2 hvalue]
    exact if_pos (List.isEmpty_iff.2 hrest)

theorem readText_eq_tooDeep_iff :
    readText room s = .error (.tooDeep container) ↔ NestsTooDeep room container s := by
  have hlength := (suffix_skipSpace s.toList).length_le
  rw [readText_eq_readChars, NestsTooDeep, ← readValue_eq_tooDeep_iff hlength, readChars]
  constructor
  · intro h
    split at h
    · next hvalue =>
      cases h
      exact hvalue
    · split at h <;> cases h
  · intro h
    rw [h]

/-- **A text that is not nested too deep writes what is read of it.** -/
theorem readText_eq_ok_iff_writes (h : ∀ container, ¬ NestsTooDeep room container s) :
    readText room s = .ok v ↔ Writes s v := by
  rw [readText_eq_ok_iff]
  refine ⟨fun hwrites => ⟨_, hwrites⟩, fun ⟨m, rest, hvalue, hrest⟩ => ?_⟩
  rcases within_or_reaches hvalue room with hwithin | ⟨container, hdeep⟩
  · exact ⟨rest, hwithin, hrest⟩
  · exact absurd hdeep (h container)

/-- A text that writes a value is nested too deep just if the value is. -/
theorem exists_nestsTooDeep_iff (h : Writes s v) :
    (∃ container, NestsTooDeep room container s) ↔ ¬ WritesWithin room s v := by
  constructor
  · rintro ⟨container, hdeep⟩ hwithin
    cases (readText_eq_ok_iff.2 hwithin).symm.trans (readText_eq_tooDeep_iff.2 hdeep)
  · intro hwithin
    refine Classical.byContradiction fun hdeep => hwithin ?_
    exact readText_eq_ok_iff.1 ((readText_eq_ok_iff_writes (not_exists.1 hdeep)).2 h)

theorem lt_of_nestsTooDeep (h : NestsTooDeep room container s) :
    room < s.toList.countP isOpening :=
  Nat.lt_of_lt_of_le (lt_of_reaches h) (suffix_skipSpace s.toList).sublist.countP_le

/-! ### Nothing but brackets -/

/-- An array that holds an array, and so on, around an empty one. -/
def nestedArray : Nat → Json
  | 0 => .arr []
  | n + 1 => .arr [nestedArray n]

/-- The text of so many arrays inside each other. -/
def brackets (n : Nat) : String :=
  String.ofList (List.replicate n '[' ++ List.replicate n ']')

theorem within_brackets (n : Nat) (rest : List Char) :
    Within (n + 1) (List.replicate (n + 1) '[' ++ (List.replicate (n + 1) ']' ++ rest))
      (nestedArray n) rest := by
  induction n generalizing rest with
  | zero => exact .array (.nothing rfl)
  | succ n ih =>
    have hclosing : List.replicate (n + 2) ']' ++ rest =
        List.replicate (n + 1) ']' ++ ']' :: rest := by
      rw [List.replicate_succ', List.append_assoc, List.singleton_append]
    rw [hclosing]
    exact .array (.entries (.last (ih (']' :: rest)) rfl))

theorem writes_brackets (n : Nat) : Writes (brackets (n + 1)) (nestedArray n) := by
  refine ⟨n + 1, [], ?_, rfl⟩
  have hwithin := within_brackets n []
  rw [List.append_nil] at hwithin
  rw [brackets, String.toList_ofList]
  exact hwithin

theorem reaches_brackets (n : Nat) (rest : List Char) :
    Reaches .array n (List.replicate (n + 1) '[' ++ rest) := by
  induction n with
  | zero => exact .opening rest
  | succ n ih => exact .item (.first _) ih

theorem skipSpace_brackets (n : Nat) (rest : List Char) :
    skipSpace (List.replicate (n + 1) '[' ++ rest) = List.replicate (n + 1) '[' ++ rest := rfl

/-- **More brackets than may be nested are too deep.** -/
theorem nestsTooDeep_brackets {n : Nat} (h : room < n) :
    NestsTooDeep room .array (brackets n) := by
  obtain ⟨k, rfl⟩ := Nat.exists_eq_add_of_le h
  rw [NestsTooDeep, brackets, String.toList_ofList, ← List.replicate_append_replicate,
    List.append_assoc, skipSpace_brackets]
  exact reaches_brackets room _

end CqlGateway.Json
