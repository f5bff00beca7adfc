import CqlGateway.Cql.Naming
import CqlGateway.Proofs.Trimming

/-!
# Names as they are written

What is taken for a name is a word of name characters, or whatever stands between two double quotes
(`Spells`).  A word is taken as a whole in front of a text that does not lengthen it
(`takeName?_of_spells`), and nothing else is ever taken (`spells_of_takeName?`).  What a written
name names is the inside of the quotes, without the blanks around it (`unquoteName?_of_spells`).

`WrittenName` is a name in the form in which it is usually written, with letters, digits and
underscores of ASCII or between quotes without blanks beside them, so that it is read back exactly.
The same holds of a name behind its keyspace and a dot (`takeQualifiedName?_chars`).
-/

namespace CqlGateway

namespace Text

variable {c : Char}

/-- The code points of the blanks. -/
def blankCodes : List Nat :=
  List.range' 0x09 5 ++ List.range' 0x1C 5 ++ [0x85, 0xA0, 0x1680] ++ List.range' 0x2000 11 ++
    [0x2028, 0x2029, 0x202F, 0x205F, 0x3000]

theorem mem_blankCodes (h : isBlank c = true) : c.toNat ∈ blankCodes := by
  simp only [isBlank, Bool.or_eq_true, Bool.and_eq_true, decide_eq_true_eq, beq_iff_eq] at h
  simp only [blankCodes, List.mem_append, List.mem_range'_1, List.mem_cons, List.not_mem_nil]
  omega

end Text

/-! ### Characters of names -/

theorem not_isNameChar_of_isBlank {c : Char} (h : Text.isBlank c = true) :
    isNameChar c = false := by
  have hcodes : ∀ n ∈ Text.blankCodes, isNameChar (Char.ofNat n) = false := by decide +kernel
  have hc := hcodes c.toNat (Text.mem_blankCodes h)
  rwa [Char.ofNat_toNat] at hc

theorem ne_quote_of_isNameChar {c : Char} (h : isNameChar c = true) : c ≠ '"' := by
  rintro rfl
  exact absurd h (by decide)

theorem not_isBlank_of_isNameChar {c : Char} (h : isNameChar c = true) :
    Text.isBlank c = false := by
  by_contra hblank
  rw [not_isNameChar_of_isBlank (Bool.not_eq_false _ ▸ hblank)] at h
  cases h

/-- A character of a bare name as it is usually written: an ASCII letter, a digit or an underscore.
-/
def isBareChar (c : Char) : Bool :=
  c.isAlphanum || c == '_'

section BareChar

variable {c : Char} (h : isBareChar c = true)

include h

theorem toNat_lt_of_isBareChar : c.toNat < 0x80 := by
  have hranges : (decide (c.val ≥ 'A'.val ∧ c.val ≤ 'Z'.val) ||
    (decide (c.val ≥ 'a'.val) && decide (c.val ≤ 'z'.val)) ||
    (decide (c.val ≥ '0'.val) && decide (c.val ≤ '9'.val)) || c == '_') = true := h
  simp only [Bool.or_eq_true, Bool.and_eq_true, decide_eq_true_eq, beq_iff_eq, ge_iff_le,
    UInt32.le_iff_toNat_le] at hranges
  change (((65 ≤ c.toNat ∧ c.toNat ≤ 90) ∨ (97 ≤ c.toNat ∧ c.toNat ≤ 122)) ∨
    (48 ≤ c.toNat ∧ c.toNat ≤ 57)) ∨ c = '_' at hranges
  rcases hranges with hrange | rfl
  · omega
  · decide

theorem isNameChar_of_isBareChar : isNameChar c = true := by
  have hascii := toNat_lt_of_isBareChar h
  revert h
  exact Text.of_ascii (P := fun c => isBareChar c = true → isNameChar c = true) (by decide) hascii

theorem not_isBlank_of_isBareChar : Text.isBlank c = false :=
  not_isBlank_of_isNameChar (isNameChar_of_isBareChar h)

end BareChar

/-! ### Spellings -/

/-- A text is taken for a name, and `inner` is what stands in it, without the quotes. -/
inductive Spells : (written inner : List Char) → Prop
  | bare {name : List Char} (nonempty : name ≠ []) (plain : ∀ c ∈ name, isNameChar c = true) :
    Spells name name
  | quoted {name : List Char} (nonempty : name ≠ []) (unquoted : '"' ∉ name) :
    Spells ('"' :: (name ++ ['"'])) name

section Spells

variable {cs written inner rest : List Char}

theorem Spells.exists_cons (h : Spells written inner) :
    ∃ c cs, written = c :: cs ∧ Text.isBlank c = false := by
  cases h with
  | bare nonempty plain =>
    obtain ⟨c, cs, rfl⟩ := List.exists_cons_of_ne_nil nonempty
    exact ⟨c, cs, rfl, not_isBlank_of_isNameChar (plain c List.mem_cons_self)⟩
  | quoted nonempty unquoted => exact ⟨'"', _, rfl, rfl⟩

/-- A spelling begins with no blank. -/
theorem Spells.not_isBlank_of_mem_head? (h : Spells written inner) (rest : List Char) :
    ∀ c ∈ (written ++ rest).head?, Text.isBlank c = false := by
  obtain ⟨c, cs, rfl, hc⟩ := h.exists_cons
  rintro _ ⟨⟩
  exact hc

theorem Spells.trim_written (h : Spells written inner) : Text.trim written = written := by
  have hhead := h.not_isBlank_of_mem_head? []
  rw [List.append_nil] at hhead
  refine Text.trim_of_ends hhead fun c hc => ?_
  cases h with
  | bare nonempty plain => exact not_isBlank_of_isNameChar (plain c (List.mem_of_mem_getLast? hc))
  | quoted nonempty unquoted =>
    rw [← List.cons_append, List.getLast?_concat] at hc
    obtain rfl := Option.mem_some_iff.1 hc
    rfl

/-- A bare name is taken as far as it goes. -/
theorem takeName?_of_head {c : Char} (hc : isNameChar c = true) :
    takeName? (c :: cs) =
      some ((c :: cs).takeWhile isNameChar, (c :: cs).dropWhile isNameChar) := by
  rw [takeName?, List.takeWhile_cons_of_pos hc]
  -- a bare name is no quoted one
  intro rest hquote
  exact ne_quote_of_isNameChar hc (List.cons.inj hquote).1

/-- A quoted name is taken up to its second quote. -/
theorem takeName?_of_quoted (nonempty : cs ≠ []) (unquoted : '"' ∉ cs) :
    takeName? ('"' :: (cs ++ '"' :: rest)) = some ('"' :: (cs ++ ['"']), rest) := by
  have hquote : ∀ c ∈ ('"' :: rest).head?, (c != '"') = false := by
    rintro c ⟨⟩
    rfl
  have hinner : ∀ c ∈ cs, (c != '"') = true := fun c hc =>
    bne_iff_ne.2 (ne_of_mem_of_not_mem hc unquoted)
  have htake := Text.takeWhile_append_of_head hinner hquote
  have hdrop := Text.dropWhile_append_of_head hinner hquote
  obtain ⟨first, more, rfl⟩ := List.exists_cons_of_ne_nil nonempty
  rw [takeName?, htake, hdrop]

/-- **A spelling is taken as a whole**, unless a bare one goes on. -/
theorem takeName?_of_spells (h : Spells written inner)
    (hrest : written.head? ≠ some '"' → ∀ c ∈ rest.head?, isNameChar c = false) :
    takeName? (written ++ rest) = some (written, rest) := by
  cases h with
  | bare nonempty plain =>
    obtain ⟨first, more, rfl⟩ := List.exists_cons_of_ne_nil nonempty
    have hfirst := plain first List.mem_cons_self
    have hstop := hrest fun hquote => ne_quote_of_isNameChar hfirst (Option.some.inj hquote)
    rw [List.cons_append, takeName?_of_head hfirst, ← List.cons_append,
      Text.takeWhile_append_of_head plain hstop, Text.dropWhile_append_of_head plain hstop]
  | quoted nonempty unquoted =>
    rw [List.cons_append, List.append_assoc, List.singleton_append]
    exact takeName?_of_quoted nonempty unquoted

/-- Wherever a spelling stands, some name is taken. -/
theorem exists_takeName?_of_spells (h : Spells written inner) (rest : List Char) :
    ∃ taken, takeName? (written ++ rest) = some taken := by
  cases h with
  | bare nonempty plain =>
    obtain ⟨first, more, rfl⟩ := List.exists_cons_of_ne_nil nonempty
    exact ⟨_, takeName?_of_head (plain first List.mem_cons_self)⟩
  | quoted nonempty unquoted =>
    rw [List.cons_append, List.append_assoc, List.singleton_append]
    exact ⟨_, takeName?_of_quoted nonempty unquoted⟩

/-- **Only spellings are taken.** -/
theorem spells_of_takeName? (h : takeName? cs = some (written, rest)) :
    cs = written ++ rest ∧ ∃ inner, Spells written inner := by
  unfold takeName? at h
  split at h
  · next more =>
    split at h
    · next first name quote after htake hdrop =>
      cases h
      -- the text goes on with the quote at which the name ends
      have hsplit := List.takeWhile_append_dropWhile (p := (· != '"')) (l := more)
      have hquote := List.head?_dropWhile_not (· != '"') more
      rw [hdrop, List.head?_cons] at hquote
      have hend : quote = '"' := by simpa using hquote
      have hinside : '"' ∉ more.takeWhile (· != '"') := fun hmem =>
        absurd (List.mem_takeWhile_imp hmem) (by decide)
      refine ⟨?_, _, .quoted (htake ▸ List.cons_ne_nil first name) hinside⟩
      rw [hdrop, hend] at hsplit
      rw [List.cons_append, List.append_assoc, List.singleton_append, hsplit]
    · cases h
  · split at h
    · cases h
    · next hne =>
      cases h
      exact ⟨List.takeWhile_append_dropWhile.symm, _,
        .bare hne fun c hc => List.mem_takeWhile_imp hc⟩

/-- **A spelling names what stands in it**, without the blanks around it. -/
theorem unquoteName?_of_spells (h : Spells written inner) :
    unquoteName? written = if Text.trim inner = [] then none else some (Text.trim inner) := by
  unfold unquoteName?
  rw [h.trim_written]
  extract_lets cs unquoted
  have hinner : unquoted = inner := by
    cases h with
    | bare nonempty plain =>
      obtain ⟨first, more, rfl⟩ := List.exists_cons_of_ne_nil nonempty
      have hfirst := ne_quote_of_isNameChar (plain first List.mem_cons_self)
      dsimp only [unquoted, cs]
      split
      · next hquote => exact absurd (List.cons.inj hquote).1 hfirst
      · rfl
    | quoted nonempty hunquoted =>
      simp only [unquoted, cs, List.getLast?_concat, List.dropLast_concat, beq_self_eq_true,
        if_true]
  rw [hinner]
  cases Text.trim inner <;> rfl

end Spells

/-- A text that is not empty and has no blanks around it is a name of any class. -/
theorem text_ofText?_of_trim {name : List Char} (c : NameClass) (htrim : Text.trim name = name)
    (hne : name ≠ []) :
    (Identifier.ofText? c (String.ofList name)).map Identifier.text =
      some (String.ofList name) := by
  have hblank : Text.isBlankText (String.ofList name) = false := by
    by_contra hblank
    rw [Bool.not_eq_false, Text.isBlankText, String.toList_ofList, List.all_eq_true,
      ← Text.trim_eq_nil_iff, htrim] at hblank
    exact hne hblank
  rw [Identifier.ofText?, dif_pos hblank, Option.map_some]

/-! ### Written names -/

/-- A name in one of the two forms in which it may be written. -/
inductive WrittenName where
  | bare (name : List Char) (nonempty : name ≠ []) (plain : ∀ c ∈ name, isBareChar c = true)
  | quoted (name : List Char) (nonempty : name ≠ []) (unquoted : '"' ∉ name)
    (trimmed : Text.trim name = name)

namespace WrittenName

/-- What is named. -/
def name : WrittenName → List Char
  | .bare name _ _ | .quoted name _ _ _ => name

/-- The characters that are written. -/
def chars : WrittenName → List Char
  | .bare name _ _ => name
  | .quoted name _ _ _ => '"' :: (name ++ ['"'])

/-- The name is written without quotes. -/
def isBare : WrittenName → Bool
  | .bare _ _ _ => true
  | .quoted _ _ _ _ => false

variable (n : WrittenName)

theorem chars_ne_nil : n.chars ≠ [] := by
  cases n with
  | bare name nonempty plain => exact nonempty
  | quoted name nonempty unquoted trimmed => exact List.cons_ne_nil _ _

theorem spells : Spells n.chars n.name := by
  cases n with
  | bare name nonempty plain =>
    exact .bare nonempty fun c hc => isNameChar_of_isBareChar (plain c hc)
  | quoted name nonempty unquoted trimmed => exact .quoted nonempty unquoted

/-- A written name begins with no blank. -/
theorem not_isBlank_of_mem_head? (rest : List Char) :
    ∀ c ∈ (n.chars ++ rest).head?, Text.isBlank c = false :=
  n.spells.not_isBlank_of_mem_head? rest

/-- A written name ends with a character of a bare name or with a quote. -/
theorem isBareChar_of_mem_getLast? : ∀ c ∈ n.chars.getLast?, isBareChar c = true ∨ c = '"' := by
  intro c hc
  cases n with
  | bare name nonempty plain => exact .inl (plain c (List.mem_of_mem_getLast? hc))
  | quoted name nonempty unquoted trimmed =>
    rw [chars, ← List.cons_append, List.getLast?_concat] at hc
    exact .inr (Option.mem_some_iff.1 hc).symm

theorem not_isBlank_of_mem_getLast? : ∀ c ∈ n.chars.getLast?, Text.isBlank c = false := by
  intro c hc
  rcases n.isBareChar_of_mem_getLast? c hc with hbare | rfl
  · exact not_isBlank_of_isBareChar hbare
  · rfl

/-- **A written name is taken as a whole**, unless a bare one goes on. -/
theorem takeName?_chars {rest : List Char}
    (h : n.isBare = true → ∀ c ∈ rest.head?, isNameChar c = false) :
    takeName? (n.chars ++ rest) = some (n.chars, rest) := by
  refine takeName?_of_spells n.spells fun hquote => h ?_
  cases n with
  | bare name nonempty plain => rfl
  | quoted name nonempty unquoted trimmed => exact absurd rfl hquote

theorem trim_name : Text.trim n.name = n.name := by
  cases n with
  | bare name nonempty plain =>
    have hblank : ∀ c ∈ name, Text.isBlank c = false := fun c hc =>
      not_isBlank_of_isBareChar (plain c hc)
    exact Text.trim_of_ends (fun c hc => hblank c (List.mem_of_mem_head? hc))
      fun c hc => hblank c (List.mem_of_mem_getLast? hc)
  | quoted name nonempty unquoted trimmed => exact trimmed

theorem name_ne_nil : n.name ≠ [] := by
  cases n with
  | bare name nonempty plain => exact nonempty
  | quoted name nonempty unquoted trimmed => exact nonempty

/-- **A written name names what stands in it**, without the quotes. -/
theorem unquoteName?_chars : unquoteName? n.chars = some n.name := by
  rw [unquoteName?_of_spells n.spells, n.trim_name, if_neg n.name_ne_nil]

/-- A written name is a name of any class. -/
theorem text_ofText?_name (c : NameClass) :
    (Identifier.ofText? c (String.ofList n.name)).map Identifier.text =
      some (String.ofList n.name) :=
  text_ofText?_of_trim c n.trim_name n.name_ne_nil

end WrittenName

/-! ### Written tables -/

/-- A keyspace in front of the name of a table, with the dot and the blanks around it. -/
structure Qualifier where
  keyspace : WrittenName
  left : List Char := []
  right : List Char := []
  left_blank : ∀ c ∈ left, Text.isBlank c = true
  right_blank : ∀ c ∈ right, Text.isBlank c = true

namespace Qualifier

variable (k : Qualifier) (rest : List Char)

/-- The dot ends the name of the keyspace. -/
theorem not_isNameChar_of_mem_head? :
    ∀ c ∈ (k.left ++ '.' :: rest).head?, isNameChar c = false := by
  intro c hc
  cases hleft : k.left with
  | nil =>
    rw [hleft] at hc
    cases hc
    decide
  | cons blank more =>
    rw [hleft] at hc
    cases hc
    exact not_isNameChar_of_isBlank (k.left_blank c (hleft ▸ List.mem_cons_self))

theorem trimStart_left : Text.trimStart (k.left ++ '.' :: rest) = '.' :: rest := by
  refine Text.dropWhile_append_of_head k.left_blank ?_
  rintro c ⟨⟩
  rfl

end Qualifier

/-- The name of a table as it is written, with or without its keyspace. -/
structure WrittenTable where
  qualifier? : Option Qualifier
  table : WrittenName

namespace WrittenTable

/-- The characters that are written. -/
def chars (t : WrittenTable) : List Char :=
  match t.qualifier? with
  | none => t.table.chars
  | some k => k.keyspace.chars ++ (k.left ++ '.' :: (k.right ++ t.table.chars))

theorem not_isBlank_of_mem_head? (t : WrittenTable) (rest : List Char) :
    ∀ c ∈ (t.chars ++ rest).head?, Text.isBlank c = false := by
  obtain ⟨qualifier?, table⟩ := t
  cases qualifier? with
  | none => exact table.not_isBlank_of_mem_head? rest
  | some k =>
    rw [chars, List.append_assoc]
    exact k.keyspace.not_isBlank_of_mem_head? _

/-- The names as they are written. -/
def names (t : WrittenTable) : QualifiedName :=
  ⟨t.qualifier?.map fun k => k.keyspace.chars, t.table.chars⟩

/-- The name of the table is not longer than it is meant to be: what follows does not go on with a
bare name, and does not make a keyspace of it. -/
structure EndsBefore (t : WrittenTable) (after : List Char) : Prop where
  complete : t.table.isBare = true → ∀ c ∈ after.head?, isNameChar c = false
  undotted : t.qualifier? = none → (Text.trimStart after).head? ≠ some '.'

/-- **A written table is taken with its keyspace**, if it has one. -/
theorem takeQualifiedName?_chars {t : WrittenTable} {after : List Char} (h : t.EndsBefore after) :
    takeQualifiedName? (t.chars ++ after) = some t.names := by
  obtain ⟨qualifier?, table⟩ := t
  cases qualifier? with
  | none =>
    rw [chars, takeQualifiedName?, table.takeName?_chars h.complete]
    dsimp only
    split
    · next more hdot =>
      refine absurd ?_ (h.undotted rfl)
      rw [hdot, List.head?_cons]
    · rfl
  | some k =>
    have htable : Text.trimStart (k.right ++ (table.chars ++ after)) = table.chars ++ after :=
      Text.dropWhile_append_of_head k.right_blank (table.not_isBlank_of_mem_head? after)
    have hkeyspace := k.keyspace.takeName?_chars fun _ =>
      k.not_isNameChar_of_mem_head? (k.right ++ (table.chars ++ after))
    simp only [chars, List.append_assoc, List.cons_append, takeQualifiedName?, hkeyspace,
      k.trimStart_left, htable, table.takeName?_chars h.complete]
    rfl

end WrittenTable

end CqlGateway
