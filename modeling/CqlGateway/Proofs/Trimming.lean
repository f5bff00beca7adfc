import CqlGateway.Cql.Query
import Mathlib.Data.List.DropRight
import Mathlib.Data.List.TakeWhile

/-!
# Trimmed texts

Trimming takes nothing but blanks (`mem_trim_or`), and leaves none to take (`trim_trim`).  A text
without a statement holds nothing but blanks and semicolons (`blank_or_semicolon_of_statement`); the
converse fails, since semicolons that blanks separate are not dropped.
-/

namespace CqlGateway.Text

variable {p : Char → Bool} {cs rest : List Char} {c : Char}

/-! ### What is taken -/

theorem mem_dropWhile_or (h : c ∈ cs) : c ∈ cs.dropWhile p ∨ p c = true := by
  rw [← List.takeWhile_append_dropWhile (p := p) (l := cs), List.mem_append] at h
  exact h.symm.imp_right List.mem_takeWhile_imp

theorem mem_dropEndWhile_or (h : c ∈ cs) : c ∈ dropEndWhile p cs ∨ p c = true := by
  rw [dropEndWhile, List.mem_reverse]
  exact mem_dropWhile_or (List.mem_reverse.2 h)

theorem mem_trim_or (h : c ∈ cs) : c ∈ trim cs ∨ isBlank c = true :=
  (mem_dropWhile_or h).elim mem_dropEndWhile_or .inr

/-! ### What is left -/

/-- What begins a text without blanks in front of it has none in front of it either. -/
theorem trimStart_of_prefix (hrest : rest <+: cs) (h : trimStart cs = cs) :
    trimStart rest = rest := by
  cases rest with
  | nil => rfl
  | cons c rest =>
    obtain ⟨rest', rfl⟩ := hrest
    have hc := List.head?_dropWhile_not isBlank (c :: (rest ++ rest'))
    rw [show (c :: (rest ++ rest')).dropWhile isBlank = c :: (rest ++ rest') from h] at hc
    exact List.dropWhile_cons_of_neg (Bool.eq_false_iff.1 hc)

theorem trimStart_trim (cs : List Char) : trimStart (trim cs) = trim cs :=
  trimStart_of_prefix (List.rdropWhile_prefix isBlank (trimStart cs))
    (List.dropWhile_idempotent isBlank cs)

/-- Trimming leaves no blanks to trim. -/
theorem trim_trim (cs : List Char) : trim (trim cs) = trim cs := by
  rw [trim, trimStart_trim]
  exact List.rdropWhile_idempotent isBlank (trimStart cs)

theorem strip_strip (s : String) : strip (strip s) = strip s := by
  rw [strip, strip, String.toList_ofList, trim_trim]

theorem isBlankText_strip (s : String) : isBlankText (strip s) = isBlankText s := by
  rw [Bool.eq_iff_iff, ← strip_eq_empty_iff, strip_strip, strip_eq_empty_iff]

/-! ### Texts up to a character -/

theorem dropWhile_of_head (h : ∀ c ∈ cs.head?, p c = false) : cs.dropWhile p = cs := by
  cases cs with
  | nil => rfl
  | cons c rest => exact List.dropWhile_cons_of_neg (Bool.eq_false_iff.1 (h c rfl))

theorem dropWhile_append_of_head (hcs : ∀ c ∈ cs, p c = true)
    (hrest : ∀ c ∈ rest.head?, p c = false) : (cs ++ rest).dropWhile p = rest := by
  rw [List.dropWhile_append_of_pos hcs, dropWhile_of_head hrest]

theorem takeWhile_append_of_head (hcs : ∀ c ∈ cs, p c = true)
    (hrest : ∀ c ∈ rest.head?, p c = false) : (cs ++ rest).takeWhile p = cs := by
  rw [List.takeWhile_append_of_pos hcs]
  cases rest with
  | nil => rw [List.takeWhile_nil, List.append_nil]
  | cons c rest =>
    rw [List.takeWhile_cons_of_neg (Bool.eq_false_iff.1 (hrest c rfl)), List.append_nil]

theorem dropEndWhile_append_of_last (hcs : ∀ c ∈ cs.getLast?, p c = false)
    (hrest : ∀ c ∈ rest, p c = true) : dropEndWhile p (cs ++ rest) = cs := by
  rw [dropEndWhile, List.reverse_append, dropWhile_append_of_head, List.reverse_reverse]
  · simpa using hrest
  · rwa [List.head?_reverse]

theorem getLast?_dropEndWhile (p : Char → Bool) (cs : List Char) :
    ∀ c ∈ (dropEndWhile p cs).getLast?, p c = false := by
  intro c hc
  rw [dropEndWhile, List.getLast?_reverse] at hc
  have hhead := List.head?_dropWhile_not p cs.reverse
  rw [hc] at hhead
  simpa using hhead

/-- What is dropped at the end of a text stands behind what is left. -/
theorem exists_dropEndWhile_append (p : Char → Bool) (cs : List Char) :
    ∃ rest, cs = dropEndWhile p cs ++ rest ∧ ∀ c ∈ rest, p c = true :=
  ⟨cs.rtakeWhile p, List.rdropWhile_append_rtakeWhile.symm, fun _ => List.mem_rtakeWhile_imp⟩

/-- Nothing is trimmed of a text that begins and ends with no blank. -/
theorem trim_of_ends (hhead : ∀ c ∈ cs.head?, isBlank c = false)
    (hlast : ∀ c ∈ cs.getLast?, isBlank c = false) : trim cs = cs := by
  have hreverse : ∀ c ∈ cs.reverse.head?, isBlank c = false := by rwa [List.head?_reverse]
  rw [trim, trimStart, dropWhile_of_head hhead, trimEnd, dropEndWhile, dropWhile_of_head hreverse,
    List.reverse_reverse]

/-- A text of which nothing is trimmed begins and ends with no blank. -/
theorem ends_of_trim (h : trim cs = cs) :
    (∀ c ∈ cs.head?, isBlank c = false) ∧ ∀ c ∈ cs.getLast?, isBlank c = false := by
  constructor
  · intro c hc
    have hhead := List.head?_dropWhile_not isBlank cs
    rw [show cs.dropWhile isBlank = cs from h ▸ trimStart_trim cs, hc] at hhead
    simpa using hhead
  · rw [← h]
    exact getLast?_dropEndWhile isBlank _

/-- Trimming takes the blanks around a text that begins and ends with none. -/
theorem trim_append {front body back : List Char} (hfront : ∀ c ∈ front, isBlank c = true)
    (hbody : trim body = body) (hback : ∀ c ∈ back, isBlank c = true) :
    trim (front ++ (body ++ back)) = body := by
  obtain ⟨hhead, hlast⟩ := ends_of_trim hbody
  cases body with
  | nil =>
    refine trim_eq_nil_iff.2 fun c hc => ?_
    rcases List.mem_append.1 hc with hc | hc
    · exact hfront c hc
    · exact hback c hc
  | cons c rest =>
    have hhead' : ∀ d ∈ (c :: rest ++ back).head?, isBlank d = false := hhead
    rw [trim, trimStart, dropWhile_append_of_head hfront hhead']
    exact dropEndWhile_append_of_last hlast hback

end CqlGateway.Text

namespace CqlGateway

/-! ### Statements -/

theorem statement_of_blank {s : String} (h : Text.isBlankText s = true) :
    Query.statement s.toList = [] := by
  have htrim : Text.trim s.toList = [] := Text.trim_eq_nil_iff.2 (List.all_eq_true.1 h)
  rw [Query.statement, htrim]
  rfl

/-- A text without a statement holds nothing but blanks and semicolons. -/
theorem blank_or_semicolon_of_statement {cs : List Char} (h : Query.statement cs = []) {c : Char}
    (hc : c ∈ cs) : Text.isBlank c = true ∨ c = ';' := by
  rw [Query.statement, Text.trim_eq_nil_iff] at h
  rcases Text.mem_trim_or hc with hc | hblank
  · rcases Text.mem_dropEndWhile_or (p := (· == ';')) hc with hc | hsemicolon
    · exact .inl (h c hc)
    · exact .inr (eq_of_beq hsemicolon)
  · exact .inl hblank

theorem ofText_of_nil {s : String} (h : Query.statement s.toList = []) :
    Query.ofText s = .error .emptyQuery := by
  rw [Query.ofText, h]

theorem exists_ofText {s : String} (h : Query.statement s.toList ≠ []) :
    ∃ query, Query.ofText s = .ok query := by
  unfold Query.ofText
  split
  · contradiction
  · exact ⟨_, rfl⟩

end CqlGateway
