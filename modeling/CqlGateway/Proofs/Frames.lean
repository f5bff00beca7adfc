import CqlGateway.Proofs.Trimming

/-!
# Statements in their texts

A statement is read from a text in three steps: the blanks at both ends are dropped, then the
semicolons at the end, and then the blanks that stood in front of these.  So a text is a statement
with a `Frame` around it, blanks in front of it and one run of semicolons with blanks on both sides
behind it, and the frame and the text tell what the statement is (`statement_around`).

The steps are not repeated.  A text should be read up to its last character that is neither blank
nor a semicolon (`Query.normalForm`), and it is iff what stands behind that character fits into one
frame.  If blanks separate two semicolons there, the statement keeps a semicolon at its end, and
reading it again gives another one (`normal_form_of_statements`).
-/

namespace CqlGateway

/-! ### Frames -/

/-- What may stand around a statement: blanks in front of it, and behind it semicolons between
blanks. -/
structure Frame where
  front : List Char := []
  left : List Char := []
  semicolons : List Char := []
  right : List Char := []
  front_blank : ∀ c ∈ front, Text.isBlank c = true
  left_blank : ∀ c ∈ left, Text.isBlank c = true
  eq_semicolon : ∀ c ∈ semicolons, c = ';'
  right_blank : ∀ c ∈ right, Text.isBlank c = true

namespace Frame

/-- The text with a statement in the frame. -/
def around (f : Frame) (core : List Char) : List Char :=
  f.front ++ (core ++ (f.left ++ (f.semicolons ++ f.right)))

/-- The statement keeps nothing that belongs to the frame: it has no blanks at its ends, and it ends
with a semicolon only if blanks separate that from the semicolons of the frame. -/
structure Fits (f : Frame) (core : List Char) : Prop where
  trimmed : Text.trim core = core
  separated : core.getLast? = some ';' → f.left ≠ [] ∧ f.semicolons ≠ []

variable {f : Frame} {core : List Char}

/-- The semicolons of a frame are not those of a statement that fits. -/
theorem Fits.last_ne_semicolon (h : f.Fits core) :
    ∀ c ∈ (core ++ f.left).getLast?, (c == ';') = false := by
  intro c hc
  rw [beq_eq_false_iff_ne]
  rintro rfl
  cases hleft : f.left.getLast? with
  | none =>
    have hnil : f.left = [] := List.getLast?_eq_none_iff.1 hleft
    rw [hnil, List.append_nil] at hc
    exact (h.separated hc).1 hnil
  | some blank =>
    rw [List.getLast?_append, hleft, Option.some_or] at hc
    obtain rfl := Option.mem_some_iff.1 hc
    exact absurd (f.left_blank _ (List.mem_of_getLast? hleft)) (by decide)

theorem trim_semicolons (f : Frame) : Text.trim f.semicolons = f.semicolons := by
  refine Text.trim_of_ends (fun c hc => ?_) fun c hc => ?_
  · obtain rfl := f.eq_semicolon c (List.mem_of_mem_head? hc)
    rfl
  · obtain rfl := f.eq_semicolon c (List.mem_of_mem_getLast? hc)
    rfl

/-- Of a frame without a statement only the semicolons are left to drop. -/
theorem trim_around_nil (f : Frame) : Text.trim (f.around []) = f.semicolons := by
  have hfront : ∀ c ∈ f.front ++ f.left, Text.isBlank c = true := by
    intro c hc
    rcases List.mem_append.1 hc with hc | hc
    · exact f.front_blank c hc
    · exact f.left_blank c hc
  rw [around, List.nil_append, ← List.append_assoc]
  exact Text.trim_append hfront f.trim_semicolons f.right_blank

theorem Fits.trim_body (h : f.Fits core) (hcore : core ≠ []) (hsemicolons : f.semicolons ≠ []) :
    Text.trim (core ++ (f.left ++ f.semicolons)) = core ++ (f.left ++ f.semicolons) := by
  obtain ⟨hhead, -⟩ := Text.ends_of_trim h.trimmed
  obtain ⟨first, rest, rfl⟩ := List.exists_cons_of_ne_nil hcore
  refine Text.trim_of_ends hhead fun c hc => ?_
  rw [← List.append_assoc, List.getLast?_append_of_ne_nil _ hsemicolons] at hc
  obtain rfl := f.eq_semicolon c (List.mem_of_mem_getLast? hc)
  rfl

/-- **The statement in a frame that it fits into is read.** -/
theorem statement_around (h : f.Fits core) : Query.statement (f.around core) = core := by
  by_cases hsemicolons : f.semicolons = []
  · -- behind the statement stand nothing but blanks
    have hback : ∀ c ∈ f.left ++ ([] ++ f.right), Text.isBlank c = true := by
      intro c hc
      rcases List.mem_append.1 hc with hc | hc
      · exact f.left_blank c hc
      · exact f.right_blank c hc
    have hlast : ∀ c ∈ core.getLast?, (c == ';') = false := by
      intro c hc
      rw [beq_eq_false_iff_ne]
      rintro rfl
      exact (h.separated hc).2 hsemicolons
    have hdrop : Text.dropEndWhile (· == ';') (core ++ []) = core :=
      Text.dropEndWhile_append_of_last hlast nofun
    rw [List.append_nil] at hdrop
    rw [Query.statement, around, hsemicolons, Text.trim_append f.front_blank h.trimmed hback, hdrop,
      h.trimmed]
  · have heq : ∀ c ∈ f.semicolons, (c == ';') = true := fun c hc =>
      beq_iff_eq.2 (f.eq_semicolon c hc)
    by_cases hcore : core = []
    · subst hcore
      have hdrop : Text.dropEndWhile (· == ';') f.semicolons = [] :=
        Text.dropEndWhile_eq_nil_iff.2 heq
      rw [Query.statement, f.trim_around_nil, hdrop]
      rfl
    · -- the semicolons are dropped first, and then the blanks in front of them
      have hbody : Text.trim (f.around core) = core ++ (f.left ++ f.semicolons) := by
        have htrim := Text.trim_append f.front_blank (h.trim_body hcore hsemicolons) f.right_blank
        simpa only [around, List.append_assoc] using htrim
      have hleft : Text.trim ([] ++ (core ++ f.left)) = core :=
        Text.trim_append nofun h.trimmed f.left_blank
      rw [Query.statement, hbody, ← List.append_assoc,
        Text.dropEndWhile_append_of_last h.last_ne_semicolon heq]
      exact hleft

end Frame

namespace Query

/-! ### Statements -/

/-- The query with a statement, which announces its kind. -/
def ofStatement : List Char → Except Failure Query
  | [] => .error .emptyQuery
  | cs => .ok ⟨String.ofList cs, .ofWord (String.ofList (Text.lowerChars (Text.firstWord cs)))⟩

/-- A character that may stand behind a statement. -/
def isTerminator (c : Char) : Bool :=
  Text.isBlank c || c == ';'

/-- The statement that a text should be read as: no blanks in front of it, and neither blanks nor
semicolons behind it. -/
def normalForm (cs : List Char) : List Char :=
  Text.trimStart (Text.dropEndWhile isTerminator cs)

variable {cs : List Char}

theorem ofText_eq (s : String) : ofText s = ofStatement (statement s.toList) := by
  unfold ofText
  cases statement s.toList <;> rfl

theorem ofStatement_of_ne_nil (h : cs ≠ []) :
    ofStatement cs =
      .ok ⟨String.ofList cs, .ofWord (String.ofList (Text.lowerChars (Text.firstWord cs)))⟩ := by
  obtain ⟨c, rest, rfl⟩ := List.exists_cons_of_ne_nil h
  rfl

theorem ofStatement_inj {cs cs' : List Char} (h : ofStatement cs = ofStatement cs') : cs = cs' := by
  cases cs with
  | nil =>
    cases cs' with
    | nil => rfl
    | cons c' cs' => cases h
  | cons c cs =>
    cases cs' with
    | nil => cases h
    | cons c' cs' => exact String.ofList_injective (congrArg cql (Except.ok.inj h))

/-- **Every text is its statement in a frame** that the statement fits into. -/
theorem exists_frame (cs : List Char) :
    ∃ f : Frame, f.Fits (statement cs) ∧ cs = f.around (statement cs) := by
  obtain ⟨right, hright, hrightBlank⟩ :=
    Text.exists_dropEndWhile_append Text.isBlank (Text.trimStart cs)
  obtain ⟨semicolons, hsemicolons, heq⟩ :=
    Text.exists_dropEndWhile_append (· == ';') (Text.trim cs)
  have hstart : Text.trimStart (Text.dropEndWhile (· == ';') (Text.trim cs)) =
      Text.dropEndWhile (· == ';') (Text.trim cs) :=
    Text.trimStart_of_prefix ⟨semicolons, hsemicolons.symm⟩ (Text.trimStart_trim cs)
  obtain ⟨left, hleft, hleftBlank⟩ :=
    Text.exists_dropEndWhile_append Text.isBlank (Text.dropEndWhile (· == ';') (Text.trim cs))
  have hcore : Text.dropEndWhile (· == ';') (Text.trim cs) = statement cs ++ left := by
    have htrim : statement cs =
        Text.trimEnd (Text.dropEndWhile (· == ';') (Text.trim cs)) := congrArg Text.trimEnd hstart
    rw [htrim]
    exact hleft
  have hlast := Text.getLast?_dropEndWhile (· == ';') (Text.trim cs)
  refine ⟨⟨cs.takeWhile Text.isBlank, left, semicolons, right, fun _ => List.mem_takeWhile_imp,
    hleftBlank, fun c hc => eq_of_beq (heq c hc), hrightBlank⟩, ⟨Text.trim_trim _, ?_⟩, ?_⟩
  · intro hsemicolon
    -- the semicolon at the end would have been dropped
    have hne : left ≠ [] := by
      rintro rfl
      rw [hcore, List.append_nil] at hlast
      exact absurd (hlast ';' hsemicolon) (by decide)
    refine ⟨hne, ?_⟩
    rintro rfl
    rw [List.append_nil] at hsemicolons
    have htrim : statement cs = Text.trim cs := by
      rw [statement, ← hsemicolons, Text.trim_trim]
    rw [← hsemicolons, ← htrim] at hlast
    exact absurd (hlast ';' hsemicolon) (by decide)
  · calc cs = cs.takeWhile Text.isBlank ++ Text.trimStart cs :=
        List.takeWhile_append_dropWhile.symm
      _ = cs.takeWhile Text.isBlank ++ (Text.trim cs ++ right) := congrArg _ hright
      _ = cs.takeWhile Text.isBlank ++ ((statement cs ++ left) ++ semicolons ++ right) := by
        rw [← hcore, ← hsemicolons]
      _ = _ := by simp only [Frame.around, List.append_assoc]

theorem trim_statement (cs : List Char) : Text.trim (statement cs) = statement cs :=
  Text.trim_trim _

/-! ### Normal forms -/

theorem normalForm_eq_nil_iff : normalForm cs = [] ↔ cs.all isTerminator = true := by
  rw [List.all_eq_true, normalForm, Text.trimStart, Text.dropWhile_eq_nil_iff]
  constructor
  · intro h c hc
    rcases Text.mem_dropEndWhile_or (p := isTerminator) hc with hc | hterminator
    · exact Bool.or_eq_true_iff.2 (.inl (h c hc))
    · exact hterminator
  · intro h
    rw [Text.dropEndWhile_eq_nil_iff.2 h]
    exact fun c hc => absurd hc List.not_mem_nil

/-- A normal form ends with neither a blank nor a semicolon. -/
theorem getLast?_normalForm (cs : List Char) :
    ∀ c ∈ (normalForm cs).getLast?, isTerminator c = false := by
  intro c hc
  obtain ⟨front, hfront⟩ : normalForm cs <:+ Text.dropEndWhile isTerminator cs :=
    List.dropWhile_suffix Text.isBlank
  refine Text.getLast?_dropEndWhile isTerminator cs c ?_
  rw [← hfront, List.getLast?_append, Option.mem_def.1 hc]
  rfl

theorem trim_normalForm (cs : List Char) : Text.trim (normalForm cs) = normalForm cs := by
  refine Text.trim_of_ends (fun c hc => ?_) fun c hc => ?_
  · have hhead := List.head?_dropWhile_not Text.isBlank (Text.dropEndWhile isTerminator cs)
    rw [show (Text.dropEndWhile isTerminator cs).dropWhile Text.isBlank = normalForm cs from rfl,
      hc] at hhead
    simpa using hhead
  · exact (Bool.or_eq_false_iff.1 (getLast?_normalForm cs c hc)).1

theorem fits_normalForm (f : Frame) (cs : List Char) : f.Fits (normalForm cs) where
  trimmed := trim_normalForm cs
  separated hlast := absurd (getLast?_normalForm cs _ hlast) (by decide)

/-- A statement is read again as it is unless it ends with a semicolon. -/
theorem statement_statement_iff :
    statement (statement cs) = statement cs ↔ (statement cs).getLast? ≠ some ';' := by
  constructor
  · intro h hlast
    obtain ⟨f, hfits, haround⟩ := exists_frame (statement cs)
    rw [h] at hfits haround
    -- a frame around a text that leaves the text as it is has no room for a semicolon
    have hlength := congrArg List.length haround
    simp only [Frame.around, List.length_append] at hlength
    have hleft : f.left = [] := List.eq_nil_of_length_eq_zero (by omega)
    exact (hfits.separated hlast).1 hleft
  · intro hlast
    have hfits : Frame.Fits ⟨[], [], [], [], nofun, nofun, nofun, nofun⟩ (statement cs) :=
      ⟨trim_statement cs, fun h => absurd h hlast⟩
    have hread := Frame.statement_around hfits
    simpa [Frame.around] using hread

theorem ofText_again (s : String) :
    ((ofText s).bind fun q => ofText q.cql) = ofStatement (statement (statement s.toList)) := by
  rw [ofText_eq]
  cases hstatement : statement s.toList with
  | nil => rfl
  | cons c cs =>
    simp only [ofStatement, Except.bind, ofText_eq, String.toList_ofList]

/-- **When statements are read in normal form.**  What is read from a text is the one statement that
fits into a frame around which the text is.  It is the normal form iff the text is a frame around
that: iff what follows the last character that is neither blank nor a semicolon is one run of
semicolons between blanks.  It is the same when it is read again iff it does not end with a
semicolon. -/
theorem normal_form_of_statements (s : String) :
    (∀ core, ofText s = ofStatement core ↔ ∃ f : Frame, f.Fits core ∧ s.toList = f.around core) ∧
    (normalForm s.toList = [] ↔ s.toList.all isTerminator = true) ∧
    (ofText s = ofStatement (normalForm s.toList) ↔
      ∃ f : Frame, s.toList = f.around (normalForm s.toList)) ∧
    (((ofText s).bind fun q => ofText q.cql) = ofText s ↔
      (statement s.toList).getLast? ≠ some ';') := by
  have hframed : ∀ core, ofText s = ofStatement core ↔
      ∃ f : Frame, f.Fits core ∧ s.toList = f.around core := by
    intro core
    rw [ofText_eq]
    constructor
    · intro h
      rw [← ofStatement_inj h]
      exact exists_frame s.toList
    · rintro ⟨f, hfits, haround⟩
      rw [haround, Frame.statement_around hfits]
  refine ⟨hframed, normalForm_eq_nil_iff, ?_, ?_⟩
  · rw [hframed]
    constructor
    · rintro ⟨f, -, haround⟩
      exact ⟨f, haround⟩
    · rintro ⟨f, haround⟩
      exact ⟨f, fits_normalForm f _, haround⟩
  · rw [ofText_again, ofText_eq, ← statement_statement_iff]
    exact ⟨ofStatement_inj, congrArg ofStatement⟩

/-- Semicolons that a blank separates: one stays behind the statement, where the normal form has
none, and is dropped when the statement is read again; without a statement it is itself taken for
one. -/
theorem separated_semicolon_stays :
    ofText "select * from t ; ;" = .ok ⟨"select * from t ;", .select⟩ ∧
      normalForm "select * from t ; ;".toList = "select * from t".toList ∧
      ofText "select * from t ;" = .ok ⟨"select * from t", .select⟩ ∧
      ofText "; ;" = .ok ⟨";", .other⟩ ∧ "; ;".toList.all isTerminator = true := by
  refine ⟨?_, by decide, ?_, ?_, by decide⟩
  · rfl
  · rfl
  · rfl

end Query

end CqlGateway
