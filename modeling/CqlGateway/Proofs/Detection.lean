import CqlGateway.Metadata.Detection

/-!
# The detected generation

A text that is the number of a generation prescribes it, and nothing is sent.  Any other text is
passed over, and the version of the store is asked for once.  Either way there is a generation: the
detection never fails for a text.
-/

namespace CqlGateway

/-- The generation that a text prescribes. -/
def Generation.prescribed? (prescription : String) : Option Generation :=
  (Text.readInteger prescription.toList).toOption.bind ofNumber?

theorem Generation.ofNumber?_eq_none_iff (n : Int) : ofNumber? n = none ↔ n ≠ 1 ∧ n ≠ 2 := by
  unfold ofNumber?
  by_cases h1 : n = 1
  · simp [h1]
  · by_cases h2 : n = 2
    · simp [h2]
    · simp [h1, h2]

theorem Generation.prescribed?_eq_none_iff (prescription : String) :
    prescribed? prescription = none ↔
      Text.readInteger prescription.toList ≠ .ok 1 ∧
        Text.readInteger prescription.toList ≠ .ok 2 := by
  unfold prescribed?
  cases Text.readInteger prescription.toList with
  | error e => simp [Except.toOption]
  | ok n => simp [Except.toOption, ofNumber?_eq_none_iff]

/-- A prescription is read without asking the store. -/
theorem prescribedGeneration_spec (prescription : String) :
    (prescribedGeneration (.text prescription)).result =
        .ok (Generation.prescribed? prescription) ∧
      (prescribedGeneration (.text prescription)).statements = [] := by
  unfold prescribedGeneration
  split
  · -- an empty text is passed over without being read, but it is no number either
    rename_i hempty
    have hnil : prescription = "" := by simpa [Value.isTruthy] using hempty
    subst hnil
    exact ⟨rfl, rfl⟩
  · rw [Generation.prescribed?]
    simp only [integerPart?]
    cases (Text.readInteger prescription.toList).toOption.bind Generation.ofNumber? with
    | none => exact ⟨rfl, rfl⟩
    | some g => exact ⟨rfl, rfl⟩

/-- The statement that asks for the version of the store. -/
def Executor.askedRelease (ex : Executor) : Statement :=
  ex.sent MetadataQuery.release.cql (ex.stream MetadataQuery.release.cql).rows.length

/-- The version of the store always leads to a generation, and is asked for once. -/
theorem releasedGeneration_spec (ex : Executor) :
    (∃ g, (releasedGeneration ex).result = .ok g) ∧
      (releasedGeneration ex).statements = [ex.askedRelease] := by
  unfold releasedGeneration
  extract_lets cql stream statements version
  cases stream.interruption? with
  | some f => exact ⟨⟨.v1, rfl⟩, rfl⟩
  | none =>
    cases majorVersion? version with
    | none => exact ⟨⟨.v1, rfl⟩, rfl⟩
    | some n => exact ⟨⟨.ofMajorVersion n, rfl⟩, rfl⟩

variable {prescription : String} {g : Generation}

theorem detectGeneration_of_prescribed (ex : Executor)
    (h : Generation.prescribed? prescription = some g) :
    (detectGeneration ex (.text prescription)).result = .ok g ∧
      (detectGeneration ex (.text prescription)).statements = [] := by
  obtain ⟨hresult, hstatements⟩ := prescribedGeneration_spec prescription
  rw [h] at hresult
  rw [detectGeneration, Outcome.bind_of_ok hresult, hstatements]
  exact ⟨rfl, rfl⟩

theorem detectGeneration_of_not_prescribed (ex : Executor)
    (h : Generation.prescribed? prescription = none) :
    (∃ g, (detectGeneration ex (.text prescription)).result = .ok g) ∧
      (detectGeneration ex (.text prescription)).statements = [ex.askedRelease] := by
  obtain ⟨hresult, hstatements⟩ := prescribedGeneration_spec prescription
  rw [h] at hresult
  rw [detectGeneration, Outcome.bind_of_ok hresult, hstatements]
  exact releasedGeneration_spec ex

/-- **A text always leads to a generation**, and the version of the store is asked for exactly if
the text is not the number of one. -/
theorem detectGeneration_spec (ex : Executor) (prescription : String) :
    (∃ g, (detectGeneration ex (.text prescription)).result = .ok g) ∧
      (Text.readInteger prescription.toList = .ok 1 ∨
          Text.readInteger prescription.toList = .ok 2 →
        (detectGeneration ex (.text prescription)).statements = []) ∧
      (¬ (Text.readInteger prescription.toList = .ok 1 ∨
          Text.readInteger prescription.toList = .ok 2) →
        (detectGeneration ex (.text prescription)).statements = [ex.askedRelease]) := by
  have hnone := Generation.prescribed?_eq_none_iff prescription
  rw [← not_or] at hnone
  cases hg : Generation.prescribed? prescription with
  | some g =>
    obtain ⟨hresult, hstatements⟩ := detectGeneration_of_prescribed ex hg
    refine ⟨⟨g, hresult⟩, fun _ => hstatements, fun hnumber => ?_⟩
    rw [hnone.2 hnumber] at hg
    cases hg
  | none =>
    obtain ⟨hresult, hstatements⟩ := detectGeneration_of_not_prescribed ex hg
    exact ⟨hresult, fun hnumber => absurd hnumber (hnone.1 hg), fun _ => hstatements⟩

end CqlGateway
