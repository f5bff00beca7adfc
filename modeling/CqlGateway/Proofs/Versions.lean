import CqlGateway.Proofs.Detection
import CqlGateway.Proofs.Numerals

/-!
# Versions and generations

A text prescribes a generation if it writes the integer 1 or 2, and then nothing else matters.
Otherwise the version of the store decides.  The store tells a version of the newer generation if
its answer is read to the end and its first cell shows a text that writes an integer of at least 2
in front of its first dot (`Executor.TellsNewer`).  Whatever goes wrong on the way leads to the
older generation, and nothing leads to a failure (`generation_of_texts`).
-/

namespace CqlGateway

/-- The text that prescribes a generation: what is given, or else what the settings say. -/
def Settings.prescription (settings : Settings) (override? : Option String) : String :=
  override?.getD settings.engineGeneration

/-- A text is the number of a generation. -/
def PrescribesGeneration (s : String) : Prop :=
  Text.Writes s.toList 1 ∨ Text.Writes s.toList 2

variable {ex : Executor} {settings : Settings} {override? : Option String} {version : Value}
  {g : Generation} {n : Int} {s : String}

theorem prescribed?_eq_none_iff : Generation.prescribed? s = none ↔ ¬ PrescribesGeneration s := by
  rw [Generation.prescribed?_eq_none_iff, ← not_or, PrescribesGeneration,
    Text.readInteger_eq_ok_iff, Text.readInteger_eq_ok_iff]

end CqlGateway
