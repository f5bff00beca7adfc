import CqlGateway.Text.Blank
import CqlGateway.Text.Table.Casing

/-!
# Upper and lower case

`lower` and `upper` are the full case mappings of Unicode: a character may map to several, and a
capital sigma at the end of a word is lowered to the final sigma.  `lowerChar` is the mapping of a
single character to a single character.

`matchesIgnoringCase` is the looser comparison of single characters used when looking for keywords:
two characters match when their lower forms are equal or belong to one class of `caseVariants`,
letters that are distinct in lower case but share a capital.
-/

namespace CqlGateway.Text

/-! ### Single characters -/

/-- The image of `n` under the first run that contains it. -/
def CaseRun.image? (runs : List CaseRun) (n : Nat) : Option Nat :=
  (runs.find? fun r => r.first ≤ n && n ≤ r.last && (n - r.first) % r.step == 0).map
    fun r => r.target + (n - r.first)

/-- The lower form of a character as a single character; a capital I with a dot becomes a plain `i`.
-/
def lowerChar (c : Char) : Char :=
  let n := c.toNat
  if n < 0x80 then c.toLower
  else if n == 0x130 then 'i'
  else ((CaseRun.image? lowerRuns n).map Char.ofNat).getD c

/-- The upper form of a character, which may be a sequence. -/
def upperChar (c : Char) : List Char :=
  let n := c.toNat
  if n < 0x80 then [c.toUpper]
  else match upperSequences.lookup n with
    | some ns => ns.map Char.ofNat
    | none => [((CaseRun.image? upperRuns n).map Char.ofNat).getD c]

/-- Letters with a case that are not skipped beside a sigma. -/
def isCased (c : Char) : Bool :=
  if c.toNat < 0x80 then c.isAlpha else inRanges casedRanges c.toNat

/-- Marks that are skipped beside a sigma. -/
def isCaseIgnorable (c : Char) : Bool :=
  if c.toNat < 0x80 then ['\'', '.', ':', '^', Char.ofNat 0x60].contains c
  else inRanges caseIgnorableRanges c.toNat

/-! ### Characters of ASCII -/

/-- What holds of every ASCII character is checked on each of them. -/
theorem of_ascii {c : Char} {P : Char → Prop} (h : ∀ n : Fin 0x80, P (Char.ofNat n))
    (hc : c.toNat < 0x80) : P c := by
  have hn := h ⟨c.toNat, hc⟩
  rwa [Char.ofNat_toNat] at hn

theorem toNat_lt_of_toLower {c : Char} (h : c.toLower.toNat < 0x80) : c.toNat < 0x80 := by
  by_cases hupper : c.val ≥ 'A'.val ∧ c.val ≤ 'Z'.val
  · exact Nat.lt_of_le_of_lt (UInt32.le_iff_toNat_le.1 hupper.2) (by decide)
  · have hlower : c.toLower = c := dif_neg hupper
    rwa [hlower] at h

/-! ### Texts -/

/-- The first character that is not skipped beside a sigma has a case. -/
def meetsCased (cs : List Char) : Bool :=
  (cs.find? (!isCaseIgnorable ·)).any isCased

/-- The lower form of `c` between the reversed text `before` and the text `after`. -/
def lowerAt (before : List Char) (c : Char) (after : List Char) : List Char :=
  if c.toNat == 0x3A3 then
    [if meetsCased before && !meetsCased after then 'ς' else 'σ']
  else if c.toNat == 0x130 then ['i', Char.ofNat 0x307]
  else [lowerChar c]

/-- The lower form of a list of characters. -/
def lowerChars (cs : List Char) : List Char :=
  go [] [] cs
where
  go (before done : List Char) : List Char → List Char
    | [] => done.reverse
    | c :: rest => go (c :: before) ((lowerAt before c rest).reverse ++ done) rest

/-- The lower form of a text. -/
def lower (s : String) : String :=
  String.ofList (lowerChars s.toList)

/-- The upper form of a text. -/
def upper (s : String) : String :=
  String.ofList (s.toList.flatMap upperChar)

theorem length_lowerAt_pos (before : List Char) (c : Char) (after : List Char) :
    0 < (lowerAt before c after).length := by
  rw [lowerAt]
  split
  · exact Nat.zero_lt_one
  · split
    · exact Nat.zero_lt_two
    · exact Nat.zero_lt_one

theorem length_le_lowerChars_go (before done cs : List Char) :
    done.length + cs.length ≤ (lowerChars.go before done cs).length := by
  induction cs generalizing before done with
  | nil => simp [lowerChars.go]
  | cons c rest ih =>
    have hpos := length_lowerAt_pos before c rest
    have hrest := ih (c :: before) ((lowerAt before c rest).reverse ++ done)
    rw [List.length_append, List.length_reverse] at hrest
    rw [lowerChars.go, List.length_cons]
    omega

/-- Only the empty text has an empty lower form. -/
theorem lower_eq_empty_iff {s : String} : lower s = "" ↔ s = "" := by
  constructor
  · intro h
    have hchars : lowerChars s.toList = [] := by
      rw [lower] at h
      simpa using congrArg String.toList h
    have hlength := length_le_lowerChars_go [] [] s.toList
    rw [lowerChars] at hchars
    rw [hchars, List.length_nil, Nat.zero_add, Nat.le_zero] at hlength
    simpa using List.eq_nil_of_length_eq_zero hlength
  · rintro rfl
    rfl

/-! ### Matching single characters -/

/-- Classes of lower-case letters that share a capital, and so match each other. -/
def caseVariants : List (List Nat) :=
  [[0x69, 0x131], [0x73, 0x17F], [0xB5, 0x3BC], [0x345, 0x3B9, 0x1FBE], [0x390, 0x1FD3],
   [0x3B0, 0x1FE3], [0x3B2, 0x3D0], [0x3B5, 0x3F5], [0x3B8, 0x3D1], [0x3BA, 0x3F0], [0x3C0, 0x3D6],
   [0x3C1, 0x3F1], [0x3C2, 0x3C3], [0x3C6, 0x3D5], [0x432, 0x1C80], [0x434, 0x1C81],
   [0x43E, 0x1C82], [0x441, 0x1C83], [0x442, 0x1C84, 0x1C85], [0x44A, 0x1C86], [0x463, 0x1C87],
   [0x1C88, 0xA64B], [0x1E61, 0x1E9B], [0xFB05, 0xFB06]]

/-- The two characters are equal up to case. -/
def matchesIgnoringCase (a b : Char) : Bool :=
  let x := lowerChar a
  let y := lowerChar b
  x == y || caseVariants.any fun l => l.contains x.toNat && l.contains y.toNat

/-- What is left of `text` after `word`, if it begins with `word` up to case. -/
def dropWord? : List Char → List Char → Option (List Char)
  | [], text => some text
  | _ :: _, [] => none
  | w :: word, c :: text => if matchesIgnoringCase w c then dropWord? word text else none

end CqlGateway.Text
