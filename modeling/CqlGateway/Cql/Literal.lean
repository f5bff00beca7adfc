import CqlGateway.Value.Conversion

/-!
# String literals

A string literal stands between single quotes, and a single quote inside it is written twice.
`Literal.encode` writes the inside and `Literal.read` is its inverse: it reads a literal at the
start of a text and gives what follows it.

`Literal.pieces` reads a whole text: the first quote outside of a literal opens one, and behind the
end of the literal the text goes on.
-/

namespace CqlGateway.Literal

/-- The inside of a literal. -/
def encode (cs : List Char) : List Char :=
  cs.flatMap fun c => if c == '\'' then ['\'', '\''] else [c]

/-- A text as a literal. -/
def quote (s : String) : String :=
  String.ofList ('\'' :: (encode s.toList ++ ['\'']))

/-- The text of a value as a literal, if the value has one. -/
def quoteValue (room : Nat) (v : Value) : Except Failure String :=
  (v.spell room).map quote

/-- Reads the rest of a literal up to its closing quote. -/
def readInside : List Char → Option (List Char × List Char)
  | [] => none
  | '\'' :: '\'' :: rest => (readInside rest).map fun r => ('\'' :: r.1, r.2)
  | c :: rest =>
    if c == '\'' then some ([], rest) else (readInside rest).map fun r => (c :: r.1, r.2)

/-- Reads a literal at the start of a text. -/
def read : List Char → Option (List Char × List Char)
  | '\'' :: rest => readInside rest
  | _ => none

/-! ### Whole texts -/

/-- A piece of a text: what stands outside of the literals, or what a literal spells. -/
inductive Piece where
  | plain (cs : List Char)
  | literal (cs : List Char)
  deriving DecidableEq, Repr

/-- What follows a literal is shorter than what was read. -/
theorem length_of_readInside {cs inside rest : List Char}
    (h : readInside cs = some (inside, rest)) : rest.length < cs.length := by
  fun_induction readInside cs generalizing inside rest with
  | case1 => cases h
  | case2 more ih =>
    obtain ⟨⟨spelled, after⟩, hread, heq⟩ := Option.map_eq_some_iff.1 h
    cases heq
    have := ih hread
    simp only [List.length_cons]
    omega
  | case3 more =>
    cases h
    exact Nat.lt_succ_self _
  | case4 c more _ _ ih =>
    obtain ⟨⟨spelled, after⟩, hread, heq⟩ := Option.map_eq_some_iff.1 h
    cases heq
    exact Nat.lt_succ_of_lt (ih hread)

/-- What follows the first quote is shorter than the text. -/
theorem length_of_dropWhile {p : Char → Bool} {cs rest : List Char} {c : Char}
    (h : cs.dropWhile p = c :: rest) : rest.length < cs.length := by
  have hle := (List.dropWhile_sublist (l := cs) p).length_le
  rw [h, List.length_cons] at hle
  exact hle

/-- The pieces of a text from its start to its end, none if its last literal is not closed. -/
def pieces (cs : List Char) : Option (List Piece) :=
  let plain := Piece.plain (cs.takeWhile (· != '\''))
  match hquote : cs.dropWhile (· != '\'') with
  | [] => some [plain]
  | _ :: rest =>
    match hread : readInside rest with
    | none => none
    | some (spelled, after) =>
      have : after.length < cs.length :=
        Nat.lt_trans (length_of_readInside hread) (length_of_dropWhile hquote)
      (pieces after).map fun more => plain :: .literal spelled :: more
termination_by cs.length

/-! ### Reading back -/

/-- A literal is read back whatever follows it, if that is not another quote. -/
theorem readInside_encode (cs rest : List Char) (h : rest.head? ≠ some '\'') :
    readInside (encode cs ++ '\'' :: rest) = some (cs, rest) := by
  induction cs with
  | nil =>
    match rest, h with
    | [], _ => rfl
    | c :: rest, h =>
      have hc : c ≠ '\'' := by simpa using h
      simp [encode, readInside, hc]
  | cons c cs ih =>
    have step : encode (c :: cs) = (if c == '\'' then ['\'', '\''] else [c]) ++ encode cs := rfl
    rw [step]
    by_cases hc : c = '\''
    · simp [hc, readInside, ih]
    · simp [hc, readInside, ih]

theorem bne_quote_of_not_mem {cs : List Char} (h : '\'' ∉ cs) : ∀ c ∈ cs, (c != '\'') = true :=
  fun _ hc => bne_iff_ne.2 fun e => h (e ▸ hc)

theorem pieces_of_plain {cs : List Char} (h : '\'' ∉ cs) : pieces cs = some [.plain cs] := by
  have htake : (cs ++ []).takeWhile (· != '\'') = cs ++ [] :=
    List.takeWhile_append_of_pos (bne_quote_of_not_mem h)
  have hdrop : (cs ++ []).dropWhile (· != '\'') = [] :=
    List.dropWhile_append_of_pos (bne_quote_of_not_mem h)
  rw [List.append_nil] at htake hdrop
  rw [pieces, htake]
  split
  · rfl
  · next hquote => rw [hdrop] at hquote; cases hquote

/-- A literal is one piece between the text in front of it and the text behind it. -/
theorem pieces_of_literal {front back : List Char} (hfront : '\'' ∉ front)
    (hback : back.head? ≠ some '\'') (cs : List Char) :
    pieces (front ++ '\'' :: (encode cs ++ '\'' :: back)) =
      (pieces back).map fun more => .plain front :: .literal cs :: more := by
  have htake : (front ++ '\'' :: (encode cs ++ '\'' :: back)).takeWhile (· != '\'') = front := by
    rw [List.takeWhile_append_of_pos (bne_quote_of_not_mem hfront)]
    simp
  have hdrop : (front ++ '\'' :: (encode cs ++ '\'' :: back)).dropWhile (· != '\'') =
      '\'' :: (encode cs ++ '\'' :: back) := by
    rw [List.dropWhile_append_of_pos (bne_quote_of_not_mem hfront)]
    simp
  have hread := readInside_encode cs back hback
  rw [pieces, htake]
  split
  · next hquote => rw [hdrop] at hquote; cases hquote
  · next rest hquote =>
    rw [hdrop] at hquote
    cases hquote
    split
    · next hnone => rw [hread] at hnone; cases hnone
    · next spelled after hsome =>
      rw [hread] at hsome
      cases hsome
      rfl

end CqlGateway.Literal
