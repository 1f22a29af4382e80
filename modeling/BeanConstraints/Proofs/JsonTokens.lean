/-
# Numbers and strings are read back

The tokens of JSON that carry data: what is printed for an integer, and for a text
with its escapes, is read as the same integer and the same text, whatever follows.
Only a number has to be told from what follows it; a string has its closing quote.

Digits are those of the core library, whose own reading of digit runs is shown to be
the one used here.
-/

import BeanConstraints.Json.Printer
import BeanConstraints.Json.Reader
import Mathlib.Data.List.Basic
import Mathlib.Data.List.TakeDrop

namespace BeanConstraints

namespace Text

theorem digitValue?_of_isDigit {c : Char} (digit : c.isDigit = true) :
    digitValue? c = some (c.toNat - '0'.toNat) := by
  have bounds : '0' ≤ c ∧ c ≤ '9' := by
    rwa [Char.isDigit, Bool.and_eq_true, decide_eq_true_eq, decide_eq_true_eq] at digit
  simp only [digitValue?, bounds, decide_true, Bool.and_self, if_true]
  rfl

theorem isDigitIn_of_isDigit {c : Char} (digit : c.isDigit = true) :
    isDigitIn 10 c = true := by
  have bound : c.toNat ≤ 57 := by
    rw [Char.isDigit, Bool.and_eq_true, decide_eq_true_eq, decide_eq_true_eq] at digit
    exact digit.2
  rw [isDigitIn, digitValue?_of_isDigit digit]
  exact decide_eq_true (show c.toNat - 48 < 10 by omega)

/-- Digits in base ten are worth what the core library says. -/
theorem ofDigits_eq_ofDigitChars {digits : List Char}
    (all : ∀ c ∈ digits, c.isDigit = true) :
    ofDigits 10 digits = Nat.ofDigitChars 10 digits 0 := by
  rw [Nat.ofDigitChars_eq_foldl, ofDigits]
  refine List.foldl_ext _ _ 0 fun n c within => ?_
  rw [digitValue?_of_isDigit (all c within), Option.getD_some, Nat.mul_comm]

/-- The digits of a number are read as the number. -/
theorem ofDigits_toDigits (n : Nat) : ofDigits 10 (Nat.toDigits 10 n) = n := by
  rw [ofDigits_eq_ofDigitChars fun _ => Nat.isDigit_of_mem_toDigits (by decide) (by decide),
    Nat.ofDigitChars_toDigits (by decide) (by decide)]

/-- A number has no leading zero, unless it is zero. -/
theorem head?_toDigits_ne {n : Nat} (positive : 0 < n) :
    (Nat.toDigits 10 n).head? ≠ some '0' := by
  induction n using Nat.strongRecOn with
  | ind n ih =>
      rw [Nat.toDigits_eq_if (by decide)]
      split
      · rename_i small
        have each : ∀ n < 10, 0 < n → Nat.digitChar n ≠ '0' := by decide
        exact fun same => each n small positive (Option.some.inj same)
      · rw [List.head?_append, Option.or_of_isSome (by simp [Nat.toDigits_ne_nil])]
        exact ih (n / 10) (by omega) (by omega)

end Text

namespace Json

/-- What may follow a number: nothing, or a character that does not carry it on. -/
def Ends (rest : List Char) : Prop :=
  ∀ c ∈ rest.head?, Text.isDigitIn 10 c = false ∧ c ≠ '.' ∧ c ≠ 'e' ∧ c ≠ 'E'

theorem ends_nil : Ends [] := nofun

theorem ends_cons {c : Char} {rest : List Char}
    (stops : Text.isDigitIn 10 c = false ∧ c ≠ '.' ∧ c ≠ 'e' ∧ c ≠ 'E') : Ends (c :: rest) := by
  rintro other ⟨⟩
  exact stops

theorem digits?_append {digits rest : List Char} (filled : digits ≠ [])
    (all : ∀ c ∈ digits, Text.isDigitIn 10 c = true) (ends : Ends rest) :
    digits? (digits ++ rest) = some (digits, rest) := by
  have run : (digits ++ rest).span (Text.isDigitIn 10) = (digits, rest) := by
    rw [List.span_eq_takeWhile_dropWhile, List.takeWhile_append_of_pos all,
      List.dropWhile_append_of_pos all]
    cases rest with
    | nil => simp
    | cons c rest =>
        have stop := (ends c rfl).1
        rw [List.takeWhile_cons_of_neg (by simp [stop]),
          List.dropWhile_cons_of_neg (by simp [stop]), List.append_nil]
  rw [digits?, run]
  cases digits with
  | nil => exact absurd rfl filled
  | cons c digits => rfl

/-- The digits of a number are read as the whole part of one. -/
theorem whole?_toDigits (n : Nat) {rest : List Char} (ends : Ends rest) :
    whole? (Nat.toDigits 10 n ++ rest) = some (Nat.toDigits 10 n, rest) := by
  rcases Nat.eq_zero_or_pos n with rfl | positive
  · cases rest with
    | nil => rfl
    | cons c rest =>
        change (if Text.isDigitIn 10 c = true then none else some (['0'], c :: rest)) = _
        rw [if_neg (by simp [(ends c rfl).1])]
        rfl
  · have all : ∀ c ∈ Nat.toDigits 10 n, Text.isDigitIn 10 c = true := fun c within =>
      Text.isDigitIn_of_isDigit (Nat.isDigit_of_mem_toDigits (by decide) (by decide) within)
    have head := Text.head?_toDigits_ne positive
    rw [← digits?_append Nat.toDigits_ne_nil all ends, whole?]
    intro other same
    cases digits : Nat.toDigits 10 n with
    | nil => exact Nat.toDigits_ne_nil digits
    | cons c later =>
        rw [digits, List.cons_append, List.cons.injEq] at same
        rw [digits, same.1] at head
        exact head rfl

theorem fraction?_of_ends {rest : List Char} (ends : Ends rest) :
    fraction? rest = some ([], rest) := by
  unfold fraction?
  split
  · exact absurd rfl (ends '.' rfl).2.1
  · rfl

theorem exponent?_of_ends {rest : List Char} (ends : Ends rest) :
    exponent? rest = some ([], rest) := by
  cases rest with
  | nil => rfl
  | cons c rest =>
      obtain ⟨-, -, small, large⟩ := ends c rfl
      rw [exponent?.eq_def]
      simp [small, large]

theorem head?_toDigits_ne_minus (n : Nat) : (Nat.toDigits 10 n).head? ≠ some '-' := by
  intro minus
  have digit := Nat.isDigit_of_mem_toDigits (by decide) (by decide) (List.mem_of_head? minus)
  exact absurd digit (by decide)

/-- What is printed for a natural number is read as the number. -/
theorem number?_toDigits (n : Nat) {rest : List Char} (ends : Ends rest) :
    number? (Nat.toDigits 10 n ++ rest) = some (integer n, rest) := by
  have unsigned := head?_toDigits_ne_minus n
  have whole := whole?_toDigits n ends
  unfold number?
  split
  rename_i negative cs sign
  split at sign
  · rename_i signed same
    exfalso
    apply unsigned
    have head := congrArg List.head? same
    rwa [List.head?_append, Option.or_of_isSome (by simp [Nat.toDigits_ne_nil])] at head
  · cases sign
    simp [whole, fraction?_of_ends ends, exponent?_of_ends ends, Text.ofDigits_toDigits]

/-- Behind a minus sign, a number that is not zero is read as its opposite. -/
theorem number?_minus_toDigits {n : Nat} (positive : 0 < n) {rest : List Char} (ends : Ends rest) :
    number? ('-' :: (Nat.toDigits 10 n ++ rest)) = some (integer (-n), rest) := by
  simp [number?, whole?_toDigits n ends, fraction?_of_ends ends, exponent?_of_ends ends,
    Text.ofDigits_toDigits, Nat.ne_of_gt positive]

/-- What is printed for an integer is read as the integer. -/
theorem number?_toString (n : Int) {rest : List Char} (ends : Ends rest) :
    number? ((toString n).toList ++ rest) = some (integer n, rest) := by
  have text : toString n = n.repr := rfl
  rw [text, Int.repr_eq_if]
  split
  · rename_i natural
    rw [Nat.toList_repr, number?_toDigits n.toNat ends, Int.toNat_of_nonneg natural]
  · rename_i negative
    have back : -((-n).toNat : Int) = n := by omega
    rw [String.toList_append, Nat.toList_repr]
    exact (number?_minus_toDigits (by omega) ends).trans (by rw [back])

/-- An integer begins with a sign or a digit. -/
theorem exists_head_toString (n : Int) :
    ∃ c tail, (toString n).toList = c :: tail ∧ (c = '-' ∨ c.isDigit = true) := by
  have text : toString n = n.repr := rfl
  rw [text, Int.repr_eq_if]
  split
  · rw [Nat.toList_repr]
    cases digits : Nat.toDigits 10 n.toNat with
    | nil => exact absurd digits Nat.toDigits_ne_nil
    | cons c tail =>
        have digit : c.isDigit = true :=
          Nat.isDigit_of_mem_toDigits (by decide) (by decide) (digits ▸ List.mem_cons_self)
        exact ⟨c, tail, rfl, .inr digit⟩
  · rw [String.toList_append]
    exact ⟨'-', _, rfl, .inl rfl⟩

/-- What an escape may leave of a character: the character, or its code unit if it is not a
surrogate. -/
inductive Denotes : Piece → Char → Prop
  | plain (c : Char) : Denotes (.plain c) c
  | unit {c : Char} (below : c.toNat < 0xD800) : Denotes (.unit c.toNat) c

/-- No surrogate is among the units, so every piece stands for itself. -/
theorem join?_of_denotes {pieces : List Piece} {cs : List Char}
    (denote : List.Forall₂ Denotes pieces cs) : join? pieces = some cs := by
  induction denote with
  | nil => rfl
  | @cons piece c pieces cs head tail ih =>
      cases head with
      | plain => rw [join?, ih, Option.map_some]
      | unit below =>
          have own : Text.charOf? c.toNat = some c := by
            simp [Text.charOf?, below]
          have high : ¬ 0xD800 ≤ c.toNat := by omega
          cases tail with
          | nil => simp [join?, own]
          | cons next later =>
              cases next with
              | plain => rw [join?.eq_def]; simp [own, ih]
              | unit _ => rw [join?.eq_def]; simp [own, ih, high]

/-- A backslash and a letter are read as the character they stand for. -/
theorem pieces?_short {letter c : Char} (short : escapedChar? letter = some c)
    (rest : List Char) : pieces? ('\\' :: letter :: rest) =
      (pieces? rest).map fun read => (.plain c :: read.1, read.2) := by
  rw [pieces?]
  · rw [short]
    cases pieces? rest <;> rfl
  · rintro - - - - - rfl -
    cases short

/-- A code unit below the control characters' end is read from its two digits. -/
theorem pieces?_unit {n : Nat} (control : n < 0x20) (rest : List Char) :
    pieces? ('\\' :: 'u' :: '0' :: '0' :: Text.hexDigit (n / 16) :: Text.hexDigit (n % 16) ::
        rest) = (pieces? rest).map fun read => (.unit n :: read.1, read.2) := by
  have digits : ∀ n < 0x20, Text.hexNumber? 4
      ['0', '0', Text.hexDigit (n / 16), Text.hexDigit (n % 16)] = some (n, []) := by
    decide
  rw [pieces?, digits n control]
  cases pieces? rest <;> rfl

/-- Any other character is read as it is. -/
theorem pieces?_plain {c : Char} (notQuote : c ≠ '"') (notBackslash : c ≠ '\\')
    (printed : ¬ c.toNat < 0x20) (rest : List Char) :
    pieces? (c :: rest) = (pieces? rest).map fun read => (.plain c :: read.1, read.2) := by
  rw [pieces?]
  · rw [if_neg printed]
    cases pieces? rest <;> rfl
  · exact notQuote
  · intro _ _ _ _ _ backslash _
    exact notBackslash backslash
  · intro _ _ backslash _
    exact notBackslash backslash

/-- A character as it is printed in a string is read as one piece that denotes it. -/
theorem pieces?_escaped (c : Char) (rest : List Char) :
    ∃ piece, Denotes piece c ∧ pieces? (escaped c ++ rest) =
      (pieces? rest).map fun read => (piece :: read.1, read.2) := by
  unfold escaped
  -- Seven characters have a letter of their own.
  iterate 7
    split
    · subst_vars
      exact ⟨.plain _, .plain _, pieces?_short rfl rest⟩
  split
  · rename_i control
    exact ⟨.unit c.toNat, .unit (by omega), pieces?_unit control rest⟩
  · rename_i notQuote notBackslash _ _ _ _ _ printed
    exact ⟨.plain c, .plain c, pieces?_plain notQuote notBackslash printed rest⟩

/-- Up to the quote that closes it, a string is read as pieces that denote its characters. -/
theorem pieces?_flatMap_escaped (cs rest : List Char) :
    ∃ pieces, List.Forall₂ Denotes pieces cs ∧
      pieces? (cs.flatMap escaped ++ '"' :: rest) = some (pieces, rest) := by
  induction cs with
  | nil => exact ⟨[], .nil, rfl⟩
  | cons c cs ih =>
      obtain ⟨pieces, denote, read⟩ := ih
      obtain ⟨piece, denotes, first⟩ := pieces?_escaped c (cs.flatMap escaped ++ '"' :: rest)
      refine ⟨piece :: pieces, .cons denotes denote, ?_⟩
      rw [List.flatMap_cons, List.append_assoc, first, read, Option.map_some]

/-- What is printed for a text is read, behind the quote that opens it, as pieces that join to the
text. -/
theorem pieces?_stringLiteral (s : String) (rest : List Char) :
    ∃ body pieces, (stringLiteral s).toList ++ rest = '"' :: body ∧
      pieces? body = some (pieces, rest) ∧ join? pieces = some s.toList := by
  obtain ⟨pieces, denote, read⟩ := pieces?_flatMap_escaped s.toList rest
  refine ⟨s.toList.flatMap escaped ++ '"' :: rest, pieces, ?_, read, join?_of_denotes denote⟩
  rw [stringLiteral, String.toList_ofList, List.cons_append, List.cons_append, List.append_assoc,
    List.singleton_append]

end Json

end BeanConstraints
