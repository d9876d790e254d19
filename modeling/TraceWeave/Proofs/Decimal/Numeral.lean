import Mathlib.Tactic.Ring
import TraceWeave.Decimal.Layout
import TraceWeave.Decimal.Numeral
import TraceWeave.Proofs.Json.Grammar

/-! Numerals made of the parts of a number of the grammar: what they are read as
(`read?_of_parts`). An integer is one whole part behind a sign, and is read as itself
(`readInteger?_toString`). -/

namespace TraceWeave.Numeral

open Json

variable {text : List Char}

/-! ### Digits -/

theorem ofDigits_append (text more : List Char) :
    ofDigits (text ++ more) = ofDigits text * 10 ^ more.length + ofDigits more := by
  have append : ofDigits (text ++ more) = Nat.ofDigitChars 10 more (ofDigits text) :=
    Nat.ofDigitChars_append 0
  rw [append, Nat.ofDigitChars_eq_ofDigitChars_zero, Nat.mul_comm]
  rfl

theorem ofDigits_zeros (k : Nat) : ofDigits (Layout.zeros k) = 0 :=
  Nat.ofDigitChars_replicate_zero

theorem ofDigits_toDigits (n : Nat) : ofDigits (Nat.toDigits 10 n) = n :=
  Nat.ofDigitChars_ten_toDigits

theorem digits_toDigits (n : Nat) : Digits (Nat.toDigits 10 n) :=
  ⟨Nat.toDigits_ne_nil, fun _ mem => Nat.isDigit_of_mem_toDigits (by decide) (by decide) mem⟩

theorem head?_toDigits {n : Nat} (h : n ≠ 0) : (Nat.toDigits 10 n).head? ≠ some '0' := by
  induction n using Nat.strongRecOn with
  | ind n ih =>
    rw [Nat.toDigits_eq_if (by decide)]
    split
    · simpa using h
    · have above := ih (n / 10) (by omega) (by omega)
      obtain ⟨d, more, first, -⟩ := exists_digit (digits_toDigits (n / 10))
      rw [first] at above ⊢
      exact above

theorem wholePart_of (h : Digits text) (h' : text.head? ≠ some '0') : WholePart text := by
  obtain ⟨d, more, rfl, -⟩ := exists_digit h
  exact .digits (by simpa using h') h

theorem wholePart_toDigits (n : Nat) : WholePart (Nat.toDigits 10 n) := by
  rcases Nat.eq_zero_or_pos n with rfl | pos
  · exact .zero
  · exact wholePart_of (digits_toDigits n) (head?_toDigits (by omega))

/-! ### Integers -/

theorem splitSign_sign (negative : Bool) (h : Digits text) (more : List Char) :
    splitSign (Layout.sign negative ++ (text ++ more)) = (negative, text ++ more) := by
  obtain ⟨d, more, rfl, digit⟩ := exists_digit h
  cases negative with
  | true => rfl
  | false =>
    unfold splitSign
    split
    case h_1 heq => cases heq; cases digit
    case h_2 heq => cases heq; cases digit
    case h_3 => rfl

theorem readInteger?_digits (negative : Bool) (h : Digits text) :
    readInteger? (Layout.sign negative ++ text)
      = some (if negative then -(ofDigits text : Int) else ofDigits text) := by
  have split := splitSign_sign negative h []
  rw [List.append_nil] at split
  simp [readInteger?, split, h.1, List.all_eq_true.mpr h.2]

theorem readInteger?_plus (h : Digits text) : readInteger? ('+' :: text) = some (ofDigits text) := by
  simp [readInteger?, splitSign, h.1, List.all_eq_true.mpr h.2]

theorem toList_toString (n : Int) :
    (toString n).toList = Layout.sign (n < 0) ++ Nat.toDigits 10 n.natAbs := by
  rw [Int.toString_eq_repr, Int.repr_eq_if]
  split
  case isTrue positive =>
    have sign : decide (n < 0) = false := by simpa using positive
    rw [sign, Nat.toList_repr, show n.toNat = n.natAbs by omega]
    rfl
  case isFalse negative =>
    have sign : decide (n < 0) = true := by simpa using negative
    rw [sign, String.toList_append, Nat.toList_repr, show (-n).toNat = n.natAbs by omega]
    rfl

theorem readInteger?_toString (n : Int) : readInteger? (toString n).toList = some n := by
  rw [toList_toString, readInteger?_digits _ (digits_toDigits _), ofDigits_toDigits]
  split
  case isTrue negative =>
    have := of_decide_eq_true negative
    exact congrArg some (by omega)
  case isFalse positive =>
    have := of_decide_eq_false (Bool.not_eq_true _ ▸ positive)
    exact congrArg some (by omega)

theorem sign_eq_or (negative : Bool) :
    Layout.sign negative = [] ∨ Layout.sign negative = ['-'] := by
  cases negative
  · exact .inl rfl
  · exact .inr rfl

theorem number_toString (n : Int) : Number (toString n).toList := by
  have parts := Number.parts (sign_eq_or (n < 0)) (wholePart_toDigits n.natAbs) .absent .absent
  rwa [List.append_nil, List.append_nil, ← toList_toString] at parts

/-! ### Numbers of the grammar -/

theorem splitFraction_of {fraction exponent : List Char} (h : Fraction fraction)
    (h' : Exponent exponent) :
    splitFraction (fraction ++ exponent) = (fraction.drop 1, exponent) := by
  have mark := mark_of_exponent h'
  cases h with
  | absent =>
    unfold splitFraction
    split
    case h_1 heq =>
      rcases mark '.' (by rw [List.nil_append] at heq; rw [heq]; rfl) with ⟨⟨⟩⟩ | ⟨⟨⟩⟩
    case h_2 => rfl
  | digits digits =>
    have stop : ∀ c ∈ exponent.head?, c.isDigit = false := by
      intro c first
      rcases mark c first with rfl | rfl <;> rfl
    simp [splitFraction, takeWhile_all digits.2 stop, dropWhile_all digits.2 stop]

theorem read?_of_parts (negative : Bool) {whole fraction exponent : List Char} {x : Int}
    (h : WholePart whole) (h' : Fraction fraction) (h'' : Exponent exponent)
    (value : readExponent? exponent = some x) :
    read? (Layout.sign negative ++ (whole ++ (fraction ++ exponent)))
      = some ⟨negative, ofDigits (whole ++ fraction.drop 1), x - (fraction.drop 1).length⟩ := by
  have digits := digits_of_wholePart h
  have stop := not_digit_of_tail h' h''
  simp only [read?, splitSign_sign negative digits _, takeWhile_all digits.2 stop,
    dropWhile_all digits.2 stop, splitFraction_of h' h'', value]
  simp [digits.1]

end TraceWeave.Numeral
