import Mathlib.Algebra.Field.Rat
import Mathlib.Algebra.Order.Field.Power
import Mathlib.Tactic.FieldSimp
import TraceWeave.Proofs.Binary64
import TraceWeave.Proofs.Decimal.Numeral

/-! The grammar of decimal numerals and the numbers that they write.

A numeral is an optional sign, digits with an optional point (at least one digit in all) and an
optional exponent. Reading one gives its sign and its value (`read?_of_writes`); an integer is read
as itself (`readInteger?_of_writesInt`). -/

namespace TraceWeave.Numeral

open Binary64 Json

inductive Sign : List Char → Bool → Prop where
  | none : Sign [] false
  | plus : Sign ['+'] false
  | minus : Sign ['-'] true

inductive WritesInt : List Char → Int → Prop where
  | parts {sign digits : List Char} {negative : Bool} : Sign sign negative → Digits digits →
      WritesInt (sign ++ digits) (signed negative (ofDigits digits))

inductive WritesExponent : List Char → Int → Prop where
  | absent : WritesExponent [] 0
  | given {mark : Char} {text : List Char} {x : Int} : mark = 'e' ∨ mark = 'E' →
      WritesInt text x → WritesExponent (mark :: text) x

inductive WritesFraction : List Char → List Char → Prop where
  | absent : WritesFraction [] []
  | given {digits : List Char} : (∀ c ∈ digits, c.isDigit = true) →
      WritesFraction ('.' :: digits) digits

/-- A numeral with its sign and its absolute value. -/
inductive Writes : List Char → Bool → ℚ → Prop where
  | parts {sign whole point fraction exponent : List Char} {negative : Bool} {x : Int} :
      Sign sign negative → (∀ c ∈ whole, c.isDigit = true) → WritesFraction point fraction →
      whole ≠ [] ∨ fraction ≠ [] → WritesExponent exponent x →
      Writes (sign ++ (whole ++ (point ++ exponent))) negative
        ((ofDigits whole + ofDigits fraction / 10 ^ fraction.length) * 10 ^ x)

inductive Denotes (text : List Char) : ℚ → Prop where
  | positive {size : ℚ} : Writes text false size → Denotes text size
  | negative {size : ℚ} : Writes text true size → Denotes text (-size)

def size (n : Numeral) : ℚ := n.coefficient * 10 ^ n.exponent

def value (n : Numeral) : ℚ := if n.negative then -n.size else n.size

variable {text sign digits point fraction exponent : List Char} {negative : Bool} {q : ℚ} {x : Int}

theorem splitSign_of (h : Sign sign negative) (rest : List Char)
    (start : ∀ c ∈ rest.head?, c ≠ '-' ∧ c ≠ '+') : splitSign (sign ++ rest) = (negative, rest) := by
  cases h with
  | plus | minus => rfl
  | none =>
    rw [List.nil_append]
    unfold splitSign
    split
    case h_1 => exact absurd rfl (start '-' rfl).1
    case h_2 => exact absurd rfl (start '+' rfl).2
    case h_3 => rfl

theorem not_sign_of_isDigit {c : Char} (digit : c.isDigit = true) : c ≠ '-' ∧ c ≠ '+' := by
  constructor <;> rintro rfl <;> cases digit

theorem readInteger?_of_writesInt (h : WritesInt text x) : readInteger? text = some x := by
  cases h with
  | @parts _ digits _ hsign hdigits =>
    have split := splitSign_of hsign digits fun c first =>
      not_sign_of_isDigit (hdigits.2 c (List.mem_of_mem_head? first))
    simp [readInteger?, split, hdigits.1, List.all_eq_true.mpr hdigits.2, signed]

theorem readExponent?_of_writes (h : WritesExponent exponent x) :
    readExponent? exponent = some x := by
  cases h with
  | absent => rfl
  | given mark written => rw [readExponent?, if_pos mark, readInteger?_of_writesInt written]

theorem mark_of_writesExponent (h : WritesExponent exponent x) :
    ∀ c ∈ exponent.head?, c = 'e' ∨ c = 'E' := by
  cases h with
  | absent => nofun
  | given mark _ => rintro c ⟨⟩; exact mark

theorem splitFraction_of_writes (h : WritesFraction point fraction)
    (h' : WritesExponent exponent x) : splitFraction (point ++ exponent) = (fraction, exponent) := by
  have mark := mark_of_writesExponent h'
  cases h with
  | absent =>
    rw [List.nil_append]
    unfold splitFraction
    split
    case h_1 => rcases mark '.' rfl with ⟨⟨⟩⟩ | ⟨⟨⟩⟩
    case h_2 => rfl
  | given all =>
    have stop : ∀ c ∈ exponent.head?, c.isDigit = false := by
      intro c first
      rcases mark c first with rfl | rfl <;> rfl
    simp [splitFraction, takeWhile_all all stop, dropWhile_all all stop]

theorem head?_of_writesFraction (h : WritesFraction point fraction)
    (h' : WritesExponent exponent x) :
    ∀ c ∈ (point ++ exponent).head?, c = '.' ∨ c = 'e' ∨ c = 'E' := by
  cases h with
  | absent => exact fun c first => .inr (mark_of_writesExponent h' c first)
  | given _ => rintro c ⟨⟩; exact .inl rfl

/-- The digits after the point move into the exponent. -/
theorem size_eq (whole fraction : List Char) (negative : Bool) (x : Int) :
    size ⟨negative, ofDigits (whole ++ fraction), x - fraction.length⟩ =
      (ofDigits whole + ofDigits fraction / 10 ^ fraction.length) * 10 ^ x := by
  rw [size, ofDigits_append, zpow_sub₀ (by norm_num), zpow_natCast]
  push_cast
  field_simp

theorem read?_of_writes (h : Writes text negative q) :
    ∃ n, read? text = some n ∧ n.negative = negative ∧ n.size = q := by
  cases h with
  | @parts sign whole point fraction exponent _ x hsign hwhole hpoint hsome hexponent =>
    have tail := head?_of_writesFraction hpoint hexponent
    have stop : ∀ c ∈ (point ++ exponent).head?, c.isDigit = false := by
      intro c first
      rcases tail c first with rfl | rfl | rfl <;> rfl
    -- the sign ends at a digit, or at the point of a numeral without whole digits
    have start : ∀ c ∈ (whole ++ (point ++ exponent)).head?, c ≠ '-' ∧ c ≠ '+' := by
      intro c first
      rcases whole with _ | ⟨d, more⟩
      · rcases tail c first with rfl | rfl | rfl <;> decide
      · cases first
        exact not_sign_of_isDigit (hwhole c List.mem_cons_self)
    have written : (whole.isEmpty && fraction.isEmpty) = false := by
      rcases hsome with some | some <;> simp [some]
    refine ⟨_, ?_, rfl, size_eq whole fraction negative x⟩
    simp only [read?, splitSign_of hsign _ start, takeWhile_all hwhole stop,
      dropWhile_all hwhole stop, splitFraction_of_writes hpoint hexponent,
      readExponent?_of_writes hexponent]
    simp [written]

theorem read?_of_denotes (h : Denotes text q) : ∃ n, read? text = some n ∧ n.value = q := by
  cases h with
  | positive written =>
    obtain ⟨n, read, sign, rfl⟩ := read?_of_writes written
    exact ⟨n, read, by rw [value, sign]; rfl⟩
  | negative written =>
    obtain ⟨n, read, sign, rfl⟩ := read?_of_writes written
    exact ⟨n, read, by rw [value, sign]; rfl⟩

/-- An integer is a numeral without point and exponent. -/
theorem writes_of_writesInt (h : WritesInt text x) :
    ∃ negative, Writes text negative x.natAbs ∧ x = signed negative x.natAbs := by
  cases h with
  | @parts sign digits negative hsign hdigits =>
    have size : (signed negative (ofDigits digits)).natAbs = ofDigits digits := by
      cases negative <;> simp
    have none : ofDigits [] = 0 := rfl
    have writes := Writes.parts hsign hdigits.2 .absent (.inl hdigits.1) .absent
    rw [size]
    exact ⟨negative, by simpa [none] using writes, rfl⟩

theorem writesInt_toString (x : Int) : WritesInt (toString x).toList x := by
  have value : signed (decide (x < 0)) (ofDigits (Nat.toDigits 10 x.natAbs)) = x := by
    rw [ofDigits_toDigits, signed]
    split
    case isTrue negative => have := of_decide_eq_true negative; omega
    case isFalse positive => have := of_decide_eq_false (Bool.not_eq_true _ ▸ positive); omega
  have sign : Sign (Layout.sign (decide (x < 0))) (decide (x < 0)) := by
    cases decide (x < 0)
    · exact .none
    · exact .minus
  have written := WritesInt.parts sign (digits_toDigits x.natAbs)
  rwa [value, ← toList_toString] at written

end TraceWeave.Numeral
