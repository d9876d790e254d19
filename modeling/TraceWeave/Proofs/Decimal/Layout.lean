import TraceWeave.Proofs.Decimal.Numeral
import TraceWeave.Proofs.Decimal.Shortest

/-! The texts of numbers in documents are numbers of the grammar (`number_document`) and are read as
the numbers that they were made of, bit for bit (`readFinite?_document`). -/

namespace TraceWeave.Layout

open Json

variable {text : List Char} {c n : Nat} {e p : Int} {m : Magnitude}

inductive Denotes : List Char → Nat → Int → Prop where
  | parts {whole fraction exponent : List Char} {x : Int} : WholePart whole → Fraction fraction →
      Exponent exponent → Numeral.readExponent? exponent = some x →
      Denotes (whole ++ (fraction ++ exponent)) (Numeral.ofDigits (whole ++ fraction.drop 1))
        (x - (fraction.drop 1).length)

theorem Denotes.number (h : Denotes text c e) (negative : Bool) : Number (sign negative ++ text) := by
  obtain ⟨whole, fraction, exponent, -⟩ := h
  exact .parts (Numeral.sign_eq_or negative) whole fraction exponent

theorem Denotes.read? (h : Denotes text c e) (negative : Bool) :
    Numeral.read? (sign negative ++ text) = some ⟨negative, c, e⟩ := by
  obtain ⟨whole, fraction, exponent, value⟩ := h
  exact Numeral.read?_of_parts negative whole fraction exponent value

/-! ### The two forms -/

theorem denotes_point {whole fraction : List Char} (h : WholePart whole) (h' : Digits fraction) :
    Denotes (whole ++ '.' :: fraction) (Numeral.ofDigits (whole ++ fraction))
      (-fraction.length) := by
  have exponent : Numeral.readExponent? [] = some 0 := rfl
  simpa using Denotes.parts h (.digits h') .absent exponent

theorem isDigit_of_mem_zeros {k : Nat} {c : Char} (h : c ∈ zeros k) : c.isDigit = true := by
  rw [List.eq_of_mem_replicate h]; rfl

/-- All digits after the point. -/
theorem denotes_below (n k : Nat) :
    Denotes ("0.".toList ++ zeros k ++ Nat.toDigits 10 n) n
      (-(k + (Nat.toDigits 10 n).length : Nat)) := by
  obtain ⟨nonempty, all⟩ := Numeral.digits_toDigits n
  have fraction : Digits (zeros k ++ Nat.toDigits 10 n) := by
    refine ⟨by simp [nonempty], fun c mem => ?_⟩
    rcases List.mem_append.mp mem with mem | mem
    · exact isDigit_of_mem_zeros mem
    · exact all c mem
  have value : Numeral.ofDigits (zeros (k + 1) ++ Nat.toDigits 10 n) = n := by
    rw [Numeral.ofDigits_append, Numeral.ofDigits_zeros, Numeral.ofDigits_toDigits, Nat.zero_mul,
      Nat.zero_add]
  have denotes := denotes_point .zero fraction
  rw [show ['0'] ++ (zeros k ++ Nat.toDigits 10 n) = zeros (k + 1) ++ Nat.toDigits 10 n from rfl,
    value] at denotes
  simpa [zeros] using denotes

theorem wholePart_of_head? (h : n ≠ 0) (same : text.head? = (Nat.toDigits 10 n).head?)
    (all : ∀ c ∈ text, c.isDigit = true) : WholePart text := by
  have head := Numeral.head?_toDigits h
  obtain ⟨d, more, first, -⟩ := exists_digit (Numeral.digits_toDigits n)
  rw [← same] at head
  refine Numeral.wholePart_of ⟨?_, all⟩ head
  rintro rfl
  rw [first] at same
  cases same

/-- All digits before the point, and a zero after it. -/
theorem denotes_whole (h : n ≠ 0) (k : Nat) :
    Denotes (Nat.toDigits 10 n ++ zeros k ++ ".0".toList) (n * 10 ^ (k + 1)) (-1) := by
  obtain ⟨d, more, first, -⟩ := exists_digit (Numeral.digits_toDigits n)
  have whole : WholePart (Nat.toDigits 10 n ++ zeros k) := by
    refine wholePart_of_head? h (by simp [first]) fun c mem => ?_
    rcases List.mem_append.mp mem with mem | mem
    · exact (Numeral.digits_toDigits n).2 c mem
    · exact isDigit_of_mem_zeros mem
  have value : Numeral.ofDigits (Nat.toDigits 10 n ++ zeros k ++ ['0']) = n * 10 ^ (k + 1) := by
    have zero : Numeral.ofDigits ['0'] = 0 := rfl
    rw [Numeral.ofDigits_append, Numeral.ofDigits_append, Numeral.ofDigits_zeros,
      Numeral.ofDigits_toDigits, zero]
    simp [zeros, Nat.pow_succ, Nat.mul_assoc]
  have denotes := denotes_point whole digits_zero
  rw [value] at denotes
  exact denotes

theorem wholePart_take (h : n ≠ 0) {k : Nat} (pos : 0 < k) :
    WholePart ((Nat.toDigits 10 n).take k) := by
  refine wholePart_of_head? h ?_ fun c mem =>
    (Numeral.digits_toDigits n).2 c (List.mem_of_mem_take mem)
  rw [List.head?_take, if_neg (by omega)]

theorem digits_drop (n : Nat) {k : Nat} (lt : k < (Nat.toDigits 10 n).length) :
    Digits ((Nat.toDigits 10 n).drop k) := by
  refine ⟨fun none => ?_, fun c mem => (Numeral.digits_toDigits n).2 c (List.mem_of_mem_drop mem)⟩
  have := List.drop_eq_nil_iff.mp none
  omega

/-- The point among the digits. -/
theorem denotes_split (h : n ≠ 0) {k : Nat} (pos : 0 < k) (lt : k < (Nat.toDigits 10 n).length) :
    Denotes ((Nat.toDigits 10 n).take k ++ '.' :: (Nat.toDigits 10 n).drop k) n
      (-((Nat.toDigits 10 n).length - k : Nat)) := by
  have denotes := denotes_point (wholePart_take h pos) (digits_drop n lt)
  rw [List.take_append_drop, Numeral.ofDigits_toDigits, List.length_drop] at denotes
  exact denotes

theorem exponent_of (x : Int) :
    Exponent ('e' :: (if x < 0 then '-' else '+') :: Nat.toDigits 10 x.natAbs) := by
  have digits := Numeral.digits_toDigits x.natAbs
  split
  · have minus : ['-'] = [] ∨ ['-'] = ['+'] ∨ ['-'] = ['-'] := .inr (.inr rfl)
    exact .digits (.inl rfl) minus digits
  · have plus : ['+'] = [] ∨ ['+'] = ['+'] ∨ ['+'] = ['-'] := .inr (.inl rfl)
    exact .digits (.inl rfl) plus digits

theorem readExponent?_of (x : Int) : Numeral.readExponent?
    ('e' :: (if x < 0 then '-' else '+') :: Nat.toDigits 10 x.natAbs) = some x := by
  have digits := Numeral.digits_toDigits x.natAbs
  rw [Numeral.readExponent?, if_pos (.inl rfl)]
  split
  case isTrue negative =>
    have read := Numeral.readInteger?_digits true digits
    rw [Numeral.ofDigits_toDigits, if_pos rfl] at read
    exact read.trans (congrArg some (by omega))
  case isFalse positive =>
    rw [Numeral.readInteger?_plus digits, Numeral.ofDigits_toDigits]
    exact congrArg some (by omega)

theorem denotes_scientific (h : n ≠ 0) (p : Int) :
    Denotes (scientificText (Nat.toDigits 10 n) p) n (p - (Nat.toDigits 10 n).length) := by
  have some : 0 < (Nat.toDigits 10 n).length := Nat.length_toDigits_pos
  have fraction : ∃ fraction, (if (Nat.toDigits 10 n).length ≤ 1 then []
      else '.' :: (Nat.toDigits 10 n).drop 1) = fraction ∧ Fraction fraction
      ∧ fraction.drop 1 = (Nat.toDigits 10 n).drop 1 := by
    refine ⟨_, rfl, ?_⟩
    split
    case isTrue single => exact ⟨.absent, (List.drop_eq_nil_of_le single).symm⟩
    case isFalse => exact ⟨.digits (digits_drop n (by omega)), rfl⟩
  obtain ⟨fraction, eq, right, same⟩ := fraction
  have denotes := Denotes.parts (wholePart_take h Nat.one_pos) right (exponent_of (p - 1))
    (readExponent?_of (p - 1))
  rw [same, List.take_append_drop, Numeral.ofDigits_toDigits, List.length_drop] at denotes
  simp only [scientificText, eq, List.append_assoc]
  convert denotes using 1
  omega

theorem exists_denotes_positional (h : n ≠ 0) (p : Int) : ∃ k : Nat,
    Denotes (document.positionalText (Nat.toDigits 10 n) ((Nat.toDigits 10 n).length + p))
      (n * 10 ^ k) (p - k) := by
  unfold positionalText
  split
  case isTrue below =>
    have denotes := denotes_below n (-((Nat.toDigits 10 n).length + p)).toNat
    refine ⟨0, ?_⟩
    convert denotes using 1 <;> omega
  case isFalse above =>
    split
    case isTrue whole =>
      have denotes := denotes_whole h p.toNat
      refine ⟨p.toNat + 1, ?_⟩
      convert denotes using 1
      · rw [show ((Nat.toDigits 10 n).length + p).toNat - (Nat.toDigits 10 n).length = p.toNat by
          omega]
        rfl
      · omega
    case isFalse part =>
      obtain ⟨k, places⟩ : ∃ k, ((Nat.toDigits 10 n).length + p).toNat = k := ⟨_, rfl⟩
      have denotes := denotes_split h (show 0 < k by omega) (by omega)
      rw [places]
      refine ⟨0, ?_⟩
      convert denotes using 1 <;> omega

/-- The text of a magnitude denotes its shortest digits, up to zeros behind them. -/
theorem exists_denotes (nonzero : m.significand ≠ 0) : ∃ k : Nat,
    Denotes (document.magnitude m) (m.shortest.digits * 10 ^ k) (m.shortest.exponent - k) := by
  have some : m.shortest.digits ≠ 0 :=
    Magnitude.ne_zero_of_owns (Magnitude.has_shortest m) nonzero
  unfold magnitude
  rw [if_neg nonzero]
  dsimp only
  split
  case isTrue => exact exists_denotes_positional some _
  case isFalse =>
    have denotes := denotes_scientific some
      ((Nat.toDigits 10 m.shortest.digits).length + m.shortest.exponent)
    refine ⟨0, ?_⟩
    convert denotes using 1 <;> omega

/-! ### Reading back -/

theorem denotes_zero : Denotes ('0' :: document.wholeEnd) 0 (-1) :=
  denotes_point .zero digits_zero

/-- The text of a magnitude is a number, which is read as the magnitude. -/
theorem exists_numeral (m : Magnitude) : ∃ c e, Denotes (document.magnitude m) c e ∧
    ∀ negative, Numeral.nearest ⟨negative, c, e⟩ = .finite negative m := by
  by_cases nonzero : m.significand = 0
  · obtain rfl := Magnitude.eq_zero nonzero
    exact ⟨0, -1, denotes_zero, fun negative => rfl⟩
  · obtain ⟨k, denotes⟩ := exists_denotes nonzero
    have owned := (Magnitude.owns_shift k).mpr (Magnitude.has_shortest m)
    exact ⟨_, _, denotes, fun negative => Numeral.nearest_of_owns owned⟩

variable {x : Binary64}

theorem number_document (finite : x.isFinite = true) : Number (document.text x) := by
  cases x with
  | finite negative m =>
    obtain ⟨c, e, denotes, -⟩ := exists_numeral m
    exact denotes.number negative
  | infinite => cases finite
  | nan => cases finite

theorem readFinite?_document (finite : x.isFinite = true) :
    Binary64.readFinite? (document.text x) = some x := by
  cases x with
  | finite negative m =>
    obtain ⟨c, e, denotes, nearest⟩ := exists_numeral m
    have read := denotes.read? negative
    simp [Binary64.readFinite?, text, read, nearest, Binary64.isFinite]
  | infinite => cases finite
  | nan => cases finite

end TraceWeave.Layout
