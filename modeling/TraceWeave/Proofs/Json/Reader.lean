import TraceWeave.Json.Reader
import TraceWeave.Proofs.Json.Grammar

/-! The reader reads every text of a value as that value (`read?_of_spells`): whatever the blanks,
the escapes and the form of the numbers.

A value may stand before anything but a character of numbers, since that would prolong a number. -/

namespace TraceWeave.Json.Reader

/-- What may follow a value. -/
def Ends (rest : List Char) : Prop := ∀ c ∈ rest.head?, isNumberChar c = false

variable {c : Char} {s : String} {blank text rest : List Char} {fuel : Nat}

/-! ### Blanks -/

theorem isBlank_of_mem (h : Blank blank) (mem : c ∈ blank) : isBlank c = true := by
  rcases h c mem with rfl | rfl | rfl | rfl <;> rfl

theorem skip_blank (h : Blank blank) (rest : List Char) : skip (blank ++ rest) = skip rest :=
  List.dropWhile_append_of_pos fun _ mem => isBlank_of_mem h mem

theorem skip_cons (h : isBlank c = false) : skip (c :: rest) = c :: rest := by
  simp [skip, h]

theorem skip_skip (text : List Char) : skip (skip text) = skip text := by
  induction text with
  | nil => rfl
  | cons c text ih =>
    cases h : isBlank c with
    | false => rw [skip_cons h, skip_cons h]
    | true => simpa [skip, h] using ih

theorem value_skip (fuel : Nat) (text : List Char) : value fuel (skip text) = value fuel text := by
  cases fuel <;> simp [value, skip_skip]

theorem value_blank (h : Blank blank) (fuel : Nat) (text : List Char) :
    value fuel (blank ++ text) = value fuel text := by
  rw [← value_skip, skip_blank h, value_skip]

theorem items_skip (fuel : Nat) (text : List Char) : items fuel (skip text) = items fuel text := by
  cases fuel <;> simp [items, value_skip]

theorem members_skip (fuel : Nat) (text : List Char) :
    members fuel (skip text) = members fuel text := by
  cases fuel <;> simp [members, skip_skip]

theorem ends_nil : Ends [] := nofun

theorem ends_cons (h : isNumberChar c = false) (rest : List Char) : Ends (c :: rest) := by
  simpa [Ends]

theorem ends_blank (h : Blank blank) (ends : Ends rest) : Ends (blank ++ rest) := by
  cases blank with
  | nil => exact ends
  | cons c blank =>
    have plain : isNumberChar c = false := by
      rcases h c (by simp) with rfl | rfl | rfl | rfl <;> decide
    exact ends_cons plain _

/-! ### Numbers -/

theorem isDigits_of (h : Digits text) : isDigits text = true := by
  simp [isDigits, h.1, List.all_eq_true.mpr h.2]

theorem isNumberChar_of_isDigit (h : c.isDigit = true) : isNumberChar c = true := by
  simp [isNumberChar, h]

theorem isExponent_of {sign : List Char} (h : sign = [] ∨ sign = ['+'] ∨ sign = ['-'])
    (digits : Digits text) : isExponent (sign ++ text) = true := by
  have right := isDigits_of digits
  obtain ⟨d, more, rfl, digit⟩ := exists_digit digits
  rcases h with rfl | rfl | rfl
  · -- no sign, and the first digit is none
    unfold isExponent
    split
    case h_1 heq => cases heq; cases digit
    case h_2 heq => cases heq; cases digit
    case h_3 => exact right
  · exact right
  · exact right

theorem isTail_of {fraction exponent : List Char} (h : Fraction fraction) (h' : Exponent exponent) :
    isTail (fraction ++ exponent) = true := by
  have plain : ∀ c ∈ fraction, (!(decide (c = 'e') || decide (c = 'E'))) = true := by
    cases h with
    | absent => nofun
    | digits digits =>
      intro c mem
      rcases List.mem_cons.mp mem with rfl | mem
      · rfl
      · have digit := digits.2 c mem
        have : c ≠ 'e' := by rintro rfl; cases digit
        have : c ≠ 'E' := by rintro rfl; cases digit
        simp [*]
  have mark : ∀ c ∈ exponent.head?, (!(decide (c = 'e') || decide (c = 'E'))) = false := by
    intro c first
    rcases mark_of_exponent h' c first with rfl | rfl <;> rfl
  simp only [isTail, takeWhile_all plain mark, dropWhile_all plain mark, Bool.and_eq_true]
  refine ⟨?_, ?_⟩
  · cases h with
    | absent => rfl
    | digits digits => exact isDigits_of digits
  · cases h' with
    | absent => rfl
    | digits _ sign digits => exact isExponent_of sign digits

theorem isUnsigned_of {whole fraction exponent : List Char} (h : WholePart whole)
    (h' : Fraction fraction) (h'' : Exponent exponent) :
    isUnsigned (whole ++ (fraction ++ exponent)) = true := by
  have digits := digits_of_wholePart h
  have stop := not_digit_of_tail h' h''
  simp [isUnsigned, takeWhile_all digits.2 stop, dropWhile_all digits.2 stop, isTail_of h' h'',
    digits.1, short_of_wholePart h]

theorem exists_first (h : Number text) :
    ∃ c more, text = c :: more ∧ (c = '-' ∨ c.isDigit = true) := by
  obtain ⟨sign, whole, -, -⟩ := h
  obtain ⟨d, more, rfl, digit⟩ := exists_digit (digits_of_wholePart whole)
  rcases sign with rfl | rfl
  · exact ⟨d, _, rfl, .inr digit⟩
  · exact ⟨'-', _, rfl, .inl rfl⟩

theorem isNumber_of (h : Number text) : isNumber text = true := by
  obtain ⟨sign, whole, fraction, exponent⟩ := h
  have right := isUnsigned_of whole fraction exponent
  obtain ⟨d, more, rfl, digit⟩ := exists_digit (digits_of_wholePart whole)
  rcases sign with rfl | rfl
  · unfold isNumber
    split
    case h_1 heq => cases heq; cases digit
    case h_2 => exact right
  · exact right

theorem isNumberChar_of (h : Number text) : ∀ c ∈ text, isNumberChar c = true := by
  obtain ⟨sign, whole, fraction, exponent⟩ := h
  have digits : ∀ {text}, Digits text → ∀ c ∈ text, isNumberChar c = true :=
    fun digits c mem => isNumberChar_of_isDigit (digits.2 c mem)
  simp only [List.mem_append]
  rintro c (mem | mem | mem | mem)
  · rcases sign with rfl | rfl
    · cases mem
    · obtain rfl := List.mem_singleton.mp mem; decide
  · exact digits (digits_of_wholePart whole) c mem
  · cases fraction with
    | absent => cases mem
    | digits places =>
      rcases List.mem_cons.mp mem with rfl | mem
      · decide
      · exact digits places c mem
  · cases exponent with
    | absent => cases mem
    | digits mark sign places =>
      rcases List.mem_cons.mp mem with rfl | mem
      · rcases mark with rfl | rfl <;> decide
      rcases List.mem_append.mp mem with mem | mem
      · rcases sign with rfl | rfl | rfl
        · cases mem
        · obtain rfl := List.mem_singleton.mp mem; decide
        · obtain rfl := List.mem_singleton.mp mem; decide
      · exact digits places c mem

theorem number_of (h : Number text) (ends : Ends rest) :
    number (text ++ rest) = some (.number text, rest) := by
  have all := isNumberChar_of h
  simp [number, takeWhile_all all ends, dropWhile_all all ends, isNumber_of h]

theorem find?_literals (h : Number text) (rest : List Char) :
    literals.find? (fun (name, _) => name.isPrefixOf (text ++ rest)) = none := by
  obtain ⟨c, more, rfl, first⟩ := exists_first h
  have other : c ≠ 'n' ∧ c ≠ 't' ∧ c ≠ 'f' := by
    refine ⟨?_, ?_, ?_⟩ <;> (rintro rfl; rcases first with ⟨⟨⟩⟩ | ⟨⟨⟩⟩)
  simp [literals, List.isPrefixOf, other.1.symm, other.2.1.symm, other.2.2.symm]

theorem scalar_number (h : Number text) (ends : Ends rest) :
    scalar (text ++ rest) = some (.number text, rest) := by
  unfold scalar
  rw [find?_literals h rest]
  exact number_of h ends

/-! ### Strings -/

theorem char?_toNat (c : Char) : char? c.toNat = some c := by
  have valid : c.toNat.isValidChar := c.valid
  simp [char?, valid]

/-- Halves of surrogate pairs are no characters. -/
theorem char?_surrogate {code : Nat} (h : 0xD800 ≤ code) (h' : code < 0xE000) :
    char? code = none := by
  have invalid : ¬ code.isValidChar := by unfold Nat.isValidChar; omega
  simp [char?, invalid]

theorem paired?_of {high low : Nat} (h : 0xD800 ≤ high ∧ high < 0xDC00)
    (h' : 0xDC00 ≤ low ∧ low < 0xE000) :
    paired? high low = some (0x10000 + (high - 0xD800) * 0x400 + (low - 0xDC00)) :=
  if_pos ⟨h.1, h.2, h'⟩

theorem hexValue?_of_mem : ∀ entry ∈ hexDigits, hexValue? entry.1 = some entry.2 := by decide

theorem exists_code? {code : Nat} {digits : List Char} (h : SpellsCode code digits) :
    ∃ x y z w, digits = [x, y, z, w] ∧ code? x y z w = some code := by
  obtain ⟨first, second, third, fourth⟩ := h
  refine ⟨_, _, _, _, rfl, ?_⟩
  simp [code?, hexValue?_of_mem _ first, hexValue?_of_mem _ second, hexValue?_of_mem _ third,
    hexValue?_of_mem _ fourth]

theorem short?_of_mem : ∀ entry ∈ shortEscapes,
    short? entry.1 = some entry.2 ∧ entry.1 ≠ 'u' := by decide

theorem stringBody_of {chars : List Char} (h : SpellsChars chars text) (rest : List Char) :
    stringBody (text ++ '"' :: rest) = some (chars, rest) := by
  induction h with
  | nil => rfl
  | @cons c _ _ _ first _ ih =>
    rw [List.append_assoc]
    have same := char?_toNat c
    cases first with
    | plain low _ backslash =>
      have visible : ¬ c.toNat < 0x20 := Nat.not_lt.mpr low
      simp [stringBody, backslash, visible, ih]
    | short mem =>
      obtain ⟨short, other⟩ := short?_of_mem _ mem
      simp [stringBody, other, short, ih]
    | code spelled =>
      obtain ⟨x, y, z, w, rfl, code⟩ := exists_code? spelled
      simp [stringBody, code, same, ih]
    | pair spelled spelled' first second sum =>
      obtain ⟨x, y, z, w, rfl, high⟩ := exists_code? spelled
      obtain ⟨x', y', z', w', rfl, low⟩ := exists_code? spelled'
      have half := char?_surrogate first.1 (by omega)
      have pair := paired?_of first second
      rw [← sum] at pair
      simp [stringBody, high, low, half, pair, same, ih]

/-! ### Values -/

theorem value_string (h : SpellsString s text) (fuel : Nat) (rest : List Char) :
    value (fuel + 1) (text ++ rest) = some (.string s, rest) := by
  obtain ⟨chars⟩ := h
  simp [value, skip_cons, isBlank, stringBody_of chars]

theorem isBlank_eq_false (h : c.isDigit = true) : isBlank c = false := by
  have other : c ≠ ' ' ∧ c ≠ '\t' ∧ c ≠ '\n' ∧ c ≠ '\r' := by
    refine ⟨?_, ?_, ?_, ?_⟩ <;> (rintro rfl; cases h)
  simp [isBlank, other]

/-- The first character of a value is not a blank and does not close an array. -/
theorem exists_head {v : Json} (h : Spells v text) :
    ∃ c more, text = c :: more ∧ isBlank c = false ∧ c ≠ ']' := by
  cases h with
  | number number =>
    obtain ⟨c, more, rfl, rfl | digit⟩ := exists_first number
    · exact ⟨_, more, rfl, rfl, by decide⟩
    · exact ⟨c, more, rfl, isBlank_eq_false digit, by rintro rfl; cases digit⟩
  | string string => cases string; exact ⟨_, _, rfl, rfl, by decide⟩
  | null | true | false | emptyArray | array | emptyObject | object =>
    exact ⟨_, _, rfl, rfl, by decide⟩

theorem head_skip_items {found : List Json} (h : SpellsItems found text) (rest : List Char) :
    (skip (text ++ rest)).head? ≠ some ']' := by
  have first {before text after : List Char} {v : Json} (blank : Blank before) (v : Spells v text) :
      (skip (before ++ (text ++ after))).head? ≠ some ']' := by
    obtain ⟨c, more, rfl, solid, other⟩ := exists_head v
    rw [skip_blank blank, List.cons_append, skip_cons solid]
    simpa using other
  cases h with
  | last before item _ => simpa only [List.append_assoc] using first before item
  | more before item _ _ => simpa only [List.append_assoc] using first before item

theorem head_skip_members {found : List (String × Json)} (h : SpellsMembers found text)
    (rest : List Char) : (skip (text ++ rest)).head? ≠ some '\x7d' := by
  have first {before text after : List Char} {member : String × Json} (blank : Blank before)
      (spells : SpellsMember member text) :
      (skip (before ++ (text ++ after))).head? ≠ some '\x7d' := by
    obtain ⟨⟨_⟩, _, _, _⟩ := spells
    rw [skip_blank blank]
    simp [skip_cons, isBlank]
  cases h with
  | last before member _ => simpa only [List.append_assoc] using first before member
  | more before member _ _ => simpa only [List.append_assoc] using first before member

theorem value_number (h : Number text) (fuel : Nat) (ends : Ends rest) :
    value (fuel + 1) (text ++ rest) = some (.number text, rest) := by
  have scalar := scalar_number h ends
  obtain ⟨c, more, rfl, first⟩ := exists_first h
  have solid : isBlank c = false := by
    rcases first with rfl | digit
    · rfl
    · exact isBlank_eq_false digit
  simp only [value, List.cons_append, skip_cons solid]
  split
  case h_1 heq => cases heq; rcases first with ⟨⟨⟩⟩ | ⟨⟨⟩⟩
  case h_2 heq => cases heq; rcases first with ⟨⟨⟩⟩ | ⟨⟨⟩⟩
  case h_3 heq => cases heq; rcases first with ⟨⟨⟩⟩ | ⟨⟨⟩⟩
  case h_4 => exact scalar

theorem value_array {found : List Json} {following : List Char}
    (head : (skip text).head? ≠ some ']') (inside : items fuel text = some (found, following)) :
    value (fuel + 1) ('[' :: text) = some (.array found, following) := by
  have opened : skip ('[' :: text) = '[' :: text := skip_cons rfl
  simp only [value, opened]
  split
  case h_1 closed => rw [closed] at head; exact absurd rfl head
  case h_2 => rw [items_skip, inside]; rfl

theorem value_object {found : List (String × Json)} {following : List Char}
    (head : (skip text).head? ≠ some '\x7d') (inside : members fuel text = some (found, following)) :
    value (fuel + 1) ('\x7b' :: text) = some (.object found, following) := by
  have opened : skip ('\x7b' :: text) = '\x7b' :: text := skip_cons rfl
  simp only [value, opened]
  split
  case h_1 closed => rw [closed] at head; exact absurd rfl head
  case h_2 => rw [members_skip, inside]; rfl

theorem items_last {item : Json} {following : List Char}
    (first : value fuel text = some (item, following)) (close : skip following = ']' :: rest) :
    items (fuel + 1) text = some ([item], rest) := by
  simp [items, first, close]

theorem items_more {item : Json} {more : List Json} {following next : List Char}
    (first : value fuel text = some (item, following)) (comma : skip following = ',' :: next)
    (others : items fuel next = some (more, rest)) :
    items (fuel + 1) text = some (item :: more, rest) := by
  simp [items, first, comma, others]

section Members

variable {name between following next : List Char} {v : Json} {more : List (String × Json)}

theorem members_last (key : SpellsString s name) (h : Blank between)
    (first : value fuel text = some (v, following)) (close : skip following = '\x7d' :: rest) :
    members (fuel + 1) (name ++ (between ++ ':' :: text)) = some ([(s, v)], rest) := by
  obtain ⟨chars⟩ := key
  simp [members, skip_cons, isBlank, stringBody_of chars, skip_blank h, first, close]

theorem members_more (key : SpellsString s name) (h : Blank between)
    (first : value fuel text = some (v, following)) (comma : skip following = ',' :: next)
    (others : members fuel next = some (more, rest)) :
    members (fuel + 1) (name ++ (between ++ ':' :: text)) = some ((s, v) :: more, rest) := by
  obtain ⟨chars⟩ := key
  simp [members, skip_cons, isBlank, stringBody_of chars, skip_blank h, first, comma, others]

end Members

-- The recursion is on the value. Each level of nesting takes at least one character of the text, so
-- fuel beyond its length suffices; items and members need one more, for the step to their values.
mutual

theorem value_of : ∀ {v : Json} {text : List Char}, Spells v text → ∀ (fuel : Nat)
    {rest : List Char}, text.length < fuel → Ends rest → value fuel (text ++ rest) = some (v, rest)
  | .null, _, spells, fuel + 1, rest, _, _ => by cases spells; rfl
  | .bool value, _, spells, fuel + 1, rest, _, _ => by cases spells <;> rfl
  | .string _, _, spells, fuel + 1, rest, _, _ => by
    cases spells with
    | string string => exact value_string string fuel rest
  | .number _, _, spells, fuel + 1, rest, _, ends => by
    cases spells with
    | number number => exact value_number number fuel ends
  | .array items, _, spells, fuel + 1, rest, enough, _ => by
    cases spells with
    | emptyArray blank => simp [value, skip_cons, isBlank, skip_blank blank]
    | array inside =>
      have found := items_of inside fuel rest (by simp at enough; omega)
      simpa using value_array (head_skip_items inside _) found
  | .object members, _, spells, fuel + 1, rest, enough, _ => by
    cases spells with
    | emptyObject blank => simp [value, skip_cons, isBlank, skip_blank blank]
    | object inside =>
      have found := members_of inside fuel rest (by simp at enough; omega)
      simpa using value_object (head_skip_members inside _) found

theorem items_of : ∀ {found : List Json} {text : List Char}, SpellsItems found text →
    ∀ (fuel : Nat) (rest : List Char), text.length + 1 < fuel →
    items fuel (text ++ ']' :: rest) = some (found, rest)
  | [], _, spells, _, _, _ => by cases spells
  | _ :: _, _, spells, fuel + 1, rest, enough => by
    cases spells with
    | last before item after =>
      have ends := ends_blank after (ends_cons (c := ']') rfl rest)
      have first := value_of item fuel (by simp at enough; omega) ends
      rw [← value_blank before] at first
      simpa using items_last first (by rw [skip_blank after]; exact skip_cons rfl)
    | @more _ _ _ _ _ next before item after more =>
      have ends := ends_blank after (ends_cons (c := ',') rfl (next ++ ']' :: rest))
      have first := value_of item fuel (by simp at enough; omega) ends
      have others := items_of more fuel rest (by simp at enough; omega)
      rw [← value_blank before] at first
      simpa using items_more first (by rw [skip_blank after]; exact skip_cons rfl) others

theorem members_of : ∀ {found : List (String × Json)} {text : List Char},
    SpellsMembers found text → ∀ (fuel : Nat) (rest : List Char), text.length + 1 < fuel →
    members fuel (text ++ '\x7d' :: rest) = some (found, rest)
  | [], _, spells, _, _, _ => by cases spells
  | (_, _) :: _, _, spells, fuel + 1, rest, enough => by
    cases spells with
    | last before member after =>
      obtain ⟨key, between, blank, spells⟩ := member
      have ends := ends_blank after (ends_cons (c := '\x7d') rfl rest)
      have first := value_of spells fuel (by simp at enough; omega) ends
      rw [← value_blank blank] at first
      rw [List.append_assoc, ← members_skip, skip_blank before, members_skip]
      simpa using members_last key between first (by rw [skip_blank after]; exact skip_cons rfl)
    | @more _ _ _ _ _ next before member after more =>
      obtain ⟨key, between, blank, spells⟩ := member
      have ends := ends_blank after (ends_cons (c := ',') rfl (next ++ '\x7d' :: rest))
      have first := value_of spells fuel (by simp at enough; omega) ends
      have others := members_of more fuel rest (by simp at enough; omega)
      rw [← value_blank blank] at first
      rw [List.append_assoc, ← members_skip, skip_blank before, members_skip]
      simpa using members_more key between first (by rw [skip_blank after]; exact skip_cons rfl)
        others

end

end Reader

/-- Every text of a value is read as that value. -/
theorem read?_of_spells {value : Json} {text : String} (h : SpellsDocument value text) :
    read? text = some value := by
  obtain @⟨before, chars, after, blank, spells, blank'⟩ := h
  have ends := Reader.ends_blank blank' Reader.ends_nil
  have enough : chars.length < (before ++ (chars ++ after)).length + 1 := by simp; omega
  have found := Reader.value_of spells _ enough ends
  have done : Reader.skip (after ++ []) = [] := Reader.skip_blank blank' []
  rw [← Reader.value_blank blank, List.append_nil] at found
  rw [List.append_nil] at done
  simp only [read?, String.toList_ofList, found, Option.bind_eq_bind, Option.bind_some, done]
  rfl

end TraceWeave.Json
