import TraceWeave.Json

/-! The grammar of JSON texts, as RFC 8259 has it: which texts spell a value.

A value has many texts, with blanks around any token and several spellings of most characters. The
document made of a value is among them, in either style (`spellsDocument_document`), provided that
its numbers are numbers of the grammar (`Numeric`). -/

namespace TraceWeave.Json

def Blank (text : List Char) : Prop := ∀ c ∈ text, c = ' ' ∨ c = '\t' ∨ c = '\n' ∨ c = '\r'

/-! ### Numbers -/

def Digits (text : List Char) : Prop := text ≠ [] ∧ ∀ c ∈ text, c.isDigit = true

/-- Digits without a needless zero in front. -/
inductive WholePart : List Char → Prop where
  | zero : WholePart ['0']
  | digits {c : Char} {rest : List Char} : c ≠ '0' → Digits (c :: rest) → WholePart (c :: rest)

inductive Fraction : List Char → Prop where
  | absent : Fraction []
  | digits {digits : List Char} : Digits digits → Fraction ('.' :: digits)

inductive Exponent : List Char → Prop where
  | absent : Exponent []
  | digits {mark : Char} {sign digits : List Char} : mark = 'e' ∨ mark = 'E' →
      sign = [] ∨ sign = ['+'] ∨ sign = ['-'] → Digits digits → Exponent (mark :: (sign ++ digits))

inductive Number : List Char → Prop where
  | parts {sign whole fraction exponent : List Char} : sign = [] ∨ sign = ['-'] →
      WholePart whole → Fraction fraction → Exponent exponent →
      Number (sign ++ (whole ++ (fraction ++ exponent)))

section

variable {text rest : List Char}

theorem exists_digit (h : Digits text) : ∃ d more, text = d :: more ∧ d.isDigit = true := by
  obtain ⟨nonempty, all⟩ := h
  cases text with
  | nil => exact absurd rfl nonempty
  | cons d more => exact ⟨d, more, rfl, all d (by simp)⟩

theorem digits_zero : Digits ['0'] := by
  refine ⟨nofun, fun c mem => ?_⟩
  rw [List.mem_singleton.mp mem]
  rfl

theorem digits_of_wholePart (h : WholePart text) : Digits text := by
  cases h with
  | zero => exact digits_zero
  | digits _ digits => exact digits

theorem short_of_wholePart (h : WholePart text) : text.head? ≠ some '0' ∨ text.length = 1 := by
  cases h with
  | zero => exact .inr rfl
  | digits nonzero _ => exact .inl (by simpa using nonzero)

theorem mark_of_exponent (h : Exponent text) : ∀ c ∈ text.head?, c = 'e' ∨ c = 'E' := by
  cases h with
  | absent => nofun
  | digits mark _ _ => rintro c ⟨⟩; exact mark

/-- The whole part ends at the fraction, the exponent or the end of the number. -/
theorem not_digit_of_tail {fraction exponent : List Char} (h : Fraction fraction)
    (h' : Exponent exponent) : ∀ c ∈ (fraction ++ exponent).head?, c.isDigit = false := by
  cases h with
  | absent =>
    intro c first
    rcases mark_of_exponent h' c first with rfl | rfl <;> rfl
  | digits _ => rintro c ⟨⟩; rfl

theorem takeWhile_all {p : Char → Bool} (all : ∀ c ∈ text, p c = true)
    (stop : ∀ c ∈ rest.head?, p c = false) : (text ++ rest).takeWhile p = text := by
  rw [List.takeWhile_append_of_pos all]
  cases rest with
  | nil => simp
  | cons c rest => simp [stop c rfl]

theorem dropWhile_all {p : Char → Bool} (all : ∀ c ∈ text, p c = true)
    (stop : ∀ c ∈ rest.head?, p c = false) : (text ++ rest).dropWhile p = rest := by
  rw [List.dropWhile_append_of_pos all]
  cases rest with
  | nil => simp
  | cons c rest => simp [stop c rfl]

end

/-! ### Strings -/

def shortEscapes : List (Char × Char) :=
  [('"', '"'), ('\\', '\\'), ('/', '/'), ('b', '\x08'), ('f', '\x0c'), ('n', '\n'), ('r', '\r'),
    ('t', '\t')]

def hexDigits : List (Char × Nat) := "0123456789abcdef".toList.zipIdx ++ "ABCDEF".toList.zipIdx 10

inductive SpellsCode : Nat → List Char → Prop where
  | digits {x y z w : Char} {a b c d : Nat} : (x, a) ∈ hexDigits → (y, b) ∈ hexDigits →
      (z, c) ∈ hexDigits → (w, d) ∈ hexDigits →
      SpellsCode (((16 * a + b) * 16 + c) * 16 + d) [x, y, z, w]

/-- The spellings of a character between quotes. A character beyond the codes of four digits is
spelled by a pair of surrogates. -/
inductive SpellsChar : Char → List Char → Prop where
  | plain {c : Char} : 0x20 ≤ c.toNat → c ≠ '"' → c ≠ '\\' → SpellsChar c [c]
  | short {letter c : Char} : (letter, c) ∈ shortEscapes → SpellsChar c ['\\', letter]
  | code {c : Char} {digits : List Char} : SpellsCode c.toNat digits →
      SpellsChar c ('\\' :: 'u' :: digits)
  | pair {c : Char} {high low : Nat} {digits digits' : List Char} : SpellsCode high digits →
      SpellsCode low digits' → 0xD800 ≤ high ∧ high < 0xDC00 → 0xDC00 ≤ low ∧ low < 0xE000 →
      c.toNat = 0x10000 + (high - 0xD800) * 0x400 + (low - 0xDC00) →
      SpellsChar c ('\\' :: 'u' :: (digits ++ '\\' :: 'u' :: digits'))

inductive SpellsChars : List Char → List Char → Prop where
  | nil : SpellsChars [] []
  | cons {c : Char} {chars text rest : List Char} : SpellsChar c text → SpellsChars chars rest →
      SpellsChars (c :: chars) (text ++ rest)

inductive SpellsString (s : String) : List Char → Prop where
  | quoted {text : List Char} : SpellsChars s.toList text → SpellsString s ('"' :: (text ++ ['"']))

/-! ### Values -/

mutual

inductive Spells : Json → List Char → Prop where
  | null : Spells .null "null".toList
  | true : Spells (.bool true) "true".toList
  | false : Spells (.bool false) "false".toList
  | number {text : List Char} : Number text → Spells (.number text) text
  | string {s : String} {text : List Char} : SpellsString s text → Spells (.string s) text
  | emptyArray {blank : List Char} : Blank blank → Spells (.array []) ('[' :: (blank ++ [']']))
  | array {items : List Json} {text : List Char} : SpellsItems items text →
      Spells (.array items) ('[' :: (text ++ [']']))
  | emptyObject {blank : List Char} : Blank blank →
      Spells (.object []) ('\x7b' :: (blank ++ ['\x7d']))
  | object {members : List (String × Json)} {text : List Char} : SpellsMembers members text →
      Spells (.object members) ('\x7b' :: (text ++ ['\x7d']))

inductive SpellsItems : List Json → List Char → Prop where
  | last {item : Json} {before text after : List Char} : Blank before → Spells item text →
      Blank after → SpellsItems [item] (before ++ (text ++ after))
  | more {item : Json} {items : List Json} {before text after rest : List Char} : Blank before →
      Spells item text → Blank after → SpellsItems items rest →
      SpellsItems (item :: items) (before ++ (text ++ (after ++ ',' :: rest)))

inductive SpellsMember : String × Json → List Char → Prop where
  | pair {key : String} {value : Json} {name between before text : List Char} :
      SpellsString key name → Blank between → Blank before → Spells value text →
      SpellsMember (key, value) (name ++ (between ++ ':' :: (before ++ text)))

inductive SpellsMembers : List (String × Json) → List Char → Prop where
  | last {member : String × Json} {before text after : List Char} : Blank before →
      SpellsMember member text → Blank after → SpellsMembers [member] (before ++ (text ++ after))
  | more {member : String × Json} {members : List (String × Json)}
      {before text after rest : List Char} : Blank before → SpellsMember member text →
      Blank after → SpellsMembers members rest →
      SpellsMembers (member :: members) (before ++ (text ++ (after ++ ',' :: rest)))

end

inductive SpellsDocument (value : Json) : String → Prop where
  | padded {before text after : List Char} : Blank before → Spells value text → Blank after →
      SpellsDocument value (String.ofList (before ++ (text ++ after)))

/-! ### The texts of values -/

mutual

def Numeric : Json → Prop
  | .number text => Number text
  | .array items => NumericItems items
  | .object members => NumericMembers members
  | _ => True

def NumericItems : List Json → Prop
  | [] => True
  | item :: items => Numeric item ∧ NumericItems items

def NumericMember : String × Json → Prop
  | (_, value) => Numeric value

def NumericMembers : List (String × Json) → Prop
  | [] => True
  | member :: members => NumericMember member ∧ NumericMembers members

end

theorem numericItems_iff {items : List Json} :
    NumericItems items ↔ ∀ item ∈ items, Numeric item := by
  induction items with
  | nil => simp [NumericItems]
  | cons item items ih => simp [NumericItems, ih]

theorem blank_nil : Blank [] := by simp [Blank]

theorem blank_lineBreak (style : Style) (depth : Nat) : Blank (style.lineBreak depth) := by
  intro c mem
  cases style with
  | compact => cases mem
  | indented =>
    rcases List.mem_cons.mp mem with rfl | mem
    · simp
    · exact .inl (List.eq_of_mem_replicate mem)

theorem hexDigit_mem : ∀ n < 16, (hexDigit n, n) ∈ hexDigits := by decide

theorem spellsCode_control {n : Nat} (h : n < 0x20) :
    SpellsCode n ['0', '0', hexDigit (n / 16), hexDigit (n % 16)] := by
  have zero := hexDigit_mem 0 (by decide)
  have spells := SpellsCode.digits zero zero (hexDigit_mem (n / 16) (by omega))
    (hexDigit_mem (n % 16) (by omega))
  rwa [show ((16 * 0 + 0) * 16 + n / 16) * 16 + n % 16 = n by omega] at spells

theorem spellsChar_escape (c : Char) : SpellsChar c (escape c) := by
  have named {n : Char} (h : c.toNat = n.toNat) : c = n := Char.ext (UInt32.toNat_inj.mp h)
  unfold escape
  split
  case isTrue h => subst h; exact .short (by decide)
  split
  case isTrue h => subst h; exact .short (by decide)
  split
  · exact .plain ‹_› ‹_› ‹_›
  split
  case isTrue h => subst h; exact .short (by decide)
  split
  case isTrue h => subst h; exact .short (by decide)
  split
  case isTrue h => subst h; exact .short (by decide)
  split
  case isTrue h => obtain rfl := named (n := '\x08') h; exact .short (by decide)
  split
  case isTrue h => obtain rfl := named (n := '\x0c') h; exact .short (by decide)
  · exact .code (spellsCode_control (by omega))

theorem spellsString_quote (s : String) : SpellsString s (quote s) := by
  refine .quoted ?_
  induction s.toList with
  | nil => exact .nil
  | cons c chars ih => exact .cons (spellsChar_escape c) ih

mutual

theorem spells_text (style : Style) (depth : Nat) : ∀ value : Json, Numeric value →
    Spells value (text style depth value)
  | .null, _ => .null
  | .bool true, _ => .true
  | .bool false, _ => .false
  | .number _, numeric => .number numeric
  | .string s, _ => .string (spellsString_quote s)
  | .array [], _ => .emptyArray blank_nil
  | .array (item :: items), numeric => by
    have first := spells_text style (depth + 1) item numeric.1
    have inside := spellsItems_moreItems style (depth + 1) items (blank_lineBreak style depth)
      first numeric.2
    simpa only [text, List.append_assoc] using Spells.array inside
  | .object [], _ => .emptyObject blank_nil
  | .object (member :: members), numeric => by
    have first := spellsMember_text style (depth + 1) member numeric.1
    have inside := spellsMembers_moreMembers style (depth + 1) members
      (blank_lineBreak style depth) first numeric.2
    simpa only [text, List.append_assoc] using Spells.object inside

/-- The items after one that is spelled, with the blanks in front of what closes the list. -/
theorem spellsItems_moreItems (style : Style) (depth : Nat) : ∀ (items : List Json) {item : Json}
    {text after : List Char}, Blank after → Spells item text → NumericItems items →
    SpellsItems (item :: items)
      (style.lineBreak depth ++ (text ++ (moreItems style depth items ++ after)))
  | [], _, _, _, blank, first, _ => .last (blank_lineBreak style depth) first blank
  | next :: items, _, _, _, blank, first, numeric => by
    have second := spells_text style depth next numeric.1
    have more := spellsItems_moreItems style depth items blank second numeric.2
    simpa only [moreItems, List.append_assoc, List.cons_append, List.nil_append] using
      SpellsItems.more (blank_lineBreak style depth) first blank_nil more

theorem spellsMember_text (style : Style) (depth : Nat) : ∀ member : String × Json,
    NumericMember member → SpellsMember member (memberText style depth member)
  | (key, value), numeric => by
    have inside := spells_text style depth value numeric
    cases style with
    | compact => exact .pair (spellsString_quote key) blank_nil blank_nil inside
    | indented =>
      have blank : Blank [' '] := by simp [Blank]
      exact .pair (spellsString_quote key) blank_nil blank inside

theorem spellsMembers_moreMembers (style : Style) (depth : Nat) :
    ∀ (members : List (String × Json)) {member : String × Json} {text after : List Char},
    Blank after → SpellsMember member text → NumericMembers members →
    SpellsMembers (member :: members)
      (style.lineBreak depth ++ (text ++ (moreMembers style depth members ++ after)))
  | [], _, _, _, blank, first, _ => .last (blank_lineBreak style depth) first blank
  | next :: members, _, _, _, blank, first, numeric => by
    have second := spellsMember_text style depth next numeric.1
    have more := spellsMembers_moreMembers style depth members blank second numeric.2
    simpa only [moreMembers, List.append_assoc, List.cons_append, List.nil_append] using
      SpellsMembers.more (blank_lineBreak style depth) first blank_nil more

end

theorem spellsDocument_document (style : Style) {value : Json} (numeric : Numeric value) :
    SpellsDocument value (value.document style) := by
  have inside := spells_text style 0 value numeric
  simpa [document] using SpellsDocument.padded blank_nil inside blank_nil

end TraceWeave.Json
