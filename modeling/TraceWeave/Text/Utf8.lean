/-! Reading bytes as UTF-8 text where some of them may not be.

The reader keeps the character it is in the middle of: what its bytes say so far, how many bytes
it still needs and the range that the next one must come from. A byte outside that range ends the
character early; U+FFFD stands for what was read of it, and the byte is read again on its own. -/

namespace TraceWeave.Text

/-- A character whose first bytes have been read. -/
structure Partial where
  code : Nat
  needed : Nat
  low : Nat
  high : Nat

structure Utf8Reader where
  text : String
  open? : Option Partial

namespace Utf8Reader

def replacement : Char := Char.ofNat 0xFFFD

def emit (r : Utf8Reader) (c : Char) : Utf8Reader := ⟨r.text.push c, none⟩

def start (r : Utf8Reader) (b : Nat) : Utf8Reader :=
  let await (code needed low high : Nat) : Utf8Reader := ⟨r.text, some ⟨code, needed, low, high⟩⟩
  if b < 0x80 then r.emit (Char.ofNat b)
  else if b < 0xC2 then r.emit replacement
  else if b < 0xE0 then await (b - 0xC0) 1 0x80 0xBF
  else if b = 0xE0 then await 0 2 0xA0 0xBF
  else if b = 0xED then await 0xD 2 0x80 0x9F
  else if b < 0xF0 then await (b - 0xE0) 2 0x80 0xBF
  else if b = 0xF0 then await 0 3 0x90 0xBF
  else if b < 0xF4 then await (b - 0xF0) 3 0x80 0xBF
  else if b = 0xF4 then await 4 3 0x80 0x8F
  else r.emit replacement

def step (r : Utf8Reader) (byte : UInt8) : Utf8Reader :=
  let b := byte.toNat
  match r.open? with
  | none => r.start b
  | some p =>
    if p.low ≤ b ∧ b ≤ p.high then
      let code := 64 * p.code + (b - 0x80)
      if p.needed ≤ 1 then r.emit (Char.ofNat code)
      else ⟨r.text, some ⟨code, p.needed - 1, 0x80, 0xBF⟩⟩
    else (r.emit replacement).start b

def finish (r : Utf8Reader) : String :=
  match r.open? with
  | none => r.text
  | some _ => r.text.push replacement

end Utf8Reader

/-- The text of some bytes, U+FFFD in the place of each longest part that begins no character. -/
def ofUtf8Lossy (bytes : ByteArray) : String :=
  (bytes.foldl Utf8Reader.step ⟨"", none⟩).finish

end TraceWeave.Text
