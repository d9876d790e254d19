import TraceWeave.Text.Utf8

/-! Texts of scripts. Scripts work on bytes, so a text of theirs is a string in which every
character stands for the byte of its code. -/

namespace TraceWeave.Shell.Raw

def ofBytes (bytes : ByteArray) : String :=
  bytes.foldl (fun text byte => text.push (Char.ofNat byte.toNat)) ""

def bytes (raw : String) : ByteArray :=
  raw.foldl (fun bytes c => bytes.push c.toNat.toUInt8) ByteArray.empty

def ofText (text : String) : String := ofBytes text.toUTF8

def text (raw : String) : String := Text.ofUtf8Lossy (bytes raw)

end TraceWeave.Shell.Raw
