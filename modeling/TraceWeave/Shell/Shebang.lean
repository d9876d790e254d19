import TraceWeave.Shell.Raw

/-! The first line of a script: a mark, the path of an interpreter and perhaps one argument.

Only so many bytes of the file are looked at. The file may end, or hold a NUL, before the line
does; a path that may go on behind those bytes is not taken. -/

namespace TraceWeave.Shell

structure Shebang where
  interpreter : String
  argument? : Option String
  deriving DecidableEq

namespace Shebang

def window : Nat := 256

def isGap (c : Char) : Bool := c = ' ' || c = '\t'

def seen (text : List Char) : List Char :=
  (text ++ List.replicate (window - text.length) '\x00').take window

/-- The line behind the mark, and whether its end was found. Without an end the last byte is not
taken. -/
def line (text : List Char) : List Char × Bool :=
  let upTo := text.takeWhile fun c => c ≠ '\n' && c ≠ '\x00'
  if (text.drop upTo.length).head? = some '\n' then (upTo.drop 2, true)
  else (text.dropLast.drop 2, false)

def trimmed (text : List Char) : List Char := (text.reverse.dropWhile isGap).reverse

/-- Reads the first line of a file, where it has the mark and names an interpreter. -/
def read? (content : ByteArray) : Option Shebang :=
  let text := seen (Raw.ofBytes (content.extract 0 window)).toList
  if text.take 2 ≠ ['#', '!'] then none
  else
    let (line, ended) := line text
    let isEnd (c : Char) : Bool := isGap c || c = '\x00'
    let bare := (trimmed line).dropWhile isGap
    let path := bare.takeWhile (!isEnd ·)
    let rest := bare.drop path.length
    let cut := !ended && !((text.drop 2).dropWhile isGap).any isEnd
    let argument? : Option String := match rest with
      | c :: _ =>
        if isGap c then
          some (String.ofList ((rest.dropWhile isGap).takeWhile (· ≠ '\x00')))
        else none
      | [] => none
    if bare.isEmpty || cut then none else some ⟨String.ofList path, argument?⟩

end Shebang

end TraceWeave.Shell
