import Gatehouse.Text.Reader

/-!
# Space in configuration files

What may stand between the parts of a configuration file: blanks, comments that go on to
the end of their line, and line breaks, with or without a carriage return.

## Main definitions

* `Toml.isPlain`: The characters that stand for themselves everywhere.
* `Toml.lineBreak?`, `Toml.endLine?`: The rest of a text after a line break, and after the
  rest of a line without content.
* `Toml.skipSpace`: A text without the space at its front.
-/

namespace Gatehouse.Toml

open Text

/-- Spaces and tabs. -/
def isBlank (c : Char) : Bool := c == ' ' || c == '\t'

/-- Whatever is no control character, and the tab. -/
def isPlain (c : Char) : Bool := c == '\t' || (0x20 ≤ c.toNat && c.toNat != 0x7F)

/-- A text without the blanks at its front. -/
def skipBlanks (text : List Char) : List Char := text.dropWhile isBlank

/-- The text after the line break at its front. -/
def lineBreak? : List Char → Option (List Char)
  | '\n' :: rest => some rest
  | '\r' :: '\n' :: rest => some rest
  | _ => none

/-- A text without the comment at its front. -/
def skipComment : List Char → List Char
  | '#' :: rest => rest.dropWhile isPlain
  | text => text

/-- The text after a line of which only blanks and a comment are left. The last line need
not be broken. -/
def endLine? (text : List Char) : Option (List Char) :=
  match skipComment (skipBlanks text) with
  | [] => some []
  | rest => lineBreak? rest

/-- A text without the blanks and line breaks at its front. -/
def skipLines : List Char → List Char
  | '\r' :: '\n' :: rest => skipLines rest
  | '\n' :: rest => skipLines rest
  | ' ' :: rest => skipLines rest
  | '\t' :: rest => skipLines rest
  | text => text

/-- A text without the blanks, line breaks and comments at its front. -/
def skipSpace (text : List Char) : Option (List Char) :=
  (Reader.repeated (fun (_ : Unit) text =>
    match skipLines text with
    | '#' :: rest => (lineBreak? (rest.dropWhile isPlain)).map (.more (), ·)
    | text => some (.done (), text)) () text).map (·.2)

example : skipSpace " # a\r\n\t1".toList = some ['1'] := by cbv

end Gatehouse.Toml
