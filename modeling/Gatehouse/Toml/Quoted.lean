import Gatehouse.Text.Numeral
import Gatehouse.Toml.Space

/-!
# Texts in configuration files

A text stands between quotes on one line, or between three quotes on several. Between
double quotes a backslash spells out a character, and at the end of a line it joins the
next one; between single quotes everything stands for itself. Line breaks read as one
character however they are written.

## Main definitions

* `Toml.escape`: The character that is spelled after a backslash.
* `Toml.short`, `Toml.literal`, `Toml.long`: The kinds of texts after their opening quotes.
* `Toml.quoted`: A text with its quotes.
-/

namespace Gatehouse.Toml

open Text

/-- The character that a number of hexadecimal digits stand for. -/
def coded (digits : Nat) : Reader Char := fun text => do
  let n ← number? 16 (text.take digits)
  if digits ≤ text.length && n.isValidChar then some (Char.ofNat n, text.drop digits) else none

/-- The character that is spelled after a backslash. -/
def escape : Reader Char
  | 'b' :: rest => some ('\x08', rest)
  | 't' :: rest => some ('\t', rest)
  | 'n' :: rest => some ('\n', rest)
  | 'f' :: rest => some ('\x0c', rest)
  | 'r' :: rest => some ('\r', rest)
  | '"' :: rest => some ('"', rest)
  | '\\' :: rest => some ('\\', rest)
  | 'u' :: rest => coded 4 rest
  | 'U' :: rest => coded 8 rest
  | _ => none

/-- The rest of a text on one line between double quotes. -/
def short : Reader String := Reader.repeated (fun taken text =>
  match text with
  | [] => none
  | '"' :: rest => some (.done (String.ofList taken.reverse), rest)
  | '\\' :: rest => (escape rest).map fun (c, rest) => (.more (c :: taken), rest)
  | c :: rest => if isPlain c then some (.more (c :: taken), rest) else none) []

/-- The rest of a text on one line between single quotes. -/
def literal : Reader String := fun text =>
  match Reader.span (fun c => isPlain c && c != '\'') text with
  | (taken, '\'' :: rest) => some (String.ofList taken, rest)
  | _ => none

/-- The rest of a text between three quotes each. One or two quotes belong to the text,
also at its end. -/
def long (quote : Char) (escapes : Bool) : Reader String := Reader.repeated (fun taken text =>
  match Reader.span (· == quote) text with
  | ([], []) => none
  | ([], c :: rest) =>
    if escapes && c == '\\' then
      -- A backslash at the end of a line takes the blanks and empty lines behind it along.
      match lineBreak? (skipBlanks rest) with
      | some rest => some (.more taken, skipLines rest)
      | none => (escape rest).map fun (c, rest) => (.more (c :: taken), rest)
    else if isPlain c then some (.more (c :: taken), rest)
    else (lineBreak? (c :: rest)).map (.more ('\n' :: taken), ·)
  | (quotes, rest) =>
    if quotes.length < 3 then some (.more (quotes ++ taken), rest)
    else if quotes.length ≤ 5 then
      some (.done (String.ofList (taken.reverse ++ quotes.drop 3)), rest)
    else none) []

/-- A text with its quotes; a line break right after three of them does not count. -/
def quoted : Reader String
  | '"' :: '"' :: '"' :: rest => long '"' true ((lineBreak? rest).getD rest)
  | '\'' :: '\'' :: '\'' :: rest => long '\'' false ((lineBreak? rest).getD rest)
  | '"' :: rest => short rest
  | '\'' :: rest => literal rest
  | _ => none

example : quoted "\"a\\u00e9\"x".toList = some ("aé", ['x']) := by cbv

example : quoted "\"\"\"\na\"\"\"\"".toList = some ("a\"", []) := by cbv

end Gatehouse.Toml
