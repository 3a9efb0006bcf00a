import TaggedStream.Text.Hex
import TaggedStream.Text.Printable

/-!
Quoted texts, characters and byte strings, as descriptions of values show them.

A quote inside its own kind of quotes and a backslash take a backslash, five controls have a letter,
and a character that would not be seen by itself is given by its code point in braces.
-/

namespace TaggedStream.Text

/-- A code point in hexadecimal, between braces behind `\u`. -/
def codePoint (c : Char) : List Char :=
  '\\' :: 'u' :: '\x7b' :: (Nat.toDigits 16 c.toNat ++ ['\x7d'])

/-- A character between quotes `quote`. -/
def escapedChar (quote : Char) (c : Char) : List Char :=
  if c = '\x00' then ['\\', '0']
  else if c = '\t' then ['\\', 't']
  else if c = '\r' then ['\\', 'r']
  else if c = '\n' then ['\\', 'n']
  else if c = '\\' then ['\\', '\\']
  else if c = quote then ['\\', quote]
  else if ' ' ≤ c ∧ c ≤ '~' then [c]
  else if isExtender c || !isPrintable c then codePoint c
  else [c]

/-- A text in double quotes. -/
def quoted (s : String) : String :=
  String.ofList ('"' :: (s.toList.flatMap (escapedChar '"') ++ ['"']))

/-- A character in single quotes. -/
def quotedChar (c : Char) : String :=
  String.ofList ('\'' :: (escapedChar '\'' c ++ ['\'']))

/-- A byte inside the quotes of a byte string. -/
def escapedByte (byte : UInt8) : List Char :=
  if byte = 0 then ['\\', '0']
  else if byte = 9 then ['\\', 't']
  else if byte = 10 then ['\\', 'n']
  else if byte = 13 then ['\\', 'r']
  else if byte = 92 then ['\\', '\\']
  else if byte = 34 then ['\\', '"']
  else if 0x20 ≤ byte ∧ byte < 0x7F then [Char.ofNat byte.toNat]
  else '\\' :: 'x' :: (hexPadded 2 byte.toNat).toList

/-- A byte string in double quotes behind the letter b. -/
def quotedBytes (bytes : List UInt8) : String :=
  String.ofList ('b' :: '"' :: (bytes.flatMap escapedByte ++ ['"']))

/-- Texts between square brackets, with commas between them. -/
def bracketed (items : List String) : String := "[" ++ ", ".intercalate items ++ "]"

/-- A name in front of texts in parentheses. -/
def applied (name : String) (arguments : List String) : String :=
  name ++ "(" ++ ", ".intercalate arguments ++ ")"

/-- A name in front of labelled texts in braces. -/
def labelled (name : String) (fields : List (String × String)) : String :=
  let shown := fields.map fun field => field.1 ++ ": " ++ field.2
  name ++ " \x7b " ++ ", ".intercalate shown ++ " \x7d"

/-- A text that may be absent. -/
def optional : Option String → String
  | none => "None"
  | some text => applied "Some" [text]

end TaggedStream.Text
