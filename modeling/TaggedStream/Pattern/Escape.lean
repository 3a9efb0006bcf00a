import TaggedStream.Pattern.Syntax
import TaggedStream.Character.Category

/-!
Escapes: what stands behind a backslash, inside and outside brackets.

A pattern may be read verbosely. Then blanks between its characters mean nothing, and a hash sign
starts a comment that goes to the end of the line. Every reader takes the rest of the pattern and
gives back what it leaves.
-/

namespace TaggedStream.Pattern

/-- White space in the sense of the character database. -/
def isBlank (c : Char) : Bool := Property.whiteSpace.members.contains c

/-- Whether a character means nothing, and if so whether the next one is in a comment. A comment
goes up to the end of its line. -/
def passed? (verbose inComment : Bool) (c : Char) : Option Bool :=
  if inComment then some (c ≠ '\n')
  else if !verbose then none
  else if c = '#' then some true
  else if isBlank c then some false
  else none

/-- What is left behind characters that mean nothing. -/
def skipFrom (verbose inComment : Bool) : List Char → List Char
  | [] => []
  | c :: rest =>
    match passed? verbose inComment c with
    | some inComment => skipFrom verbose inComment rest
    | none => c :: rest

/-- What is left behind characters that mean nothing, outside a comment. -/
def skip (verbose : Bool) (cs : List Char) : List Char := skipFrom verbose false cs

/-- What a backslash and the characters behind it stand for. -/
inductive Escape where
  | literal (a : Literal)
  | letter (kind : LetterClass) (negated : Bool)
  | property (query : PropertyQuery) (negated : Bool)
  | assertion (place : Place)
deriving Inhabited

/-! ## Characters by number -/

/-- The value of a hexadecimal digit. -/
def hexDigit? (c : Char) : Option Nat :=
  if '0' ≤ c ∧ c ≤ '9' then some (c.toNat - '0'.toNat)
  else if 'a' ≤ c ∧ c ≤ 'f' then some (c.toNat - 'a'.toNat + 10)
  else if 'A' ≤ c ∧ c ≤ 'F' then some (c.toNat - 'A'.toNat + 10)
  else none

/-- The character with a number, if there is one. -/
def charOf? (value : Nat) : Option Char :=
  if value.isValidChar then some (Char.ofNat value) else none

/-- Reads `width` hexadecimal digits behind those that make up `value`, and drops what means nothing
behind each. -/
def digits? (verbose : Bool) : (width value : Nat) → List Char → Option (Char × List Char)
  | 0, value, cs => (charOf? value).map (·, cs)
  | _ + 1, _, [] => none
  | width + 1, value, c :: rest =>
    match hexDigit? c with
    | none => none
    | some digit => digits? verbose width (value * 16 + digit) (skip verbose rest)

/-- Reads hexadecimal digits to the closing brace. There is at least one of them. -/
def bracedDigits? (verbose inComment : Bool) (value : Option Nat) :
    List Char → Option (Char × List Char)
  | [] => none
  | c :: rest =>
    match passed? verbose inComment c with
    | some inComment => bracedDigits? verbose inComment value rest
    | none =>
      if c = '\x7d' then do return (← charOf? (← value), skip verbose rest)
      else
        match hexDigit? c with
        | none => none
        | some digit => bracedDigits? verbose false (some (value.getD 0 * 16 + digit)) rest

/-- Reads the number of a character: a fixed count of digits, or any count of them in braces. -/
def number? (verbose : Bool) (width : Nat) (cs : List Char) : Option (Escape × List Char) :=
  match skip verbose cs with
  | '\x7b' :: rest =>
    (bracedDigits? verbose false none rest).map fun (c, rest) => (.literal { char := c }, rest)
  | cs =>
    (digits? verbose width 0 cs).map fun (c, rest) =>
      (.literal { char := c, isByte := width = 2 }, rest)

/-! ## Properties -/

/-- The characters up to a closing brace, without those that mean nothing, and the rest. -/
def upToBrace? (verbose inComment : Bool) (before : List Char) :
    List Char → Option (List Char × List Char)
  | [] => none
  | c :: rest =>
    match passed? verbose inComment c with
    | some inComment => upToBrace? verbose inComment before rest
    | none =>
      if c = '\x7d' then some (before.reverse, rest)
      else upToBrace? verbose false (c :: before) rest

/-- The parts of a text in front of the first occurrence of a mark and behind it. -/
def splitAt? (mark : List Char) (before : List Char) : List Char → Option (List Char × List Char)
  | [] => none
  | c :: rest =>
    if mark.isPrefixOf (c :: rest) then some (before.reverse, (c :: rest).drop mark.length)
    else splitAt? mark (c :: before) rest

/-- The query that stands between braces: a name, or two with a mark between them. -/
def bracedQuery (inside : List Char) : PropertyQuery :=
  match splitAt? ['!', '='] [] inside <|> splitAt? [':'] [] inside <|> splitAt? ['='] [] inside with
  | some (name, value) => .valued name value
  | none => .named inside

/-- Reads the query of a property: one character, or a text in braces. -/
def query? (verbose : Bool) (cs : List Char) : Option (PropertyQuery × List Char) :=
  match skip verbose cs with
  | [] | '\\' :: _ => none
  | '\x7b' :: rest =>
    (upToBrace? verbose false [] rest).map fun (inside, rest) => (bracedQuery inside, rest)
  | c :: rest => some (.named [c], skip verbose rest)

/-! ## Word boundaries -/

/-- A character that the name of a half of a word boundary may have. -/
def isBoundaryChar (c : Char) : Bool := c.isAlpha || c = '-'

/-- The halves of a word boundary. -/
def halfBoundary? (name : String) : Option Place :=
  if name = "start" then some .wordStart
  else if name = "end" then some .wordEnd
  else if name = "start-half" then some .wordStartHalf
  else if name = "end-half" then some .wordEndHalf
  else none

/-- Reads the name of a half of a word boundary to the closing brace. -/
def boundaryName? (verbose inComment : Bool) (before : List Char) :
    List Char → Option (Place × List Char)
  | [] => none
  | c :: rest =>
    match passed? verbose inComment c with
    | some inComment => boundaryName? verbose inComment before rest
    | none =>
      if isBoundaryChar c then boundaryName? verbose false (c :: before) rest
      else if c = '\x7d' then (halfBoundary? (String.ofList before.reverse)).map (·, rest)
      else none

/-- A word boundary may be one half only, by a name in braces; other braces are a repetition. -/
def boundary? (verbose : Bool) (cs : List Char) : Option (Place × List Char) :=
  match cs with
  | '\x7b' :: rest =>
    match (skip verbose rest).head? with
    | none => none
    | some c =>
      if isBoundaryChar c then boundaryName? verbose false [] rest else some (.wordBoundary, cs)
  | cs => some (.wordBoundary, cs)

/-! ## All escapes -/

/-- Characters that mean something by themselves. -/
def isMeta (c : Char) : Bool := "\\.+*?()|[]\x7b\x7d^$#&-~".toList.contains c

/-- Characters that a backslash leaves as they are. -/
def isEscapable (c : Char) : Bool :=
  isMeta c || (c.toNat < 128 && !c.isAlphanum && c ≠ '<' && c ≠ '>')

/-- Characters without a sign of their own. -/
def control? (c : Char) : Option Char :=
  if c = 'a' then some '\x07'
  else if c = 'f' then some '\x0c'
  else if c = 't' then some '\t'
  else if c = 'n' then some '\n'
  else if c = 'r' then some '\r'
  else if c = 'v' then some '\x0b'
  else none

/-- Assertions that have a letter or an angle bracket. -/
def place? (c : Char) : Option Place :=
  if c = 'A' then some .textStart
  else if c = 'z' then some .textEnd
  else if c = 'B' then some .noWordBoundary
  else if c = '<' then some .wordStart
  else if c = '>' then some .wordEnd
  else none

/-- Classes that have a letter; the capital stands for all other characters. -/
def letterClass? (c : Char) : Option LetterClass :=
  if c = 'd' ∨ c = 'D' then some .digit
  else if c = 's' ∨ c = 'S' then some .space
  else if c = 'w' ∨ c = 'W' then some .word
  else none

/-- Reads what follows a backslash. -/
def escape? (verbose : Bool) : List Char → Option (Escape × List Char)
  | [] => none
  | c :: rest =>
    if c = 'x' then number? verbose 2 rest
    else if c = 'u' then number? verbose 4 rest
    else if c = 'U' then number? verbose 8 rest
    else if c = 'p' ∨ c = 'P' then
      (query? verbose rest).map fun (query, rest) => (.property query (c = 'P'), rest)
    else if c = 'b' then
      (boundary? verbose rest).map fun (place, rest) => (.assertion place, rest)
    else if isEscapable c then some (.literal { char := c }, rest)
    else
      match letterClass? c, control? c, place? c with
      | some kind, _, _ => some (.letter kind c.isUpper, rest)
      | _, some c, _ => some (.literal { char := c }, rest)
      | _, _, some place => some (.assertion place, rest)
      | none, none, none => none

end TaggedStream.Pattern
