import TaggedStream.Pattern.Bracket

/-!
Patterns read from their text.

The reader goes through the text once. It keeps the part that it is in and the groups around it, so
a group costs no more than its brackets.
-/

namespace TaggedStream.Pattern

/-! ## Groups -/

/-- The flag with a letter. -/
def flagNamed? (c : Char) : Option Flag :=
  if c = 'i' then some .ignoreCase
  else if c = 'm' then some .multiLine
  else if c = 's' then some .dotMatchesNewline
  else if c = 'U' then some .swapGreed
  else if c = 'u' then some .unicode
  else if c = 'R' then some .carriageReturns
  else if c = 'x' then some .verbose
  else none

/-- Reads flags to the colon or parenthesis behind them. Those behind a hyphen are cleared; no flag
comes twice, and there is one behind the hyphen. -/
def flags? (before : FlagChange) (clearing dangling : Bool) :
    List Char → Option (FlagChange × Bool × Char × List Char)
  | [] => none
  | c :: rest =>
    if c = ':' ∨ c = ')' then
      if dangling then none else some (before.reverse, clearing, c, rest)
    else if c = '-' then if clearing then none else flags? before true true rest
    else
      match flagNamed? c with
      | none => none
      | some flag =>
        if before.any (·.1 = flag) then none
        else flags? ((flag, !clearing) :: before) clearing false rest

/-- Letters and numbers in the sense of the character database. -/
def alphanumeric : CharSet :=
  Property.alphabetic.members.union (Category.membersOf Category.numbers)

/-- A character that the name of a group may have. -/
def isNameChar (isFirst : Bool) (c : Char) : Bool :=
  if isFirst then c = '_' || Property.alphabetic.members.contains c
  else c = '_' || c = '.' || c = '[' || c = ']' || alphanumeric.contains c

/-- Reads the name of a group to its closing angle bracket. -/
def groupName? (cs : List Char) : Option (List Char × List Char) :=
  let name := cs.takeWhile (· ≠ '>')
  match name, cs.dropWhile (· ≠ '>') with
  | first :: others, _ :: rest =>
    if isNameChar true first && others.all (isNameChar false) then some (name, rest) else none
  | _, _ => none

/-! ## Repetition counts -/

/-- The largest repetition count that can be written. -/
def countLimit : Nat := 4294967295

/-- Reads digits, and drops what means nothing between and behind them. -/
def countDigits (verbose inComment : Bool) (value : Option Nat) : List Char → Option Nat × List Char
  | [] => (value, [])
  | c :: rest =>
    match passed? verbose inComment c with
    | some inComment => countDigits verbose inComment value rest
    | none =>
      if c.isDigit then
        let digit := c.toNat - '0'.toNat
        countDigits verbose false (some (value.getD 0 * 10 + digit)) rest
      else (value, c :: rest)

/-- Reads a repetition count with blanks around it. -/
def count? (verbose : Bool) (cs : List Char) : Option (Nat × List Char) :=
  match countDigits verbose false none (cs.dropWhile isBlank) with
  | (some value, rest) =>
    if value ≤ countLimit then some (value, rest.dropWhile isBlank) else none
  | (none, _) => none

/-- Reads the counts of a repetition behind its brace: the least, and the most if there is one. -/
def counts? (verbose : Bool) (cs : List Char) : Option ((Nat × Option Nat) × List Char) :=
  match count? verbose (skip verbose cs) with
  | none => none
  | some (least, '\x7d' :: rest) => some ((least, some least), rest)
  | some (least, ',' :: rest) =>
    match skip verbose rest with
    | '\x7d' :: rest => some ((least, none), rest)
    | rest =>
      match count? verbose rest with
      | some (most, '\x7d' :: rest) =>
        if least ≤ most then some ((least, some most), rest) else none
      | _ => none
  | some _ => none

/-! ## Reading -/

/-- A part of a pattern that is still open: the alternatives that are complete, and the pieces of
the one that is not, both in reverse. -/
structure OpenPart where
  alternatives : List (Nested Written) := []
  pieces : List (Nested Written) := []
deriving Inhabited

/-- The closed part. -/
def OpenPart.closed? (part : OpenPart) : Option (Nested Written) := do
  let last ← Written.joined? part.pieces.reverse
  match part.alternatives with
  | [] => return last
  | alternatives => Nested.aroundAll? .choice (last :: alternatives).reverse

/-- A group around an open part: what stands in front of it, what makes a group of its inside, and
whether the text behind it is verbose. -/
structure OpenGroup where
  part : OpenPart
  make : Written → Written
  verbose : Bool

/-- What a reader knows in the middle of a pattern. -/
structure Reading where
  verbose : Bool := false
  part : OpenPart := {}
  outer : List OpenGroup := []
  /-- Names of groups so far. -/
  names : List (List Char) := []
  /-- How many groups were opened that capture what they match. -/
  captures : Nat := 0

namespace Reading

/-- Adds a piece at the end. -/
def push (r : Reading) (piece : Nested Written) : Reading :=
  { r with part := { r.part with pieces := piece :: r.part.pieces } }

/-- Adds a piece that has no parts. -/
def pushLeaf (r : Reading) (piece : Written) : Reading := r.push ⟨piece, 0⟩

/-- Opens a group. -/
def opened (r : Reading) (make : Written → Written) (verbose : Bool) : Reading :=
  { r with verbose, part := {}, outer := ⟨r.part, make, r.verbose⟩ :: r.outer }

/-- Opens a group that captures what it matches. -/
def openedCapture (r : Reading) : Reading :=
  { r.opened (.capture r.captures) r.verbose with captures := r.captures + 1 }

/-- Closes the innermost group. -/
def closed? (r : Reading) : Option Reading :=
  match r.outer with
  | [] => none
  | group :: outer => do
    let piece ← Nested.around? group.make (← r.part.closed?)
    return { r with verbose := group.verbose, part := group.part, outer }.push piece

/-- Ends an alternative. -/
def alternated? (r : Reading) : Option Reading := do
  let done ← Written.joined? r.part.pieces.reverse
  return { r with part := { alternatives := done :: r.part.alternatives } }

/-- Repeats the last piece. Nothing and flags cannot be repeated. -/
def repeated? (r : Reading) (least : Nat) (most : Option Nat) (greedy : Bool) : Option Reading :=
  match r.part.pieces with
  | [] | ⟨.flags _, _⟩ :: _ => none
  | last :: others => do
    let piece ← Nested.around? (.repetition least most greedy) last
    return { r with part := { r.part with pieces := piece :: others } }

/-- Repeats the last piece; a question mark in the rest makes the repetition lazy. -/
def repeatedBehind? (r : Reading) (least : Nat) (most : Option Nat) (rest : List Char) :
    Option (Reading × List Char) :=
  match rest with
  | '?' :: rest => (r.repeated? least most false).map (·, rest)
  | rest => (r.repeated? least most true).map (·, rest)

/-- Opens a group with a name, which no other group has. -/
def openedNamed? (r : Reading) (rest : List Char) : Option (Reading × List Char) := do
  let (name, rest) ← groupName? rest
  if r.names.contains name then none
  else return ({ r.openedCapture with names := name :: r.names }, rest)

/-- Reads what is behind an opening parenthesis: the head of a group, or flags for the part that it
stands in. -/
def group? (r : Reading) (rest : List Char) : Option (Reading × List Char) :=
  match skip r.verbose rest with
  | '?' :: '=' :: _ | '?' :: '!' :: _ | '?' :: '<' :: '=' :: _ | '?' :: '<' :: '!' :: _ => none
  | '?' :: 'P' :: '<' :: rest => r.openedNamed? rest
  | '?' :: '<' :: rest => r.openedNamed? rest
  | '?' :: rest =>
    match flags? [] false false rest with
    | none => none
    | some (change, clearing, last, rest) =>
      let verbose := (change.lookup .verbose).getD r.verbose
      if last = ':' then some (r.opened (.group change) verbose, rest)
      else if change.isEmpty && !clearing then none
      else some ({ r with verbose }.pushLeaf (.flags change), rest)
  | rest => some (r.openedCapture, rest)

/-- Reads one piece, or a mark between pieces, that starts with a given character. The fuel is more
than the characters that are left. -/
def step? (r : Reading) (fuel : Nat) (c : Char) (rest : List Char) : Option (Reading × List Char) :=
  if c = '(' then r.group? rest
  else if c = ')' then r.closed?.map (·, rest)
  else if c = '|' then r.alternated?.map (·, rest)
  else if c = '[' then
    (bracketed? r.verbose fuel rest).map fun (piece, rest) => (r.push piece, rest)
  else if c = '*' then r.repeatedBehind? 0 none rest
  else if c = '+' then r.repeatedBehind? 1 none rest
  else if c = '?' then r.repeatedBehind? 0 (some 1) rest
  else if c = '\x7b' then
    match counts? r.verbose rest with
    | some ((least, most), rest) => r.repeatedBehind? least most (skip r.verbose rest)
    | none => none
  else if c = '\\' then
    (escape? r.verbose rest).map fun (escape, rest) =>
      match escape with
      | .literal a => (r.pushLeaf (.literal a), rest)
      | .letter kind negated => (r.pushLeaf (.letter kind negated), rest)
      | .property query negated => (r.pushLeaf (.property query negated), rest)
      | .assertion place => (r.pushLeaf (.assertion place), rest)
  else if c = '.' then some (r.pushLeaf .dot, rest)
  else if c = '^' then some (r.pushLeaf (.assertion .lineStart), rest)
  else if c = '$' then some (r.pushLeaf (.assertion .lineEnd), rest)
  else some (r.pushLeaf (.literal { char := c }), rest)

/-- Reads a pattern to its end. Every step takes at least one character, so the length of the
pattern is fuel enough. -/
def all? : (fuel : Nat) → Reading → List Char → Option Written
  | 0, _, _ => none
  | fuel + 1, r, cs =>
    match skip r.verbose cs with
    | [] => if r.outer.isEmpty then r.part.closed?.map Nested.part else none
    | c :: rest =>
      match r.step? (fuel + 1) c rest with
      | some (r, rest) => all? fuel r rest
      | none => none

end Reading

/-- The pattern with a given text, unless the text is none. -/
def Written.ofText? (text : String) : Option Written :=
  let cs := text.toList
  Reading.all? (cs.length + 1) {} cs

end TaggedStream.Pattern
