import TaggedStream.Pattern.Escape

/-!
Classes in brackets, read from the text of a pattern.

Between brackets stand characters, ranges, classes with a letter or a name, and further brackets.
They make a union, and unions are joined by operations, from left to right.
-/

namespace TaggedStream.Pattern

/-! ## Single items -/

/-- The class with a name. -/
def asciiClassNamed? (name : String) : Option AsciiClass :=
  match name with
  | "alnum" => some .alnum
  | "alpha" => some .alpha
  | "ascii" => some .ascii
  | "blank" => some .blank
  | "cntrl" => some .cntrl
  | "digit" => some .digit
  | "graph" => some .graph
  | "lower" => some .lower
  | "print" => some .print
  | "punct" => some .punct
  | "space" => some .space
  | "upper" => some .upper
  | "word" => some .word
  | "xdigit" => some .xdigit
  | _ => none

/-- A class of seven bit characters, behind its opening bracket. -/
def asciiClass? : List Char → Option (ClassItems × List Char)
  | ':' :: rest =>
    let (negated, inside) :=
      match rest with
      | '^' :: rest => (true, rest)
      | rest => (false, rest)
    match inside.dropWhile (· ≠ ':') with
    | ':' :: ']' :: after =>
      (asciiClassNamed? (String.ofList (inside.takeWhile (· ≠ ':')))).map fun kind =>
        (.ascii kind negated, after)
    | _ => none
  | _ => none

/-- Reads a character or an escape. -/
def classAtom? (verbose : Bool) : List Char → Option (Escape × List Char)
  | [] => none
  | '\\' :: rest => escape? verbose rest
  | c :: rest => some (.literal { char := c }, rest)

/-- What an escape means between brackets. No assertion may stand there. -/
def Escape.classItem? : Escape → Option ClassItems
  | .literal a => some (.literal a)
  | .letter kind negated => some (.letter kind negated)
  | .property query negated => some (.property query negated)
  | .assertion _ => none

/-- The first character that is not blank, where one hash sign is passed over. -/
def peekPastBlanks (passed : Bool) : List Char → Option Char
  | [] => none
  | c :: rest =>
    if isBlank c then peekPastBlanks passed rest
    else if !passed && c = '#' then peekPastBlanks true rest
    else some c

/-- The character behind the next one, without blanks that mean nothing in front of it. -/
def peekBehind (verbose : Bool) (rest : List Char) : Option Char :=
  if verbose then peekPastBlanks false rest <|> rest.head? else rest.head?

/-- Reads an item or a range. A hyphen in front of the closing bracket or of another hyphen makes no
range. -/
def classItem? (verbose : Bool) (cs : List Char) : Option (ClassItems × List Char) := do
  let (first, rest) ← classAtom? verbose cs
  match skip verbose rest with
  | [] => none
  | '-' :: after =>
    let next := peekBehind verbose after
    if next = some ']' ∨ next = some '-' then return (← first.classItem?, '-' :: after)
    match ← classAtom? verbose (skip verbose after), first with
    | (.literal last, rest), .literal first =>
      if first.char ≤ last.char then return (.range first last, rest) else none
    | _, _ => none
  | rest => return (← first.classItem?, rest)

/-! ## Brackets -/

/-- Counts and drops hyphens at the start of a class, where they stand for themselves, and what
means nothing behind them. -/
def leadingHyphens (verbose inComment : Bool) (count : Nat) : List Char → Nat × List Char
  | [] => (count, [])
  | c :: rest =>
    match passed? verbose inComment c with
    | some inComment => leadingHyphens verbose inComment count rest
    | none =>
      if c = '-' then leadingHyphens verbose false (count + 1) rest else (count, c :: rest)

/-- A class that is open: the items so far, the last one first, and what stands in front of them. -/
structure OpenClass where
  negated : Bool
  /-- An operation whose right side is being read, and its left side. -/
  waiting : Option (ClassOperation × Nested ClassItems) := none
  items : List (Nested ClassItems) := []
deriving Inhabited

namespace OpenClass

/-- Adds an item. -/
def push (item : Nested ClassItems) (o : OpenClass) : OpenClass :=
  { o with items := item :: o.items }

/-- The items, joined with what waits for them. -/
def joined? (o : OpenClass) : Option (Nested ClassItems) := do
  let right ← ClassItems.joined? o.items.reverse
  match o.waiting with
  | none => return right
  | some (kind, left) =>
    Nested.around? (fun _ => .operation kind left.part right.part)
      ⟨(), max left.depth right.depth⟩

/-- Puts an operation behind the items. -/
def operated? (kind : ClassOperation) (o : OpenClass) : Option OpenClass := do
  return { o with waiting := some (kind, ← o.joined?), items := [] }

/-- The closed class. -/
def closed? (o : OpenClass) : Option (Nested (ClassItems × Bool)) := do
  Nested.around? (·, o.negated) (← o.joined?)

end OpenClass

/-- Reads the start of a class behind its bracket: a negation, hyphens, and a closing bracket that
stands for itself because it comes first. -/
def openClass? (verbose : Bool) (cs : List Char) : Option (OpenClass × List Char) :=
  let cs := skip verbose cs
  let (negated, cs) :=
    match cs with
    | '^' :: rest => (true, skip verbose rest)
    | cs => (false, cs)
  let literal (c : Char) : Nested ClassItems := ⟨.literal { char := c }, 0⟩
  let (hyphens, cs) := leadingHyphens verbose false 0 cs
  let (cs, items) :=
    match hyphens, cs with
    | 0, ']' :: rest => (skip verbose rest, [literal ']'])
    | hyphens, cs => (cs, List.replicate hyphens (literal '-'))
  if cs.isEmpty then none else some ({ negated, items }, cs)

/-- Reads to the end of the outermost of some open classes. -/
def classBody? (verbose : Bool) (fuel : Nat) (o : OpenClass) (outer : List OpenClass)
    (cs : List Char) : Option (Nested Written × List Char) :=
  match fuel, skip verbose cs with
  | 0, _ | _, [] => none
  | fuel + 1, c :: rest =>
    let operated (kind : ClassOperation) : Option (Nested Written × List Char) :=
      match o.operated? kind with
      | some o => classBody? verbose fuel o outer (rest.drop 1)
      | none => none
    if c = '[' then
      match asciiClass? rest with
      | some (item, rest) => classBody? verbose fuel (o.push ⟨item, 0⟩) outer rest
      | none =>
        match openClass? verbose rest with
        | some (inner, rest) => classBody? verbose fuel inner (o :: outer) rest
        | none => none
    else if c = ']' then
      match o.closed?, outer with
      | none, _ => none
      | some done, [] => some (⟨.bracketed done.part.1 done.part.2, done.depth⟩, rest)
      | some done, o :: outer =>
        let item : Nested ClassItems := ⟨.bracketed done.part.1 done.part.2, done.depth⟩
        classBody? verbose fuel (o.push item) outer rest
    else if c = '&' ∧ rest.head? = some '&' then operated .intersection
    else if c = '-' ∧ rest.head? = some '-' then operated .difference
    else if c = '~' ∧ rest.head? = some '~' then operated .symmetricDifference
    else
      match classItem? verbose (c :: rest) with
      | some (item, rest) => classBody? verbose fuel (o.push ⟨item, 0⟩) outer rest
      | none => none

/-- Reads a class behind its bracket. The fuel is more than the characters that are left. -/
def bracketed? (verbose : Bool) (fuel : Nat) (cs : List Char) :
    Option (Nested Written × List Char) := do
  let (o, rest) ← openClass? verbose cs
  classBody? verbose fuel o [] rest

end TaggedStream.Pattern
