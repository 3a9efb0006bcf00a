import TaggedStream.Character.Folding
import TaggedStream.Pattern.Expression
import TaggedStream.Pattern.Syntax

/-!
What written patterns mean: the expressions that they stand for.

Flags hold from where they are set to the end of the group around them. With the flag for Unicode
off, classes are made of bytes; a class that would match parts of characters is refused.
-/

namespace TaggedStream.Pattern

/-- The flags that decide what a piece of a pattern means. -/
structure Mode where
  ignoreCase : Bool := false
  multiLine : Bool := false
  dotMatchesNewline : Bool := false
  swapGreed : Bool := false
  unicode : Bool := true
  carriageReturns : Bool := false
deriving DecidableEq, Repr, Inhabited

namespace Mode

/-- Sets or clears a flag. -/
def set (mode : Mode) : Flag × Bool → Mode
  | (.ignoreCase, on) => { mode with ignoreCase := on }
  | (.multiLine, on) => { mode with multiLine := on }
  | (.dotMatchesNewline, on) => { mode with dotMatchesNewline := on }
  | (.swapGreed, on) => { mode with swapGreed := on }
  | (.unicode, on) => { mode with unicode := on }
  | (.carriageReturns, on) => { mode with carriageReturns := on }
  | (.verbose, _) => mode

/-- Sets and clears flags. -/
def change (mode : Mode) (change : FlagChange) : Mode := change.foldl set mode

end Mode

/-! ## Classes -/

/-- The members of a class of characters of seven bits. -/
def AsciiClass.members : AsciiClass → CharSet
  | .alnum => ⟨[(0x30, 0x39), (0x41, 0x5A), (0x61, 0x7A)]⟩
  | .alpha => ⟨[(0x41, 0x5A), (0x61, 0x7A)]⟩
  | .ascii => .ascii
  | .blank => ⟨[(0x09, 0x09), (0x20, 0x20)]⟩
  | .cntrl => ⟨[(0x00, 0x1F), (0x7F, 0x7F)]⟩
  | .digit => ⟨[(0x30, 0x39)]⟩
  | .graph => ⟨[(0x21, 0x7E)]⟩
  | .lower => ⟨[(0x61, 0x7A)]⟩
  | .print => ⟨[(0x20, 0x7E)]⟩
  | .punct => ⟨[(0x21, 0x2F), (0x3A, 0x40), (0x5B, 0x60), (0x7B, 0x7E)]⟩
  | .space => ⟨[(0x09, 0x0D), (0x20, 0x20)]⟩
  | .upper => ⟨[(0x41, 0x5A)]⟩
  | .word => ⟨[(0x30, 0x39), (0x41, 0x5A), (0x5F, 0x5F), (0x61, 0x7A)]⟩
  | .xdigit => ⟨[(0x30, 0x39), (0x41, 0x46), (0x61, 0x66)]⟩

/-- The decimal digits that patterns know. -/
def digits : CharSet := knownOf [.decimalNumber]

/-- The characters of words that patterns know: letters, marks, digits, and what joins them. -/
def wordCharacters : CharSet :=
  known (.unions [Property.alphabetic.members, Property.joinControl.members,
    Category.membersOf (.decimalNumber :: .connectorPunctuation :: Category.marks)])

/-- The members of a class that has a letter. -/
def LetterClass.members (unicode : Bool) : LetterClass → CharSet
  | .digit => if unicode then digits else AsciiClass.digit.members
  | .space => if unicode then Property.whiteSpace.members else AsciiClass.space.members
  | .word => if unicode then wordCharacters else AsciiClass.word.members

namespace Mode

/-- A class as the mode takes it: with all characters that differ in case only, if case does not
matter. -/
def cased (mode : Mode) (set : CharSet) : CharSet :=
  if mode.ignoreCase then if mode.unicode then set.folded else set.asciiFolded else set

/-- A class or all that it leaves out. Bytes of more than seven bits are no characters. -/
def negated? (mode : Mode) (negated : Bool) (set : CharSet) : Option CharSet :=
  if negated then if mode.unicode then some set.complement else none else some set

/-- The members of a class that has a letter, which has both cases of its letters already. -/
def letter? (mode : Mode) (kind : LetterClass) (negated : Bool) : Option CharSet :=
  mode.negated? negated (kind.members mode.unicode)

/-- The members of a class that has a property. -/
def property? (mode : Mode) (query : PropertyQuery) (negated : Bool) : Option CharSet :=
  if mode.unicode then do mode.negated? negated (mode.cased (← query.members?)) else none

/-- A character in a class. A class of bytes has characters of seven bits only. -/
def member? (mode : Mode) (a : Literal) : Option Char :=
  if mode.unicode || a.char.toNat < 0x80 then some a.char else none

end Mode

mutual

/-- The members of what stands between brackets. -/
def ClassItems.members? (mode : Mode) : ClassItems → Option CharSet
  | .literal a => (mode.member? a).map .singleton
  | .range first last => do
    return .range (← mode.member? first).toNat (← mode.member? last).toNat
  | .ascii kind negated => mode.negated? negated (mode.cased kind.members)
  | .letter kind negated => mode.letter? kind negated
  | .property query negated => mode.property? query negated
  | .bracketed items negated => do mode.negated? negated (mode.cased (← items.members? mode))
  | .union items => ClassItems.membersOfAll? mode .empty items
  | .operation kind left right => do
    let left := mode.cased (← left.members? mode)
    let right := mode.cased (← right.members? mode)
    return match kind with
      | .intersection => left.inter right
      | .difference => left.diff right
      | .symmetricDifference => left.symmDiff right

/-- The members of several items, with those of the items before them. -/
def ClassItems.membersOfAll? (mode : Mode) (before : CharSet) : List ClassItems → Option CharSet
  | [] => some before
  | item :: rest =>
    match item.members? mode with
    | some members => ClassItems.membersOfAll? mode (before.union members) rest
    | none => none

end

/-! ## Pieces -/

/-- What a character means. A byte of more than seven bits is no character. -/
def Mode.literal? (mode : Mode) (a : Literal) : Option Expression :=
  if !mode.unicode && a.isByte && 0x80 ≤ a.char.toNat then none
  else some (.ofSet (mode.cased (.singleton a.char)))

/-- What a dot means. -/
def Mode.dot? (mode : Mode) : Option Expression :=
  if !mode.unicode then none
  else if mode.dotMatchesNewline then some (.oneOf .all)
  else if mode.carriageReturns then
    some (.oneOf ((CharSet.singleton '\n').union (.singleton '\r')).complement)
  else some (.oneOf (CharSet.singleton '\n').complement)

/-- What an assertion means. -/
def Mode.look (mode : Mode) : Place → Look
  | .lineStart =>
    if !mode.multiLine then .start
    else if mode.carriageReturns then .startOfLineReturns else .startOfLine
  | .lineEnd =>
    if !mode.multiLine then .stop
    else if mode.carriageReturns then .endOfLineReturns else .endOfLine
  | .textStart => .start
  | .textEnd => .stop
  | .wordBoundary => if mode.unicode then .word else .wordAscii
  | .noWordBoundary => if mode.unicode then .noWord else .noWordAscii
  | .wordStart => if mode.unicode then .wordStart else .wordStartAscii
  | .wordEnd => if mode.unicode then .wordEnd else .wordEndAscii
  | .wordStartHalf => if mode.unicode then .wordStartHalf else .wordStartHalfAscii
  | .wordEndHalf => if mode.unicode then .wordEndHalf else .wordEndHalfAscii

mutual

/-- What a pattern means, and the mode behind it. -/
def Written.meaning? (mode : Mode) : Written → Option (Expression × Mode)
  | .empty => some (.empty, mode)
  | .flags change => some (.empty, mode.change change)
  | .literal a => (mode.literal? a).map (·, mode)
  | .dot => mode.dot?.map (·, mode)
  | .assertion place => some (.look (mode.look place), mode)
  | .letter kind negated => (mode.letter? kind negated).map (.ofSet ·, mode)
  | .property query negated => (mode.property? query negated).map (.ofSet ·, mode)
  | .bracketed items negated => do
    let members ← mode.negated? negated (mode.cased (← items.members? mode))
    return (.ofSet members, mode)
  | .repetition least most greedy piece => do
    let (e, mode) ← piece.meaning? mode
    return (.repeatedly least most (greedy != mode.swapGreed) e, mode)
  | .group change inside => do
    let (e, _) ← inside.meaning? (mode.change change)
    return (e, mode)
  | .capture index inside => do
    let (e, _) ← inside.meaning? mode
    return (.capture index e, mode)
  | .sequence pieces => do
    let (es, mode) ← Written.meanings? mode [] pieces
    return (.inSequence es, mode)
  | .choice alternatives => do
    let (es, mode) ← Written.meanings? mode [] alternatives
    return (.anyOf es, mode)

/-- What several pieces mean, each in the mode behind the one before it. Those before them are in
reverse. -/
def Written.meanings? (mode : Mode) (before : List Expression) :
    List Written → Option (List Expression × Mode)
  | [] => some (before.reverse, mode)
  | piece :: rest =>
    match piece.meaning? mode with
    | some (e, mode) => Written.meanings? mode (e :: before) rest
    | none => none

end

end TaggedStream.Pattern
