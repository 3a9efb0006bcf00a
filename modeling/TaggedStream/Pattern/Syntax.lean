import TaggedStream.Pattern.Property

/-!
Patterns as they are written, and how deeply they nest.

A pattern is a choice of sequences of pieces. A piece is a character, a class of characters, an
assertion, a change of flags, a group, or a repetition of the piece in front. There is no
look-around and there are no back-references.
-/

namespace TaggedStream.Pattern

/-- The flags that say how a pattern is read. -/
inductive Flag where
  | ignoreCase
  | multiLine
  | dotMatchesNewline
  | swapGreed
  | unicode
  | carriageReturns
  | verbose
deriving DecidableEq, Repr, Inhabited

/-- Flags that a pattern sets and clears, in the order in which they are written. -/
abbrev FlagChange := List (Flag × Bool)

/-- A character of a pattern; two hexadecimal digits name a byte. -/
structure Literal where
  char : Char
  isByte : Bool := false
deriving DecidableEq, Repr, Inhabited

/-- Classes that have a letter. -/
inductive LetterClass where
  | digit
  | space
  | word
deriving DecidableEq, Repr, Inhabited

/-- Classes of characters of seven bits that have a name. -/
inductive AsciiClass where
  | alnum | alpha | ascii | blank | cntrl | digit | graph | lower | print | punct | space | upper
  | word | xdigit
deriving DecidableEq, Repr, Inhabited

/-- Operations on classes. -/
inductive ClassOperation where
  | intersection
  | difference
  | symmetricDifference
deriving DecidableEq, Repr, Inhabited

/-- Places that an assertion asks for. -/
inductive Place where
  | lineStart | lineEnd | textStart | textEnd
  | wordBoundary | noWordBoundary | wordStart | wordEnd | wordStartHalf | wordEndHalf
deriving DecidableEq, Repr, Inhabited

/-- What stands between brackets. -/
inductive ClassItems where
  | literal (a : Literal)
  | range (first last : Literal)
  | ascii (kind : AsciiClass) (negated : Bool)
  | letter (kind : LetterClass) (negated : Bool)
  | property (query : PropertyQuery) (negated : Bool)
  | bracketed (items : ClassItems) (negated : Bool)
  | union (items : List ClassItems)
  | operation (kind : ClassOperation) (left right : ClassItems)
deriving Inhabited

/-- A pattern as it is written. -/
inductive Written where
  | empty
  | flags (change : FlagChange)
  | literal (a : Literal)
  | dot
  | assertion (place : Place)
  | letter (kind : LetterClass) (negated : Bool)
  | property (query : PropertyQuery) (negated : Bool)
  | bracketed (items : ClassItems) (negated : Bool)
  | repetition (least : Nat) (most : Option Nat) (greedy : Bool) (piece : Written)
  | group (change : FlagChange) (inside : Written)
  | capture (index : Nat) (inside : Written)
  | sequence (pieces : List Written)
  | choice (alternatives : List Written)
deriving Inhabited

/-! ## Nesting -/

/-- The deepest nesting that is accepted. -/
def nestingLimit : Nat := 250

/-- A part of a pattern and how deeply it nests. -/
structure Nested (α : Type) where
  part : α
  depth : Nat := 0
deriving Inhabited

namespace Nested

variable {α β : Type}

/-- The deepest nesting among some parts. -/
def deepest (parts : List (Nested α)) : Nat := parts.foldl (fun depth p => max depth p.depth) 0

/-- A part around another one, unless that nests too deeply. -/
def around? (make : α → β) (inner : Nested α) : Option (Nested β) :=
  if inner.depth < nestingLimit then some ⟨make inner.part, inner.depth + 1⟩ else none

/-- A part around several others, unless one of them nests too deeply. -/
def aroundAll? (make : List α → β) (inner : List (Nested α)) : Option (Nested β) :=
  around? make ⟨inner.map part, deepest inner⟩

end Nested

/-- Items between brackets, of which there may be none or one. -/
def ClassItems.joined? : List (Nested ClassItems) → Option (Nested ClassItems)
  | [] => some ⟨.union [], 0⟩
  | [item] => some item
  | items => Nested.aroundAll? .union items

/-- Pieces one after the other, of which there may be none or one. -/
def Written.joined? : List (Nested Written) → Option (Nested Written)
  | [] => some ⟨.empty, 0⟩
  | [piece] => some piece
  | pieces => Nested.aroundAll? .sequence pieces

end TaggedStream.Pattern
