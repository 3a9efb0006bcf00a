import TaggedStream.Pattern.Meaning
import TaggedStream.Pattern.Program
import TaggedStream.Pattern.Reader

/-!
Regular expressions, carried by their source text, which is known to be well-formed.
-/

namespace TaggedStream

namespace Pattern

/-- Whether a text is a pattern that has a meaning, with programs that are not too large. -/
def isWellFormed (source : String) : Bool :=
  match (Written.ofText? source).bind (Written.meaning? {}) with
  | some (e, _) => e.hasPrograms
  | none => false

end Pattern

/-- A regular expression; two are equal when their texts are. -/
structure Pattern where
  source : String
  wellFormed : Pattern.isWellFormed source = true
deriving DecidableEq

namespace Pattern

/-- The pattern with a given text, unless the text is not well-formed. -/
def compile? (source : String) : Option Pattern :=
  if h : isWellFormed source = true then some ⟨source, h⟩ else none

end Pattern

end TaggedStream
