import TaggedStream.Character.Age
import TaggedStream.Character.Break
import TaggedStream.Character.Category
import TaggedStream.Character.Property
import TaggedStream.Character.WritingSystem

/-!
What a pattern may ask of a character: a property by its name, or a value by the names of the
property and of the value.

Names are compared loosely: without regard to case, blanks, hyphens and underscores, without
characters of more than seven bits, and with a leading "is" dropped. Patterns know the characters of
all versions of the character database but the last one.
-/

namespace TaggedStream.Pattern

/-- What a pattern asks of a character. -/
inductive PropertyQuery where
  | named (name : List Char)
  | valued (name value : List Char)
deriving DecidableEq, Repr, Inhabited

/-- A name as it is compared. The name "isc" stands for itself. -/
def looseName (name : List Char) : String :=
  let (marked, rest) :=
    match name with
    | i :: s :: rest => if i.toLower = 'i' ∧ s.toLower = 's' then (true, rest) else (false, name)
    | _ => (false, name)
  let plain := rest.filterMap fun c =>
    if c = ' ' ∨ c = '-' ∨ c = '_' ∨ 0x80 ≤ c.toNat then none else some c.toLower
  if marked ∧ plain = ['c'] then "isc" else String.ofList plain

example : looseName "Is_Greek".toList = "greek" := by decide +kernel
example : looseName "isC".toList = "isc" := by decide +kernel

/-- The characters that patterns know, among those of a set. -/
def known (set : CharSet) : CharSet := set.diff Age.latest.members

/-- The characters of some categories that patterns know. -/
def knownOf (categories : List Category) : CharSet := known (Category.membersOf categories)

/-- The code points in no category that patterns know. -/
def unassigned : CharSet := (known Category.assigned).complement

/-- Groups of general categories, and sets that are asked for like categories. -/
def categoryGroup? (name : String) : Option CharSet :=
  if name = "any" then some .all
  else if name = "ascii" then some .ascii
  else if name = "assigned" then some (known Category.assigned)
  else if name = "cn" ∨ name = "unassigned" then some unassigned
  else if name = "l" ∨ name = "letter" then some (knownOf Category.letters)
  else if name = "lc" ∨ name = "casedletter" then some (knownOf (Category.letters.take 3))
  else if name = "m" ∨ name = "mark" ∨ name = "combiningmark" then some (knownOf Category.marks)
  else if name = "n" ∨ name = "number" then some (knownOf Category.numbers)
  else if name = "p" ∨ name = "punctuation" ∨ name = "punct" then
    some (knownOf Category.punctuation)
  else if name = "s" ∨ name = "symbol" then some (knownOf Category.symbols)
  else if name = "z" ∨ name = "separator" then some (knownOf Category.separators)
  else if name = "c" ∨ name = "other" then
    some (unassigned.union (knownOf [.control, .format, .privateUse]))
  else none

/-- The members of a category or of a group of them. -/
def category? (name : String) : Option CharSet :=
  match categoryGroup? name with
  | some members => some members
  | none =>
    (Category.all.find? (·.names.contains name)).map fun category => known category.members

/-- The writing system with a name. -/
def script? (name : String) : Option WritingSystem :=
  WritingSystem.all.find? (·.names.contains name)

/-- The characters with a property that they have or lack. -/
def property? (name : String) : Option CharSet :=
  (Property.all.find? (·.names.contains name)).map fun p => known p.members

/-- The characters as old as a version or older. -/
def age? (name : String) : Option CharSet :=
  if Age.earlier.any (·.names.contains name) then
    let older := Age.earlier.takeWhile fun age => !age.names.contains name
    let same := Age.earlier.filter (·.names.contains name)
    some (.unions ((older ++ same).map Age.members))
  else none

/-- The characters of a kind at boundaries. -/
def breakKind? (kinds : List BreakKind) (name : String) : Option CharSet :=
  (kinds.find? (·.names.contains name)).map BreakKind.members

/-- The characters that answer a query, unless a name in it is unknown. Of the names that stand for
a property and for a category or a script, some mean the category. -/
def PropertyQuery.members? : PropertyQuery → Option CharSet
  | .named name =>
    let name := looseName name
    property? name <|> category? name <|> (script? name).map fun script => known script.members
  | .valued name value =>
    let name := looseName name
    let value := looseName value
    if name = "gc" ∨ name = "generalcategory" then category? value
    else if name = "sc" ∨ name = "script" then (script? value).map fun s => known s.members
    else if name = "scx" ∨ name = "scriptextensions" then
      (script? value).map fun s => known s.usedMembers
    else if name = "age" then age? value
    else if name = "gcb" ∨ name = "graphemeclusterbreak" then
      breakKind? BreakKind.graphemeCluster value
    else if name = "wb" ∨ name = "wordbreak" then breakKind? BreakKind.word value
    else if name = "sb" ∨ name = "sentencebreak" then breakKind? BreakKind.sentence value
    else none

end TaggedStream.Pattern
