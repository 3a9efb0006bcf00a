import TaggedStream.Character.Category
import TaggedStream.Character.Property

/-!
Which characters stand for themselves in a description of a text.

A character that shows nothing of its own is given by its code point, and so is one that changes
the look of the character in front of it.
-/

namespace TaggedStream.Text

/-- The characters that show nothing of their own: controls, format characters, separators other
than the blank, private and unassigned code points, and those that may be left out when a text is
shown. -/
def hidden : CharSet :=
  .unions
    [Category.membersOf (.control :: .format :: .privateUse :: Category.separators)
        |>.diff (.singleton ' '),
      Category.assigned.complement, Property.defaultIgnorableCodePoint.members]

/-- The characters that extend the one in front of them. The voicing marks among the letters have a
place of their own. -/
def extenders : CharSet :=
  Property.graphemeExtend.members.diff Category.modifierLetter.members

/-- Whether a character shows something of its own. -/
def isPrintable (c : Char) : Bool := !hidden.contains c

/-- Whether a character extends the one in front of it. -/
def isExtender (c : Char) : Bool := extenders.contains c

end TaggedStream.Text
