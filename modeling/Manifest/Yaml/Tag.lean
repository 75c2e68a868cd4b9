/-!
# Tags of YAML nodes

The characters of a tag can be given by octets.  Octets of the right shape that
denote no character stay in the tag as such a gap, and a zero ends the tag.

Tags that start with a mark are a document's own.  They have no meaning, and
one with a gap is no tag at all.  The others belong to the standard, where only
a few are known.
-/

namespace Manifest.Yaml

/-- A tag; none stands for octets that are no character. -/
structure Tag where
  chars : List (Option Char)
deriving DecidableEq, Repr, Inhabited

namespace Tag

/-- The tag with the characters of a text. -/
def ofString (text : String) : Tag :=
  ⟨text.toList.map some⟩

/-- A tag up to its first zero. -/
def beforeZero (tag : Tag) : Tag :=
  ⟨tag.chars.takeWhile (· != some '\x00')⟩

/-- One tag behind another. -/
def append (first second : Tag) : Tag :=
  ⟨first.chars ++ second.chars⟩

/-- The text of a tag without gaps. -/
def text? (tag : Tag) : Option String :=
  (tag.chars.mapM id).map String.ofList

/-- The tag that consists of a mark. -/
def mark : Tag := ofString "!"

/-- Whether a tag starts with a mark. -/
def isOwn (tag : Tag) : Bool :=
  tag.chars.head? == some (some '!')

/-- A text without the mark it starts with, unless it is that mark alone. -/
def dropMark (text : String) : String :=
  match text.toList with
  | '!' :: first :: rest => String.ofList (first :: rest)
  | _ => text

/-- The name of a document's own tag, which is the tag without its mark. -/
def ownName? (tag : Tag) : Option String :=
  if tag.isOwn then tag.text?.map dropMark else none

/-- The first part of the tags of the standard. -/
def standardStart : String := "tag:yaml.org,2002:"

/-- A tag of the standard. -/
def standard (name : String) : Tag :=
  ofString (standardStart ++ name)

end Tag

end Manifest.Yaml
