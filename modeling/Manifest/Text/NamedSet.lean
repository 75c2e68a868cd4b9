import Manifest.Text.CodeSet

/-!
# Named sets of code points

The properties of characters and their values have names, and most have a
second and shorter one.  The names are written in lower case without the signs
between their words.
-/

namespace Manifest.Text

/-- A set of code points with its names. -/
structure NamedSet where
  names : List String
  set : CodeSet
deriving Repr, Inhabited

namespace NamedSet

/-- Whether a set has a name. -/
def isNamed (named : NamedSet) (name : String) : Bool :=
  named.names.contains name

/-- The first set with a name. -/
def find? (sets : List NamedSet) (name : String) : Option CodeSet :=
  (sets.find? fun named => named.isNamed name).map NamedSet.set

end NamedSet

end Manifest.Text
