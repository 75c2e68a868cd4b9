import Manifest.Text.Blank
import Manifest.Text.Quoted

/-!
# Behaviors

A behavior says what happens when an incoming resource meets an existing one
with the same id.
-/

namespace Manifest

/-- What an incoming resource asks for. -/
inductive Behavior where
  | unspecified
  | create
  /-- The resource must exist, and its fields are merged into it. -/
  | merge
  /-- The resource must exist, and is replaced as a whole. -/
  | replace
deriving DecidableEq, Repr, Inhabited

namespace Behavior

/-- The name of a behavior. -/
def text : Behavior → String
  | unspecified => "unspecified"
  | create => "create"
  | merge => "merge"
  | replace => "replace"

/-- Whether a behavior needs a resource to act on. -/
def needsExisting : Behavior → Bool
  | merge | replace => true
  | unspecified | create => false

/-- The behavior with a name, letter by letter. -/
def ofName? (name : String) : Option Behavior :=
  if name = "unspecified" then some unspecified
  else if name = "create" then some create
  else if name = "merge" then some merge
  else if name = "replace" then some replace
  else none

/-- The behavior that a text asks for: case and outer blanks do not count, and an empty text
asks for none. -/
def parse? (text : String) : Option Behavior :=
  let name := Text.asciiLower (Text.trim text)
  if name = "" then some unspecified else ofName? name

/-- What messages say about a text that names no behavior. -/
def unknownMessage (text : String) : String :=
  "unknown behavior " ++ Text.quoted text ++ ": expected create, merge or replace"

end Behavior

end Manifest
