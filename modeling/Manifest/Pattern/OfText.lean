import Manifest.Pattern.Automaton
import Manifest.Pattern.Meaning
import Manifest.Pattern.Reader

/-!
# Patterns in texts

A text denotes a pattern if it can be read, its parts mean something, and the
pattern does not take too much memory.
-/

namespace Manifest.Pattern

/-- The pattern that a text denotes. -/
def ofText? (text : String) : Option Pattern :=
  match (Notation.ofText? text).bind (Notation.pattern? {}) with
  | some (pattern, _) => if pattern.isTooLarge then none else some pattern
  | none => none

end Manifest.Pattern
