import Manifest.StringMap

/-!
# Build annotations

The annotations in which the ids that a resource had before, its behavior and
other notes of a build are kept.  They are no part of what a resource says, and
are removed before it is handed out.
-/

namespace Manifest.BuildNote

/-- The earlier kinds, separated by commas. -/
def previousKinds : String := "internal.config.kubernetes.io/previousKinds"

/-- The earlier names, separated by commas. -/
def previousNames : String := "internal.config.kubernetes.io/previousNames"

/-- The earlier namespaces, separated by commas. -/
def previousNamespaces : String := "internal.config.kubernetes.io/previousNamespaces"

/-- The texts put in front of the name. -/
def namePrefixes : String := "internal.config.kubernetes.io/prefixes"

/-- The texts put behind the name. -/
def nameSuffixes : String := "internal.config.kubernetes.io/suffixes"

/-- The behavior of a generated resource. -/
def generatorBehavior : String := "internal.config.kubernetes.io/generatorBehavior"

/-- Whether the name is to carry a hash of the content. -/
def needsHashSuffix : String := "internal.config.kubernetes.io/needsHashSuffix"

/-- All build annotations. -/
def all : List String :=
  [previousKinds, previousNames, previousNamespaces, namePrefixes, nameSuffixes,
    generatorBehavior, needsHashSuffix]

/-- Whether a key is that of a build annotation. -/
def isKey (key : String) : Bool :=
  all.contains key

/-- The annotations without those of the build. -/
def strip (annotations : StringMap) : StringMap :=
  annotations.filterKeys fun key => !isKey key

/-- The annotations of the build alone. -/
def only (annotations : StringMap) : StringMap :=
  annotations.filterKeys isKey

end Manifest.BuildNote
