/-!
# Files below a root

Files are held under resolved paths.  A path is resolved against the root
unless it is absolute or there is no root; a leading `./` counts for nothing.
-/

namespace Manifest

/-- Files below a root. -/
structure FileTree where
  root : String := ""
  /-- The contents at resolved paths; of several the last one counts. -/
  files : List (String × ByteArray) := []

namespace FileTree

/-- A path without leading steps that stay where they are. -/
def withoutHere : List Char → List Char
  | '.' :: '/' :: rest => withoutHere rest
  | path => path

/-- A root without the slashes at its end. -/
def withoutSlashes (root : String) : String :=
  String.ofList (root.toList.reverse.dropWhile (· == '/')).reverse

/-- The path under which a file is held. -/
def resolve (tree : FileTree) (path : String) : String :=
  let short := withoutHere path.toList
  if short.head? = some '/' || tree.root = "" then String.ofList short
  else withoutSlashes tree.root ++ "/" ++ String.ofList short

/-- Holds a file. -/
def add (tree : FileTree) (path : String) (content : ByteArray) : FileTree :=
  { tree with files := (tree.resolve path, content) :: tree.files }

/-- The content of the file at a path. -/
def load? (tree : FileTree) (path : String) : Option ByteArray :=
  tree.files.lookup (tree.resolve path)

end FileTree

end Manifest
