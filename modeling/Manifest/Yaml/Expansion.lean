import Manifest.Yaml.Skeleton
import Manifest.Yaml.Tree

/-!
# Expansion of YAML documents

The tree of a document: scalars resolve, and an alias stands for a copy of the
node that it refers to.  Collections nest at most 128 times, so that a node
that contains itself has no tree, and a document has at most hundred times as
many expanded aliases as it is long.
-/

namespace Manifest.Yaml

/-- Collections nest at most this often. -/
def nestingBound : Nat := 128

/-- A tree under a tag, if that is the document's own; a second mark in front does not count. -/
def underTag (tag : Option Tag) (inner : Tree) : Tree :=
  match tag.bind Tag.ownName? with
  | some name => .tagged (Tag.dropMark name) inner
  | none => inner

/-- What a scalar with a tag and a style stands for. -/
def scalarTree? (tag : Option Tag) (style : ScalarStyle) (content : String) : Option Tree :=
  let atom? :=
    match tag.filter fun tag => !tag.isOwn with
    | some standard => Atom.ofTagged? standard content
    | none => Atom.ofStyled? style content
  atom?.map fun atom => underTag tag (.scalar atom content)

namespace SkeletonDocument

/-- A step of the expansion, which counts the aliases. -/
abbrev Expand (α : Type) := StateT Nat Option α

/-- Counts an alias, unless there are too many. -/
def countAlias (document : SkeletonDocument) : Expand Unit := do
  let count ← get
  if document.length * 100 < count + 1 then failure
  set (count + 1)

/-- The tree of a node below which collections nest at most `depth` times. -/
def expandNode (document : SkeletonDocument) (fuel depth : Nat) (node : Skeleton) :
    Expand Tree :=
  match fuel with
  | 0 => failure
  | fuel + 1 =>
      match node with
      | .reference number => do
          document.countAlias
          match document.target? number with
          | some target => document.expandNode fuel depth target
          | none => failure
      | .scalar tag style content =>
          match scalarTree? tag style content with
          | some tree => return tree
          | none => failure
      | .sequence tag items => do
          if depth = 0 then failure
          let trees ← items.mapM (document.expandNode fuel (depth - 1))
          return underTag tag (.sequence trees)
      | .mapping tag entries => do
          if depth = 0 then failure
          let pairs ← entries.mapM fun entry => do
            let key ← document.expandNode fuel (depth - 1) entry.1
            let value ← document.expandNode fuel (depth - 1) entry.2
            return (key, value)
          return underTag tag (.mapping pairs)

/-- The tree of a document; a document without content stands for nothing. -/
def expand? (document : SkeletonDocument) : Option Tree :=
  match document.root with
  | none => some .null
  | some root =>
      ((document.expandNode (2 * nestingBound + 2) nestingBound root).run 0).map Prod.fst

end SkeletonDocument

/-- The documents of a text. -/
def documents? (source : String) : Option (List SkeletonDocument) :=
  (Token.scan? source).bind SkeletonDocument.ofTokens?

/-- The only document of a text. -/
def onlyDocument? (source : String) : Option SkeletonDocument :=
  match documents? source with
  | some [document] => some document
  | _ => none

end Manifest.Yaml
