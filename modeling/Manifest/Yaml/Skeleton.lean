import Manifest.Fields
import Manifest.Yaml.Token.Scan

/-!
# The nodes of a YAML text

Tokens form a stream of documents.  A skeleton is a document before anything is
resolved: scalars are still texts with a style and a tag, and aliases refer to
anchored nodes by number.

An anchor is numbered by the count of the names that are known when it is met.
Of several nodes with one number the last one is meant, also by aliases in
front of it.  The length of a document counts its scalars, its aliases, and
both ends of its collections.
-/

namespace Manifest.Yaml

/-- A node before anything is resolved. -/
inductive Skeleton where
  /-- A scalar with its tag, its style and its text. -/
  | scalar (tag : Option Tag) (style : ScalarStyle) (content : String)
  | sequence (tag : Option Tag) (items : List Skeleton)
  | mapping (tag : Option Tag) (entries : List (Skeleton × Skeleton))
  | reference (target : Nat)
deriving Repr, Inhabited

/-- An anchored node with its number and its place in the document. -/
structure Anchored where
  number : Nat
  place : Nat
  node : Skeleton

/-- A document before anything is resolved. -/
structure SkeletonDocument where
  root : Option Skeleton
  anchored : List Anchored := []
  length : Nat := 0

namespace SkeletonDocument

/-- The node that a number refers to. -/
def target? (document : SkeletonDocument) (number : Nat) : Option Skeleton :=
  let candidates := document.anchored.filter fun anchored => anchored.number == number
  let last := candidates.foldl
    (fun best anchored =>
      match best with
      | some (found : Anchored) => if found.place < anchored.place then some anchored else best
      | none => some anchored)
    none
  last.map Anchored.node

end SkeletonDocument

/-- What is known while the nodes of a document are read. -/
structure ReadState where
  tokens : List Token
  handles : List (String × Tag) := []
  names : List (String × Nat) := []
  anchored : List Anchored := []
  length : Nat := 0

/-- A step of reading, which can fail. -/
abbrev Read (α : Type) := StateT ReadState Option α

namespace Read

/-- The next token. -/
def peek : Read Token := do
  match (← get).tokens with
  | token :: _ => return token
  | [] => failure

/-- Leaves the next token behind. -/
def drop : Read Unit :=
  modify fun state => { state with tokens := state.tokens.drop 1 }

/-- Adds to the length of the document. -/
def lengthen : Read Unit :=
  modify fun state => { state with length := state.length + 1 }

/-- The properties in front of a node. -/
structure Properties where
  anchorName : Option String := none
  handleTag : Option (String × Tag) := none

/-- Whether there is any property. -/
def Properties.isPresent (properties : Properties) : Bool :=
  properties.anchorName.isSome || properties.handleTag.isSome

/-- The properties at the next token: an anchor and a tag in any order. -/
def properties : Read Properties := do
  match ← peek with
  | .anchor name =>
      drop
      match ← peek with
      | .tag handle suffix =>
          drop
          return { anchorName := some name, handleTag := some (handle, suffix) }
      | _ => return { anchorName := some name }
  | .tag handle suffix =>
      drop
      match ← peek with
      | .anchor name =>
          drop
          return { anchorName := some name, handleTag := some (handle, suffix) }
      | _ => return { handleTag := some (handle, suffix) }
  | _ => return {}

/-- The tag that a handle and a suffix denote. -/
def resolveTag : Option (String × Tag) → Read (Option Tag)
  | none => return none
  | some ("", suffix) => return some suffix
  | some (handle, suffix) => do
      match Fields.get? handle (← get).handles with
      | some meaning => return some (meaning.append suffix)
      | none => failure

/-- Numbers an anchor at the current place; gives its number and the place. -/
def numberAnchor : Option String → Read (Option (Nat × Nat))
  | none => return none
  | some name => do
      let state ← get
      let number := state.names.length
      set { state with names := Fields.set name number state.names }
      return some (number, state.length)

/-- Records an anchored node once it is read. -/
def record (mark : Option (Nat × Nat)) (node : Skeleton) : Read Skeleton := do
  match mark with
  | some (number, place) =>
      modify fun state => { state with anchored := ⟨number, place, node⟩ :: state.anchored }
      return node
  | none => return node

/-- A scalar as a node. -/
def finishScalar (mark : Option (Nat × Nat)) (node : Skeleton) : Read Skeleton := do
  lengthen
  record mark node

/-- The node of a missing value. -/
def missing : Read Skeleton := do
  lengthen
  return .scalar none .plain ""

/-- The number of a known anchor name. -/
def referenceNode (name : String) : Read Skeleton := do
  match Fields.get? name (← get).names with
  | some number =>
      drop
      lengthen
      return .reference number
  | none => failure

/-- The tag of a scalar: one mark alone is no tag for a scalar that is there. -/
def scalarTag (tag : Option Tag) : Option Tag :=
  if tag = some Tag.mark then none else tag

mutual

/--
The node at the next token.  Block collections are allowed if `inBlock`, and a
sequence without indentation of its own if `indentless`.
-/
def node (fuel : Nat) (inBlock indentless : Bool) : Read Skeleton :=
  match fuel with
  | 0 => failure
  | fuel + 1 => do
      match ← peek with
      | .reference name => referenceNode name
      | _ =>
          let found ← properties
          let tag ← resolveTag found.handleTag
          match ← peek with
          | .blockEntry =>
              if indentless then
                let mark ← numberAnchor found.anchorName
                lengthen
                let items ← indentlessItems fuel
                lengthen
                record mark (.sequence tag items)
              else absent found tag
          | .scalar content style =>
              let mark ← numberAnchor found.anchorName
              drop
              finishScalar mark (.scalar (scalarTag tag) style content)
          | .flowSequenceStart =>
              let mark ← numberAnchor found.anchorName
              drop
              lengthen
              let items ← flowItems fuel true
              lengthen
              record mark (.sequence tag items)
          | .flowMappingStart =>
              let mark ← numberAnchor found.anchorName
              drop
              lengthen
              let entries ← flowEntries fuel true
              lengthen
              record mark (.mapping tag entries)
          | .blockSequenceStart =>
              if inBlock then
                let mark ← numberAnchor found.anchorName
                drop
                lengthen
                let items ← blockItems fuel
                lengthen
                record mark (.sequence tag items)
              else absent found tag
          | .blockMappingStart =>
              if inBlock then
                let mark ← numberAnchor found.anchorName
                drop
                lengthen
                let entries ← blockEntries fuel
                lengthen
                record mark (.mapping tag entries)
              else absent found tag
          | _ => absent found tag

/-- A node that consists of its properties only. -/
def absent (found : Properties) (tag : Option Tag) : Read Skeleton := do
  if found.isPresent then
    let mark ← numberAnchor found.anchorName
    finishScalar mark (.scalar tag .plain "")
  else failure

/-- The node at the next token, unless that token ends it before it starts. -/
def nodeUnless (fuel : Nat) (inBlock indentless : Bool) (ends : Token → Bool) :
    Read Skeleton :=
  match fuel with
  | 0 => failure
  | fuel + 1 => do
      if ends (← peek) then missing else node fuel inBlock indentless

/-- The items of a block sequence. -/
def blockItems (fuel : Nat) : Read (List Skeleton) :=
  match fuel with
  | 0 => failure
  | fuel + 1 => do
      match ← peek with
      | .blockEntry =>
          drop
          let item ← nodeUnless fuel true false fun token =>
            token == .blockEntry || token == .blockEnd
          let rest ← blockItems fuel
          return item :: rest
      | .blockEnd =>
          drop
          return []
      | _ => failure

/-- The items of a sequence without indentation of its own. -/
def indentlessItems (fuel : Nat) : Read (List Skeleton) :=
  match fuel with
  | 0 => failure
  | fuel + 1 => do
      match ← peek with
      | .blockEntry =>
          drop
          let item ← nodeUnless fuel true false fun token =>
            token == .blockEntry || token == .key || token == .value || token == .blockEnd
          let rest ← indentlessItems fuel
          return item :: rest
      | _ => return []

/-- The entries of a block mapping. -/
def blockEntries (fuel : Nat) : Read (List (Skeleton × Skeleton)) :=
  match fuel with
  | 0 => failure
  | fuel + 1 => do
      let ends : Token → Bool := fun token =>
        token == .key || token == .value || token == .blockEnd
      match ← peek with
      | .key =>
          drop
          let key ← nodeUnless fuel true true ends
          let value ← blockValue fuel
          let rest ← blockEntries fuel
          return (key, value) :: rest
      | .blockEnd =>
          drop
          return []
      | _ => failure

/-- The value after a key of a block mapping. -/
def blockValue (fuel : Nat) : Read Skeleton :=
  match fuel with
  | 0 => failure
  | fuel + 1 => do
      match ← peek with
      | .value =>
          drop
          nodeUnless fuel true true fun token =>
            token == .key || token == .value || token == .blockEnd
      | _ => missing

/-- The items of a sequence in brackets. -/
def flowItems (fuel : Nat) (isFirst : Bool) : Read (List Skeleton) :=
  match fuel with
  | 0 => failure
  | fuel + 1 => do
      if (← peek) == .flowSequenceEnd then
        drop
        return []
      if !isFirst then
        if (← peek) == .flowEntry then drop else failure
      match ← peek with
      | .key =>
          drop
          lengthen
          let entry ← flowPair fuel
          lengthen
          let rest ← flowItems fuel false
          return .mapping none [entry] :: rest
      | .flowSequenceEnd =>
          drop
          return []
      | _ =>
          let item ← node fuel false false
          let rest ← flowItems fuel false
          return item :: rest

/--
The only entry of a mapping without braces inside a sequence.  A missing key
takes the token that follows it with it.
-/
def flowPair (fuel : Nat) : Read (Skeleton × Skeleton) :=
  match fuel with
  | 0 => failure
  | fuel + 1 => do
      let next ← peek
      let key ←
        if next == .value || next == .flowEntry || next == .flowSequenceEnd then do
          drop
          missing
        else node fuel false false
      let value ← flowValue fuel .flowSequenceEnd
      return (key, value)

/-- The value after a key inside brackets that `closing` closes. -/
def flowValue (fuel : Nat) (closing : Token) : Read Skeleton :=
  match fuel with
  | 0 => failure
  | fuel + 1 => do
      match ← peek with
      | .value =>
          drop
          nodeUnless fuel false false fun token => token == .flowEntry || token == closing
      | _ => missing

/-- The entries of a mapping in braces. -/
def flowEntries (fuel : Nat) (isFirst : Bool) : Read (List (Skeleton × Skeleton)) :=
  match fuel with
  | 0 => failure
  | fuel + 1 => do
      if (← peek) == .flowMappingEnd then
        drop
        return []
      if !isFirst then
        if (← peek) == .flowEntry then drop else failure
      match ← peek with
      | .key =>
          drop
          let key ← nodeUnless fuel false false fun token =>
            token == .value || token == .flowEntry || token == .flowMappingEnd
          let value ← flowValue fuel .flowMappingEnd
          let rest ← flowEntries fuel false
          return (key, value) :: rest
      | .flowMappingEnd =>
          drop
          return []
      | _ =>
          let key ← node fuel false false
          let value ← missing
          let rest ← flowEntries fuel false
          return (key, value) :: rest

end

/-- The handles that have a meaning without a directive. -/
def standardHandles : List (String × Tag) :=
  [("!", Tag.mark), ("!!", Tag.standard "")]

/-- The directives before a document; each kind and each handle at most once. -/
def directives : Nat → Bool → List (String × Tag) → Read (List (String × Tag))
  | 0, _, _ => failure
  | fuel + 1, versioned, handles => do
      match ← peek with
      | .versionDirective major minor =>
          if versioned || major != 1 || (minor != 1 && minor != 2) then failure
          drop
          directives fuel true handles
      | .tagDirective handle meaning =>
          if Fields.contains handle handles then failure
          drop
          directives fuel versioned (handles ++ [(handle, meaning)])
      | _ => return handles

/-- Leaves the marks at the end of a document behind. -/
def dropEndMarks : Nat → Read Unit
  | 0 => failure
  | fuel + 1 => do
      if (← peek) == .documentEnd then
        drop
        dropEndMarks fuel

/-- Starts a document with what its directives say. -/
def startDocument (handles : List (String × Tag)) : Read Unit :=
  modify fun state =>
    { tokens := state.tokens, handles := handles ++ standardHandles }

/-- The content of a document behind its start, with the mark at its end. -/
def finishDocument (root : Skeleton) : Read SkeletonDocument := do
  if (← peek) == .documentEnd then drop
  let state ← get
  return { root := some root, anchored := state.anchored, length := state.length }

/-- Whether a token cannot start the content of a document. -/
def endsContent : Token → Bool
  | .versionDirective _ _ => true
  | .tagDirective _ _ => true
  | .documentStart => true
  | .documentEnd => true
  | .streamEnd => true
  | _ => false

/-- Whether a token starts a document with a mark or ends the stream. -/
def isMarked : Token → Bool
  | .versionDirective _ _ => true
  | .tagDirective _ _ => true
  | .documentStart => true
  | .streamEnd => true
  | _ => false

/-- A document that starts with a mark. -/
def markedDocument (fuel : Nat) : Read SkeletonDocument := do
  let handles ← directives fuel false []
  if (← peek) != .documentStart then failure
  drop
  startDocument handles
  let root ← nodeUnless fuel true false endsContent
  finishDocument root

/-- The documents that start with a mark, up to the end of the stream. -/
def markedDocuments : Nat → Nat → Read (List SkeletonDocument)
  | 0, _ => failure
  | count + 1, fuel => do
      dropEndMarks fuel
      if (← peek) == .streamEnd then return []
      let document ← markedDocument fuel
      let rest ← markedDocuments count fuel
      return document :: rest

/-- The documents of a stream, of which the first needs no mark. -/
def stream (fuel : Nat) : Read (List SkeletonDocument) := do
  let next ← peek
  if next == .streamEnd then return []
  if isMarked next then
    let first ← markedDocument fuel
    let rest ← markedDocuments fuel fuel
    return first :: rest
  else
    startDocument []
    let root ← node fuel true false
    let first ← finishDocument root
    let rest ← markedDocuments fuel fuel
    return first :: rest

end Read

/-- The documents of a list of tokens; a stream without any has one without content. -/
def SkeletonDocument.ofTokens? (tokens : List Token) : Option (List SkeletonDocument) :=
  match (Read.stream (4 * tokens.length + 8)).run { tokens := tokens } with
  | some ([], _) => some [{ root := none }]
  | some (documents, _) => some documents
  | none => none

end Manifest.Yaml
