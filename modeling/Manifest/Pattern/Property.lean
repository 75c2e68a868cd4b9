import Manifest.Text.Age
import Manifest.Text.Property

/-!
# Classes named after a property

The classes of patterns that are named after a property of characters: a
property that a character has or does not have, a general category, a script,
or the value of a property that has several.  Upper and lower case, spaces,
dashes and underlines make no difference in names, nor does a leading `is`.
-/

namespace Manifest.Pattern.Property

open Text (CodeSet NamedSet)

/-- A name without what makes no difference. The name of a comment stays apart from that of the
category of all other characters. -/
def plainName (name : List Char) : String :=
  let startsWithIs :=
    match name with
    | first :: second :: _ => first.toLower = 'i' && second.toLower = 's'
    | _ => false
  let plain := ((if startsWithIs then name.drop 2 else name).filter fun char =>
    char.toNat < 0x80 && char != ' ' && char != '_' && char != '-').map Char.toLower
  if startsWithIs && plain = ['c'] then "isc" else String.ofList plain

/-- The class that a single name denotes. -/
def ofName? (name : String) : Option CodeSet :=
  NamedSet.find? Text.properties name <|> NamedSet.find? Text.categories name <|>
    Text.ofScript? name

/-- The class of the characters for which a property has a value. -/
def ofValue? (property value : String) : Option CodeSet :=
  match property with
  | "generalcategory" | "gc" => NamedSet.find? Text.categories value
  | "script" | "sc" => Text.ofScript? value
  | "scriptextensions" | "scx" => Text.usedInScript? value
  | "age" => Text.ofAge? value
  | "graphemeclusterbreak" | "gcb" => NamedSet.find? Text.Grapheme.classes value
  | "wordbreak" | "wb" => NamedSet.find? Text.Word.classes value
  | "sentencebreak" | "sb" => NamedSet.find? Text.Sentence.classes value
  | _ => none

/-- A text cut at the first place where a sign stands. -/
def cutAt? (sign : List Char) : List Char → Option (List Char × List Char)
  | [] => none
  | char :: rest =>
      if sign.isPrefixOf (char :: rest) then some ([], rest.drop (sign.length - 1))
      else (cutAt? sign rest).map fun (before, behind) => (char :: before, behind)

/-- The class that a text in the notation of patterns names, and whether its complement is meant:
the sign `!=` between a property and a value denotes the characters that have another value. -/
def ofText? (text : List Char) : Option (CodeSet × Bool) :=
  match cutAt? ['!', '='] text with
  | some (property, value) =>
      (ofValue? (plainName property) (plainName value)).map fun set => (set, true)
  | none =>
      match cutAt? [':'] text <|> cutAt? ['='] text with
      | some (property, value) =>
          (ofValue? (plainName property) (plainName value)).map fun set => (set, false)
      | none => (ofName? (plainName text)).map fun set => (set, false)

example : plainName "Is_Greek".toList = "greek" := by decide

end Manifest.Pattern.Property
