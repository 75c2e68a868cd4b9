import Manifest.Identity.Gvk
import Manifest.Proofs.Text

/-!
# Types and their texts

A type is read from an `apiVersion` and a kind, and its `apiVersion` is written
back when documents are adapted to it.  What is written is what was read, unless
the text starts with a slash: the empty group before that slash cannot be told
from the absent one.

What is read is what was written, unless a slash in the type takes the place of
the one that is written behind the group.  Behind a group that is not empty, the
version may have slashes of its own.
-/

namespace Manifest

namespace Gvk

/-- An `apiVersion` that does not start with a slash. -/
def IsRelative (apiVersion : String) : Prop :=
  apiVersion.toList.head? ≠ some '/'

instance (apiVersion : String) : Decidable (IsRelative apiVersion) :=
  inferInstanceAs (Decidable (_ ≠ _))

/-- The `apiVersion` of a type is the one that the type was read from. -/
theorem apiVersion_ofApiVersion
    {apiVersion : String}
    (relative : IsRelative apiVersion)
    (kind : String) :
    (ofApiVersion apiVersion kind).apiVersion = apiVersion := by
  rw [Gvk.apiVersion, ofApiVersion, splitApiVersion]
  split
  · rename_i group version splits
    have chars : apiVersion.toList = group ++ '/' :: version := Text.splitFirst?_eq_some splits
    have groupNotEmpty : String.ofList group ≠ "" := by
      intro isEmpty
      have noChars : group = [] := by
        rw [← String.toList_ofList (l := group), isEmpty]
        rfl
      apply relative
      rw [chars, noChars]
      rfl
    rw [if_neg groupNotEmpty]
    apply String.toList_injective
    rw [chars]
    simp
  · rw [if_pos rfl]

/-- Reading the `apiVersion` of a type that was read gives that type. -/
theorem ofApiVersion_apiVersion
    {apiVersion : String}
    (relative : IsRelative apiVersion)
    (kind : String) :
    ofApiVersion (ofApiVersion apiVersion kind).apiVersion kind =
      ofApiVersion apiVersion kind := by
  rw [apiVersion_ofApiVersion relative]

/-! ## Slashes -/

/-- The group that is read has no slash. -/
theorem not_mem_group (apiVersion : String) :
    '/' ∉ (splitApiVersion apiVersion).1.toList := by
  rw [splitApiVersion]
  split
  · rename_i group version splits
    rw [String.toList_ofList]
    exact Text.not_mem_of_splitFirst? splits
  · exact List.not_mem_nil

/-- A group without slashes is read back, whatever the version behind it is. -/
theorem splitApiVersion_append
    {group : String}
    (noSlash : '/' ∉ group.toList)
    (version : String) :
    splitApiVersion (group ++ "/" ++ version) = (group, version) := by
  have chars : (group ++ "/" ++ version).toList = group.toList ++ '/' :: version.toList := by
    simp
  rw [splitApiVersion, chars, Text.splitFirst?_append_cons noSlash]
  simp only [String.ofList_toList]

/-- A text is its own version exactly if it has no slash. -/
theorem splitApiVersion_eq_self_iff (apiVersion : String) :
    splitApiVersion apiVersion = ("", apiVersion) ↔ '/' ∉ apiVersion.toList := by
  constructor
  · intro isVersion hasSlash
    rcases List.eq_append_cons_of_mem hasSlash with ⟨before, after, chars, absent⟩
    rw [splitApiVersion, chars, Text.splitFirst?_append_cons absent] at isVersion
    have sameChars : after = before ++ '/' :: after := by
      rw [← chars, ← (Prod.mk.inj isVersion).2, String.toList_ofList]
    have sameLength := congrArg List.length sameChars
    rw [List.length_append, List.length_cons] at sameLength
    omega
  · intro noSlash
    rw [splitApiVersion, Text.splitFirst?_of_not_mem noSlash]

theorem ofApiVersion_eq_iff
    {apiVersion : String}
    {gvk : Gvk} :
    ofApiVersion apiVersion gvk.kind = gvk ↔
      splitApiVersion apiVersion = (gvk.group, gvk.version) := by
  rcases gvk with ⟨group, version, kind⟩
  rw [ofApiVersion, mk.injEq, Prod.ext_iff]
  simp only [and_true]

/--
A type is read from its own `apiVersion` exactly if its group has no slash, and its version has one
only behind a group.
-/
theorem ofApiVersion_self_iff (gvk : Gvk) :
    ofApiVersion gvk.apiVersion gvk.kind = gvk ↔
      '/' ∉ gvk.group.toList ∧ (gvk.group ≠ "" ∨ '/' ∉ gvk.version.toList) := by
  rw [ofApiVersion_eq_iff, Gvk.apiVersion]
  by_cases noGroup : gvk.group = ""
  · rw [if_pos noGroup, noGroup, splitApiVersion_eq_self_iff]
    constructor
    · intro noSlash
      exact ⟨List.not_mem_nil, Or.inr noSlash⟩
    · rintro ⟨-, isGroup | noSlash⟩
      · exact absurd rfl isGroup
      · exact noSlash
  · rw [if_neg noGroup]
    constructor
    · intro splits
      have noSlash := not_mem_group (gvk.group ++ "/" ++ gvk.version)
      rw [splits] at noSlash
      exact ⟨noSlash, Or.inl noGroup⟩
    · rintro ⟨noSlash, -⟩
      exact splitApiVersion_append noSlash gvk.version

/-- A text that starts with a slash is not written back: the slash is lost. -/
theorem isRelative_of_apiVersion_ofApiVersion
    {apiVersion kind : String}
    (writesBack : (ofApiVersion apiVersion kind).apiVersion = apiVersion) :
    IsRelative apiVersion := by
  intro startsWithSlash
  rcases List.head?_eq_some_iff.1 startsWithSlash with ⟨rest, chars⟩
  have splits : splitApiVersion apiVersion = ("", String.ofList rest) := by
    rw [splitApiVersion, chars]
    rfl
  rw [ofApiVersion, splits, Gvk.apiVersion, if_pos rfl] at writesBack
  have sameChars : rest = '/' :: rest := by
    rw [← chars, ← writesBack, String.toList_ofList]
  have sameLength := congrArg List.length sameChars
  rw [List.length_cons] at sameLength
  omega

/--
Reading undoes writing exactly for types that have no slash in their group, nor in their version
where there is no group; and writing undoes reading exactly for texts that do not start with one.
-/
theorem readsBack_iff_and_writesBack_iff :
    (∀ gvk : Gvk,
        ofApiVersion gvk.apiVersion gvk.kind = gvk ↔
          '/' ∉ gvk.group.toList ∧ (gvk.group ≠ "" ∨ '/' ∉ gvk.version.toList)) ∧
      ∀ apiVersion kind : String,
        (ofApiVersion apiVersion kind).apiVersion = apiVersion ↔ IsRelative apiVersion :=
  ⟨ofApiVersion_self_iff, fun _ kind =>
    ⟨isRelative_of_apiVersion_ofApiVersion, fun relative => apiVersion_ofApiVersion relative kind⟩⟩

example : (ofApiVersion "/v1" "Pod").apiVersion = "v1" := by decide

end Gvk

end Manifest
