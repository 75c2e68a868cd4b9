import Manifest.Node.Decode
import Manifest.Proofs.Node.Edit

/-!
# What documents decode to

Decoding sees no wrappers, and decodes items and fields one by one.  The map that fields
with distinct names decode to holds the value of each field under its name.
-/

namespace Manifest

namespace Node

@[simp]
theorem toValue_content (node : Node) :
    node.content.toValue = node.toValue :=
  read_content (fun _ => rfl) (fun _ _ => rfl) node

theorem itemValues_eq_map (items : List Node) :
    itemValues items = items.map toValue := by
  induction items with
  | nil => rfl
  | cons item rest inductionHypothesis => rw [itemValues, inductionHypothesis, List.map_cons]

theorem fieldValues_eq_mapContents (fields : List (String × Node)) :
    fieldValues fields = Fields.mapContents toValue fields := by
  induction fields with
  | nil => rfl
  | cons field rest inductionHypothesis =>
      rw [fieldValues, inductionHypothesis, Fields.mapContents_cons]

/-- The map that fields with distinct names decode to holds their values. -/
theorem get?_decoded
    {fields : List (String × Node)}
    (distinct : Fields.Distinct fields)
    (name : String) :
    Fields.get? name (Fields.sortedOfPairs (fieldValues fields)) =
      (Fields.get? name fields).map toValue := by
  have valuesDistinct : Fields.Distinct (Fields.mapContents toValue fields) := by
    rw [Fields.Distinct, Fields.names_mapContents]
    exact distinct
  rw [fieldValues_eq_mapContents, Fields.get?_sortedOfPairs valuesDistinct,
    Fields.get?_mapContents]

end Node

end Manifest
