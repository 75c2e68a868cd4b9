import Manifest.Collection.Equality
import Manifest.Proofs.Patch.Decoded
import Manifest.Proofs.Resource.Merge

/-!
# Resources that are found equal

Two resources are found equal if their documents without build annotations can be
read and are alike.  This is so in both directions, since documents are alike exactly
if they have the same value.
-/

namespace Manifest

namespace Resource

/-- The contents of two resources are found equal. -/
def Equates (left right : Resource) : Prop :=
  ∃ comparison,
    Collection.compareResources left right = .ok comparison ∧ comparison.isSame = true

variable
  {left right : Resource}

/-- Resources are found equal if their documents without build annotations are alike. -/
theorem equates_iff :
    Equates left right ↔
      ∃ leftNode rightNode,
        left.comparableNode = .ok leftNode ∧
          right.comparableNode = .ok rightNode ∧ leftNode.Alike rightNode := by
  simp only [Equates, Collection.compareResources, Result.bind_eq_ok, Result.mapError_eq_ok]
  constructor
  · rintro ⟨comparison, ⟨leftNode, isLeft, rightNode, isRight, same⟩, isSame⟩
    cases same
    exact ⟨leftNode, rightNode, isLeft, isRight, Node.isSame_ofNodes.1 isSame⟩
  · rintro ⟨leftNode, rightNode, isLeft, isRight, alike⟩
    exact
      ⟨.ofNodes leftNode rightNode, ⟨leftNode, isLeft, rightNode, isRight, rfl⟩,
        Node.isSame_ofNodes.2 alike⟩

theorem compareResources_eq_ok
    {leftNode rightNode : Node}
    (comparesLeft : left.comparableNode = .ok leftNode)
    (comparesRight : right.comparableNode = .ok rightNode) :
    Collection.compareResources left right = .ok (.ofNodes leftNode rightNode) := by
  rw [Collection.compareResources, comparesLeft, comparesRight]
  rfl

theorem equates_of_comparable
    {leftNode rightNode : Node}
    (comparesLeft : left.comparableNode = .ok leftNode)
    (comparesRight : right.comparableNode = .ok rightNode) :
    Equates left right ↔ leftNode.Alike rightNode := by
  rw [Equates, compareResources_eq_ok comparesLeft comparesRight]
  simp [Node.isSame_ofNodes]

/-- A document that can be compared has metadata that can be read. -/
theorem metadata_of_comparableNode
    {node : Node}
    (compares : left.comparableNode = .ok node) :
    ∃ metadata, left.node.metadata = .ok metadata := by
  rw [comparableNode, removeBuildAnnotations, Node.annotations] at compares
  cases reads : left.node.metadata with
  | ok metadata => exact ⟨metadata, rfl⟩
  | error error =>
      rw [reads] at compares
      cases compares

theorem wellFormed_comparableNode
    {node : Node}
    (wellFormed : left.node.WellFormed)
    (compares : left.comparableNode = .ok node) :
    node.WellFormed := by
  rcases metadata_of_comparableNode compares with ⟨metadata, reads⟩
  rcases comparableNode_eq_ok wellFormed reads with ⟨next, comparesNext, nextWellFormed, _⟩
  cases compares.symm.trans comparesNext
  exact nextWellFormed

/-- Resources are found equal in both directions. -/
theorem Equates.symm
    (equates : Equates left right)
    (leftWellFormed : left.node.WellFormed)
    (rightWellFormed : right.node.WellFormed) :
    Equates right left := by
  rcases equates_iff.1 equates with ⟨leftNode, rightNode, isLeft, isRight, alike⟩
  have turned : rightNode.Alike leftNode :=
    alike.symm (wellFormed_comparableNode leftWellFormed isLeft)
      (wellFormed_comparableNode rightWellFormed isRight)
  exact equates_iff.2 ⟨rightNode, leftNode, isRight, isLeft, turned⟩

end Resource

end Manifest
