import Manifest.Node.Lookup
import Manifest.Proofs.Node.Edit

/-!
# What is found along a path

A walk that finds a node can be taken further from there: the rest of the path is
walked from the content of the node, as if the walk had just begun.  So what is at
the end of a path is decided by the node before it and by the last step.
-/

namespace Manifest.Node

/-- There is a node at a path. -/
def Has (node : Node) (path : Path) : Prop :=
  ∃ found, node.lookup path = .ok (some found)

/-- A path can be walked, and there is nothing at its end. -/
def Lacks (node : Node) (path : Path) : Prop :=
  node.lookup path = .ok none

theorem not_lacks_of_has
    {node : Node}
    {path : Path}
    (has : node.Has path) :
    ¬node.Lacks path := by
  rcases has with ⟨found, finds⟩
  intro lacks
  cases finds.symm.trans lacks

/-- From where a walk has come, it goes on. -/
theorem walk_append
    {path : Path}
    (rest : Path) :
    ∀ {walked : Path} {current found : Node},
      walk walked current path = .ok (some found) →
      walk walked current (path ++ rest) = walk (walked ++ path) found rest := by
  induction path with
  | nil =>
      intro walked current found finds
      cases finds
      rw [List.nil_append, List.append_nil]
  | cons next path inductionHypothesis =>
      intro walked current found finds
      rw [walk] at finds
      rw [List.cons_append, walk]
      split at finds
      · cases finds
      · rename_i notNull
        rw [if_neg notNull]
        cases meets : step next current with
        | found node =>
            simp only [meets] at finds ⊢
            rw [inductionHypothesis finds, Path.push, List.append_assoc, List.singleton_append]
        | absent =>
            simp only [meets] at finds
            cases finds
        | mismatch expected =>
            simp only [meets] at finds
            cases finds

variable
  {root node : Node}
  {path : Path}

/-- The last step of a path is taken from the node before it. -/
theorem lookup_push
    (finds : root.lookup path = .ok (some node))
    (next : Step) :
    root.lookup (path.push next) = walk path node [next] := by
  rw [lookup, Path.push, walk_append [next] finds, List.nil_append]

theorem lookup_field
    {fields : List (String × Node)}
    (finds : root.lookup path = .ok (some (.mapping fields)))
    (name : String) :
    root.lookup (path.push (.field name)) = .ok ((Fields.get? name fields).map content) := by
  rw [lookup_push finds]
  cases found : Fields.get? name fields with
  | none => simp [walk, step, StepResult.ofOption, isNull, content, found]
  | some child => simp [walk, step, StepResult.ofOption, isNull, content, found]

theorem lookup_index
    {items : List Node}
    (finds : root.lookup path = .ok (some (.sequence items)))
    (position : Nat) :
    root.lookup (path.push (.index position)) = .ok (items[position]?.map content) := by
  rw [lookup_push finds]
  cases found : items[position]? with
  | none => simp [walk, step, StepResult.ofOption, isNull, content, found]
  | some child => simp [walk, step, StepResult.ofOption, isNull, content, found]

end Manifest.Node
