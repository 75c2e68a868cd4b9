import Manifest.Node.Basic

/-!
# Equal nodes

Whether two nodes are equal, spellings and order of fields included, can be
decided.  This is finer than the equality by value that documents are compared
with.
-/

namespace Manifest.Node

mutual

/-- Decides whether two nodes are equal. -/
def decideEq : (left right : Node) → Decidable (left = right)
  | document left, document right =>
      match decideEq left right with
      | isTrue same => isTrue (congrArg document same)
      | isFalse different => isFalse fun same => different (document.inj same)
  | mapping left, mapping right =>
      match decideEqFields left right with
      | isTrue same => isTrue (congrArg mapping same)
      | isFalse different => isFalse fun same => different (mapping.inj same)
  | sequence left, sequence right =>
      match decideEqItems left right with
      | isTrue same => isTrue (congrArg sequence same)
      | isFalse different => isFalse fun same => different (sequence.inj same)
  | scalar left, scalar right =>
      if same : left = right then isTrue (congrArg scalar same)
      else isFalse fun sameNode => same (scalar.inj sameNode)
  | reference leftAnchor left, reference rightAnchor right =>
      if sameAnchor : leftAnchor = rightAnchor then
        match decideEq left right with
        | isTrue same => isTrue (congr (congrArg reference sameAnchor) same)
        | isFalse different => isFalse fun same => different (reference.inj same).2
      else isFalse fun same => sameAnchor (reference.inj same).1
  | document _, mapping _ | document _, sequence _ | document _, scalar _
  | document _, reference _ _ | mapping _, document _ | mapping _, sequence _
  | mapping _, scalar _ | mapping _, reference _ _ | sequence _, document _
  | sequence _, mapping _ | sequence _, scalar _ | sequence _, reference _ _
  | scalar _, document _ | scalar _, mapping _ | scalar _, sequence _
  | scalar _, reference _ _ | reference _ _, document _ | reference _ _, mapping _
  | reference _ _, sequence _ | reference _ _, scalar _ => isFalse nofun

/-- Decides whether two lists of items are equal. -/
def decideEqItems : (left right : List Node) → Decidable (left = right)
  | [], [] => isTrue rfl
  | [], _ :: _ => isFalse nofun
  | _ :: _, [] => isFalse nofun
  | left :: leftRest, right :: rightRest =>
      match decideEq left right, decideEqItems leftRest rightRest with
      | isTrue same, isTrue sameRest => isTrue (congr (congrArg List.cons same) sameRest)
      | isFalse different, _ => isFalse fun same => different (List.cons.inj same).1
      | _, isFalse different => isFalse fun same => different (List.cons.inj same).2

/-- Decides whether two lists of fields are equal. -/
def decideEqFields : (left right : List (String × Node)) → Decidable (left = right)
  | [], [] => isTrue rfl
  | [], _ :: _ => isFalse nofun
  | _ :: _, [] => isFalse nofun
  | (leftName, left) :: leftRest, (rightName, right) :: rightRest =>
      if sameName : leftName = rightName then
        match decideEq left right, decideEqFields leftRest rightRest with
        | isTrue same, isTrue sameRest =>
            isTrue (congr (congrArg List.cons (congr (congrArg Prod.mk sameName) same)) sameRest)
        | isFalse different, _ =>
            isFalse fun same => different (Prod.mk.inj (List.cons.inj same).1).2
        | _, isFalse different => isFalse fun same => different (List.cons.inj same).2
      else isFalse fun same => sameName (Prod.mk.inj (List.cons.inj same).1).1

end

instance : DecidableEq Node := decideEq

end Manifest.Node
