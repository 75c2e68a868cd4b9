import Manifest.Proofs.Collection.Batch
import Manifest.Proofs.Collection.Distinct

/-!
# Batches in any order

Where no resource was renamed and no id is repeated, each incoming resource can
meet only the one with its own id.  Then a batch works resource by resource: each
resource of the collection settles with the incoming one that has its id, if
there is one, and the incoming ones that have no resource to meet are added in
their order.

The order of a batch decides nothing but the order of what is added.
-/

namespace Manifest

namespace Collection

/-! ## Collections without renamed resources -/

/-- The current ids are distinct, and each of them is the initial one. -/
structure IsUnrenamed (collection : Collection) : Prop where
  distinct : collection.IsDistinct
  unrenamed : ∀ resource ∈ collection.resources, resource.initialId = resource.currentId

instance (collection : Collection) : Decidable collection.IsUnrenamed :=
  have : Decidable collection.IsDistinct := inferInstanceAs (Decidable (List.Nodup _))
  decidable_of_iff
    (collection.IsDistinct ∧
      ∀ resource ∈ collection.resources, resource.initialId = resource.currentId)
    ⟨fun holds => ⟨holds.1, holds.2⟩, fun holds => ⟨holds.distinct, holds.unrenamed⟩⟩

section

variable
  {before after : List Resource}
  {existing : Resource}
  (isUnrenamed : IsUnrenamed { resources := before ++ existing :: after })

include isUnrenamed

/-- No resource at another place has the current id of the one at a place. -/
theorem IsUnrenamed.currentId_ne
    {other : Resource}
    (member : other ∈ before ++ after) :
    other.currentId ≠ existing.currentId := by
  have distinct := isUnrenamed.distinct
  rw [IsDistinct, ids, (List.perm_middle.map Resource.currentId).nodup_iff, List.map_cons,
    List.nodup_cons] at distinct
  intro same
  exact distinct.1 (List.mem_map.2 ⟨other, member, same⟩)

/-- An id meets the resource that has it. -/
theorem IsUnrenamed.meeting_eq
    {id : ResourceId}
    (hasId : existing.currentId = id) :
    meeting (before ++ existing :: after) id = .ok (some before.length) := by
  have othersDiffer :
      ∀ other ∈ before ++ after, (other.initialId == id) = false := by
    intro other member
    have inside : other ∈ before ++ existing :: after := by
      rw [List.perm_middle.mem_iff]
      exact List.mem_cons_of_mem existing member
    rw [isUnrenamed.unrenamed other inside, ← hasId]
    exact beq_false_of_ne (isUnrenamed.currentId_ne member)
  have only :
      positions (fun resource => resource.initialId == id) (before ++ existing :: after) =
        [before.length] := by
    apply positions_eq_singleton
    · rw [isUnrenamed.unrenamed existing (by simp), hasId]
      exact beq_self_eq_true id
    · intro other member
      exact othersDiffer other (List.mem_append_left after member)
    · intro other member
      exact othersDiffer other (List.mem_append_right before member)
  rw [meeting, only]

theorem IsUnrenamed.isTakenElsewhere_eq_false :
    isTakenElsewhere (before ++ existing :: after) before.length existing.currentId = false := by
  rw [isTakenElsewhere, List.eraseIdx_append_of_length_le (Nat.le_refl _), Nat.sub_self,
    List.eraseIdx_cons_zero, List.any_eq_false]
  intro other member
  simpa using isUnrenamed.currentId_ne member

/-- Another resource with the same current id, which was not renamed, can take the place. -/
theorem IsUnrenamed.replaced
    {settled : Resource}
    (sameId : settled.currentId = existing.currentId)
    (settledUnrenamed : settled.initialId = settled.currentId) :
    IsUnrenamed { resources := before ++ settled :: after } where
  distinct := by
    apply isUnrenamed.distinct.of_ids_eq
    simp only [ids, List.map_append, List.map_cons, sameId]
  unrenamed := by
    intro resource member
    rw [List.perm_middle.mem_iff, List.mem_cons] at member
    rcases member with rfl | isOther
    · exact settledUnrenamed
    · refine isUnrenamed.unrenamed resource ?_
      rw [List.perm_middle.mem_iff]
      exact List.mem_cons_of_mem existing isOther

end

/-- An id that no resource has meets none. -/
theorem IsUnrenamed.meeting_eq_none
    {collection : Collection}
    (isUnrenamed : collection.IsUnrenamed)
    {id : ResourceId}
    (free : id ∉ collection.ids) :
    meeting collection.resources id = .ok none := by
  have differ : ∀ resource ∈ collection.resources, (resource.currentId == id) = false := by
    intro resource member
    apply beq_false_of_ne
    rintro rfl
    exact free (List.mem_map.2 ⟨resource, member, rfl⟩)
  have noCurrent :
      positions (fun resource => resource.currentId == id) collection.resources = [] :=
    positions_eq_nil.2 differ
  have noInitial :
      positions (fun resource => resource.initialId == id) collection.resources = [] := by
    rw [positions_eq_nil]
    intro resource member
    rw [isUnrenamed.unrenamed resource member]
    exact differ resource member
  rw [meeting, noInitial, noCurrent]
  rfl

/-- A resource with a free id that was not renamed can be added. -/
theorem IsUnrenamed.add
    {collection : Collection}
    (isUnrenamed : collection.IsUnrenamed)
    {resource : Resource}
    (free : resource.currentId ∉ collection.ids)
    (resourceUnrenamed : resource.initialId = resource.currentId) :
    IsUnrenamed { resources := collection.resources ++ [resource] } where
  distinct := isUnrenamed.distinct.add free
  unrenamed := by
    intro other member
    rcases List.mem_append.1 member with isThere | isAdded
    · exact isUnrenamed.unrenamed other isThere
    · rw [List.mem_singleton] at isAdded
      rw [isAdded]
      exact resourceUnrenamed

theorem IsUnrenamed.tail
    {incoming : Resource}
    {rest : List Resource}
    (isUnrenamed : IsUnrenamed { resources := incoming :: rest }) :
    IsUnrenamed { resources := rest } where
  distinct := isUnrenamed.distinct.sublist (List.sublist_cons_self incoming rest)
  unrenamed := fun resource member =>
    isUnrenamed.unrenamed resource (List.mem_cons_of_mem incoming member)

/-! ## A batch, resource by resource -/

/-- What a resource becomes when it settles with an incoming one. -/
def settled (existing incoming : Resource) : Except CollectionError Resource :=
  match incoming.behavior with
  | .merge => (existing.mergedWith incoming).mapError .document
  | .replace => .ok incoming
  | behavior => .error (.behaviorMismatch incoming.currentId behavior)

/-- What a resource becomes when it settles with the one of a batch that has its id. -/
def settledWithin (batch : List Resource) (existing : Resource) :
    Except CollectionError Resource :=
  match batch.find? fun incoming => incoming.currentId == existing.currentId with
  | some incoming => settled existing incoming
  | none => .ok existing

/-- The resources of a batch whose ids are not among given ones. -/
def newcomers (ids : List ResourceId) (batch : List Resource) : List Resource :=
  batch.filter fun incoming => incoming.currentId ∉ ids

theorem mergedWith_initialId
    {resource incoming merged : Resource}
    (merges : resource.mergedWith incoming = .ok merged) :
    merged.initialId = resource.initialId := by
  simp only [Resource.mergedWith, Result.bind_eq_ok] at merges
  rcases merges with ⟨_, _, _, _, _, _, _, _, same⟩
  cases same
  rfl

/-- A resource that settles with one of its id keeps the id and is not renamed. -/
theorem ids_settled
    {existing incoming result : Resource}
    (sameId : existing.currentId = incoming.currentId)
    (existingUnrenamed : existing.initialId = existing.currentId)
    (incomingUnrenamed : incoming.initialId = incoming.currentId)
    (settles : settled existing incoming = .ok result) :
    result.currentId = existing.currentId ∧ result.initialId = result.currentId := by
  rw [settled] at settles
  split at settles
  · rw [Result.mapError_eq_ok] at settles
    have keepsId := mergedWith_currentId settles
    exact ⟨keepsId, by rw [mergedWith_initialId settles, keepsId, existingUnrenamed]⟩
  · cases settles
    exact ⟨sameId.symm, incomingUnrenamed⟩
  · cases settles

/-- An incoming resource settles with the one that has its id. -/
theorem IsUnrenamed.absorbOne_eq
    {before after : List Resource}
    {existing incoming : Resource}
    (isUnrenamed : IsUnrenamed { resources := before ++ existing :: after })
    (sameId : existing.currentId = incoming.currentId) :
    absorbOne (before ++ existing :: after) incoming =
      (settled existing incoming).map fun result => before ++ result :: after := by
  have setThere :
      ∀ result, (before ++ existing :: after).set before.length result =
        before ++ result :: after := by
    intro result
    simp
  have atPlace : (before ++ existing :: after)[before.length]? = some existing := by
    simp
  have free :
      isTakenElsewhere (before ++ existing :: after) before.length incoming.currentId = false := by
    rw [← sameId]
    exact isUnrenamed.isTakenElsewhere_eq_false
  rw [absorbOne, isUnrenamed.meeting_eq sameId]
  change absorbAt (before ++ existing :: after) before.length incoming = _
  rw [absorbAt, settled, atPlace]
  cases incoming.behavior with
  | merge => simp only [setThere]
  | replace =>
      simp only [free, setThere]
      rfl
  | unspecified => rfl
  | create => rfl

/-- An incoming resource with a free id is added, unless it asks for another one. -/
theorem IsUnrenamed.absorbOne_eq_ok
    {collection : Collection}
    (isUnrenamed : collection.IsUnrenamed)
    {incoming : Resource}
    (free : incoming.currentId ∉ collection.ids)
    {result : List Resource} :
    absorbOne collection.resources incoming = .ok result ↔
      incoming.behavior.needsExisting = false ∧ collection.resources ++ [incoming] = result := by
  rw [absorbOne, isUnrenamed.meeting_eq_none free]
  change absorbMet collection.resources incoming none = _ ↔ _
  rw [absorbMet]
  cases incoming.behavior.needsExisting <;> simp

/-- Nothing comes for a resource whose id no resource of the batch has. -/
theorem settledWithin_of_free
    {batch : List Resource}
    {existing : Resource}
    (free : existing.currentId ∉ ids { resources := batch }) :
    settledWithin batch existing = .ok existing := by
  have nothing :
      batch.find? (fun incoming => incoming.currentId == existing.currentId) = none := by
    rw [List.find?_eq_none]
    intro incoming member isSame
    exact free (List.mem_map.2 ⟨incoming, member, eq_of_beq isSame⟩)
  rw [settledWithin, nothing]

/-- A resource settles with the one of the batch that has its id. -/
theorem settledWithin_of_mem
    {batch : List Resource}
    (batchUnrenamed : IsUnrenamed { resources := batch })
    {existing incoming : Resource}
    (member : incoming ∈ batch)
    (sameId : existing.currentId = incoming.currentId) :
    settledWithin batch existing = settled existing incoming := by
  rcases List.append_of_mem member with ⟨before, after, rfl⟩
  have notBefore :
      before.find? (fun other => other.currentId == existing.currentId) = none := by
    rw [List.find?_eq_none]
    intro other inBefore isSame
    refine batchUnrenamed.currentId_ne (List.mem_append_left after inBefore) ?_
    rw [eq_of_beq isSame, sameId]
  rw [settledWithin, List.find?_append, notBefore, Option.none_or,
    List.find?_cons_of_pos (by simp [sameId])]

theorem settledWithin_cons_same
    {incoming existing : Resource}
    (sameId : existing.currentId = incoming.currentId)
    (rest : List Resource) :
    settledWithin (incoming :: rest) existing = settled existing incoming := by
  rw [settledWithin, List.find?_cons_of_pos (by simp [sameId])]

theorem settledWithin_cons_other
    {incoming existing : Resource}
    (differ : existing.currentId ≠ incoming.currentId)
    (rest : List Resource) :
    settledWithin (incoming :: rest) existing = settledWithin rest existing := by
  rw [settledWithin, settledWithin, List.find?_cons_of_neg (by simpa using differ.symm)]

/-- The newcomers of a batch, behind what the resources become when they settle with it. -/
def SettlesAs (resources batch result : List Resource) : Prop :=
  (∀ incoming ∈ newcomers (ids { resources }) batch,
    incoming.behavior.needsExisting = false) ∧
  ∃ results,
    resources.mapM (settledWithin batch) = .ok results ∧
      results ++ newcomers (ids { resources }) batch = result

theorem settlesAs_nil
    {resources result : List Resource} :
    SettlesAs resources [] result ↔ resources = result := by
  have stay : resources.mapM (settledWithin []) = .ok resources := by
    have each : ∀ resource ∈ resources, settledWithin [] (id resource) = .ok resource := by
      intro resource _
      rfl
    rw [← Result.mapM_map_eq_ok each, List.map_id]
  simp [SettlesAs, newcomers, stay]

/-- Where the first of a batch has the id of a resource, this one settles first. -/
theorem settlesAs_cons_of_meeting
    {before after rest result : List Resource}
    {existing incoming : Resource}
    (isUnrenamed : IsUnrenamed { resources := before ++ existing :: after })
    (batchUnrenamed : IsUnrenamed { resources := incoming :: rest })
    (sameId : existing.currentId = incoming.currentId) :
    SettlesAs (before ++ existing :: after) (incoming :: rest) result ↔
      ∃ next,
        settled existing incoming = .ok next ∧
          SettlesAs (before ++ next :: after) rest result := by
  have othersAgree :
      ∀ other ∈ before ++ after,
        settledWithin (incoming :: rest) other = settledWithin rest other := by
    intro other member
    exact settledWithin_cons_other (sameId ▸ isUnrenamed.currentId_ne member) rest
  have beforeAgrees := Result.mapM_congr fun other member =>
    othersAgree other (List.mem_append_left after member)
  have afterAgrees := Result.mapM_congr fun other member =>
    othersAgree other (List.mem_append_right before member)
  have keepsId :
      ∀ next, settled existing incoming = .ok next → next.currentId = existing.currentId := by
    intro next settles
    exact (ids_settled sameId (isUnrenamed.unrenamed existing (by simp))
      (batchUnrenamed.unrenamed incoming (by simp)) settles).1
  have stays :
      ∀ next, settled existing incoming = .ok next → settledWithin rest next = .ok next := by
    intro next settles
    apply settledWithin_of_free
    rw [keepsId next settles, sameId]
    exact (List.nodup_cons.1 batchUnrenamed.distinct).1
  have sameNewcomers :
      ∀ next, settled existing incoming = .ok next →
        newcomers (ids { resources := before ++ next :: after }) rest =
          newcomers (ids { resources := before ++ existing :: after }) (incoming :: rest) := by
    intro next settles
    rw [newcomers, newcomers, List.filter_cons_of_neg (by simp [ids, sameId])]
    simp only [ids, List.map_append, List.map_cons, keepsId next settles]
  simp only [SettlesAs, Result.mapM_append_cons_eq_ok, beforeAgrees, afterAgrees,
    settledWithin_cons_same sameId]
  constructor
  · rintro ⟨noneAsks, _, ⟨firsts, next, lasts, settleFirsts, settles, settleLasts, rfl⟩, rfl⟩
    refine ⟨next, settles, ?_⟩
    rw [sameNewcomers next settles]
    exact ⟨noneAsks, _, ⟨firsts, next, lasts, settleFirsts, stays next settles, settleLasts,
      rfl⟩, rfl⟩
  · rintro ⟨next, settles, noneAsks, _,
      ⟨firsts, same, lasts, settleFirsts, staysSame, settleLasts, rfl⟩, rfl⟩
    rw [stays next settles] at staysSame
    cases staysSame
    rw [sameNewcomers next settles] at noneAsks ⊢
    exact ⟨noneAsks, _, ⟨firsts, next, lasts, settleFirsts, settles, settleLasts, rfl⟩, rfl⟩

/-- Where no resource has the id of the first of a batch, this one is added behind them. -/
theorem settlesAs_cons_of_free
    {resources rest result : List Resource}
    {incoming : Resource}
    (batchUnrenamed : IsUnrenamed { resources := incoming :: rest })
    (free : incoming.currentId ∉ ids { resources }) :
    SettlesAs resources (incoming :: rest) result ↔
      incoming.behavior.needsExisting = false ∧
        SettlesAs (resources ++ [incoming]) rest result := by
  have restFree : incoming.currentId ∉ ids { resources := rest } :=
    (List.nodup_cons.1 batchUnrenamed.distinct).1
  have agree :
      resources.mapM (settledWithin (incoming :: rest)) =
        resources.mapM (settledWithin rest) := by
    apply Result.mapM_congr
    intro resource member
    apply settledWithin_cons_other
    intro same
    exact free (List.mem_map.2 ⟨resource, member, same⟩)
  have withNewcomer :
      newcomers (ids { resources }) (incoming :: rest) =
        incoming :: newcomers (ids { resources }) rest :=
    List.filter_cons_of_pos (by simpa using free)
  have otherNewcomers :
      newcomers (ids { resources := resources ++ [incoming] }) rest =
        newcomers (ids { resources }) rest := by
    apply List.filter_congr
    intro other member
    have differ : other.currentId ≠ incoming.currentId := by
      intro same
      exact restFree (List.mem_map.2 ⟨other, member, same⟩)
    simp [ids, differ]
  have stays : settledWithin rest incoming = .ok incoming := settledWithin_of_free restFree
  simp only [SettlesAs, agree, withNewcomer, otherNewcomers, List.forall_mem_cons,
    Result.mapM_append_cons_eq_ok]
  constructor
  · rintro ⟨⟨asksNone, noneAsks⟩, results, settle, rfl⟩
    exact ⟨asksNone, noneAsks, _, ⟨results, incoming, [], settle, stays, rfl, rfl⟩, by simp⟩
  · rintro ⟨asksNone, noneAsks, _, ⟨results, same, _, settle, staysSame, settleLasts, rfl⟩, rfl⟩
    rw [stays] at staysSame
    cases staysSame
    cases settleLasts
    exact ⟨⟨asksNone, noneAsks⟩, results, settle, by simp⟩

/--
A batch is absorbed exactly if each resource settles with the incoming one that
has its id and no newcomer asks for another resource.  The newcomers are added
in their order.
-/
theorem absorbs_iff_settlesAs
    {batch : List Resource} :
    ∀ {resources result : List Resource},
      IsUnrenamed { resources } →
      IsUnrenamed { resources := batch } →
      (batch.foldlM absorbOne resources = .ok result ↔ SettlesAs resources batch result) := by
  induction batch with
  | nil =>
      intro resources result _ _
      rw [settlesAs_nil, List.foldlM_nil]
      constructor
      · intro same
        cases same
        rfl
      · rintro rfl
        rfl
  | cons incoming rest inductionHypothesis =>
      intro resources result isUnrenamed batchUnrenamed
      have incomingUnrenamed := batchUnrenamed.unrenamed incoming List.mem_cons_self
      rw [List.foldlM_cons, Result.bind_eq_ok]
      by_cases taken : incoming.currentId ∈ ids { resources }
      · rcases List.mem_map.1 taken with ⟨existing, member, sameId⟩
        rcases List.append_of_mem member with ⟨before, after, rfl⟩
        have restSettles :
            ∀ next, settled existing incoming = .ok next →
              (rest.foldlM absorbOne (before ++ next :: after) = .ok result ↔
                SettlesAs (before ++ next :: after) rest result) := by
          intro next settles
          rcases ids_settled sameId (isUnrenamed.unrenamed existing member) incomingUnrenamed
            settles with ⟨keepsId, nextUnrenamed⟩
          exact inductionHypothesis (isUnrenamed.replaced keepsId nextUnrenamed)
            batchUnrenamed.tail
        rw [isUnrenamed.absorbOne_eq sameId,
          settlesAs_cons_of_meeting isUnrenamed batchUnrenamed sameId]
        simp only [Result.map_eq_ok]
        constructor
        · rintro ⟨_, ⟨next, settles, rfl⟩, absorbs⟩
          exact ⟨next, settles, (restSettles next settles).1 absorbs⟩
        · rintro ⟨next, settles, settle⟩
          exact ⟨_, ⟨next, settles, rfl⟩, (restSettles next settles).2 settle⟩
      · rw [settlesAs_cons_of_free batchUnrenamed taken]
        have restSettles :
            rest.foldlM absorbOne (resources ++ [incoming]) = .ok result ↔
              SettlesAs (resources ++ [incoming]) rest result :=
          inductionHypothesis (isUnrenamed.add taken incomingUnrenamed) batchUnrenamed.tail
        rw [← restSettles]
        simp only [isUnrenamed.absorbOne_eq_ok taken]
        constructor
        · rintro ⟨_, ⟨asksNone, rfl⟩, absorbs⟩
          exact ⟨asksNone, absorbs⟩
        · rintro ⟨asksNone, absorbs⟩
          exact ⟨_, ⟨asksNone, rfl⟩, absorbs⟩

/-! ## Rearranged batches -/

theorem IsUnrenamed.of_perm
    {batch rearranged : List Resource}
    (batchUnrenamed : IsUnrenamed { resources := batch })
    (isRearranged : rearranged.Perm batch) :
    IsUnrenamed { resources := rearranged } where
  distinct := (isRearranged.map Resource.currentId).nodup_iff.2 batchUnrenamed.distinct
  unrenamed := fun resource member =>
    batchUnrenamed.unrenamed resource (isRearranged.mem_iff.1 member)

/-- A resource settles with the same incoming one in any order. -/
theorem settledWithin_of_perm
    {batch rearranged : List Resource}
    (batchUnrenamed : IsUnrenamed { resources := batch })
    (isRearranged : rearranged.Perm batch)
    (existing : Resource) :
    settledWithin rearranged existing = settledWithin batch existing := by
  have sameIds : (ids { resources := rearranged }).Perm (ids { resources := batch }) :=
    isRearranged.map Resource.currentId
  by_cases taken : existing.currentId ∈ ids { resources := batch }
  · rcases List.mem_map.1 taken with ⟨incoming, member, sameId⟩
    rw [settledWithin_of_mem batchUnrenamed member sameId.symm,
      settledWithin_of_mem (batchUnrenamed.of_perm isRearranged)
        (isRearranged.mem_iff.2 member) sameId.symm]
  · have takenByNone : existing.currentId ∉ ids { resources := rearranged } := by
      rw [sameIds.mem_iff]
      exact taken
    rw [settledWithin_of_free taken, settledWithin_of_free takenByNone]

/-- A rearranged batch settles the same resources, and rearranges what is added. -/
theorem SettlesAs.of_perm
    {resources batch rearranged result : List Resource}
    (settle : SettlesAs resources batch result)
    (batchUnrenamed : IsUnrenamed { resources := batch })
    (isRearranged : rearranged.Perm batch) :
    ∃ other,
      SettlesAs resources rearranged other ∧
      other.take resources.length = result.take resources.length ∧
      (other.drop resources.length).Perm (result.drop resources.length) := by
  rcases settle with ⟨noneAsks, results, settle, rfl⟩
  have sameNewcomers :
      (newcomers (ids { resources }) rearranged).Perm (newcomers (ids { resources }) batch) :=
    isRearranged.filter _
  have sameLength : resources.length = results.length := (Result.length_of_mapM settle).symm
  have noneAsksHere :
      ∀ incoming ∈ newcomers (ids { resources }) rearranged,
        incoming.behavior.needsExisting = false := by
    intro incoming member
    exact noneAsks incoming (sameNewcomers.mem_iff.1 member)
  have settleHere : resources.mapM (settledWithin rearranged) = .ok results := by
    rw [← settle]
    exact Result.mapM_congr fun existing _ =>
      settledWithin_of_perm batchUnrenamed isRearranged existing
  refine ⟨_, ⟨noneAsksHere, results, settleHere, rfl⟩, ?_, ?_⟩
  · rw [sameLength, List.take_left, List.take_left]
  · rw [sameLength, List.drop_left, List.drop_left]
    exact sameNewcomers

end Collection

namespace Shared

/-- What the handles of a valid collection show after a batch is what the batch settles as. -/
theorem absorbed_eq_ok
    {shared : Shared}
    (isValid : shared.Valid)
    (isUnrenamed : shared.view.IsUnrenamed)
    {batch : List Resource}
    (batchUnrenamed : Collection.IsUnrenamed { resources := batch })
    {result : List Resource} :
    (∃ next, shared.absorbed batch = .ok next ∧ next.view.resources = result) ↔
      Collection.SettlesAs shared.view.resources batch result := by
  have absorbsList :
      batch.foldlM Collection.absorbOne shared.view.resources = .ok result ↔
        Collection.SettlesAs shared.view.resources batch result :=
    Collection.absorbs_iff_settlesAs isUnrenamed batchUnrenamed
  rw [← absorbsList]
  constructor
  · rintro ⟨next, absorbs, rfl⟩
    exact absorbs_of_absorbed isValid absorbs
  · intro absorbs
    have sameView := view_absorbed isValid batch
    rw [absorbs] at sameView
    rcases Result.map_eq_ok.1 sameView with ⟨next, succeeds, shows⟩
    exact ⟨next, succeeds, congrArg Collection.resources shows⟩

/-- An absorbed batch is absorbed in another order, too. -/
theorem absorbed_of_perm
    {shared : Shared}
    (isValid : shared.Valid)
    (isUnrenamed : shared.view.IsUnrenamed)
    {batch rearranged : List Resource}
    (batchUnrenamed : Collection.IsUnrenamed { resources := batch })
    (isRearranged : rearranged.Perm batch)
    {next : Shared}
    (absorbs : shared.absorbed batch = .ok next) :
    ∃ other,
      shared.absorbed rearranged = .ok other ∧
      other.view.resources.take shared.view.size = next.view.resources.take shared.view.size ∧
      (other.view.resources.drop shared.view.size).Perm
        (next.view.resources.drop shared.view.size) := by
  have settle :=
    (absorbed_eq_ok isValid isUnrenamed batchUnrenamed).1 ⟨next, absorbs, rfl⟩
  rcases settle.of_perm batchUnrenamed isRearranged with
    ⟨result, settleOther, sameThere, samePart⟩
  have rearrangedUnrenamed := batchUnrenamed.of_perm isRearranged
  rcases (absorbed_eq_ok isValid isUnrenamed rearrangedUnrenamed).2 settleOther with
    ⟨other, absorbsOther, rfl⟩
  exact ⟨other, absorbsOther, sameThere, samePart⟩

/--
Where no resource was renamed and no id is repeated, a batch is absorbed in
every order or in none.  The resources that were there become the same ones in
every order, and the ones that are added are the same up to their order.
-/
theorem absorbed_perm
    {shared : Shared}
    (isValid : shared.Valid)
    (isUnrenamed : shared.view.IsUnrenamed)
    {batch rearranged : List Resource}
    (batchUnrenamed : Collection.IsUnrenamed { resources := batch })
    (isRearranged : rearranged.Perm batch) :
    ((∃ next, shared.absorbed rearranged = .ok next) ↔
      ∃ next, shared.absorbed batch = .ok next) ∧
    ∀ next other,
      shared.absorbed batch = .ok next →
      shared.absorbed rearranged = .ok other →
      other.view.resources.take shared.view.size = next.view.resources.take shared.view.size ∧
      (other.view.resources.drop shared.view.size).Perm
        (next.view.resources.drop shared.view.size) := by
  have rearrangedUnrenamed := batchUnrenamed.of_perm isRearranged
  refine ⟨⟨?_, ?_⟩, ?_⟩
  · rintro ⟨next, absorbs⟩
    rcases absorbed_of_perm isValid isUnrenamed rearrangedUnrenamed isRearranged.symm absorbs with
      ⟨other, absorbsOther, _⟩
    exact ⟨other, absorbsOther⟩
  · rintro ⟨next, absorbs⟩
    rcases absorbed_of_perm isValid isUnrenamed batchUnrenamed isRearranged absorbs with
      ⟨other, absorbsOther, _⟩
    exact ⟨other, absorbsOther⟩
  · intro next other absorbs absorbsOther
    rcases absorbed_of_perm isValid isUnrenamed batchUnrenamed isRearranged absorbs with
      ⟨found, absorbsFound, same⟩
    rw [absorbsOther] at absorbsFound
    cases absorbsFound
    exact same

/-- Colors that are merged in and put in the place of a size, and two new configuration maps. -/
def redWebAndDb : List Resource :=
  [.ofEntries "web" [("color", "red")] .merge, .ofEntries "db" [("color", "red")] .replace,
    .ofName "cache" .create, .ofName "log"]

/--
A batch that merges, replaces and adds, and the same one backwards.  What is merged into has the
data of both, and what is replaced has the new data only.
-/
theorem absorbed_perm_reversed :
    webBesideDb.Valid ∧ webBesideDb.view.IsUnrenamed ∧
      Collection.IsUnrenamed { resources := redWebAndDb } ∧
      ((∃ next, webBesideDb.absorbed redWebAndDb.reverse = .ok next) ↔
        ∃ next, webBesideDb.absorbed redWebAndDb = .ok next) ∧
      ∃ next other,
        webBesideDb.absorbed redWebAndDb = .ok next ∧
        webBesideDb.absorbed redWebAndDb.reverse = .ok other ∧
        next.view.resources.take 2 =
          [.ofEntries "web" [("size", "1"), ("color", "red")],
            .ofEntries "db" [("color", "red")] .replace] ∧
        other.view.resources.take 2 = next.view.resources.take 2 ∧
        (other.view.resources.drop 2).Perm (next.view.resources.drop 2) := by
  have isValid : webBesideDb.Valid := valid_allocate {} _
  have isUnrenamed : webBesideDb.view.IsUnrenamed := by
    decide
  have batchUnrenamed : Collection.IsUnrenamed { resources := redWebAndDb } := by
    decide
  have steps := absorbed_perm isValid isUnrenamed batchUnrenamed (List.reverse_perm _)
  obtain ⟨next, absorbs, settled⟩ :
      ∃ next,
        webBesideDb.absorbed redWebAndDb = .ok next ∧
          next.view.resources.take 2 =
            [.ofEntries "web" [("size", "1"), ("color", "red")],
              .ofEntries "db" [("color", "red")] .replace] := by
    exact ⟨_, rfl, rfl⟩
  rcases steps.1.2 ⟨next, absorbs⟩ with ⟨other, absorbsOther⟩
  exact
    ⟨isValid, isUnrenamed, batchUnrenamed, steps.1, next, other, absorbs, absorbsOther, settled,
      steps.2 next other absorbs absorbsOther⟩

end Shared

end Manifest
