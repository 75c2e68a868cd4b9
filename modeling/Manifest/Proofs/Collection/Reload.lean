import Manifest.Proofs.Collection.Run
import Manifest.Proofs.Resource.Reload

/-!
# Reloading collections

The documents of a collection build the same collection again if its current
ids are distinct and its resources faithful.  Both are kept by every run of
operations that add, absorb, replace and remove the resources of documents, so
such a run never brings a collection into a state that its documents do not say.
-/

namespace Manifest

namespace Collection

/-! ## Collections of given resources -/

theorem append_of_free
    {collection : Collection}
    {resource : Resource}
    (free : resource.currentId ∉ collection.ids) :
    collection.append resource = .ok { resources := collection.resources ++ [resource] } := by
  rw [append, Result.bind_eq_ok]
  exact ⟨(), requireFree_eq_ok.2 free, rfl⟩

/-- A collection of resources has these resources. -/
theorem resources_of_ofResources
    {resources : List Resource}
    {result : Collection}
    (succeeds : ofResources resources = .ok result) :
    result.resources = resources := by
  suffices general :
      ∀ start : Collection,
        resources.foldlM append start = .ok result →
          result.resources = start.resources ++ resources from
    general empty succeeds
  clear succeeds
  induction resources with
  | nil =>
      intro start succeeds
      cases succeeds
      rw [List.append_nil]
  | cons resource rest inductionHypothesis =>
      intro start succeeds
      rw [List.foldlM_cons, Result.bind_eq_ok] at succeeds
      rcases succeeds with ⟨next, appends, succeeds⟩
      rw [append, Result.bind_eq_ok] at appends
      rcases appends with ⟨_, _, same⟩
      cases same
      rw [inductionHypothesis _ succeeds, List.append_assoc, List.singleton_append]

/-- Resources with distinct current ids make a collection. -/
theorem ofResources_of_distinct
    {resources : List Resource}
    (distinct : IsDistinct { resources }) :
    ofResources resources = .ok { resources } := by
  suffices general :
      ∀ before : List Resource,
        IsDistinct { resources := before ++ resources } →
          resources.foldlM append { resources := before } =
            .ok { resources := before ++ resources } from
    general [] distinct
  clear distinct
  induction resources with
  | nil =>
      intro before _
      rw [List.append_nil]
      rfl
  | cons resource rest inductionHypothesis =>
      intro before distinct
      have free : resource.currentId ∉ ids { resources := before } := by
        rw [IsDistinct, ids, List.map_append, List.nodup_append] at distinct
        intro member
        exact distinct.2.2 _ member _ (by simp) rfl
      rw [← List.singleton_append, ← List.append_assoc] at distinct ⊢
      rw [List.singleton_append, List.foldlM_cons, append_of_free free]
      exact inductionHypothesis (before ++ [resource]) distinct

/-! ## Reloadable collections -/

/-- The documents of the collection say all about it. -/
structure Reloadable (collection : Collection) : Prop where
  distinct : collection.IsDistinct
  faithful : ∀ resource ∈ collection.resources, resource.Faithful

/-- A reloadable collection is built again by its documents. -/
theorem Reloadable.ofNodes_nodes
    {collection : Collection}
    (reloadable : collection.Reloadable) :
    ofNodes collection.nodes = .ok collection := by
  rw [ofNodes, nodes, Resource.ofNodes_of_faithful reloadable.faithful]
  exact ofResources_of_distinct reloadable.distinct

/-- A collection that documents build is reloadable if its resources are told by their texts. -/
theorem reloadable_of_ofNodes
    {nodes : List Node}
    {collection : Collection}
    (wellFormed : ∀ node ∈ nodes, node.WellFormed)
    (builds : ofNodes nodes = .ok collection)
    (relative :
      ∀ resource ∈ collection.resources, ∀ metadata,
        resource.node.metadata = .ok metadata → Gvk.IsRelative metadata.apiVersion) :
    collection.Reloadable := by
  rw [ofNodes, Result.bind_eq_ok] at builds
  rcases builds with ⟨resources, readsAll, appends⟩
  have same : collection.resources = resources := resources_of_ofResources appends
  refine ⟨isDistinct_ofResources appends, ?_⟩
  intro resource member
  have produced : resource.Produced :=
    { fromNodes :=
        ⟨nodes, resources, wellFormed, Result.mapError_eq_ok.1 readsAll, same ▸ member⟩
      relative := relative resource member }
  exact produced.faithful

/-- Absorbing a faithful resource leaves all resources faithful. -/
theorem AbsorbStep.faithful
    {resources result : List Resource}
    {incoming : Resource}
    (step : AbsorbStep resources incoming result)
    (incomingFaithful : incoming.Faithful)
    (allFaithful : ∀ resource ∈ resources, resource.Faithful) :
    ∀ resource ∈ result, resource.Faithful := by
  intro resource member
  cases step with
  | merges asked atPlace merges =>
      rcases List.mem_or_eq_of_mem_set member with old | isMerged
      · exact allFaithful resource old
      · rw [isMerged]
        exact (allFaithful _ (List.mem_of_getElem? atPlace)).mergedWith incomingFaithful merges
  | replaces asked inside free =>
      rcases List.mem_or_eq_of_mem_set member with old | isIncoming
      · exact allFaithful resource old
      · exact isIncoming ▸ incomingFaithful
  | adds asked free =>
      rcases List.mem_append.1 member with old | isAdded
      · exact allFaithful resource old
      · exact List.mem_singleton.1 isAdded ▸ incomingFaithful

end Collection

namespace Operation

/-- Operations that bring in nothing but resources that documents give. -/
inductive Admissible : Operation → Prop where
  | append
      {resource : Resource}
      (produced : resource.Produced) :
      Admissible (.append resource)
  | appendAll
      {other : Collection}
      (produced : ∀ resource ∈ other.resources, resource.Produced) :
      Admissible (.appendAll other)
  | absorbAll
      {other : Collection}
      (produced : ∀ resource ∈ other.resources, resource.Produced) :
      Admissible (.absorbAll other)
  | replace
      {resource : Resource}
      (produced : resource.Produced) :
      Admissible (.replace resource)
  | remove (id : ResourceId) : Admissible (.remove id)
  | clear : Admissible .clear

/-- An admissible operation leaves all resources faithful. -/
theorem update_faithful
    {operation : Operation}
    (admissible : operation.Admissible)
    {collection next : Collection}
    (faithful : ∀ resource ∈ collection.resources, resource.Faithful)
    (updates : operation.update collection = .ok next) :
    ∀ resource ∈ next.resources, resource.Faithful := by
  intro resource member
  cases admissible with
  | append produced =>
      rw [update, Result.mapError_eq_ok, Collection.append, Result.bind_eq_ok] at updates
      rcases updates with ⟨_, _, same⟩
      cases same
      rcases List.mem_append.1 member with old | isAdded
      · exact faithful resource old
      · exact List.mem_singleton.1 isAdded ▸ produced.faithful
  | appendAll produced =>
      rw [update, Result.mapError_eq_ok, Collection.appendAll, Result.bind_eq_ok] at updates
      rcases updates with ⟨_, _, same⟩
      cases same
      rcases List.mem_append.1 member with old | isAdded
      · exact faithful resource old
      · exact (produced resource isAdded).faithful
  | absorbAll produced =>
      rw [update, Result.mapError_eq_ok, Collection.absorbAll, Result.map_eq_ok] at updates
      rcases updates with ⟨resources, absorbs, same⟩
      cases same
      refine Collection.absorbAll_invariant
        (fun resources => ∀ resource ∈ resources, resource.Faithful) ?_ faithful absorbs
        resource member
      intro incoming isIncoming before after faithfulBefore step
      exact step.faithful (produced incoming isIncoming).faithful faithfulBefore
  | replace produced =>
      rw [update, Result.mapError_eq_ok, Result.map_eq_ok] at updates
      rcases updates with ⟨⟨place, result⟩, replaces, rfl⟩
      rw [Collection.replace, Result.bind_eq_ok] at replaces
      rcases replaces with ⟨_, _, same⟩
      cases same
      rcases List.mem_or_eq_of_mem_set member with old | isNew
      · exact faithful resource old
      · exact isNew ▸ produced.faithful
  | remove id =>
      rw [update, Result.mapError_eq_ok, Collection.remove, Result.bind_eq_ok] at updates
      rcases updates with ⟨place, _, same⟩
      cases same
      exact faithful resource ((List.eraseIdx_sublist _ place).subset member)
  | clear =>
      cases updates
      cases member

/--
After every run of admissible operations on a collection that documents built,
the documents of the collection build it again: the same documents in the same
order, with the same ids and the same behaviors.
-/
theorem ofNodes_run
    {nodes : List Node}
    {start : Collection}
    (wellFormed : ∀ node ∈ nodes, node.WellFormed)
    (builds : Collection.ofNodes nodes = .ok start)
    (relative :
      ∀ resource ∈ start.resources, ∀ metadata,
        resource.node.metadata = .ok metadata → Gvk.IsRelative metadata.apiVersion)
    {operations : List Operation}
    (admissible : ∀ operation ∈ operations, operation.Admissible)
    (pool : Pool) :
    Collection.ofNodes (run operations (pool.allocate start.resources)).view.nodes =
      .ok (run operations (pool.allocate start.resources)).view := by
  have startView : (pool.allocate start.resources).view = start :=
    congrArg Collection.mk (Pool.view_allocate pool start.resources)
  have startReloadable : (pool.allocate start.resources).view.Reloadable := by
    rw [startView]
    exact Collection.reloadable_of_ofNodes wellFormed builds relative
  have kept :
      ∀ operation ∈ operations, ∀ collection next : Collection,
        collection.Reloadable → operation.update collection = .ok next → next.Reloadable := by
    intro operation member collection next reloadable updates
    exact
      { distinct := operation.update_isDistinct reloadable.distinct updates
        faithful := update_faithful (admissible operation member) reloadable.faithful updates }
  exact (run_invariant Collection.Reloadable kept (pool.allocate start.resources)
    (Shared.valid_allocate pool start.resources) startReloadable).2.ofNodes_nodes

/-- A configuration map whose document asks to be merged and brings a note. -/
def mergingInto (name : String) : Resource where
  node :=
    .mapping
      [("apiVersion", .ofText "v1"), ("kind", .ofText "ConfigMap"),
        ("metadata", .mapping
          [("name", .ofText name),
            ("annotations", .mapping
              [(BuildNote.generatorBehavior, .ofText "merge"), ("note", .ofText "new")])])]
  initialId := { gvk := .ofApiVersion "v1" "ConfigMap", name }
  currentId := { gvk := .ofApiVersion "v1" "ConfigMap", name }
  behavior := .merge

theorem produced_mergingInto : (mergingInto "web").Produced where
  fromNodes := by
    refine ⟨[(mergingInto "web").node], [mergingInto "web"], ?_, rfl, List.mem_singleton_self _⟩
    intro node member
    rw [List.mem_singleton.1 member]
    simp [mergingInto, Fields.names, BuildNote.generatorBehavior]
  relative := by
    intro metadata reads
    cases reads
    decide

/-- A run in which a resource is merged and another one is refused. -/
theorem ofNodes_run_merging :
    Collection.ofNodes [(Resource.ofName "web").node] = .ok { resources := [.ofName "web"] } ∧
      (mergingInto "web").Produced ∧
      Collection.ofNodes
          (run [.absorbAll { resources := [mergingInto "web"] }, .append (mergingInto "web")]
            (Pool.allocate {} [.ofName "web"])).view.nodes =
        .ok (run [.absorbAll { resources := [mergingInto "web"] }, .append (mergingInto "web")]
          (Pool.allocate {} [.ofName "web"])).view := by
  have wellFormed : ∀ node ∈ [(Resource.ofName "web").node], node.WellFormed := by
    intro node member
    rw [List.mem_singleton.1 member]
    simp [Resource.ofName, Fields.names]
  have builds :
      Collection.ofNodes [(Resource.ofName "web").node] = .ok { resources := [.ofName "web"] } :=
    rfl
  refine ⟨builds, produced_mergingInto, ofNodes_run wellFormed builds ?_ ?_ {}⟩
  · intro resource member metadata reads
    rw [List.mem_singleton.1 member] at reads
    cases reads
    decide
  · intro operation member
    rcases List.mem_cons.1 member with rfl | isLast
    · exact .absorbAll fun resource isMember =>
        List.mem_singleton.1 isMember ▸ produced_mergingInto
    · exact List.mem_singleton.1 isLast ▸ .append produced_mergingInto

end Operation

end Manifest
