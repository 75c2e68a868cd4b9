import Manifest.Proofs.Resource.Reload
import Manifest.Proofs.Text

/-!
# Histories of renamed resources

A resource that gets another name or namespace notes the id that it gives up in its
document: the name, the namespace and the kind of each earlier id are entries of three
annotations, in which commas stand between the entries.  The three are read back side by
side, so they have to stay aligned over calls that change nothing and over empty names
and namespaces, which leave empty entries.

Where no part of an id has a comma, they do.  A resource has a history if its document
notes the ids of the history, oldest first, and says everything else that the resource
says; each call keeps this and puts the id that it gives up behind the history.
-/

namespace Manifest

/-! ## Notes of earlier ids -/

/-- No part of an id that is noted has a comma. -/
structure ResourceId.CommaFree (id : ResourceId) : Prop where
  name : ',' ∉ id.name.toList
  namespaceName : ',' ∉ id.namespaceName.toList
  kind : ',' ∉ id.gvk.kind.toList

/-- The text that notes a row of entries; nothing is noted if there are none. -/
def noted? : List String → Option String
  | [] => none
  | first :: rest => some (Text.join "," (first :: rest))

/-- The annotations note some ids, oldest first, and no others. -/
structure StringMap.Notes (annotations : StringMap) (ids : List ResourceId) : Prop where
  names : annotations.get? BuildNote.previousNames = noted? (ids.map ResourceId.name)
  namespaces :
    annotations.get? BuildNote.previousNamespaces = noted? (ids.map ResourceId.namespaceName)
  kinds : annotations.get? BuildNote.previousKinds = noted? (ids.map fun id => id.gvk.kind)

namespace Resource

section

variable
  {key : String}
  {annotations : StringMap}

theorem get?_appendEntry_same
    {entries : List String}
    (isNoted : annotations.get? key = noted? entries)
    (text : String) :
    (appendEntry key text annotations).get? key = noted? (entries ++ [text]) := by
  rw [appendEntry, isNoted]
  cases entries with
  | nil => exact StringMap.get?_insert_same annotations key text
  | cons first rest =>
      have joined := Text.join_append_singleton (List.cons_ne_nil first rest) text
      rw [List.cons_append] at joined
      rw [noted?, List.cons_append, noted?, joined]
      exact StringMap.get?_insert_same annotations key _

theorem get?_appendEntry_other
    {other : String}
    (different : other ≠ key)
    (text : String)
    (annotations : StringMap) :
    (appendEntry key text annotations).get? other = annotations.get? other := by
  rw [appendEntry]
  split
  · exact StringMap.get?_insert_other different annotations _
  · exact StringMap.get?_insert_other different annotations _

/-- An id is noted behind those that are noted before. -/
theorem notes_notePreviousId
    {ids : List ResourceId}
    (notes : annotations.Notes ids)
    (id : ResourceId) :
    (notePreviousId id annotations).Notes (ids ++ [id]) where
  names := by
    rw [notePreviousId, get?_appendEntry_other (by decide), get?_appendEntry_other (by decide),
      get?_appendEntry_same notes.names, List.map_append, List.map_singleton]
  namespaces := by
    have isNoted :
        (appendEntry BuildNote.previousNames id.name annotations).get?
            BuildNote.previousNamespaces =
          noted? (ids.map ResourceId.namespaceName) := by
      rw [get?_appendEntry_other (by decide), notes.namespaces]
    rw [notePreviousId, get?_appendEntry_other (by decide), get?_appendEntry_same isNoted,
      List.map_append, List.map_singleton]
  kinds := by
    have isNoted :
        (appendEntry BuildNote.previousNamespaces id.namespaceName
            (appendEntry BuildNote.previousNames id.name annotations)).get?
            BuildNote.previousKinds =
          noted? (ids.map fun id => id.gvk.kind) := by
      rw [get?_appendEntry_other (by decide), get?_appendEntry_other (by decide), notes.kinds]
    rw [notePreviousId, get?_appendEntry_same isNoted, List.map_append, List.map_singleton]

/-- Notes of earlier ids leave the behavior alone. -/
theorem behavior_of_notePreviousId
    {metadata changed : Metadata}
    {id : ResourceId}
    (noted : changed.annotations = notePreviousId id metadata.annotations) :
    changed.behavior = metadata.behavior := by
  rw [Metadata.behavior, Metadata.behavior, noted, notePreviousId,
    get?_appendEntry_other (by decide), get?_appendEntry_other (by decide),
    get?_appendEntry_other (by decide)]

/-- Notes hold the kinds of ids, and are read with group and version of the document. -/
theorem previousIds_eq_map
    {metadata : Metadata}
    {ids : List ResourceId}
    (notes : metadata.annotations.Notes ids)
    (commaFree : ∀ id ∈ ids, id.CommaFree) :
    metadata.previousIds =
      ids.map fun id => { id with gvk := { metadata.gvk with kind := id.gvk.kind } } := by
  rw [Metadata.previousIds, notes.names, notes.namespaces, notes.kinds]
  cases ids with
  | nil => rfl
  | cons first rest =>
      have readsBack :
          ∀ part : ResourceId → String,
            (∀ id ∈ first :: rest, ',' ∉ (part id).toList) →
              Text.split ',' (Text.join "," (part first :: rest.map part)) =
                (first :: rest).map part := by
        intro part absent
        refine Text.split_join (List.cons_ne_nil _ _) fun text member => ?_
        rw [← List.map_cons] at member
        rcases List.mem_map.1 member with ⟨id, isId, rfl⟩
        exact absent id isId
      simp only [List.map_cons, noted?]
      rw [readsBack ResourceId.name fun id member => (commaFree id member).name,
        readsBack ResourceId.namespaceName fun id member => (commaFree id member).namespaceName,
        readsBack (fun id => id.gvk.kind) fun id member => (commaFree id member).kind,
        List.zip_map', List.zip_map', List.map_map]
      rfl

/-- Ids without commas are read back from their notes. -/
theorem previousIds_of_notes
    {metadata : Metadata}
    {ids : List ResourceId}
    (notes : metadata.annotations.Notes ids)
    (commaFree : ∀ id ∈ ids, id.CommaFree)
    (sameType : ∀ id ∈ ids, id.gvk = metadata.gvk) :
    metadata.previousIds = ids := by
  rw [previousIds_eq_map notes commaFree]
  refine (List.map_congr_left fun id member => ?_).trans (List.map_id _)
  rw [← sameType id member]
  rfl

end

/-! ## Resources with a history -/

/-- The document of a resource notes its earlier ids, oldest first, and says all else about it. -/
structure HasHistory
    (resource : Resource)
    (ids : List ResourceId)
    (metadata : Metadata) :
    Prop where
  wellFormed : resource.node.WellFormed
  reads : resource.node.metadata = .ok metadata
  behavior : metadata.behavior = .ok resource.behavior
  isCurrent : resource.currentId = metadata.resourceId
  /-- The initial id is the oldest one. -/
  isInitial : resource.initialId = ids.head?.getD resource.currentId
  notes : metadata.annotations.Notes ids
  sameType : ∀ id ∈ ids, id.gvk = metadata.gvk
  commaFree : ∀ id ∈ ids, id.CommaFree
  currentCommaFree : resource.currentId.CommaFree

section

variable
  {resource : Resource}
  {ids : List ResourceId}
  {metadata : Metadata}

theorem HasHistory.previousIds_eq
    (history : resource.HasHistory ids metadata) :
    metadata.previousIds = ids :=
  previousIds_of_notes history.notes history.commaFree history.sameType

theorem HasHistory.previousIds
    (history : resource.HasHistory ids metadata) :
    resource.previousIds = .ok ids := by
  rw [Resource.previousIds, history.reads, ← history.previousIds_eq]
  rfl

/-- The document of a resource with a history rebuilds the resource. -/
theorem HasHistory.rebuilds
    (history : resource.HasHistory ids metadata) :
    ofNode resource.node = .ok resource := by
  refine ofNode_eq_ok.2 ⟨metadata, history.reads, history.behavior, rfl, ?_, history.isCurrent⟩
  rw [Metadata.initialId, history.previousIds_eq, ← history.isCurrent, history.isInitial]

/-- A resource that is built of a document without notes has an empty history. -/
theorem hasHistory_nil
    {node : Node}
    (wellFormed : node.WellFormed)
    (builds : ofNode node = .ok resource)
    {annotations : StringMap}
    (reads : node.annotations = .ok annotations)
    (notes : annotations.Notes [])
    (commaFree : resource.currentId.CommaFree) :
    ∃ metadata, resource.HasHistory [] metadata := by
  rcases ofNode_eq_ok.1 builds with
    ⟨metadata, readsMetadata, behavior, rfl, isInitial, isCurrent⟩
  rw [Node.annotations_of_metadata readsMetadata, Except.ok.injEq] at reads
  subst reads
  have noneBefore : metadata.previousIds = [] :=
    previousIds_of_notes notes (by simp) (by simp)
  refine ⟨metadata, wellFormed, readsMetadata, behavior, isCurrent, ?_, notes, by simp, by simp,
    commaFree⟩
  rw [isInitial, isCurrent, Metadata.initialId, noneBefore]

end

/-! ## Calls -/

/-- An edit of documents moves the id that they say, and leaves type and annotations. -/
structure Moves (edit : Node → Node.Edited Node) (place : ResourceId → ResourceId) : Prop where
  edits :
    ∀ {node metadata},
      node.WellFormed → node.metadata = .ok metadata →
        ∃ next moved,
          edit node = .done () next ∧
            next.WellFormed ∧
              next.metadata = .ok moved ∧
                moved.resourceId = place metadata.resourceId ∧
                  moved.annotations = metadata.annotations
  sameType : ∀ id, (place id).gvk = id.gvk

theorem moves_setName (name : String) :
    Moves (Node.setName name) fun id => { id with name } where
  edits := by
    intro node metadata wellFormed reads
    rcases Node.metadata_setName reads name with ⟨next, sets, readsNext⟩
    have nextWellFormed : next.WellFormed := Outcome.state_eq sets ▸ wellFormed.setName name
    exact ⟨next, _, sets, nextWellFormed, readsNext, rfl, rfl⟩
  sameType := fun _ => rfl

theorem moves_setNamespace (namespaceName : String) :
    Moves (Node.setNamespace namespaceName) fun id => { id with namespaceName } where
  edits := by
    intro node metadata wellFormed reads
    rcases Node.metadata_setNamespace wellFormed reads namespaceName with
      ⟨next, sets, readsNext⟩
    have nextWellFormed : next.WellFormed :=
      Outcome.state_eq sets ▸ wellFormed.setNamespace namespaceName
    exact ⟨next, _, sets, nextWellFormed, readsNext, rfl, rfl⟩
  sameType := fun _ => rfl

theorem editNode_eq_done
    {resource : Resource}
    {edit : Node → Node.Edited Node}
    {next : Node}
    (edits : edit resource.node = .done () next) :
    resource.editNode edit = .done () { resource with node := next } := by
  rw [editNode, edits]
  rfl

/-- A renaming notes the current id, edits the document and reads the id again. -/
theorem rename_eq_done
    {resource : Resource}
    {metadata after : Metadata}
    {noted node : Node}
    {edit : Node → Node.Edited Node}
    (reads : resource.node.metadata = .ok metadata)
    (notes :
      resource.node.setAnnotations (notePreviousId resource.currentId metadata.annotations) =
        .done () noted)
    (edits : edit noted = .done () node)
    (readsAfter : node.metadata = .ok after) :
    resource.rename edit = .done () { resource with node, currentId := after.resourceId } := by
  rw [Resource.rename, storePreviousId, Node.annotations_of_metadata reads, Outcome.reading_ok,
    editNode_eq_done notes, Outcome.andThen_done, editNode_eq_done edits, Outcome.andThen_done,
    refresh, readsAfter, Outcome.reading_ok]

/-- A renaming succeeds, and puts the id that it gives up behind the history. -/
theorem HasHistory.rename
    {resource : Resource}
    {ids : List ResourceId}
    {metadata : Metadata}
    (history : resource.HasHistory ids metadata)
    {edit : Node → Node.Edited Node}
    {place : ResourceId → ResourceId}
    (moves : Moves edit place)
    (commaFree : (place resource.currentId).CommaFree) :
    ∃ next after,
      resource.rename edit = .done () next ∧
        next.initialId = resource.initialId ∧
          next.currentId = place resource.currentId ∧
            next.HasHistory (ids ++ [resource.currentId]) after := by
  rcases Node.metadata_setAnnotations history.wellFormed history.reads
      (notePreviousId resource.currentId metadata.annotations) with
    ⟨noted, notes, readsNoted⟩
  have notedWellFormed : noted.WellFormed :=
    Outcome.state_eq notes ▸ history.wellFormed.setAnnotations _
  rcases moves.edits notedWellFormed readsNoted with
    ⟨node, after, edits, wellFormed, reads, moved, sameAnnotations⟩
  have sameCurrent : after.resourceId = place resource.currentId := by
    rw [moved, history.isCurrent]
    rfl
  have sameGvk : after.gvk = metadata.gvk := by
    have movedGvk : after.resourceId.gvk = metadata.resourceId.gvk := by
      rw [sameCurrent, moves.sameType, history.isCurrent]
    exact movedGvk
  have sameBehavior : after.behavior = metadata.behavior :=
    behavior_of_notePreviousId sameAnnotations
  refine ⟨{ resource with node, currentId := after.resourceId }, after,
    rename_eq_done history.reads notes edits reads, rfl, sameCurrent, ?_⟩
  exact
    { wellFormed
      reads
      behavior := sameBehavior.trans history.behavior
      isCurrent := rfl
      isInitial := by
        rw [history.isInitial]
        cases ids <;> rfl
      notes := by
        rw [sameAnnotations]
        exact notes_notePreviousId history.notes resource.currentId
      sameType := by
        rw [sameGvk]
        exact List.forall_mem_append.2
          ⟨history.sameType, by simp [history.isCurrent, Metadata.resourceId]⟩
      commaFree := List.forall_mem_append.2
        ⟨history.commaFree, by simpa using history.currentCommaFree⟩
      currentCommaFree := by
        rw [sameCurrent]
        exact commaFree }

end Resource

/-! ## Runs of calls -/

/-- A call that gives a resource another name or another namespace. -/
inductive Renaming where
  | toName (name : String)
  | toNamespace (namespaceName : String)
deriving DecidableEq, Repr

namespace Renaming

/-- The text that a call is given. -/
def text : Renaming → String
  | .toName name => name
  | .toNamespace namespaceName => namespaceName

/-- An id after a call. -/
def place : Renaming → ResourceId → ResourceId
  | .toName name, id => { id with name }
  | .toNamespace namespaceName, id => { id with namespaceName }

/-- What a call does to a resource. -/
def perform : Renaming → Resource → Resource.Edited
  | .toName name => Resource.setName name
  | .toNamespace namespaceName => Resource.setNamespace namespaceName

/-- The current id before a call, if the call changed it. -/
def givenUp (before after : Resource) : List ResourceId :=
  if after.currentId = before.currentId then [] else [before.currentId]

/-- What calls leave: the current ids that they changed, oldest first, and the resource. -/
structure Renamed where
  givenUp : List ResourceId
  resource : Resource

/-- A run of calls, one after another, which stops where one of them fails. -/
def run : List Renaming → Resource → Except DocumentError Renamed
  | [], resource => .ok { givenUp := [], resource }
  | call :: rest, resource => do
      let next ← (call.perform resource).final
      let renamed ← run rest next
      return { renamed with givenUp := givenUp resource next ++ renamed.givenUp }

theorem run_cons_eq_ok
    {call : Renaming}
    {rest : List Renaming}
    {resource next : Resource}
    {renamed : Renamed}
    (performs : call.perform resource = .done () next)
    (runs : run rest next = .ok renamed) :
    run (call :: rest) resource =
      .ok { renamed with givenUp := givenUp resource next ++ renamed.givenUp } := by
  rw [run, performs, Outcome.final_done]
  exact Result.bind_eq_ok.2 ⟨next, rfl, Result.bind_eq_ok.2 ⟨renamed, runs, rfl⟩⟩

section

variable
  {resource : Resource}
  {ids : List ResourceId}
  {metadata : Metadata}
  {call : Renaming}

theorem commaFree_place
    {id : ResourceId}
    (commaFree : id.CommaFree)
    (absent : ',' ∉ call.text.toList) :
    (call.place id).CommaFree := by
  cases call with
  | toName name => exact ⟨absent, commaFree.namespaceName, commaFree.kind⟩
  | toNamespace namespaceName => exact ⟨commaFree.name, absent, commaFree.kind⟩

/-- A call does nothing if it leaves the current id, and else it is a renaming. -/
theorem perform_cases
    (call : Renaming)
    (resource : Resource) :
    (call.place resource.currentId = resource.currentId ∧
        call.perform resource = .done () resource) ∨
      (call.place resource.currentId ≠ resource.currentId ∧
        ∃ edit, Resource.Moves edit call.place ∧
          call.perform resource = resource.rename edit) := by
  cases call with
  | toName name =>
      by_cases same : resource.currentId.name = name
      · left
        subst same
        exact ⟨rfl, if_pos rfl⟩
      · right
        exact ⟨fun placed => same (congrArg ResourceId.name placed).symm, _,
          Resource.moves_setName name, if_neg same⟩
  | toNamespace namespaceName =>
      by_cases same : resource.currentId.namespaceName = namespaceName
      · left
        subst same
        exact ⟨rfl, if_pos rfl⟩
      · right
        exact ⟨fun placed => same (congrArg ResourceId.namespaceName placed).symm, _,
          Resource.moves_setNamespace namespaceName, if_neg same⟩

/-- A call succeeds, keeps the initial id, and puts the id that it gives up behind the history. -/
theorem perform_of_history
    (history : resource.HasHistory ids metadata)
    (absent : ',' ∉ call.text.toList) :
    ∃ next after,
      call.perform resource = .done () next ∧
        next.initialId = resource.initialId ∧
          next.HasHistory (ids ++ givenUp resource next) after := by
  rcases perform_cases call resource with ⟨_, performs⟩ | ⟨changes, edit, moves, performs⟩
  · refine ⟨resource, metadata, performs, rfl, ?_⟩
    rw [givenUp, if_pos rfl, List.append_nil]
    exact history
  · rcases history.rename moves (commaFree_place history.currentCommaFree absent) with
      ⟨next, after, renames, sameInitial, isPlaced, nextHistory⟩
    refine ⟨next, after, performs.trans renames, sameInitial, ?_⟩
    rw [givenUp, isPlaced, if_neg changes]
    exact nextHistory

end

/-- Calls succeed, keep the initial id, and put the ids that they give up behind the history. -/
theorem run_of_history
    {calls : List Renaming}
    (absent : ∀ call ∈ calls, ',' ∉ call.text.toList) :
    ∀ {resource : Resource} {ids : List ResourceId} {metadata : Metadata},
      resource.HasHistory ids metadata →
        ∃ renamed after,
          run calls resource = .ok renamed ∧
            renamed.resource.initialId = resource.initialId ∧
              renamed.resource.HasHistory (ids ++ renamed.givenUp) after := by
  induction calls with
  | nil =>
      intro resource ids metadata history
      refine ⟨_, metadata, rfl, rfl, ?_⟩
      rw [List.append_nil]
      exact history
  | cons call rest inductionHypothesis =>
      intro resource ids metadata history
      rcases List.forall_mem_cons.1 absent with ⟨notInCall, notInRest⟩
      rcases perform_of_history history notInCall with
        ⟨next, middle, performs, sameInitial, nextHistory⟩
      rcases inductionHypothesis notInRest nextHistory with
        ⟨renamed, after, runs, sameLater, lastHistory⟩
      refine ⟨_, after, run_cons_eq_ok performs runs, sameLater.trans sameInitial, ?_⟩
      rw [← List.append_assoc]
      exact lastHistory

/--
A resource that is built of a document without notes of earlier ids can be renamed any
number of times.  Its initial id never changes, it notes the ids that the calls gave up,
oldest first, and its document rebuilds it.
-/
theorem run_of_ofNode
    {node : Node}
    {resource : Resource}
    {annotations : StringMap}
    (wellFormed : node.WellFormed)
    (builds : Resource.ofNode node = .ok resource)
    (reads : node.annotations = .ok annotations)
    (unnoted :
      ∀ key ∈ [BuildNote.previousNames, BuildNote.previousNamespaces, BuildNote.previousKinds],
        annotations.get? key = none)
    (commaFree : resource.currentId.CommaFree)
    {calls : List Renaming}
    (absent : ∀ call ∈ calls, ',' ∉ call.text.toList) :
    ∃ renamed,
      run calls resource = .ok renamed ∧
        renamed.resource.initialId = resource.initialId ∧
          renamed.resource.previousIds = .ok renamed.givenUp ∧
            Resource.ofNode renamed.resource.node = .ok renamed.resource := by
  have notes : annotations.Notes [] :=
    ⟨unnoted _ (by simp), unnoted _ (by simp), unnoted _ (by simp)⟩
  rcases Resource.hasHistory_nil wellFormed builds reads notes commaFree with ⟨metadata, history⟩
  rcases run_of_history absent history with ⟨renamed, after, runs, sameInitial, lastHistory⟩
  exact ⟨renamed, runs, sameInitial, lastHistory.previousIds, lastHistory.rebuilds⟩

/-- A document with a name, and without a namespace. -/
def settings : Node :=
  .mapping
    [("apiVersion", .ofText "v1"), ("kind", .ofText "ConfigMap"),
      ("metadata",
        .mapping
          [("name", .ofText "web"), ("annotations", .mapping [("note", .ofText "first, kept")])])]

/-- An id of the document. -/
def settingsId (namespaceName name : String) : ResourceId where
  gvk := { version := "v1", kind := "ConfigMap" }
  namespaceName := namespaceName
  name := name

/-- The resource of the document. -/
def settingsResource : Resource where
  node := settings
  initialId := settingsId "" "web"
  currentId := settingsId "" "web"

/-- Calls of which two change nothing, and which end where they began. -/
def roundTrip : List Renaming :=
  [.toNamespace "", .toNamespace "prod", .toName "web", .toName "", .toNamespace "", .toName "web"]

/-- Empty names and namespaces are noted, and the initial id as well. -/
theorem run_roundTrip :
    ∃ renamed,
      run roundTrip settingsResource = .ok renamed ∧
        renamed.resource.initialId = settingsId "" "web" ∧
          renamed.resource.previousIds =
            .ok
              [settingsId "" "web", settingsId "prod" "web", settingsId "prod" "",
                settingsId "" ""] ∧
            Resource.ofNode renamed.resource.node = .ok renamed.resource := by
  have wellFormed : settings.WellFormed := by
    simp [settings, Fields.names]
  have builds : Resource.ofNode settings = .ok settingsResource := rfl
  have commaFree : (settingsId "" "web").CommaFree := ⟨by decide, by decide, by decide⟩
  have gaveUp :
      (run roundTrip settingsResource).map Renamed.givenUp =
        .ok
          [settingsId "" "web", settingsId "prod" "web", settingsId "prod" "",
            settingsId "" ""] := by
    rfl
  rcases run_of_ofNode wellFormed builds rfl (by decide) commaFree
      (by decide : ∀ call ∈ roundTrip, ',' ∉ call.text.toList) with
    ⟨renamed, runs, sameInitial, noted, rebuilds⟩
  rw [runs, Except.map, Except.ok.injEq] at gaveUp
  exact ⟨renamed, runs, sameInitial, gaveUp ▸ noted, rebuilds⟩

end Renaming

end Manifest
