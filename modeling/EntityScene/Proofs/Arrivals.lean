import EntityScene.Proofs.Joinings
import EntityScene.Proofs.ValueFlow
import Mathlib.Data.List.DropRight

/-!
How long events live. Only direct writes add events, and only a tick that completes and explicit clearing
take them away, so at the beginning of every operation a resource has the events that were sent since the
last of these, in order of arrival. All jobs of a tick see the same events.
-/

namespace EntityScene

open Act

variable {μ α : Type}

namespace Storage

/-- Acts on cells of other shapes leave events alone. -/
theorem onScalar_events (list : List Value) (act : Descriptor → Act Scalar α) :
    Keeps (fun storage : Storage => storage.cells.events? = list) (onScalar act) := by
  rintro ⟨journal, descriptor, cells⟩ held
  cases cells with
  | scalar value =>
      rw [ends_onScalar]
      exact ends_leaves.mpr held
  | indexed | events | requests => exact held

theorem onIndexed_events (list : List Value) (act : Descriptor → Act Indexed α) :
    Keeps (fun storage : Storage => storage.cells.events? = list) (onIndexed act) := by
  rintro ⟨journal, descriptor, cells⟩ held
  cases cells with
  | indexed table =>
      rw [ends_onIndexed]
      exact ends_leaves.mpr held
  | scalar | events | requests => exact held

/-- The end of a tick takes the events away, also where the destruction of one fails. -/
theorem endTick_ends {descriptor : Descriptor} {live : Live Storage} (serves : Serves descriptor live.core) :
    Ends endTick live fun outcome after =>
      ((descriptor.kind = .event → descriptor.element.Releasing) → outcome = .ok ()) ∧
        after.core.cells.events? = [] := by
  obtain ⟨journal, own, cells⟩ := live
  obtain ⟨rfl, shape, values⟩ := serves
  unfold endTick
  rw [ends_bind, ends_core, continues_ok]
  cases cells with
  | events list =>
      have sound : Events.Sound own.element.type list := values
      have sort : own.kind = .event := Kind.eq_event_of_shape shape.symm
      refine ends_focus.mpr ((Events.clear_ends sound).mono ?_)
      rintro _ after ⟨rfl, cleared⟩
      exact ⟨fun releasing => Descriptor.disposal_ok (releasing sort) list, cleared⟩
  | scalar | indexed | requests => exact ⟨fun _ => rfl, rfl⟩

/-- The events after a write that ended so, given those before it. -/
def Write.leavesEvents (change : Write) (outcome : Except Fault Unit) (list : List Value) : List Value :=
  match change with
  | .pushEvent value => if outcome.isOk then list ++ [value] else list
  | .clearEvents | .endTick => []
  | .emplaceScalar _ | .emplaceIndexed _ _ | .removeIndexed _ => list

theorem write_events {descriptor : Descriptor} {live : Live Storage} (serves : Serves descriptor live.core)
    (change : Write) :
    Ends change.perform live fun outcome after =>
      after.core.cells.events? = change.leavesEvents outcome live.core.cells.events? := by
  cases change with
  | emplaceScalar value => exact onScalar_events _ (fun own => Scalar.emplace own value) live rfl
  | emplaceIndexed identity value =>
      exact onIndexed_events _ (fun own => Indexed.emplace own identity value) live rfl
  | removeIndexed identity => exact Keeps.bind (onIndexed_events _ _) (fun _ => .pure ()) live rfl
  | pushEvent value =>
      obtain ⟨journal, own, cells⟩ := live
      unfold Write.perform
      cases cells with
      | events list =>
          rw [ends_onEvents]
          refine (Events.push_ends own value ⟨journal, list⟩).mono ?_
          rintro outcome ⟨_, after⟩ written
          cases written <;> rfl
      | scalar | indexed | requests => rfl
  | clearEvents =>
      obtain ⟨journal, own, cells⟩ := live
      obtain ⟨rfl, _, values⟩ := serves
      unfold Write.perform
      cases cells with
      | events list =>
          have sound : Events.Sound own.element.type list := values
          rw [ends_onEvents]
          exact (Events.clear_ends sound).mono fun _ _ cleared => cleared.2
      | scalar | indexed | requests => rfl
  | endTick => exact (endTick_ends serves).mono fun _ _ ended => ended.2

end Storage

/-- No destruction of an event fails. -/
def Registry.ReleasingEvents (registry : Registry) : Prop :=
  ∀ (resource : ResourceId) (descriptor : Descriptor), registry.get? resource = some descriptor →
    descriptor.kind = .event → descriptor.element.Releasing

namespace Data

theorem events?_set {data : Data μ} {resource : ResourceId} {storage changed : Storage}
    (found : data.storages[resource]? = some storage) (other : ResourceId) :
    events? { data with storages := data.storages.set resource changed } other =
      if other = resource then changed.cells.events? else data.events? other := by
  unfold events?
  rw [cells_set found]
  split <;> rfl

theorem events?_found {data : Data μ} {resource : ResourceId} {storage : Storage}
    (found : data.storages[resource]? = some storage) : data.events? resource = storage.cells.events? := by
  unfold events? cells
  rw [found]

theorem events?_missing {data : Data μ} {resource : ResourceId} (missing : data.storages[resource]? = none) :
    data.events? resource = [] := by
  unfold events? cells
  rw [missing]
  rfl

section Events

variable {registry : Registry} {live : Live (Data μ)} {resource : ResourceId} {act : Act Storage α}
  (change : Except Fault α → List Value → List Value)

/-- An act on a storage changes the events of that resource only. -/
theorem onStorageAt_events (based : SoundOver registry live.core)
    (refused : ∀ cause, change (.error cause) [] = [])
    (each : ∀ {descriptor : Descriptor} {live : Live Storage}, Storage.Serves descriptor live.core →
      Ends act live fun outcome after => after.core.cells.events? = change outcome live.core.cells.events?) :
    Ends (onStorageAt resource act) live fun outcome after => ∀ other, after.core.events? other =
      if other = resource then change outcome (live.core.events? other) else live.core.events? other := by
  cases found : live.core.storages[resource]? with
  | none =>
      rw [ends_onStorageAt_missing found]
      intro other
      split
      · rename_i here
        rw [here, events?_missing found]
        exact (refused _).symm
      · rfl
  | some storage =>
      obtain ⟨descriptor, _, serves⟩ := based.exists_serves found
      rw [ends_onStorageAt found]
      refine Ends.mono (@each descriptor ⟨live.journal, storage⟩ serves) ?_
      intro outcome after changed other
      rw [events?_set found]
      split
      · rename_i here
        rw [here, events?_found found]
        exact changed
      · rfl

theorem onStorage_events (based : SoundOver registry live.core)
    (refused : ∀ cause, change (.error cause) [] = [])
    (each : ∀ {descriptor : Descriptor} {live : Live Storage}, Storage.Serves descriptor live.core →
      Ends act live fun outcome after => after.core.cells.events? = change outcome live.core.cells.events?) :
    Ends (onStorage resource act) live fun outcome after => ∀ other, after.core.events? other =
      if other = resource then change outcome (live.core.events? other) else live.core.events? other := by
  refine onStorage_ends (fun missing cause other => ?_) (onStorageAt_events change based refused each)
  split
  · rename_i here
    rw [here, events?_missing missing]
    exact (refused cause).symm
  · rfl

end Events

/-- The data are sound over the registry, and the events of each resource are these. -/
structure Holding (registry : Registry) (held : ResourceId → List Value) (data : Data μ) : Prop where
  based : SoundOver registry data
  events : ∀ resource, data.events? resource = held resource

section Holding

variable {registry : Registry} {held : ResourceId → List Value} {resource : ResourceId} {act : Act Storage α}

theorem holding_onStorageAt (serves : ∀ descriptor, Keeps (Storage.Serves descriptor) act)
    (events : ∀ list, Keeps (fun storage : Storage => storage.cells.events? = list) act) :
    Keeps (Holding registry held : Data μ → Prop) (onStorageAt resource act) := by
  intro live holding
  refine ((keeps_onStorageAt serves live holding.based).and (onStorageAt_events (fun _ list => list)
    holding.based (fun _ => rfl) fun _ => events _ _ rfl)).mono ?_
  rintro _ after ⟨based, same⟩
  refine ⟨based, fun other => ?_⟩
  rw [same, ite_self, holding.events]

theorem holding_onStorage (serves : ∀ descriptor, Keeps (Storage.Serves descriptor) act)
    (events : ∀ list, Keeps (fun storage : Storage => storage.cells.events? = list) act) :
    Keeps (Holding registry held : Data μ → Prop) (onStorage resource act) := by
  intro live holding
  refine ((keeps_onStorage serves live holding.based).and (onStorage_events (fun _ list => list)
    holding.based (fun _ => rfl) fun _ => events _ _ rfl)).mono ?_
  rintro _ after ⟨based, same⟩
  refine ⟨based, fun other => ?_⟩
  rw [same, ite_self, holding.events]

/-- Applying the waiting requests leaves events alone. -/
theorem applyCommands_holding (registry : Registry) (held : ResourceId → List Value) :
    Keeps (Holding registry held : Data μ → Prop) applyCommands := by
  intro live holding
  have despawns : Despawns (Holding registry held : Data μ → Prop) :=
    { commands := fun commands kept => ⟨(soundOver_despawns registry).commands commands kept.based, kept.events⟩
      remove := fun entity kept => ⟨(soundOver_despawns registry).remove entity kept.based, kept.events⟩ }
  have spawns : Spawns registry (Holding registry held : Data μ → Prop) :=
    { based := fun kept => kept.based.registry
      emplace := fun kept made =>
        have made := (soundOver_spawns registry).emplace kept.based made
        ⟨⟨made.1, kept.events⟩, made.2⟩
      component := by
        rintro resource _ entity value _ _ live ⟨kept, member⟩
        refine ((holding_onStorageAt (fun _ => Storage.keeps_emplaceIndexed entity value)
          (fun list => Storage.onIndexed_events list _) live kept).and (onStorageAt_frame resource _ live)).mono ?_
        rintro _ after ⟨kept', same⟩
        rw [same] at kept' ⊢
        exact ⟨kept', member⟩ }
  exact applyCommands_ends despawns spawns (fun _ kept => kept) holding

/-- A join leaves events alone. -/
theorem run_holding (plan : Plan) (callback : Callback μ) :
    Keeps (Holding registry held : Data μ → Prop) (Join.run plan callback) := by
  have tolerates : Join.Tolerates plan (fun _ _ => True) (Holding registry held : Data μ → Prop) :=
    { viewports := fun _ _ => trivial
      entities := fun _ _ => trivial
      memory := fun _ kept => ⟨⟨{ kept.based.sound with }, kept.based.registry⟩, kept.events⟩
      spawns := fun _ _ kept => ⟨⟨{ kept.based.sound with }, kept.based.registry⟩, kept.events⟩
      scalar := fun value _ => holding_onStorageAt (fun _ => Storage.keeps_emplaceScalar value)
        fun list => Storage.onScalar_events list _
      indexed := fun value _ _ => holding_onStorageAt (fun _ => Storage.keeps_emplaceIndexed _ value)
        fun list => Storage.onIndexed_events list _ }
  exact Join.run_keeps tolerates callback

theorem onStorageAt_endTick {live : Live (Data μ)} (releasing : registry.ReleasingEvents)
    (based : SoundOver registry live.core) (inside : resource < live.core.storages.length) :
    Ends (onStorageAt resource Storage.endTick) live fun outcome after =>
      outcome = .ok () ∧ after.core.storages.length = live.core.storages.length ∧
        SoundOver registry after.core ∧ ∀ other, after.core.events? other =
          if other = resource then [] else live.core.events? other := by
  have found := List.getElem?_eq_getElem inside
  obtain ⟨descriptor, registered, serves⟩ := based.exists_serves found
  have completes : Ends (onStorageAt resource Storage.endTick) live fun outcome after =>
      outcome = .ok () ∧ after.core.storages.length = live.core.storages.length := by
    rw [ends_onStorageAt found]
    refine Ends.mono (@Storage.endTick_ends descriptor ⟨live.journal, _⟩ serves) ?_
    exact fun _ _ ended => ⟨ended.1 (releasing resource descriptor registered), List.length_set⟩
  have clears : Ends (onStorageAt resource Storage.endTick) live fun _ after => ∀ other,
      after.core.events? other = if other = resource then [] else live.core.events? other :=
    onStorageAt_events (fun _ _ => []) based (fun _ => rfl) fun serves =>
      (Storage.endTick_ends serves).mono fun _ _ ended => ended.2
  have sound : Ends (onStorageAt resource Storage.endTick) live fun _ after => SoundOver registry after.core :=
    keeps_onStorageAt (fun _ => Storage.keeps_endTick) live based
  refine (completes.and (sound.and clears)).mono ?_
  rintro _ after ⟨⟨rfl, same⟩, based', events⟩
  exact ⟨rfl, same, based', events⟩

/-- At the end of a tick all events go. -/
theorem endTick_clears {live : Live (Data μ)} (releasing : registry.ReleasingEvents)
    (based : SoundOver registry live.core) :
    Ends endTick live fun outcome after => outcome = .ok () ∧ ∀ resource, after.core.events? resource = [] := by
  unfold endTick
  rw [ends_bind, ends_core, continues_ok]
  refine (onStorages_tells (fun done now =>
    now.core.storages.length = live.core.storages.length ∧ Holding registry
      (fun other => if other ∈ done then [] else live.core.events? other) now.core)
    [] ⟨rfl, based, fun _ => rfl⟩ ?_).mono ?_
  · rintro resource member done now ⟨same, holding⟩
    refine (onStorageAt_endTick releasing holding.based (by rw [same]; exact List.mem_range.mp member)).mono ?_
    rintro _ after ⟨rfl, same', based', events⟩
    refine ⟨rfl, same'.trans same, based', fun other => ?_⟩
    rw [events, holding.events]
    by_cases here : other = resource <;> simp [here]
  · rintro _ after ⟨rfl, _, holding⟩
    refine ⟨rfl, fun resource => ?_⟩
    rw [holding.events]
    split
    · rfl
    · rename_i outside
      rw [List.nil_append, List.mem_range, Nat.not_lt] at outside
      exact events?_missing (List.getElem?_eq_none outside)

end Holding

end Data

namespace Join

/-- A committed slot writes nothing where events are. -/
theorem slotWriting_event {place : Match} {resource : ResourceId} {slot : OutputSlot} {writing : Writing}
    (free : slot.stuck = false) (writes : slotWriting place resource slot = some writing)
    (other : ResourceId) (position : Nat) : writing.at? other (.event position) = none := by
  obtain ⟨value, _, made⟩ := Option.bind_eq_some_iff.mp writes
  unfold Writing.of? at made
  cases sort : slot.descriptor.kind with
  | event =>
      rw [OutputSlot.stuck_unsupported (.inl sort)] at free
      cases free
  | entitySpawnList =>
      rw [sort] at made
      cases value <;> cases made
      rfl
  | sceneComponent | viewportComponent | entityComponent | entityDespawnList =>
      rw [sort] at made
      obtain ⟨spot, met, rfl⟩ := Option.map_eq_some_iff.mp made
      rw [Writing.at?_stored, if_neg]
      rintro ⟨_, rfl⟩
      simp [Match.spot?] at met

theorem committed_event {held : ResourceId → Spot → Option Value} {place : Match} {earlier : List Writing}
    {resources : List ResourceId} {slots : Outputs} {writing : Writing}
    (member : writing ∈ committed held place earlier resources slots) (resource : ResourceId)
    (position : Nat) : writing.at? resource (.event position) = none := by
  induction resources generalizing slots earlier with
  | nil => cases slots <;> cases member
  | cons first rest ih =>
      cases slots with
      | nil => cases member
      | cons slot slots =>
          cases blocked : isBlocked held place earlier first slot with
          | true =>
              rw [committed_blocked blocked] at member
              cases member
          | false =>
              rw [committed_free blocked] at member
              rcases List.mem_append.mp member with here | later
              · exact slotWriting_event (free_of_unblocked blocked) (Option.mem_toList.mp here) resource position
              · exact ih later

/-- No call writes where events are. -/
theorem latest?_event (base : Data μ) (plan : Plan) (calls : List Call) (resource : ResourceId)
    (position : Nat) : latest? (writings base plan calls) resource (.event position) = none := by
  unfold writings
  generalize Outputs.blank (plan.outputs.filterMap fun output => base.registry.get? output.1) = slots
  generalize ([] : List Writing) = earlier
  induction calls generalizing slots earlier with
  | nil => rfl
  | cons call rest ih =>
      have nothing : latest? (committed base.occupant? call.place earlier (plan.outputs.map Prod.fst)
          (slots.replay call.exchanges)) resource (.event position) = none := by
        unfold latest?
        rw [List.getLast?_eq_none_iff, List.filterMap_eq_nil_iff]
        exact fun writing member => committed_event member resource position
      rw [writingsFrom, latest?_append, ih, nothing]
      rfl

/-- A call reads the event of its pass. -/
theorem Reads.event {plan : Plan} {base : Data μ} {earlier : List Call} {inputs : Inputs}
    (reads : Reads plan base (writings base plan earlier) inputs)
    {resource : ResourceId} (declared : (resource, .event) ∈ plan.inputs) :
    ∃ position value, inputs.place.event = some position ∧
      ⟨resource, .event position, value⟩ ∈ inputs.values ∧
      (base.events? resource)[position]? = some value := by
  obtain ⟨index, here⟩ := List.getElem?_of_mem declared
  obtain ⟨spot, value, met, read, shown⟩ := reads index resource .event here
  obtain ⟨position, passes, rfl⟩ := Option.map_eq_some_iff.mp met
  rw [latest?_event, Option.none_or] at shown
  exact ⟨position, value, passes, List.mem_of_getElem? read, shown⟩

end Join

/-- The join goes over these events of the resource: it begins with them, it has one pass for each, in
their order, and each call reads the event of its pass. -/
structure Joining.Sees (registry : Registry) (joining : Joining μ) (resource : ResourceId)
    (events : List Value) : Prop where
  held : joining.start.core.events? resource = events
  passes : joining.start.core.joinEvents (joining.plan.inputs.map Prod.fst) =
    (List.range events.length).map some
  traverses : Ends (Join.run joining.plan joining.callback) joining.start fun outcome _ =>
    Join.Ran registry joining.plan
      (joining.start.core.staticJoin (joining.plan.inputs.map Prod.fst) (joining.plan.outputs.map Prod.fst))
      joining.calls outcome
  reads : ∀ call ∈ joining.calls, ∃ position value, call.inputs.place.event = some position ∧
    ⟨resource, .event position, value⟩ ∈ call.inputs.values ∧ events[position]? = some value

/-- A join on sound data goes over the events that they have. -/
theorem Joining.sees {registry : Registry} {joining : Joining μ} {reads writes : List ResourceId}
    (based : Data.SoundOver registry joining.start.core)
    (accepted : Plan.make registry reads writes = .ok joining.plan) {resource : ResourceId}
    (declared : (resource, .event) ∈ joining.plan.inputs) :
    joining.Sees registry resource (joining.start.core.events? resource) := by
  have fits := Plan.make_fits accepted
  have here := fits
  rw [← based.registry] at here
  refine ⟨rfl, ?_, ?_, ?_⟩
  · rw [fits.reads_eq]
    exact Join.joinEvents_declared here declared
  · rw [fits.reads_eq, fits.writes_eq]
    exact Join.run_traversed based accepted joining.callback
  · intro call member
    obtain ⟨index, found⟩ := List.getElem?_of_mem member
    exact ((Join.run_flows based accepted joining.callback).1 index call found).event declared

namespace Scene

section Ticks

variable {registry : Registry} {live : Live (Scene μ)}

/-- The data hold the events, and so did the sound data that each join of an accepted plan began with. -/
structure Witnessed (registry : Registry) (held : ResourceId → List Value) (made : List (Joining μ))
    (data : Data μ) : Prop where
  holding : data.Holding registry held
  starts : ∀ joining ∈ made, joining.start.core.Holding registry held ∧
    ∃ reads writes, Plan.make registry reads writes = .ok joining.plan

theorem witnessed_carried (registry : Registry) (held : ResourceId → List Value) :
    Story.Carried registry (fun made _ (data : Data μ) => Witnessed registry held made data) := by
  constructor
  intro reads writes plan callback made live accepted witnessed
  refine (Data.run_holding plan callback live witnessed.holding).mono ?_
  intro _ after holding
  refine ⟨holding, fun joining member => ?_⟩
  rcases List.mem_append.mp member with earlier | last
  · exact witnessed.starts joining earlier
  · rw [List.mem_singleton.mp last]
    exact ⟨witnessed.holding, reads, writes, accepted⟩

/-- The jobs of a tick begin with the events that the tick began with. They stay if the tick ends in a
fault and are gone if it completes. -/
theorem tick_events (releasing : registry.ReleasingEvents) (sturdy : Sturdy registry live.core) (delta : Single) :
    Ends (tick delta) live fun outcome after =>
      (∀ joining ∈ tickJoinings delta live,
        joining.start.core.Holding registry live.core.data.events? ∧
          ∃ reads writes, Plan.make registry reads writes = .ok joining.plan) ∧
        ∀ resource, after.core.data.events? resource =
          if outcome.isOk then [] else live.core.data.events? resource := by
  have tells : Tells registry live
      (fun made _ data => Witnessed registry live.core.data.events? made data)
      (fun outcome made _ data => (∀ joining ∈ made,
        joining.start.core.Holding registry live.core.data.events? ∧
          ∃ reads writes, Plan.make registry reads writes = .ok joining.plan) ∧
        ∀ resource, data.events? resource = if outcome.isOk then [] else live.core.data.events? resource) :=
    { carried := witnessed_carried registry live.core.data.events?
      applies := by
        intro journal _
        have start : Data.Holding registry live.core.data.events? (Live.core ⟨journal, live.core.data⟩) :=
          ⟨sturdy.based, fun _ => rfl⟩
        refine (Data.applyCommands_holding registry live.core.data.events? _ start).mono ?_
        intro outcome after holding
        cases outcome with
        | ok _ => exact ⟨holding, by rintro _ ⟨⟩⟩
        | error cause => exact ⟨by rintro _ ⟨⟩, holding.events⟩
      scalars := by
        intro resource value now witnessed
        refine (Data.holding_onStorage (fun _ => Storage.keeps_emplaceScalar value)
          (fun list => Storage.onScalar_events list _) now witnessed.holding).mono ?_
        exact fun _ _ holding => ⟨holding, by rintro _ ⟨⟩⟩
      breaks := fun _ witnessed => ⟨witnessed.starts, witnessed.holding.events⟩
      closes := by
        intro made now witnessed
        refine (Data.endTick_clears releasing witnessed.holding.based).mono ?_
        rintro _ after ⟨rfl, cleared⟩
        exact ⟨witnessed.starts, cleared⟩ }
  exact (tells.tick sturdy.accepted delta).mono fun _ _ ended => ended.2

/-- A built scene has no events. -/
theorem create_holding {jobs : List (Job μ)} {config : Config} {start built : Live μ} {scene : Scene μ}
    (created : create registry jobs config start = .ok (.ok scene) built) :
    scene.data.Holding registry fun _ => [] := by
  refine (create_built created (fun {_ _ _ data} made => ?_) fun planned _ =>
    Data.run_holding planned.plan planned.job.callback).1
  obtain ⟨same, sound⟩ := Data.create_sound made
  refine ⟨⟨sound, by rw [same]⟩, fun resource => ?_⟩
  obtain ⟨shape, empty⟩ := Data.create_cells made resource
  rw [Data.events?, empty]
  cases shape <;> rfl

end Ticks

section Steps

def Operation.ticks : Operation μ → Bool
  | .tick _ => true
  | _ => false

namespace Step

/-- The event that the step adds to the resource. -/
def sent? (resource : ResourceId) (step : Step μ) : Option Value :=
  match step.operation.change? with
  | some (place, .pushEvent value) => if place = resource ∧ step.completes = true then some value else none
  | _ => none

/-- The step takes the events of the resource away: a tick does if it completes, and clearing does. -/
def clears (resource : ResourceId) (step : Step μ) : Bool :=
  match step.operation.change? with
  | some (place, .clearEvents) | some (place, .endTick) => place = resource
  | some _ => false
  | none => step.operation.ticks && step.completes

end Step

/-- The events that were sent to the resource since they were last taken away. -/
def arrived (resource : ResourceId) (steps : List (Step μ)) : List Value :=
  (steps.rtakeWhile fun step => !step.clears resource).filterMap (Step.sent? resource)

theorem arrived_concat (resource : ResourceId) (steps : List (Step μ)) (step : Step μ) :
    arrived resource (steps ++ [step]) =
      if step.clears resource then [] else arrived resource steps ++ (step.sent? resource).toList := by
  unfold arrived
  cases clears : step.clears resource with
  | true =>
      rw [List.rtakeWhile_concat_neg _ _ _ (by simp [clears])]
      rfl
  | false =>
      rw [List.rtakeWhile_concat_pos _ _ _ (by simp [clears]), List.filterMap_append]
      cases sent : step.sent? resource <;> simp [sent]

variable {registry : Registry}

section Operations

variable {live : Live (Scene μ)} {operation : Operation μ} (based : Data.SoundOver registry live.core.data)

include based

/-- A direct write changes the events of the resource that it is about only. -/
theorem change_events {place : ResourceId} {change : Storage.Write}
    (direct : operation.change? = some (place, change)) :
    Ends operation.perform live fun outcome after => ∀ resource, after.core.data.events? resource =
      if resource = place then change.leavesEvents outcome (live.core.data.events? resource)
      else live.core.data.events? resource := by
  rw [perform_change direct, ends_onData]
  apply Data.onStorage_events change.leavesEvents based
  · intro cause
    cases change <;> rfl
  · exact fun serves => Storage.write_events serves change

/-- What is neither a tick nor a direct write leaves events alone. -/
theorem perform_events (indirect : operation.change? = none) (ticks : operation.ticks = false) :
    Ends operation.perform live fun _ after => ∀ resource,
      after.core.data.events? resource = live.core.data.events? resource := by
  have start : Data.Holding registry live.core.data.events? (Live.core ⟨live.journal, live.core.data⟩) :=
    ⟨based, fun _ => rfl⟩
  have spared (spares : operation.spares = true) : Ends operation.perform live fun _ after => ∀ resource,
      after.core.data.events? resource = live.core.data.events? resource := by
    refine (perform_spares spares live).mono ?_
    intro _ after same resource
    unfold Data.events? Data.cells
    rw [same.1]
  have placed (kind : Kind) (place : ResourceId) (identity : Identity) (value : Value) :
      Ends (emplaceIndexed kind place identity value) live fun _ after => ∀ resource,
        after.core.data.events? resource = live.core.data.events? resource := by
    rcases emplaceIndexed_or kind place identity value live with ⟨cause, refused⟩ | written
    · rw [ends_of_error refused]
      exact fun _ => rfl
    · rw [ends_congr written, ends_onData]
      refine (Data.holding_onStorage (fun _ => Storage.keeps_emplaceIndexed identity value)
        (fun list => Storage.onIndexed_events list _) _ start).mono ?_
      exact fun _ _ holding => holding.events
  cases operation with
  | tick => cases ticks
  | emplaceScalar | sendEvent | clearEvents | write => cases indirect
  | iterate inputs outputs callback =>
      have witnessed : Witnessed registry live.core.data.events? [] live.core.data := ⟨start, by rintro _ ⟨⟩⟩
      refine (iterate_tells (witnessed_carried registry live.core.data.events?) based.registry witnessed).mono ?_
      exact fun _ _ told => told.2.holding.events
  | applyCommands =>
      unfold Operation.perform
      rw [ends_onData]
      refine (Data.applyCommands_holding registry live.core.data.events? _ start).mono ?_
      exact fun _ _ holding => holding.events
  | emplaceEntityComponent place entity value => exact placed .entityComponent place entity value
  | emplaceViewportComponent place viewport value => exact placed .viewportComponent place viewport value
  | queueSpawn | queueDespawn | addViewport | removeViewport | remember => exact spared rfl

end Operations

/-- What one step does to the events of a resource. -/
theorem Step.events_after {step : Step μ} (releasing : registry.ReleasingEvents)
    (sturdy : Sturdy registry step.before.core) (resource : ResourceId) :
    step.after.core.data.events? resource =
      if step.clears resource then []
      else step.before.core.data.events? resource ++ (step.sent? resource).toList := by
  unfold clears sent?
  cases direct : step.operation.change? with
  | some written =>
      obtain ⟨place, change⟩ := written
      obtain ⟨outcome, completed, events⟩ := of_ends step (change_events sturdy.based direct)
      rw [events resource, ← completed]
      by_cases here : resource = place
      · cases change <;> cases outcome <;> simp [here, Storage.Write.leavesEvents, Except.isOk, Except.toBool]
      · cases change <;> simp [here, Ne.symm here]
  | none =>
      cases ticks : step.operation.ticks with
      | true =>
          obtain ⟨operation, live⟩ := step
          obtain ⟨delta, rfl⟩ : ∃ delta, operation = .tick delta := by
            cases operation <;> first | exact ⟨_, rfl⟩ | cases ticks
          obtain ⟨outcome, completed, _, events⟩ :=
            of_ends ⟨.tick delta, live⟩ (tick_events releasing sturdy delta)
          rw [events resource, completed]
          simp
      | false =>
          obtain ⟨_, _, same⟩ := of_ends step (perform_events sturdy.based direct ticks)
          rw [same resource]
          simp

/-- At every point of a run each resource has the events that arrived. -/
theorem runAll_events (releasing : registry.ReleasingEvents) {jobs : List (Job μ)} {config : Config}
    {start built : Live μ} {scene : Scene μ}
    (created : create registry jobs config start = .ok (.ok scene) built) (operations : List (Operation μ))
    (resource : ResourceId) :
    (runAll operations ⟨built.journal, scene⟩).core.data.events? resource =
      arrived resource (stepsOf operations ⟨built.journal, scene⟩) := by
  have sturdy := create_steps_sturdy created operations
  refine runAll_induct (fun done live =>
    live.core.data.events? resource = arrived resource done) ?_ ?_
  · exact (create_holding created).events resource
  · intro done step member arrives
    rw [arrived_concat, Step.events_after releasing (sturdy step member), arrives]

/-- Where no destruction of an event fails, a tick ends in a fault only before the events are cleared. In
every tick of a run all update jobs that read the events of a resource then go over the same ones: those
sent since the last tick that completed, or since they were last cleared, in order of arrival. A tick that
completes runs every update job and leaves no events, and a tick that ends in a fault leaves the events of
every resource as they were. -/
theorem events_live_until_tick_completes {jobs : List (Job μ)} {config : Config} {start built : Live μ}
    {scene : Scene μ} (releasing : registry.ReleasingEvents)
    (created : create registry jobs config start = .ok (.ok scene) built) (operations : List (Operation μ))
    (delta : Single) :
    let steps := stepsOf operations ⟨built.journal, scene⟩
    let step : Step μ := ⟨.tick delta, runAll operations ⟨built.journal, scene⟩⟩
    (∀ joining ∈ step.joinings, ∀ resource, (resource, .event) ∈ joining.plan.inputs →
      joining.Sees registry resource (arrived resource steps)) ∧
    step.joinings.map Joining.plan <+: step.before.core.updates.jobs.map PlannedJob.plan ∧
    (step.completes = true →
      step.joinings.map Joining.plan = step.before.core.updates.jobs.map PlannedJob.plan ∧
        ∀ resource, step.after.core.data.events? resource = []) ∧
    (step.completes = false →
      ∀ resource, step.after.core.data.events? resource = step.before.core.data.events? resource) := by
  intro steps step
  have sturdy : Sturdy registry step.before.core := runAll_sturdy (create_sturdy created)
  have held (resource : ResourceId) : step.before.core.data.events? resource = arrived resource steps :=
    runAll_events releasing created operations resource
  have ends : Ends step.operation.perform step.before _ :=
    (tick_plans delta step.before).and (tick_events releasing sturdy delta)
  obtain ⟨outcome, completed, ⟨first, all⟩, starts, events⟩ := Step.of_ends step ends
  rw [← completed]
  refine ⟨?_, first, fun completes => ⟨?_, fun resource => ?_⟩, fun breaks resource => ?_⟩
  · intro joining member resource declared
    obtain ⟨holding, reads, writes, accepted⟩ := starts joining member
    have sees := Joining.sees holding.based accepted declared
    rw [holding.events, held] at sees
    exact sees
  · apply all
    cases outcome with
    | ok _ => rfl
    | error cause => cases completes
  · rw [events, if_pos completes]
  · rw [events, if_neg (by rw [breaks]; exact Bool.false_ne_true)]

/-- A click that a tick consumes, and two more around a tick that ends in a fault. -/
def sampleClicks : List (Operation Unit) :=
  [.sendEvent 6 (.uint32 1), .tick .zero, .sendEvent 6 (.uint32 2), .queueSpawn [(4, .uint32 0)],
   .tick .zero, .sendEvent 6 (.uint32 3)]

theorem events_live_until_tick_completes_sample :
    let built := (create Sample.registry [Sample.recruits.job] .default).leaves ⟨{}, ()⟩
    let steps := stepsOf sampleClicks ⟨built.journal, Sample.barracks⟩
    let step : Step Unit := ⟨.tick .zero, runAll sampleClicks ⟨built.journal, Sample.barracks⟩⟩
    Sample.registry.ReleasingEvents ∧
      create Sample.registry [Sample.recruits.job] .default ⟨{}, ()⟩ = .ok (.ok Sample.barracks) built ∧
      steps.map Step.completes = [true, true, true, true, false, true] ∧
      (arrived 6 steps).length = 2 ∧
      step.joinings.map (fun joining => joining.calls.length) = [2] ∧
      (∀ joining ∈ step.joinings, joining.Sees Sample.registry 6 (arrived 6 steps)) ∧
      ∀ resource, step.after.core.data.events? resource = [] := by
  have reads : ∀ joining ∈ Step.joinings ⟨.tick .zero, runAll sampleClicks
      ⟨((create Sample.registry [Sample.recruits.job] .default).leaves ⟨{}, ()⟩).journal, Sample.barracks⟩⟩,
      (6, Kind.event) ∈ joining.plan.inputs := by decide +kernel
  have completes : Step.completes ⟨.tick .zero, runAll sampleClicks
      ⟨((create Sample.registry [Sample.recruits.job] .default).leaves ⟨{}, ()⟩).journal, Sample.barracks⟩⟩ =
        true := by decide +kernel
  have releasing : Sample.registry.ReleasingEvents := by
    have each : ∀ descriptor ∈ Sample.registry.descriptors, descriptor.element.Releasing := by
      simp [Sample.registry, Registry.builtin, Element.Releasing, Element.plain]
    exact fun _ descriptor found _ => each descriptor (List.mem_of_getElem? found)
  obtain ⟨sees, _, ended, _⟩ := events_live_until_tick_completes releasing Sample.barracks_created sampleClicks
    .zero
  exact ⟨releasing, Sample.barracks_created, by decide +kernel, by decide +kernel, by decide +kernel,
    fun joining member => sees joining member 6 (reads joining member), (ended completes).2⟩

end Steps

end Scene

end EntityScene
