import EntityScene.Proofs.Join
import EntityScene.Proofs.Plan

/-!
One visit of a join. A match reads inputs that are there, and a commit writes components of identities
that matched, so what decides about later matches stays as it was when the join began. The only faults
are the callback's own and those of outputs that cannot be committed.
-/

namespace EntityScene

open Act

variable {μ : Type}

/-- The pool whose identities a kind is attached to. -/
def Data.poolOf (data : Data μ) (kind : Kind) : Pool :=
  if kind = .viewportComponent then data.viewports else data.entities

theorem Data.Sound.pool {data : Data μ} (sound : data.Sound) (kind : Kind) : (data.poolOf kind).Sound := by
  unfold Data.poolOf
  split
  · exact sound.viewports
  · exact sound.entities

namespace Join

/-- The match has all that the plan reads and writes: values for the inputs, and live identities for
what is attached to identities. -/
structure Placed (plan : Plan) (base : Data μ) (place : Match) : Prop where
  scalars {resource : ResourceId} :
    (resource, .sceneComponent) ∈ plan.inputs → (base.scalar? resource).isSome = true
  event {resource : ResourceId} : (resource, .event) ∈ plan.inputs →
    ∃ position, place.event = some position ∧ position < (base.events? resource).length
  attached {resource : ResourceId} {kind : Kind} : (resource, kind) ∈ plan.inputs ++ plan.outputs →
    kind.isIndexed = true → ∃ identity, identity? place kind = some identity
  live {kind : Kind} {identity : Identity} :
    identity? place kind = some identity → identity ∈ (base.poolOf kind).live
  holds {resource : ResourceId} {kind : Kind} {identity : Identity} :
    identity? place kind = some identity → (resource, kind) ∈ plan.inputs →
      (base.component? resource identity).isSome = true

/-- The data still decide about the matches of the plan as the data at the beginning did. -/
structure Steady (plan : Plan) (base data : Data μ) : Prop where
  sound : data.Sound
  registry : data.registry = base.registry
  entities : data.entities = base.entities
  viewports : data.viewports = base.viewports
  scalars {resource : ResourceId} :
    (base.scalar? resource).isSome = true → (data.scalar? resource).isSome = true
  events (resource : ResourceId) : data.events? resource = base.events? resource
  components {resource : ResourceId} {kind : Kind} {identity : Identity} :
    (resource, kind) ∈ plan.inputs → identity ∈ (base.poolOf kind).live →
      (data.component? resource identity).isSome = (base.component? resource identity).isSome

theorem Steady.refl {plan : Plan} {base : Data μ} (sound : base.Sound) : Steady plan base base where
  sound := sound
  registry := rfl
  entities := rfl
  viewports := rfl
  scalars set := set
  events _ := rfl
  components _ _ := rfl

theorem Steady.poolOf {plan : Plan} {base data : Data μ} (steady : Steady plan base data) (kind : Kind) :
    data.poolOf kind = base.poolOf kind := by
  unfold Data.poolOf
  rw [steady.entities, steady.viewports]

section Inputs

variable {reads writes : List ResourceId} {plan : Plan} {base data : Data μ} {place : Match}

theorem mapM_ok {α β : Type} {act : α → Except Fault β} {items : List α}
    (each : ∀ item ∈ items, ∃ answer, act item = .ok answer) : ∃ answers, items.mapM act = .ok answers := by
  induction items with
  | nil => exact ⟨[], rfl⟩
  | cons item rest ih =>
      obtain ⟨answer, first⟩ := each item List.mem_cons_self
      obtain ⟨answers, others⟩ := ih fun other member => each other (List.mem_cons_of_mem _ member)
      refine ⟨answer :: answers, ?_⟩
      rw [List.mapM_cons, first, others]
      rfl

theorem storageAt_ok {resource : ResourceId} {storage : Storage}
    (found : data.storages[resource]? = some storage) : data.storageAt resource = .ok storage := by
  unfold Data.storageAt
  rw [found]

theorem resolveInput_ok {input : ResourceId × Kind} {spot : Spot} {value : Value}
    (found : lookUp data place input.1 input.2 = .ok (spot, some value)) :
    resolveInput data place input = .ok ⟨input.1, spot, value⟩ := by
  unfold resolveInput
  simp only [bind, Except.bind, found]
  rfl

/-- Each input of a match has a value at its spot. -/
theorem lookUp_ok (fits : plan.Fits base.registry reads writes) (steady : Steady plan base data)
    (placed : Placed plan base place) {resource : ResourceId} {kind : Kind}
    (declared : (resource, kind) ∈ plan.inputs) :
    ∃ spot value, lookUp data place resource kind = .ok (spot, some value) := by
  obtain ⟨descriptor, registered, sort⟩ := Registry.kind?_eq_some.mp (fits.input_kind _ declared)
  rw [← steady.registry] at registered
  have readable := fits.readable _ declared
  have identified : kind.isIndexed = true →
      ∃ identity, identity? place kind = some identity ∧ ∃ table value,
        data.storages[resource]? = some ⟨descriptor, .indexed table⟩ ∧
          table.component identity = some value := by
    intro indexed
    obtain ⟨identity, here⟩ := placed.attached (List.mem_append_left _ declared) indexed
    have held := placed.holds here declared
    rw [← steady.components declared (placed.live here), Option.isSome_iff_exists] at held
    obtain ⟨value, held⟩ := held
    obtain ⟨table, found, _⟩ := steady.sound.indexed registered (by rw [sort]; exact indexed)
    rw [Data.component?, Data.cells_of_found found] at held
    exact ⟨identity, here, table, value, found, held⟩
  obtain ⟨event, viewport, entity⟩ := place
  unfold lookUp
  cases kind with
  | sceneComponent =>
      have set := steady.scalars (placed.scalars declared)
      obtain ⟨scalar, found, _⟩ := steady.sound.scalar registered sort
      rw [Data.scalar?, Data.cells_of_found found, Option.isSome_iff_exists] at set
      obtain ⟨value, set⟩ := set
      refine ⟨.scene, value, ?_⟩
      rw [storageAt_ok found, ← set]
      rfl
  | event =>
      obtain ⟨position, here, inside⟩ := placed.event declared
      obtain ⟨list, found, _⟩ := steady.sound.events registered sort
      rw [← steady.events, Data.events?, Data.cells_of_found found] at inside
      change position < list.length at inside
      cases here
      refine ⟨.event position, list[position], ?_⟩
      rw [storageAt_ok found, ← List.getElem?_eq_getElem inside]
      rfl
  | viewportComponent =>
      obtain ⟨identity, here, table, value, found, held⟩ := identified rfl
      cases here
      refine ⟨.viewport identity, value, ?_⟩
      rw [storageAt_ok found, ← held]
      rfl
  | entityComponent =>
      obtain ⟨identity, here, table, value, found, held⟩ := identified rfl
      cases here
      refine ⟨.entity identity, value, ?_⟩
      rw [storageAt_ok found, ← held]
      rfl
  | entitySpawnList | entityDespawnList => cases readable

/-- The inputs of a match can be read. -/
theorem resolve_ok (fits : plan.Fits base.registry reads writes) (steady : Steady plan base data)
    (placed : Placed plan base place) :
    ∃ inputs, resolve data plan place = .ok inputs ∧ inputs.place = place := by
  have each : ∀ input ∈ plan.inputs, ∃ answer, resolveInput data place input = .ok answer := by
    intro input declared
    obtain ⟨spot, value, found⟩ := lookUp_ok fits steady placed declared
    exact ⟨_, resolveInput_ok found⟩
  obtain ⟨values, read⟩ := mapM_ok each
  refine ⟨⟨values, place⟩, ?_, rfl⟩
  unfold resolve
  rw [read]
  rfl

end Inputs

section Writes

variable {reads writes : List ResourceId} {plan : Plan} {base data : Data μ} {place : Match}
  {resource : ResourceId} {descriptor : Descriptor}

/-- Neither the queue nor the memory decides about matches. -/
theorem Steady.aside (steady : Steady plan base data) (commands : CommandQueue) (memory : μ) :
    Steady plan base { data with commands, memory } where
  sound := { steady.sound with }
  registry := steady.registry
  entities := steady.entities
  viewports := steady.viewports
  scalars := steady.scalars
  events := steady.events
  components := steady.components

theorem Steady.putScalar (steady : Steady plan base data) {before : Scalar} {value : Value}
    (found : data.storages[resource]? = some ⟨descriptor, .scalar before⟩)
    (typed : value.type = descriptor.element.type) :
    Steady plan base (data.withCells resource descriptor (.scalar (some value))) where
  sound := steady.sound.withCells found rfl fun other held => by
    rw [← Option.some.inj held]
    exact typed
  registry := steady.registry
  entities := steady.entities
  viewports := steady.viewports
  scalars {other} set := by
    rw [Data.scalar?_withCells found]
    split
    · rfl
    · exact steady.scalars set
  events other := by
    rw [Data.events?_withCells found, ← steady.events]
    split
    · rename_i same
      rw [same, Data.events?, Data.cells_of_found found]
      rfl
    · rfl
  components {other kind identity} declared live := by
    rw [Data.component?_withCells found, ← steady.components declared live]
    split
    · rename_i same
      rw [same, Data.component?, Data.cells_of_found found]
      rfl
    · rfl

/-- A component is written for an identity that matched. Other live identities have other slots. -/
theorem Steady.putComponent (fits : plan.Fits base.registry reads writes)
    (steady : Steady plan base data) (placed : Placed plan base place) {kind : Kind}
    {identity : Identity} (here : identity? place kind = some identity)
    (registered : base.registry.kind? resource = some kind) {table : Indexed} {value : Value}
    (found : data.storages[resource]? = some ⟨descriptor, .indexed table⟩)
    (sound : Indexed.Sound descriptor.element.type table)
    (typed : value.type = descriptor.element.type) :
    Steady plan base (data.withCells resource descriptor (.indexed (table.store identity value))) where
  sound := steady.sound.withCells found rfl (sound.store identity typed)
  registry := steady.registry
  entities := steady.entities
  viewports := steady.viewports
  scalars {other} set := by
    have kept := steady.scalars set
    rw [Data.scalar?_withCells found]
    split
    · rename_i same
      rw [same, Data.scalar?, Data.cells_of_found found] at kept
      exact kept
    · exact kept
  events other := by
    rw [Data.events?_withCells found, ← steady.events]
    split
    · rename_i same
      rw [same, Data.events?, Data.cells_of_found found]
      rfl
    · rfl
  components {other sort third} declared live := by
    have before := steady.components declared live
    rw [Data.component?_withCells found]
    split
    · rename_i same
      subst same
      have sorts : kind = sort := Option.some.inj (registered.symm.trans (fits.input_kind _ declared))
      subst sorts
      rw [Data.component?, Data.cells_of_found found] at before
      change ((table.store identity value).component third).isSome = _
      rw [Indexed.component_store]
      by_cases equal : third = identity
      · rw [if_pos equal, equal, placed.holds here declared]
        rfl
      · -- Two live identities with one index are the same, so the slot of this one is not touched.
        have apart : third.index ≠ identity.index := by
          intro clash
          have pool := steady.sound.pool kind
          rw [steady.poolOf kind] at pool
          exact equal (pool.live_inj live (placed.live here) clash)
        rw [if_neg equal, if_neg apart]
        exact before
    · exact before

end Writes

/-- Why the outputs of a call cannot be committed: a written value is declined by its element, the value in
its place cannot be destroyed, an output of the plan is never supported, or an output of requests was written
with values of another type. -/
inductive Refusal (registry : Registry) (plan : Plan) (exchanges : List Exchange) : Fault → Prop
  | declined {position : Nat} {resource : ResourceId} {kind : Kind} {descriptor : Descriptor}
    {value : Value} {message : String} (declared : plan.outputs[position]? = some (resource, kind))
    (written : ∃ exchange ∈ exchanges, exchange.Writes position)
    (registered : registry.get? resource = some descriptor)
    (declines : descriptor.element.declines value = some message) :
    Refusal registry plan exchanges (.copyRefused message)
  | retained {position : Nat} {resource : ResourceId} {kind : Kind} {descriptor : Descriptor}
    {old : Value} {message : String} (declared : plan.outputs[position]? = some (resource, kind))
    (written : ∃ exchange ∈ exchanges, exchange.Writes position)
    (registered : registry.get? resource = some descriptor)
    (retains : descriptor.element.retains old = some message) :
    Refusal registry plan exchanges (.destroyRefused message)
  | unsupported {resource : ResourceId} {kind : Kind} (declared : (resource, kind) ∈ plan.outputs)
    (never : kind = .event ∨ kind = .entityDespawnList) :
    Refusal registry plan exchanges (.outputUnsupported resource kind)
  | mistyped {position : Nat} {resource : ResourceId} {descriptor : Descriptor}
    (declared : plan.outputs[position]? = some (resource, .entitySpawnList))
    (written : ∃ exchange ∈ exchanges, exchange.Writes position)
    (registered : registry.get? resource = some descriptor)
    (other : descriptor.element.type ≠ .spawnList) :
    Refusal registry plan exchanges (.outputNotSpawnList resource .entitySpawnList)

/-- A written value that cannot replace what is in its place is one reason. -/
theorem Refusal.of_replacing {registry : Registry} {plan : Plan} {exchanges : List Exchange} {position : Nat}
    {resource : ResourceId} {kind : Kind} {descriptor : Descriptor} {held : List Value} {value : Value}
    {cause : Fault} (declared : plan.outputs[position]? = some (resource, kind))
    (written : ∃ exchange ∈ exchanges, exchange.Writes position)
    (registered : registry.get? resource = some descriptor)
    (stops : descriptor.replacing held value = .error cause) : Refusal registry plan exchanges cause := by
  rcases Descriptor.replacing_error stops with ⟨old, _, message, retains, rfl⟩ | ⟨message, declines, rfl⟩
  · exact .retained declared written registered retains
  · exact .declined declared written registered declines

/-- A commit leaves the data steady or is refused. -/
def Settled (plan : Plan) (base : Data μ) (exchanges : List Exchange) : Except Fault Unit → Data μ → Prop
  | .ok _, data => Steady plan base data
  | .error cause, _ => Refusal base.registry plan exchanges cause

section Commits

variable {reads writes : List ResourceId} {plan : Plan} {base : Data μ} {place : Match}
  {exchanges : List Exchange} {descriptors : List Descriptor} {position : Nat} {resource : ResourceId}
  {kind : Kind} {descriptor : Descriptor} {value : Value}

theorem commitScalar_ends {live : Live (Data μ)} (steady : Steady plan base live.core)
    (declared : plan.outputs[position]? = some (resource, .sceneComponent))
    (written : ∃ exchange ∈ exchanges, exchange.Writes position)
    (registered : base.registry.get? resource = some descriptor) (sort : descriptor.kind = .sceneComponent)
    (typed : value.type = descriptor.element.type) :
    Ends (Data.onStorageAt resource (Storage.onScalar fun descriptor => Scalar.emplace descriptor value))
      live fun outcome after =>
        after.core.memory = live.core.memory ∧ Settled plan base exchanges outcome after.core := by
  rw [← steady.registry] at registered
  obtain ⟨before, found, sound⟩ := steady.sound.scalar registered sort
  refine (Data.emplaceScalar_ends found sound value).mono ?_
  rintro outcome after ⟨changed, wrote, same⟩
  rw [same]
  refine ⟨rfl, ?_⟩
  rw [steady.registry] at registered
  cases wrote with
  | refused mistyped => exact absurd typed mistyped
  | stopped _ stops => exact .of_replacing declared written registered stops
  | stored _ _ => exact steady.putScalar found typed

theorem commitComponent_ends {live : Live (Data μ)} (fits : plan.Fits base.registry reads writes)
    (steady : Steady plan base live.core) (placed : Placed plan base place)
    (declared : plan.outputs[position]? = some (resource, kind))
    (written : ∃ exchange ∈ exchanges, exchange.Writes position)
    (registered : base.registry.get? resource = some descriptor) (sort : descriptor.kind = kind)
    (indexed : kind.isIndexed = true) {identity : Identity} (here : identity? place kind = some identity)
    (typed : value.type = descriptor.element.type) :
    Ends (Data.onStorageAt resource (Storage.onIndexed fun descriptor =>
        Indexed.emplace descriptor identity value))
      live fun outcome after =>
        after.core.memory = live.core.memory ∧ Settled plan base exchanges outcome after.core := by
  have kinds : base.registry.kind? resource = some kind :=
    Registry.kind?_eq_some.mpr ⟨descriptor, registered, sort⟩
  rw [← steady.registry] at registered
  obtain ⟨table, found, sound⟩ := steady.sound.indexed registered (by rw [sort]; exact indexed)
  refine (Data.emplaceIndexed_ends found sound identity value).mono ?_
  rintro outcome after ⟨changed, wrote, same⟩
  rw [same]
  refine ⟨rfl, ?_⟩
  rw [steady.registry] at registered
  cases wrote with
  | refused mistyped => exact absurd typed mistyped
  | stopped _ stops => exact .of_replacing declared written registered stops
  | stored _ _ => exact steady.putComponent fits placed here kinds found sound typed

/-- What a commit does to the slots and the data: the slots stay sound and no slot becomes written. -/
structure CommitEnds (plan : Plan) (base : Data μ) (exchanges : List Exchange)
    (descriptors : List Descriptor) (before after : Frame μ) (outcome : Except Fault Unit) : Prop where
  outputs : Outputs.Sound descriptors after.outputs
  wrote : Outputs.Wrote before.outputs after.outputs []
  memory : after.data.memory = before.data.memory
  settled : Settled plan base exchanges outcome after.data

/-- Requests move to the queue, and an empty list stays in the buffer. -/
theorem commitSpawns_ends {live : Live (Frame μ)} (steady : Steady plan base live.core.data)
    (sound : Outputs.Sound descriptors live.core.outputs)
    (described : descriptors[position]? = some descriptor)
    (typed : descriptor.element.type = .spawnList) (requests : SpawnList) :
    Ends (commitSpawns position requests) live fun outcome after =>
      CommitEnds plan base exchanges descriptors live.core after.core outcome := by
  have inside : position < live.core.outputs.length := by
    rw [sound.length]
    exact (List.getElem?_eq_some_iff.mp described).1
  have found := List.getElem?_eq_getElem inside
  have same := sound.descriptor found
  rw [described, Option.some.injEq] at same
  obtain ⟨journal, ended, _⟩ := commitSpawns_found (Outputs.slot_found found) requests
  refine (ends_of_ok ended).mpr ⟨?_, .put found id, rfl, steady.aside _ live.core.data.memory⟩
  refine sound.put found rfl fun other held => ?_
  rw [← Option.some.inj held, ← same, typed]
  rfl

theorem commitValue_ends {live : Live (Frame μ)} (fits : plan.Fits base.registry reads writes)
    (steady : Steady plan base live.core.data) (placed : Placed plan base place)
    (declared : plan.outputs[position]? = some (resource, kind))
    (supported : ¬(kind = .event ∨ kind = .entityDespawnList))
    (written : ∃ exchange ∈ exchanges, exchange.Writes position)
    (registered : base.registry.get? resource = some descriptor) (sort : descriptor.kind = kind)
    (sound : Outputs.Sound descriptors live.core.outputs)
    (described : descriptors[position]? = some descriptor) (typed : value.type = descriptor.element.type) :
    Ends (commitValue place position resource kind value) live fun outcome after =>
      CommitEnds plan base exchanges descriptors live.core after.core outcome := by
  have attached := placed.attached (List.mem_append_right _ (List.mem_of_getElem? declared))
  obtain ⟨event, viewport, entity⟩ := place
  unfold commitValue
  cases kind with
  | sceneComponent =>
      rw [ends_onData]
      refine (commitScalar_ends steady declared written registered sort typed).mono ?_
      exact fun _ _ ends => ⟨sound, .refl _, ends.1, ends.2⟩
  | viewportComponent =>
      obtain ⟨identity, here⟩ := attached rfl
      cases here
      rw [ends_onData]
      refine (commitComponent_ends fits steady placed declared written registered sort rfl rfl typed).mono ?_
      exact fun _ _ ends => ⟨sound, .refl _, ends.1, ends.2⟩
  | entityComponent =>
      obtain ⟨identity, here⟩ := attached rfl
      cases here
      rw [ends_onData]
      refine (commitComponent_ends fits steady placed declared written registered sort rfl rfl typed).mono ?_
      exact fun _ _ ends => ⟨sound, .refl _, ends.1, ends.2⟩
  | entitySpawnList =>
      by_cases listed : descriptor.element.type = .spawnList
      · rw [listed] at typed
        cases value with
        | spawnList requests => exact commitSpawns_ends steady sound described listed requests
        | _ => cases typed
      · have refused : Settled plan base exchanges
            (.error (.outputNotSpawnList resource .entitySpawnList)) live.core.data :=
          Refusal.mistyped declared written registered listed
        cases value with
        | spawnList requests => exact absurd typed.symm listed
        | _ => exact ⟨sound, .refl _, rfl, refused⟩
  | event => exact absurd (Or.inl rfl) supported
  | entityDespawnList => exact absurd (Or.inr rfl) supported

/-- The slots from the position on wait for their commit if the call has written them; the others do
not. -/
def Pending (position : Nat) (exchanges : List Exchange) (outputs : Outputs) : Prop :=
  ∀ (place : Nat) (slot : OutputSlot), outputs[place]? = some slot → slot.written = true →
    position ≤ place ∧ ∃ exchange ∈ exchanges, exchange.Writes place

theorem Pending.wrote {before after : Outputs} (pending : Pending position exchanges before)
    (wrote : Outputs.Wrote before after []) : Pending position exchanges after := by
  intro place slot here written
  rcases wrote place slot here written with ⟨old, was, wasWritten⟩ | ⟨_, member, _⟩
  · exact pending place old was wasWritten
  · cases member

/-- Taking what the slot holds leaves the later slots pending. -/
theorem Pending.taken {outputs : Outputs} (pending : Pending position exchanges outputs)
    (slot : OutputSlot) :
    Pending (position + 1) exchanges (List.set outputs position { slot with written := false }) := by
  intro place other here written
  rw [List.getElem?_set] at here
  split at here
  · split at here
    · rw [← Option.some.inj here] at written
      cases written
    · cases here
  · rename_i apart
    obtain ⟨later, writer⟩ := pending place other here written
    exact ⟨by omega, writer⟩

theorem Pending.skipped {outputs : Outputs} {slot : OutputSlot}
    (pending : Pending position exchanges outputs) (found : outputs[position]? = some slot)
    (unwritten : ¬slot.written = true) : Pending (position + 1) exchanges outputs := by
  intro place other here written
  obtain ⟨later, writer⟩ := pending place other here written
  refine ⟨?_, writer⟩
  have apart : position ≠ place := by
    intro same
    subst same
    rw [found, Option.some.injEq] at here
    rw [here] at unwritten
    exact unwritten written
  omega

/-- The descriptors are those of the plan's outputs. -/
def Describes (registry : Registry) (plan : Plan) (descriptors : List Descriptor) : Prop :=
  (plan.outputs.map Prod.fst).map registry.get? = descriptors.map some

theorem Describes.length {registry : Registry} (describes : Describes registry plan descriptors) :
    descriptors.length = plan.outputs.length := by
  have lengths := congrArg List.length describes
  simpa using lengths.symm

theorem Describes.getElem? {registry : Registry} (describes : Describes registry plan descriptors)
    (declared : plan.outputs[position]? = some (resource, kind)) :
    ∃ descriptor, descriptors[position]? = some descriptor ∧ registry.get? resource = some descriptor := by
  have entry := congrArg (fun list => list[position]?) describes
  simp only [List.getElem?_map, declared, Option.map_some] at entry
  cases found : descriptors[position]? with
  | none => simp [found] at entry
  | some descriptor =>
      rw [found] at entry
      exact ⟨descriptor, rfl, Option.some.inj entry⟩

/-- The outputs of an accepted plan are registered. -/
theorem exists_describes (fits : plan.Fits base.registry reads writes) :
    ∃ descriptors, Describes base.registry plan descriptors := by
  refine ⟨plan.outputs.filterMap fun output => base.registry.get? output.1, ?_⟩
  have registered := fits.output_kind
  unfold Describes
  generalize plan.outputs = outputs at registered
  induction outputs with
  | nil => rfl
  | cons output rest ih =>
      obtain ⟨descriptor, found, _⟩ := Registry.kind?_eq_some.mp (registered output List.mem_cons_self)
      have others := ih fun other member => registered other (List.mem_cons_of_mem _ member)
      simp only [List.map_cons, List.filterMap_cons, found]
      rw [others]

/-- The slot of a declared output, which has the descriptor of its resource. -/
theorem exists_slot {outputs : Outputs} (fits : plan.Fits base.registry reads writes)
    (describes : Describes base.registry plan descriptors) (sound : Outputs.Sound descriptors outputs)
    (declared : plan.outputs[position]? = some (resource, kind)) :
    ∃ slot, outputs[position]? = some slot ∧ descriptors[position]? = some slot.descriptor ∧
      base.registry.get? resource = some slot.descriptor ∧ slot.descriptor.kind = kind := by
  obtain ⟨descriptor, described, registered⟩ := describes.getElem? declared
  have inside : position < outputs.length := by
    rw [sound.length]
    exact (List.getElem?_eq_some_iff.mp described).1
  obtain ⟨slot, found⟩ : ∃ slot, outputs[position]? = some slot := ⟨_, List.getElem?_eq_getElem inside⟩
  have same := sound.descriptor found
  rw [described, Option.some.injEq] at same
  subst same
  have kinds := fits.output_kind _ (List.mem_of_getElem? declared)
  rw [Registry.kind?, registered] at kinds
  exact ⟨slot, found, described, registered, Option.some.inj kinds⟩

/-- The commit of one output. Its slot counts as unwritten before its value is committed, also if that is
refused. -/
theorem commitSlot_ends {live : Live (Frame μ)} (fits : plan.Fits base.registry reads writes)
    (describes : Describes base.registry plan descriptors) (placed : Placed plan base place)
    (declared : plan.outputs[position]? = some (resource, kind)) (steady : Steady plan base live.core.data)
    (sound : Outputs.Sound descriptors live.core.outputs)
    (pending : Pending position exchanges live.core.outputs) :
    Ends (commitSlot place position (resource, kind)) live fun outcome after =>
      Outputs.Sound descriptors after.core.outputs ∧ after.core.data.memory = live.core.data.memory ∧
        Settled plan base exchanges outcome after.core.data ∧
        (outcome = .ok () → Pending (position + 1) exchanges after.core.outputs) := by
  unfold commitSlot
  split
  · rename_i never
    exact ⟨sound, rfl, .unsupported (List.mem_of_getElem? declared) never, fun ok => nomatch ok⟩
  · rename_i supported
    obtain ⟨⟨own, buffer, written⟩, found, described, registered, sort⟩ :=
      exists_slot fits describes sound declared
    rw [ends_bind, ends_onOutputs, Outputs.ends_takeWritten found]
    split
    · rename_i isWritten
      have writer := (pending position _ found isWritten).2
      have typed := sound.typed _ (List.mem_of_getElem? found)
      have sound' : Outputs.Sound descriptors
          (List.set live.core.outputs position ⟨own, buffer, false⟩) := sound.put found rfl typed
      have pending' := pending.taken ⟨own, buffer, written⟩
      rw [continues_ok]
      cases buffer with
      | none => exact ⟨sound', rfl, steady, fun _ => pending'⟩
      | some value =>
          refine Ends.mono (commitValue_ends fits steady placed declared supported writer registered sort
            sound' described (typed value rfl)) ?_
          intro outcome after ends
          exact ⟨ends.outputs, ends.memory, ends.settled, fun _ => pending'.wrote ends.wrote⟩
    · rename_i unwritten
      exact ⟨sound, rfl, steady, fun _ => pending.skipped found unwritten⟩

/-- A commit from a position on. The induction is on the outputs that are left; the slots before the
position are no longer written. -/
theorem commit_ends {live : Live (Frame μ)} (fits : plan.Fits base.registry reads writes)
    (describes : Describes base.registry plan descriptors) (placed : Placed plan base place)
    {outputs : List (ResourceId × Kind)} (left : outputs = plan.outputs.drop position)
    (steady : Steady plan base live.core.data) (sound : Outputs.Sound descriptors live.core.outputs)
    (pending : Pending position exchanges live.core.outputs) :
    Ends (commit place position outputs) live fun outcome after =>
      Outputs.Sound descriptors after.core.outputs ∧ after.core.data.memory = live.core.data.memory ∧
        Settled plan base exchanges outcome after.core.data ∧
        (outcome = .ok () → Outputs.Unwritten after.core.outputs) := by
  induction outputs generalizing position live with
  | nil =>
      refine ⟨sound, rfl, steady, fun _ slot member => ?_⟩
      obtain ⟨index, here⟩ := List.mem_iff_getElem?.mp member
      have inside := (List.getElem?_eq_some_iff.mp here).1
      have done : plan.outputs.length ≤ position := List.drop_eq_nil_iff.mp left.symm
      rw [sound.length, describes.length] at inside
      cases written : slot.written with
      | false => rfl
      | true =>
          have later := (pending index slot here written).1
          omega
  | cons output rest ih =>
      obtain ⟨resource, kind⟩ := output
      have declared : plan.outputs[position]? = some (resource, kind) := by
        rw [← List.head?_drop, ← left]
        rfl
      have remaining : rest = plan.outputs.drop (position + 1) := by
        rw [← List.tail_drop, ← left]
        rfl
      rw [commit_cons, ends_bind]
      refine (commitSlot_ends fits describes placed declared steady sound pending).mono ?_
      rintro outcome after ⟨sound', memory, settled, pending'⟩
      cases outcome with
      | error cause => exact ⟨sound', memory, settled, by rintro ⟨⟩⟩
      | ok _ =>
          rw [continues_ok, ← memory]
          exact ih remaining settled sound' (pending' rfl)

end Commits

/-- How a visit ends, by how its call ended. -/
inductive Visited (registry : Registry) (plan : Plan) (call : Call) : Except Fault Bool → Prop
  | goesOn (going : call.outcome = .ok true) : Visited registry plan call (.ok true)
  | stops (stopped : call.outcome = .ok false) : Visited registry plan call (.ok false)
  | raises {cause : Fault} (raised : call.outcome = .error cause) :
    Visited registry plan call (.error cause)
  | refused {cause : Fault} (going : call.outcome = .ok true)
    (refusal : Refusal registry plan call.exchanges cause) : Visited registry plan call (.error cause)

/-- A visit of a match makes one call there, and if it goes on, what decides about later matches stays as
it was. -/
theorem visit_ends {reads writes : List ResourceId} {plan : Plan} {base : Data (μ × List Call)}
    {descriptors : List Descriptor} {place : Match} {live : Live (Frame (μ × List Call))}
    (callback : Callback μ) (fits : plan.Fits base.registry reads writes)
    (describes : Describes base.registry plan descriptors) (placed : Placed plan base place)
    (steady : Steady plan base live.core.data) (sound : Outputs.Sound descriptors live.core.outputs)
    (unwritten : Outputs.Unwritten live.core.outputs) :
    Ends (visit plan callback.recorded place) live fun outcome after => ∃ call : Call,
      call.place = place ∧ after.core.data.memory.2 = live.core.data.memory.2 ++ [call] ∧
        Outputs.Sound descriptors after.core.outputs ∧ Visited base.registry plan call outcome ∧
        (outcome = .ok true →
          Steady plan base after.core.data ∧ Outputs.Unwritten after.core.outputs) := by
  obtain ⟨inputs, read, here⟩ := resolve_ok fits steady placed
  unfold visit
  rw [ends_bind, ends_core, continues_ok, read, ends_bind, ends_ofExcept, continues_ok, ends_bind]
  refine (call_ends callback inputs sound).mono ?_
  rintro outcome after ⟨memory, exchanges, same, sound', wrote⟩
  have remembered : after.core.data.memory.2 =
      live.core.data.memory.2 ++ [⟨inputs, exchanges, outcome⟩] := by
    rw [same]
    rfl
  cases outcome with
  | error cause =>
      exact ⟨⟨inputs, exchanges, .error cause⟩, here, remembered, sound', .raises rfl, fun ok => nomatch ok⟩
  | ok going =>
      rw [continues_ok]
      cases going with
      | false =>
          exact ⟨⟨inputs, exchanges, .ok false⟩, here, remembered, sound', .stops rfl, fun ok => nomatch ok⟩
      | true =>
          have steady' : Steady plan base after.core.data := by
            rw [same]
            exact steady.aside live.core.data.commands _
          have pending : Pending 0 exchanges after.core.outputs := by
            intro position slot found written
            refine ⟨Nat.zero_le _, ?_⟩
            rcases wrote position slot found written with ⟨old, was, wasWritten⟩ | writer
            · rw [unwritten old (List.mem_of_getElem? was)] at wasWritten
              cases wasWritten
            · exact writer
          change Ends (commit place 0 plan.outputs >>= fun _ => pure true) _ _
          rw [ends_bind]
          refine (commit_ends fits describes placed rfl steady' sound' pending).mono ?_
          rintro ended final ⟨sound'', kept, settled, committed⟩
          rw [← kept] at remembered
          cases ended with
          | error cause =>
              exact ⟨⟨inputs, exchanges, .ok true⟩, here, remembered, sound'', .refused rfl settled,
                fun ok => nomatch ok⟩
          | ok _ =>
              exact ⟨⟨inputs, exchanges, .ok true⟩, here, remembered, sound'', .goesOn rfl,
                fun _ => ⟨settled, committed rfl⟩⟩

end Join

end EntityScene
