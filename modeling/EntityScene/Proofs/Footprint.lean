import EntityScene.Proofs.Traversal

/-!
The footprint of a join. However a run ends, it has changed nothing but the storages of its outputs,
and of a table it writes only the slots of identities that its callback was called for; requests to
spawn come after those that were waiting.
-/

namespace EntityScene

open Act

variable {μ ν : Type}

/-- The plan has an output that is written to the storage of the resource. -/
def Plan.Stores (plan : Plan) (resource : ResourceId) : Prop :=
  ∃ kind, (resource, kind) ∈ plan.outputs ∧ (kind = .sceneComponent ∨ kind.isIndexed = true)

theorem Dialogue.run_answers {α : Type} (dialogue : Dialogue α) (live : Live Outputs) :
    Ends dialogue.run live fun outcome _ => ∃ result, outcome = .ok result := by
  induction dialogue generalizing live with
  | done result => exact ⟨result, rfl⟩
  | ask request next ih =>
      rw [ends_ask]
      exact .of_forall fun answer after => ih answer after

namespace Join

/-- What a run of the plan on the base may have done to the data, if the callback was called for no
other identities than the touched ones. -/
structure Footprint (plan : Plan) (touched : Kind → Identity → Prop) (base : Data μ) (data : Data ν) :
    Prop where
  sound : data.Sound
  registry : data.registry = base.registry
  entities : data.entities = base.entities
  viewports : data.viewports = base.viewports
  commands : ∃ added, data.commands = ⟨base.commands.spawns ++ added, base.commands.despawns⟩ ∧
    (added = [] ∨ ∃ resource, (resource, .entitySpawnList) ∈ plan.outputs)
  storages {resource : ResourceId} : ¬plan.Stores resource →
    data.storages[resource]? = base.storages[resource]?
  components {resource : ResourceId} {kind : Kind} {identity : Identity} :
    base.registry.kind? resource = some kind → kind.isIndexed = true →
      identity ∈ (base.poolOf kind).live → ¬touched kind identity →
        data.component? resource identity = base.component? resource identity

namespace Footprint

variable {plan : Plan} {touched touched' : Kind → Identity → Prop} {base : Data μ} {data : Data ν}
  {reads writes : List ResourceId}

theorem refl {base : Data μ} (sound : base.Sound) : Footprint plan touched base base where
  sound := sound
  registry := rfl
  entities := rfl
  viewports := rfl
  commands := ⟨[], by rw [List.append_nil], Or.inl rfl⟩
  storages _ := rfl
  components _ _ _ _ := rfl

theorem mono (footprint : Footprint plan touched base data)
    (more : ∀ kind identity, touched kind identity → touched' kind identity) :
    Footprint plan touched' base data :=
  { footprint with
    components := fun registered indexed live untouched =>
      footprint.components registered indexed live fun old => untouched (more _ _ old) }

/-- What the callbacks remember is not part of it. -/
theorem withMemory {κ : Type} (footprint : Footprint plan touched base data) (memory : κ) :
    Footprint plan touched base (data.withMemory memory) where
  sound := { footprint.sound with }
  registry := footprint.registry
  entities := footprint.entities
  viewports := footprint.viewports
  commands := footprint.commands
  storages := footprint.storages
  components := footprint.components

theorem appendSpawns (footprint : Footprint plan touched base data) {resource : ResourceId}
    (declared : (resource, .entitySpawnList) ∈ plan.outputs) (requests : SpawnList) :
    Footprint plan touched base
      { data with commands := (data.commands.appendSpawns requests).2.1 } where
  sound := { footprint.sound with }
  registry := footprint.registry
  entities := footprint.entities
  viewports := footprint.viewports
  commands := by
    obtain ⟨added, same, _⟩ := footprint.commands
    refine ⟨added ++ requests, ?_, Or.inr ⟨resource, declared⟩⟩
    rw [same, ← List.append_assoc]
    rfl
  storages := footprint.storages
  components := footprint.components

/-- The cells of an output may change as long as the components of identities that are not touched
stay. -/
theorem withCells (footprint : Footprint plan touched base data) {resource : ResourceId}
    {descriptor : Descriptor} {before after : Cells}
    (found : data.storages[resource]? = some ⟨descriptor, before⟩)
    (sound : (data.withCells resource descriptor after).Sound) (stored : plan.Stores resource)
    (spared : ∀ kind identity, base.registry.kind? resource = some kind → kind.isIndexed = true →
      identity ∈ (base.poolOf kind).live → ¬touched kind identity →
        after.component? identity = before.component? identity) :
    Footprint plan touched base (data.withCells resource descriptor after) where
  sound := sound
  registry := footprint.registry
  entities := footprint.entities
  viewports := footprint.viewports
  commands := footprint.commands
  storages {other} outside := by
    have apart : resource ≠ other := by
      rintro rfl
      exact outside stored
    rw [← footprint.storages outside]
    exact List.getElem?_set_ne apart
  components {other kind identity} registered indexed live untouched := by
    have kept := footprint.components registered indexed live untouched
    rw [Data.component?_withCells found]
    split
    · rename_i same
      subst same
      rw [Data.component?, Data.cells_of_found found] at kept
      exact (spared kind identity registered indexed live untouched).trans kept
    · exact kept

theorem soundOver {registry : Registry} (footprint : Footprint plan touched base data)
    (based : base.SoundOver registry) : data.SoundOver registry :=
  ⟨footprint.sound, footprint.registry.trans based.registry⟩

theorem length_eq (footprint : Footprint plan touched base data) (sound : base.Sound) :
    data.storages.length = base.storages.length := by
  rw [footprint.sound.length, sound.length, footprint.registry]

theorem despawns_eq (footprint : Footprint plan touched base data) :
    data.commands.despawns = base.commands.despawns := by
  obtain ⟨_, commands, _⟩ := footprint.commands
  rw [commands]

/-- Without an output for them no spawns are added. -/
theorem spawns_eq {registry : Registry} (footprint : Footprint plan touched base data)
    (fits : plan.Fits registry reads writes) (nothing : registry.ofKind .entitySpawnList writes = []) :
    data.commands.spawns = base.commands.spawns := by
  obtain ⟨added, commands, rfl | ⟨resource, declared⟩⟩ := footprint.commands
  · rw [commands, List.append_nil]
  · rw [← fits.writes_eq, List.eq_nil_iff_forall_not_mem] at nothing
    exact absurd ((Registry.mem_ofKind fits.output_kind).mpr declared) (nothing resource)

theorem poolOf (footprint : Footprint plan touched base data) (kind : Kind) :
    data.poolOf kind = base.poolOf kind := by
  unfold Data.poolOf
  rw [footprint.entities, footprint.viewports]

/-- A write for a touched identity does not reach the slot of another live one. -/
theorem spared_of_written {kind : Kind} {first second : Identity} {descriptor : Descriptor}
    {held : List Value} {value : Value} {table changed : Indexed} {outcome : Except Fault Unit}
    (footprint : Footprint plan touched base data)
    (live : first ∈ (base.poolOf kind).live) (live' : second ∈ (base.poolOf kind).live)
    (different : second ≠ first)
    (written : Written descriptor held value table (table.vacate first.index.toNat) (table.store first value)
      outcome changed) : changed.component second = table.component second := by
  have pool := footprint.sound.pool kind
  rw [footprint.poolOf kind] at pool
  have apart : second.index ≠ first.index := fun clash => different (pool.live_inj live' live clash)
  cases written with
  | refused => rfl
  | stopped => rw [Indexed.component_vacate, if_neg fun clash => apart (UInt32.toNat_inj.mp clash)]
  | stored => rw [Indexed.component_store, if_neg different, if_neg apart]

/-- Commits for touched live identities stay in the footprint. -/
theorem commits (fits : plan.Fits base.registry reads writes) :
    Commits plan
      (fun kind identity => kind.isIndexed = true ∧ identity ∈ (base.poolOf kind).live ∧ touched kind identity)
      (Footprint plan touched base : Data ν → Prop) where
  spawns requests declared footprint := footprint.appendSpawns declared requests
  scalar {resource} value declared := by
    intro live footprint
    have registered := fits.output_kind _ declared
    obtain ⟨descriptor, described, sort⟩ := Registry.kind?_eq_some.mp registered
    rw [← footprint.registry] at described
    obtain ⟨before, found, typed⟩ := footprint.sound.scalar described sort
    have sound : Ends (Data.onStorageAt resource _) live _ :=
      Data.keeps_onStorageAt (fun _ => Storage.keeps_emplaceScalar value) live ⟨footprint.sound, rfl⟩
    refine ((Data.emplaceScalar_ends found typed value).and sound).mono ?_
    rintro _ after ⟨⟨changed, _, same⟩, sound⟩
    rw [same] at sound ⊢
    refine footprint.withCells found sound.sound ⟨_, declared, Or.inl rfl⟩ ?_
    intro kind identity other indexed
    rw [registered] at other
    cases other
    cases indexed
  indexed {resource kind first} value declared writer := by
    intro live footprint
    obtain ⟨indexed, attached, hit⟩ := writer
    have registered := fits.output_kind _ declared
    obtain ⟨descriptor, described, sort⟩ := Registry.kind?_eq_some.mp registered
    rw [← footprint.registry] at described
    obtain ⟨table, found, typed⟩ := footprint.sound.indexed described (by rw [sort]; exact indexed)
    have sound : Ends (Data.onStorageAt resource _) live _ :=
      Data.keeps_onStorageAt (fun _ => Storage.keeps_emplaceIndexed first value) live ⟨footprint.sound, rfl⟩
    refine ((Data.emplaceIndexed_ends found typed first value).and sound).mono ?_
    rintro _ after ⟨⟨changed, written, same⟩, sound⟩
    rw [same] at sound ⊢
    refine footprint.withCells found sound.sound ⟨_, declared, Or.inr indexed⟩ ?_
    intro sort' second other _ alive untouched
    rw [registered] at other
    cases other
    refine footprint.spared_of_written attached alive ?_ written
    rintro rfl
    exact untouched hit

end Footprint

/-- One of the calls was for the identity. -/
def Touched (calls : List Call) (kind : Kind) (identity : Identity) : Prop :=
  ∃ call ∈ calls, identity? call.place kind = some identity

section Runs

variable {reads writes : List ResourceId} {plan : Plan} {base : Data μ} {place : Match}

theorem resolve_place {data : Data μ} {inputs : Inputs} (resolved : resolve data plan place = .ok inputs) :
    inputs.place = place := by
  unfold resolve at resolved
  cases values : plan.inputs.mapM (resolveInput data place) with
  | error cause => simp [values, bind, Except.bind] at resolved
  | ok list =>
      simp only [values, bind, Except.bind, pure, Except.pure, Except.ok.injEq] at resolved
      rw [← resolved]

/-- A recorded call changes what is remembered and adds itself to the calls, whatever the slots hold. -/
theorem call_adds (callback : Callback μ) (inputs : Inputs) (live : Live (Frame (μ × List Call))) :
    Ends (call callback.recorded inputs) live fun outcome after => ∃ memory exchanges,
      after.core.data =
        live.core.data.withMemory (memory, live.core.data.memory.2 ++ [⟨inputs, exchanges, outcome⟩]) := by
  rw [ends_congr (call_recorded_eq callback inputs live), ends_bind, ends_onOutputs]
  refine (Dialogue.run_answers _ _).mono ?_
  rintro _ after ⟨⟨⟨outcome, memory⟩, exchanges⟩, rfl⟩
  rw [continues_ok, ends_bind, ends_update, continues_ok, ends_ofExcept]
  exact ⟨memory, exchanges, rfl⟩

/-- A visit touches the identities of its match. -/
theorem visit_footprint (fits : plan.Fits base.registry reads writes) (callback : Callback μ)
    (met : Known (fun kind identity => kind.isIndexed = true ∧ identity ∈ (base.poolOf kind).live) place) :
    Keeps (fun frame : Frame (μ × List Call) =>
        Footprint plan (Touched frame.data.memory.2) base frame.data)
      (visit plan callback.recorded place) := by
  intro live footprint
  unfold visit
  rw [ends_bind, ends_core, continues_ok, ends_bind, ends_ofExcept]
  cases resolved : resolve live.core.data plan place with
  | error cause => exact footprint
  | ok inputs =>
      rw [continues_ok, ends_bind]
      refine (call_adds callback inputs live).mono ?_
      rintro outcome after ⟨memory, exchanges, same⟩
      have wider : Footprint plan (Touched after.core.data.memory.2) base after.core.data := by
        rw [same]
        refine (footprint.withMemory _).mono ?_
        rintro kind identity ⟨call, member, here⟩
        exact ⟨call, List.mem_append_left _ member, here⟩
      -- The match is among the calls before its outputs are committed.
      have known : Known (fun kind identity => kind.isIndexed = true ∧
          identity ∈ (base.poolOf kind).live ∧ Touched after.core.data.memory.2 kind identity) place := by
        intro kind identity here
        refine ⟨(met kind identity here).1, (met kind identity here).2, ?_⟩
        rw [same]
        refine ⟨_, List.mem_append_right _ List.mem_cons_self, ?_⟩
        rw [Call.place, resolve_place resolved]
        exact here
      cases outcome with
      | error cause => exact wider
      | ok going =>
          cases going with
          | false => exact wider
          | true =>
              rw [continues_ok, if_pos rfl, ends_bind]
              have commits := (Footprint.commits fits).commit known 0 (fun _ member => member) after wider
              have remembers := commit_memory plan place (fun memory => memory = after.core.data.memory)
                after rfl
              refine (commits.and remembers).mono ?_
              rintro ending final ⟨kept, same⟩
              rw [← same] at kept
              cases ending with
              | error cause => exact kept
              | ok _ => exact kept

/-- A recorded run stays in the footprint of its calls. -/
theorem run_keeps_footprint (fits : plan.Fits base.registry reads writes) (callback : Callback μ) :
    Keeps (fun data : Data (μ × List Call) => Footprint plan (Touched data.memory.2) base data)
      (run plan callback.recorded) := by
  refine traverse_keeps ⟨fun footprint live => ⟨rfl, ?_⟩, fun footprint live => ⟨rfl, ?_⟩⟩ fun place met =>
    visit_footprint fits callback met
  · rw [← footprint.poolOf]
    exact live
  · rw [← footprint.poolOf]
    exact live

/-- However a run ends, it stays in the footprint of its calls. -/
theorem run_stays (fits : plan.Fits base.registry reads writes) (sound : base.Sound)
    (callback : Callback μ) (journal : Journal) :
    Footprint plan (Touched (calls plan callback ⟨journal, base⟩)) base
      ((run plan callback).leaves ⟨journal, base⟩).core := by
  have begun : Footprint plan (Touched base.recording.memory.2) base base.recording :=
    (Footprint.refl sound).withMemory _
  have kept := ends_leaves.mp (run_keeps_footprint fits callback ⟨journal, base.recording⟩ begun)
  have image := (run_recorded plan callback ⟨journal, base.recording⟩ _ rfl).leaves
  change (run plan callback).leaves ⟨journal, base⟩ = _ at image
  rw [image]
  exact kept.withMemory _

end Runs

/-- The footprint of a run of an accepted plan in a reachable scene, whether the run completes, is stopped
or faults. The registry, both pools and the waiting despawns stay. So do the storages of all events and of
all resources that are not outputs. The waiting spawns stay in front of those that are added, and none are
added without an output for them. In the storage of an output, a component of a live identity stays unless
the callback was called for that identity. -/
theorem run_footprint {registry : Registry} {scene : Live (Scene μ)} {reads writes : List ResourceId}
    {plan : Plan} (reachable : Scene.Reachable registry scene)
    (accepted : Plan.make registry reads writes = .ok plan) (callback : Callback μ) :
    let before := scene.core.data
    let after := ((run plan callback).leaves ⟨scene.journal, before⟩).core
    after.registry = before.registry ∧ after.entities = before.entities ∧
      after.viewports = before.viewports ∧ after.commands.despawns = before.commands.despawns ∧
      after.storages.length = before.storages.length ∧
      (∀ resource, resource ∉ writes ∨ registry.kind? resource = some .event →
        after.storages[resource]? = before.storages[resource]?) ∧
      before.commands.spawns <+: after.commands.spawns ∧
      (registry.ofKind .entitySpawnList writes = [] → after.commands.spawns = before.commands.spawns) ∧
      ∀ resource kind identity, registry.kind? resource = some kind → kind.isIndexed = true →
        identity ∈ (before.poolOf kind).live →
        (∀ call ∈ calls plan callback ⟨scene.journal, before⟩, identity? call.place kind ≠ some identity) →
        after.component? resource identity = before.component? resource identity := by
  intro before after
  obtain ⟨sound, based⟩ := reachable.soundOver
  have fits := Plan.make_fits accepted
  have fits' : plan.Fits before.registry reads writes := by
    rw [based]
    exact fits
  have footprint : Footprint plan _ before after := run_stays fits' sound callback scene.journal
  refine ⟨footprint.registry, footprint.entities, footprint.viewports, footprint.despawns_eq,
    footprint.length_eq sound, ?_, ?_, footprint.spawns_eq fits, ?_⟩
  · intro resource outside
    refine footprint.storages ?_
    rintro ⟨kind, declared, stored⟩
    rcases outside with undeclared | event
    · rw [← fits.writes_eq] at undeclared
      exact undeclared (List.mem_map_of_mem declared)
    · rw [fits.output_kind _ declared] at event
      cases event
      rcases stored with scalar | indexed
      · cases scalar
      · cases indexed
  · obtain ⟨added, commands, _⟩ := footprint.commands
    rw [commands]
    exact List.prefix_append _ _
  · intro resource kind identity registered indexed live uncalled
    rw [← based] at registered
    refine footprint.components registered indexed live ?_
    rintro ⟨call, made, here⟩
    exact uncalled call made here

/-- Only the viewport without a size was seen, and a spawn is waiting. -/
def sampleSeen : Live (Scene Unit) :=
  Scene.runAll
    (Sample.operations ++ [.emplaceViewportComponent 5 ⟨1, 0⟩ (.uint32 1), .queueSpawn [(8, .uint32 5)]])
    ⟨Sample.journal, Sample.start⟩

def seenPlan : Plan :=
  ⟨[(5, .viewportComponent), (6, .event)], [(4, .viewportComponent)], some 6, true, false⟩

/-- Resizes the viewport and breaks off at the second event. -/
def sampleBreak : Callback Unit := fun inputs => do
  (Request.set 0 (.uint32 7)).send
  if inputs.place.event = some 1 then throw (.raised "enough") else pure true

/-- The callback gets a size to the viewport that was seen before it breaks off; the other one keeps its
size. -/
theorem run_footprint_sample :
    Scene.Reachable Sample.registry sampleSeen ∧ Plan.make Sample.registry [5, 6] [4] = .ok seenPlan ∧
      (run seenPlan sampleBreak).fault? ⟨sampleSeen.journal, sampleSeen.core.data⟩ =
        some (.raised "enough") ∧
      (sampleSeen.core.data.component? 4 ⟨1, 0⟩).isSome = false ∧
      (((run seenPlan sampleBreak).leaves
        ⟨sampleSeen.journal, sampleSeen.core.data⟩).core.component? 4 ⟨1, 0⟩).isSome = true ∧
      (sampleSeen.core.data.component? 4 ⟨2, 0⟩).isSome = true ∧
      ((run seenPlan sampleBreak).leaves ⟨sampleSeen.journal, sampleSeen.core.data⟩).core.component? 4 ⟨2, 0⟩ =
        sampleSeen.core.data.component? 4 ⟨2, 0⟩ ∧
      ((run seenPlan sampleBreak).leaves ⟨sampleSeen.journal, sampleSeen.core.data⟩).core.storages[6]? =
        sampleSeen.core.data.storages[6]? ∧
      ((run seenPlan sampleBreak).leaves ⟨sampleSeen.journal, sampleSeen.core.data⟩).core.commands.spawns =
        sampleSeen.core.data.commands.spawns := by
  have reachable : Scene.Reachable Sample.registry sampleSeen :=
    ⟨[], .default, ⟨{}, ()⟩, Sample.start, _, _, Sample.start_created, rfl⟩
  have accepted : Plan.make Sample.registry [5, 6] [4] = .ok seenPlan := rfl
  obtain ⟨_, _, _, _, _, storages, _, spawns, components⟩ := run_footprint reachable accepted sampleBreak
  refine ⟨reachable, accepted, by decide +kernel, by decide +kernel, by decide +kernel, by decide +kernel, ?_,
    storages 6 (Or.inr rfl), spawns rfl⟩
  exact components 4 .viewportComponent ⟨2, 0⟩ rfl rfl (by decide +kernel) (by decide +kernel)

end Join

end EntityScene
