import EntityScene.Proofs.Ownership
import EntityScene.Proofs.Run

/-!
New identities inherit nothing. What removed identities leave in the component tables stays there, but
it belongs to identities that were issued before, and a new identity never was, as long as no slot has
been vacated so often that its versions start over.
-/

namespace EntityScene

open Act

variable {μ α : Type}

/-- The value that a blueprint gives for a resource: the last one, if it names the resource again. -/
def Blueprint.last? (blueprint : Blueprint) (resource : ResourceId) : Option Value :=
  blueprint.reverse.lookup resource

theorem Blueprint.last?_cons (resource : ResourceId) (value : Value) (rest : Blueprint) (other : ResourceId) :
    Blueprint.last? ((resource, value) :: rest) other =
      (Blueprint.last? rest other).or (if other = resource then some value else none) := by
  unfold last?
  rw [List.reverse_cons, List.lookup_append]
  congr 1
  rw [List.lookup_cons]
  by_cases same : other = resource
  · rw [if_pos same, beq_iff_eq.mpr same]
  · rw [if_neg same, beq_eq_false_iff_ne.mpr same]
    rfl

namespace Data

variable {registry : Registry} {live : Live (Data μ)}

theorem newEntity_eq_ok {entity : Identity} {after : Live (Data μ)} (created : newEntity live = .ok entity after) :
    ∃ entities, live.core.entities.emplace = .ok (entity, entities) ∧
      after.core = { live.core with entities } := by
  unfold newEntity at created
  obtain ⟨_, _, ⟨⟩, created⟩ := bind_eq_ok created
  obtain ⟨⟨_, entities⟩, _, emplaced, stored⟩ := bind_eq_ok created
  obtain ⟨emplaced, rfl⟩ := ofExcept_eq_ok emplaced
  cases stored
  exact ⟨entities, emplaced, rfl⟩

/-- Furnishing an entity gives it the last value named for each resource and leaves its other components
and the pools alone. -/
theorem furnish_ends (based : SoundOver registry live.core) (entity : Identity) (blueprint : Blueprint) :
    Ends (furnish entity blueprint) live fun outcome after =>
      SoundOver registry after.core ∧ after.core.entities = live.core.entities ∧
        (outcome = .ok () → ∀ resource, after.core.component? resource entity =
          (blueprint.last? resource).or (live.core.component? resource entity)) := by
  induction blueprint generalizing live with
  | nil => exact ⟨based, rfl, fun _ _ => rfl⟩
  | cons component rest ih =>
      obtain ⟨resource, value⟩ := component
      unfold furnish
      rw [ends_bind, ends_core, continues_ok, ends_bind, ends_ofExcept]
      cases described : live.core.registry.descriptor resource with
      | error cause => exact ⟨based, rfl, by rintro ⟨⟩⟩
      | ok descriptor =>
          rw [continues_ok]
          split
          · rename_i sort
            obtain ⟨own, registered, kind⟩ := Registry.kind?_eq_some.mp (Registry.kind?_of_descriptor described)
            obtain ⟨table, found, sound⟩ := based.sound.indexed registered (by rw [kind, sort]; rfl)
            rw [ends_bind]
            refine ((keeps_onStorageAt (fun _ => Storage.keeps_emplaceIndexed entity value) live based).and
              (emplaceIndexed_ends found sound entity value)).mono ?_
            rintro outcome after ⟨based', changed, wrote, same⟩
            have entities : after.core.entities = live.core.entities := by
              rw [same]
              rfl
            cases wrote with
            | refused | stopped => exact ⟨based', entities, by rintro ⟨⟩⟩
            | stored =>
                -- What the rest names for the same resource replaces the value that was stored here.
                rw [continues_ok]
                refine (ih based').mono ?_
                rintro outcome final ⟨based'', entities', components⟩
                refine ⟨based'', entities'.trans entities, fun completed other => ?_⟩
                have own : (Cells.indexed (table.store entity value)).component? entity = some value := by
                  change (table.store entity value).component entity = some value
                  rw [Indexed.component_store, if_pos rfl]
                rw [components completed, same, component?_withCells found, own, Blueprint.last?_cons,
                  Option.or_assoc]
                split
                · rfl
                · rfl
          · exact ⟨based, rfl, by rintro ⟨⟩⟩

/-- Applying the waiting requests of `start` has come to the point where the entity of a blueprint has its
components: the despawns and the spawns before it are done. -/
inductive Furnished (start : Live (Data μ)) (blueprint : Blueprint) (entity : Identity)
    (after : Live (Data μ)) : Prop
  | intro {earlier later : SpawnList} {count : Nat} {despawned spawned created : Live (Data μ)}
    (queued : start.core.commands.spawns = earlier ++ blueprint :: later)
    (despawns : despawnAll start.core.commands.despawns { start with core.commands := .empty } =
      .ok count despawned)
    (spawns : spawnAll earlier despawned = .ok () spawned) (creates : newEntity spawned = .ok entity created)
    (furnishes : furnish entity blueprint created = .ok () after) : Furnished start blueprint entity after

theorem spawnAll_append (earlier later : List Blueprint) :
    (spawnAll (earlier ++ later) : Act (Data μ) Unit) = (spawnAll earlier >>= fun _ => spawnAll later) := by
  induction earlier with
  | nil => rfl
  | cons blueprint rest ih => simp only [List.cons_append, spawnAll, ih, bind_assoc]

/-- If the waiting requests are applied to their end, the entity of every waiting blueprint is furnished on
the way. -/
theorem furnished_of_applyCommands {start final : Live (Data μ)}
    (applied : applyCommands start = .ok () final) {blueprint : Blueprint}
    (waiting : blueprint ∈ start.core.commands.spawns) :
    ∃ entity after, Furnished start blueprint entity after := by
  obtain ⟨earlier, later, queued⟩ := List.append_of_mem waiting
  unfold applyCommands at applied
  obtain ⟨_, _, ⟨⟩, applied⟩ := bind_eq_ok applied
  obtain ⟨_, _, ⟨⟩, applied⟩ := bind_eq_ok applied
  obtain ⟨count, despawned, despawns, applied⟩ := bind_eq_ok applied
  obtain ⟨_, _, spawns, _⟩ := bind_eq_ok applied
  rw [queued, spawnAll_append] at spawns
  obtain ⟨_, spawned, spawns, rest⟩ := bind_eq_ok spawns
  unfold spawnAll at rest
  obtain ⟨entity, created, creates, rest⟩ := bind_eq_ok rest
  obtain ⟨_, after, furnishes, _⟩ := bind_eq_ok rest
  exact ⟨entity, after, .intro queued despawns spawns creates furnishes⟩

end Data

namespace Scene

section Operations

variable {registry : Registry} {issued : Kind → Identity → Prop}

/-- The operation does not write the components of a storage directly. -/
def Operation.regular : Operation μ → Bool
  | .write _ (.emplaceIndexed _ _) | .write _ (.removeIndexed _) => false
  | _ => true

theorem write_ownedBy {known : Identity → Prop} {resource : ResourceId} {change : Storage.Write}
    (regular : (Operation.write resource change : Operation μ).regular = true) :
    Keeps (fun storage : Storage => storage.cells.OwnedBy known) change.perform := by
  cases change with
  | emplaceScalar value => exact Storage.onScalar_ownedBy fun descriptor => Scalar.emplace descriptor value
  | pushEvent value => exact Storage.onEvents_ownedBy fun descriptor => Events.push descriptor value
  | clearEvents => exact Storage.onEvents_ownedBy _
  | endTick => exact Storage.endTick_ownedBy
  | emplaceIndexed | removeIndexed => cases regular

theorem write_stepped {base : Data μ} (resource : ResourceId) (change : Storage.Write)
    (regular : (Operation.write resource change : Operation μ).regular = true) :
    Keeps (Data.Stepped registry issued base) (Data.onStorage resource change.perform) :=
  Data.Stepped.keeps (write_soundOver resource change) fun _ _ =>
    Data.held_onStorage fun _ _ => write_ownedBy regular

theorem run_stepped {base : Data μ} {planned : PlannedJob μ} (accepted : planned.Accepted registry) :
    Keeps (Data.Stepped registry issued base) (Join.run planned.plan planned.job.callback) :=
  Data.Stepped.keeps (run_soundOver _ _) fun ofViewports ofEntities =>
    Data.run_held accepted ofViewports ofEntities _

theorem iterate_stepped {base : Data μ} (inputs outputs : List ResourceId) (callback : Callback μ) :
    Keeps (Data.Stepped registry issued base) (Data.iterate inputs outputs callback) := by
  refine Data.Stepped.keeps (iterate_soundOver inputs outputs callback) fun ofViewports ofEntities => ?_
  unfold Data.iterate
  refine .bind_core fun data held => ?_
  rw [held.registry]
  split
  · exact .pure _
  · rename_i plan accepted
    exact .bind (Data.run_held accepted ofViewports ofEntities callback) fun _ => .pure _

theorem applyCommands_stepped {base : Data μ} {live : Live (Data μ)}
    (begun : Data.Despawning registry issued base live.core) :
    Ends Data.applyCommands live fun _ after => Data.Stepped registry issued base after.core :=
  Data.applyCommands_ends Data.despawning_despawns Data.stepped_spawns (fun _ => Data.Despawning.stepped) begun

theorem endTick_stepped {base : Data μ} : Keeps (Data.Stepped registry issued base) Data.endTick :=
  Data.Stepped.keeps (Data.endTick_keeps fun _ => Data.keeps_onStorageAt fun _ => Storage.keeps_endTick)
    fun _ _ => Data.endTick_keeps fun _ => Data.held_onStorageAt fun _ _ => Storage.endTick_ownedBy

/-- A component that is written directly belongs to a live identity. -/
theorem emplaceIndexed_stepped {live : Live (Scene μ)} (based : Data.SoundOver registry live.core.data)
    (owned : live.core.data.Owned issued) (kind : Kind) (resource : ResourceId) (identity : Identity)
    (value : Value) :
    Ends (emplaceIndexed kind resource identity value) live fun _ after =>
      Data.Stepped registry issued live.core.data after.core.data ∧
        after.core.updates = live.core.updates := by
  have stepped := Data.Stepped.refl based owned
  unfold emplaceIndexed
  rw [ends_bind, ends_core, continues_ok]
  split
  · rename_i contained
    have member := ((based.sound.pool kind).contains_iff identity).mp contained
    rw [ends_bind, ends_ofExcept]
    cases found : live.core.data.registry.descriptor resource with
    | error cause => exact ⟨stepped, rfl⟩
    | ok descriptor =>
        rw [continues_ok]
        split
        · rename_i sort
          have registered := Registry.kind?_of_descriptor found
          rw [based.registry, sort] at registered
          have writes : ∀ other, registry.kind? resource = some other →
              Keeps (fun storage : Storage => storage.cells.OwnedBy (Data.Known issued live.core.data other))
                (Storage.onIndexed fun descriptor => Indexed.emplace descriptor identity value) := by
            intro other same
            rw [registered] at same
            cases same
            exact Storage.emplaceIndexed_ownedBy value (Or.inr member)
          rw [ends_onData]
          refine ((write_soundOver resource (.emplaceIndexed identity value) ⟨_, _⟩ based).and
            (Data.held_onStorage writes ⟨_, _⟩ stepped.held)).mono ?_
          rintro _ after ⟨based', held⟩
          exact ⟨stepped.of_held based' held, rfl⟩
        · exact ⟨stepped, rfl⟩
  · exact ⟨stepped, rfl⟩

/-- Every regular operation is a step of the pools that writes components of known identities only. -/
theorem perform_stepped {live : Live (Scene μ)} (based : Data.SoundOver registry live.core.data)
    (owned : live.core.data.Owned issued)
    (accepted : ∀ planned ∈ live.core.updates.jobs, planned.Accepted registry) (operation : Operation μ)
    (regular : operation.regular = true) :
    Ends operation.perform live fun _ after =>
      Data.Stepped registry issued live.core.data after.core.data ∧
        after.core.updates = live.core.updates := by
  have stepped := Data.Stepped.refl based owned
  have begun : Data.Despawning registry issued live.core.data live.core.data := ⟨based, .refl _, rfl, owned⟩
  have onStorage (resource : ResourceId) (change : Storage.Write)
      (regular : (Operation.write resource change : Operation μ).regular = true) :
      Ends (onData (Data.onStorage resource change.perform)) live fun _ after =>
        Data.Stepped registry issued live.core.data after.core.data ∧
          after.core.updates = live.core.updates :=
    onData_keeps (write_stepped resource change regular) live ⟨stepped, rfl⟩
  have aside (commands : CommandQueue) (memory : μ) :
      Data.Stepped registry issued live.core.data { live.core.data with commands, memory } :=
    ⟨⟨{ based.sound with }, based.registry⟩, stepped.entities, stepped.viewports, stepped.owned⟩
  have moved {viewports : Pool} (sound : viewports.Sound)
      (evolves : Pool.Evolves live.core.data.viewports viewports) :
      Data.Stepped registry issued live.core.data { live.core.data with viewports } := by
    have same : Data.Owned issued { live.core.data with viewports } := owned
    exact ⟨⟨{ based.sound with viewports := sound }, based.registry⟩, .refl _, evolves,
      same.mono fun _ _ earlier => Or.inl earlier⟩
  cases operation with
  | tick delta =>
      exact tick_ends (fun _ begun => applyCommands_stepped begun)
        (fun resource value => write_stepped resource (.emplaceScalar value) rfl)
        (fun planned member => run_stepped (accepted planned member)) endTick_stepped delta begun rfl
  | iterate inputs outputs callback =>
      refine Keeps.bind (.bind (onData_keeps (iterate_stepped inputs outputs callback)) fun answer => ?_)
        (fun _ => .pure ()) live ⟨stepped, rfl⟩
      split
      · exact .pure _
      · exact .pure _
  | queueSpawn blueprint => exact ⟨aside _ live.core.data.memory, rfl⟩
  | queueDespawn entity => exact ⟨aside _ live.core.data.memory, rfl⟩
  | addViewport =>
      unfold Operation.perform addViewport
      rw [ends_bind, ends_bind, ends_core, continues_ok, ends_bind, ends_ofExcept]
      cases made : live.core.data.viewports.emplace with
      | error cause => exact ⟨stepped, rfl⟩
      | ok answer =>
          have grows := Pool.emplace_grows based.sound.viewports made
          exact ⟨moved (Pool.emplace_spec based.sound.viewports made).1 ⟨_, .refl _, grows⟩, rfl⟩
  | removeViewport viewport =>
      have shrinks := Pool.remove_shrinks based.sound.viewports viewport
      exact ⟨moved (Pool.remove_sound based.sound.viewports viewport) ⟨_, shrinks, .refl _⟩, rfl⟩
  | emplaceScalar resource value => exact onStorage resource (.emplaceScalar value) rfl
  | emplaceEntityComponent resource entity value =>
      exact emplaceIndexed_stepped based owned .entityComponent resource entity value
  | emplaceViewportComponent resource viewport value =>
      exact emplaceIndexed_stepped based owned .viewportComponent resource viewport value
  | sendEvent resource value => exact onStorage resource (.pushEvent value) rfl
  | clearEvents resource => exact onStorage resource .clearEvents rfl
  | write resource change => exact onStorage resource change regular
  | applyCommands =>
      rw [Operation.perform, ends_onData]
      exact (applyCommands_stepped begun).mono fun _ _ kept => ⟨kept, rfl⟩
  | remember memory => exact ⟨aside live.core.data.commands memory, rfl⟩

end Operations

/-- The data of a scene when it was built and after each operation since, with the newest first. -/
inductive History (registry : Registry) : List (Data μ) → Live (Scene μ) → Prop
  | built {jobs : List (Job μ)} {config : Config} {start after : Live μ} {scene : Scene μ}
    (created : create registry jobs config start = .ok (.ok scene) after) :
    History registry [scene.data] ⟨after.journal, scene⟩
  | step {history : List (Data μ)} {live : Live (Scene μ)} (earlier : History registry history live)
    (operation : Operation μ) (regular : operation.regular = true) :
    History registry ((operation.perform.leaves live).core.data :: history) (operation.perform.leaves live)

/-- The pool of a kind in each of the states. -/
def poolsOf (history : List (Data μ)) (kind : Kind) : List Pool := history.map fun data => data.poolOf kind

/-- No slot of a pool was vacated so often that its versions started over. -/
def Bounded (history : List (Data μ)) : Prop :=
  ∀ kind index, Pool.removals index (poolsOf history kind) < UInt32.size

theorem Bounded.of_length {history : List (Data μ)} (short : history.length < UInt32.size) : Bounded history := by
  intro kind index
  have most := Pool.removals_le_length index (poolsOf history kind)
  rw [poolsOf, List.length_map] at most
  exact Nat.lt_of_le_of_lt most short

/-- The history of a scene that goes on by operations. -/
def historyOf (history : List (Data μ)) (live : Live (Scene μ)) : List (Operation μ) → List (Data μ)
  | [] => history
  | operation :: rest =>
    let after := operation.perform.leaves live
    historyOf (after.core.data :: history) after rest

/-- Every run by regular operations has a history. -/
theorem History.runAll {registry : Registry} {operations : List (Operation μ)} {history : List (Data μ)}
    {live : Live (Scene μ)} (made : History registry history live)
    (regular : ∀ operation ∈ operations, operation.regular = true) :
    History registry (historyOf history live operations) (runAll operations live) := by
  induction operations generalizing history live with
  | nil => exact made
  | cons operation rest ih =>
      obtain ⟨first, others⟩ := List.forall_mem_cons.mp regular
      exact ih (made.step operation first) others

/-- What a history says about the present state. -/
structure Recorded (registry : Registry) (history : List (Data μ)) (live : Live (Scene μ)) : Prop where
  newest : ∃ earlier, history = live.core.data :: earlier
  based : Data.SoundOver registry live.core.data
  accepted : ∀ planned ∈ live.core.updates.jobs, planned.Accepted registry
  lineage (kind : Kind) : Pool.Lineage (poolsOf history kind)
  owned : live.core.data.Owned fun kind => Pool.Issued (poolsOf history kind)

section Histories

variable {registry : Registry} {history : List (Data μ)} {live : Live (Scene μ)}

/-- Setup jobs neither make identities nor find any to write components for. -/
theorem built_recorded {jobs : List (Job μ)} {config : Config} {start after : Live μ} {scene : Scene μ}
    (created : create registry jobs config start = .ok (.ok scene) after) :
    Recorded registry [scene.data] ⟨after.journal, scene⟩ := by
  have empty : ∀ identity ∈ Pool.empty.live, False := fun identity member => by
    simp [Pool.empty] at member
  have initial {entityCapacity viewportCapacity : Nat} {memory : μ} {data : Data μ}
      (made : Data.create registry entityCapacity viewportCapacity memory = .ok data) :
      Data.SoundOver registry data ∧ Data.Held registry .empty .empty (fun _ _ => False) data := by
    obtain ⟨same, sound⟩ := Data.create_sound made
    exact ⟨⟨sound, by rw [same]⟩, Data.create_held made⟩
  obtain ⟨⟨based, held⟩, accepted⟩ := create_built created (fun made => initial made)
    fun planned accepted live holds =>
      (run_soundOver planned.plan planned.job.callback live holds.1).and
        (Data.run_held accepted empty empty planned.job.callback live holds.2)
  refine ⟨⟨[], rfl⟩, based, accepted, fun kind => ?_, held.owned.mono fun _ _ never => never.elim⟩
  have pool : scene.data.poolOf kind = Pool.empty := by
    unfold Data.poolOf
    rw [held.entities, held.viewports, ite_self]
  unfold poolsOf
  rw [List.map_singleton, pool]
  exact .start

theorem Recorded.step (recorded : Recorded registry history live) {operation : Operation μ}
    (regular : operation.regular = true) :
    Recorded registry ((operation.perform.leaves live).core.data :: history)
      (operation.perform.leaves live) := by
  obtain ⟨⟨earlier, rfl⟩, based, accepted, lineage, owned⟩ := recorded
  obtain ⟨stepped, same⟩ := ends_leaves.mp (perform_stepped based owned accepted operation regular)
  refine ⟨⟨_, rfl⟩, stepped.based, by rw [same]; exact accepted, fun kind => ?_, ?_⟩
  · refine .step (lineage kind) (stepped.based.sound.pool kind) ?_
    unfold Data.poolOf
    split
    · exact stepped.viewports
    · exact stepped.entities
  · refine stepped.owned.mono fun kind identity known => ?_
    rcases known with ⟨pool, member, live⟩ | live
    · exact ⟨pool, List.mem_cons_of_mem _ member, live⟩
    · exact ⟨_, List.mem_cons_self, live⟩

theorem History.recorded (made : History registry history live) : Recorded registry history live := by
  induction made with
  | built created => exact built_recorded created
  | step _ operation regular ih => exact ih.step regular

/-- A viewport that was never issued holds nothing. -/
theorem Recorded.addViewport (recorded : Recorded registry history live) (bounded : Bounded history)
    {viewport : Identity} {after : Live (Scene μ)} (added : addViewport live = .ok viewport after)
    {resource : ResourceId} (registered : registry.kind? resource = some .viewportComponent) :
    after.core.data.component? resource viewport = none := by
  obtain ⟨⟨earlier, rfl⟩, based, _, lineage, owned⟩ := recorded
  unfold Scene.addViewport at added
  obtain ⟨_, _, ⟨⟩, added⟩ := bind_eq_ok added
  obtain ⟨_, _, emplaced, stored⟩ := bind_eq_ok added
  obtain ⟨emplaced, rfl⟩ := ofExcept_eq_ok emplaced
  cases stored
  have fresh := (lineage .viewportComponent).fresh (bounded .viewportComponent) emplaced
  rw [← based.registry] at registered
  exact owned.component?_eq_none registered fresh

/-- A new entity was not issued before, also not by the spawns before its own, and holds what its blueprint
names. -/
theorem Recorded.furnished (recorded : Recorded registry history live) {journal : Journal}
    {blueprint : Blueprint} {entity : Identity} {after : Live (Data μ)}
    (furnished : Data.Furnished ⟨journal, live.core.data⟩ blueprint entity after)
    (bounded : Bounded (after.core :: history)) {resource : ResourceId}
    (registered : registry.kind? resource = some .entityComponent) :
    after.core.component? resource entity = blueprint.last? resource := by
  obtain ⟨⟨earlier, rfl⟩, based, _, lineage, owned⟩ := recorded
  obtain @⟨_, _, _, _, spawned, created, _, despawns, spawns, creates, furnishes⟩ := furnished
  have begun := Data.despawning_despawns.commands .empty
    (⟨based, .refl _, rfl, owned⟩ : Data.Despawning registry _ live.core.data live.core.data)
  have despawning := (ends_of_ok despawns).mp (Data.despawning_despawns.despawnAll _ _ begun)
  have stepped := (ends_of_ok spawns).mp (Data.stepped_spawns.spawnAll _ _ despawning.stepped)
  obtain ⟨entities, made, same⟩ := Data.newEntity_eq_ok creates
  have stepped' := (Data.stepped_spawns.emplace stepped made).1
  rw [← same] at stepped'
  obtain ⟨based', entities', components⟩ :=
    (ends_of_ok furnishes).mp (Data.furnish_ends stepped'.based entity blueprint)
  have line := (lineage .entityComponent).step stepped.based.sound.entities stepped.entities
  -- The bound speaks of the state at the end, in which no slot has been vacated since.
  have fresh : ¬Pool.Issued (spawned.core.entities :: poolsOf (live.core.data :: earlier) .entityComponent)
      entity := by
    refine line.fresh (fun index => ?_) made
    have grown := (Pool.emplace_grows stepped.based.sound.entities made index).1
    refine lt_of_eq_of_lt (Pool.removals_congr stepped'.entities stepped.entities based.sound.entities
      stepped'.based.sound.entities stepped.based.sound.entities ?_) ?_
    · rw [same]
      exact grown.symm
    · rw [← entities']
      exact bounded .entityComponent index
  have unknown : ¬Data.Known (fun kind => Pool.Issued (poolsOf (live.core.data :: earlier) kind))
      spawned.core .entityComponent entity := by
    rintro (⟨pool, member, issued⟩ | present)
    · exact fresh ⟨pool, List.mem_cons_of_mem _ member, issued⟩
    · exact fresh ⟨_, List.mem_cons_self, present⟩
  rw [← stepped.based.registry] at registered
  have nothing : created.core.component? resource entity = none := by
    rw [same]
    exact stepped.owned.component?_eq_none registered unknown
  rw [components rfl, nothing, Option.or_none]

/-- What an identity holds was put there for it: every component is owned by an identity that its pool has
issued, so a new viewport holds nothing and a new entity holds exactly what its blueprint names. -/
theorem new_identities_inherit_nothing (made : History registry history live) (bounded : Bounded history) :
    (∀ (resource : ResourceId) (kind : Kind) (table : Indexed) (index : Nat) (owner : Identity) (value : Value),
      registry.kind? resource = some kind → live.core.data.cells resource = .indexed table →
      table.slots[index]? = some (some (owner, value)) → ∃ data ∈ history, owner ∈ (data.poolOf kind).live) ∧
    (∀ (viewport : Identity) (after : Live (Scene μ)), addViewport live = .ok viewport after →
      ∀ resource, registry.kind? resource = some .viewportComponent →
        after.core.data.component? resource viewport = none) ∧
    ∀ (journal : Journal) (blueprint : Blueprint) (entity : Identity) (after : Live (Data μ)),
      Data.Furnished ⟨journal, live.core.data⟩ blueprint entity after → Bounded (after.core :: history) →
      ∀ resource, registry.kind? resource = some .entityComponent →
        after.core.component? resource entity = blueprint.last? resource := by
  have recorded := made.recorded
  refine ⟨?_, fun viewport after added resource => recorded.addViewport bounded added,
    fun journal blueprint entity after furnished bounded' resource =>
      recorded.furnished furnished bounded'⟩
  intro resource kind table index owner value registered here held
  rw [← recorded.based.registry] at registered
  have owned := recorded.owned resource kind registered
  rw [here] at owned
  obtain ⟨pool, member, issued⟩ := owned index owner value held
  obtain ⟨data, present, rfl⟩ := List.mem_map.mp member
  exact ⟨data, present, issued⟩

def sampleBlueprint : Blueprint := [(9, .uint32 3), (9, .uint32 4)]

/-- A viewport with a size is removed, and an entity is made and asked to go. -/
def sampleOperations : List (Operation Unit) :=
  [.addViewport, .emplaceViewportComponent 4 ⟨0, 0⟩ (.uint32 1), .removeViewport ⟨0, 0⟩,
   .queueSpawn [(8, .uint32 1), (9, .uint32 2)], .applyCommands, .queueDespawn ⟨0, 0⟩]

def sampleHistory : List (Data Unit) :=
  historyOf [Sample.start.data] ⟨Sample.journal, Sample.start⟩ (sampleOperations ++ [.queueSpawn sampleBlueprint])

def sampleScene : Live (Scene Unit) :=
  runAll (sampleOperations ++ [.queueSpawn sampleBlueprint]) ⟨Sample.journal, Sample.start⟩

theorem sampleScene_spawns : sampleScene.core.data.commands.spawns = [] ++ sampleBlueprint :: [] := by
  have nothing : (runAll sampleOperations ⟨Sample.journal, Sample.start⟩).core.data.commands.spawns = [] :=
    List.eq_nil_of_length_eq_zero (by decide +kernel)
  have queued (live : Live (Scene Unit)) :
      ((Operation.queueSpawn sampleBlueprint).perform.leaves live).core.data.commands.spawns =
        live.core.data.commands.spawns ++ sampleBlueprint :: [] := rfl
  unfold runAll at nothing
  rw [sampleScene, runAll, List.foldl_append, List.foldl_cons, List.foldl_nil, queued, nothing]

/-- The slots of the removed identities are taken again by others with the next version. -/
theorem new_identities_inherit_nothing_sample :
    History Sample.registry sampleHistory sampleScene ∧ Bounded sampleHistory ∧
      (∃ viewport after, addViewport sampleScene = .ok viewport after ∧ viewport = ⟨0, 1⟩ ∧
        after.core.data.component? 4 viewport = none) ∧
      ∃ entity after, Data.Furnished ⟨sampleScene.journal, sampleScene.core.data⟩ sampleBlueprint entity after ∧
        entity = ⟨0, 1⟩ ∧ after.core.component? 8 entity = none ∧
        after.core.component? 9 entity = some (.uint32 4) := by
  have made : History Sample.registry sampleHistory sampleScene :=
    (History.built Sample.start_created).runAll (by decide)
  have bounded : Bounded sampleHistory := .of_length (by decide +kernel)
  have added : addViewport.answer? sampleScene = some ⟨0, 1⟩ := by decide +kernel
  let asked := (⟨sampleScene.journal, sampleScene.core.data⟩ : Live (Data Unit))
  let despawned := (Data.despawnAll asked.core.commands.despawns).leaves { asked with core.commands := .empty }
  let created := Data.newEntity.leaves despawned
  let after := (Data.furnish ⟨0, 1⟩ sampleBlueprint).leaves created
  have despawns : (Data.despawnAll asked.core.commands.despawns).answer? { asked with core.commands := .empty } =
      some 1 := by decide +kernel
  have creates : Data.newEntity.answer? despawned = some ⟨0, 1⟩ := by decide +kernel
  have furnishes : (Data.furnish ⟨0, 1⟩ sampleBlueprint).answer? created = some () := by decide +kernel
  have furnished : Data.Furnished asked sampleBlueprint ⟨0, 1⟩ after :=
    .intro sampleScene_spawns (eq_ok_of_answer? despawns) rfl (eq_ok_of_answer? creates)
      (eq_ok_of_answer? furnishes)
  obtain ⟨_, viewports, entities⟩ := new_identities_inherit_nothing made bounded
  have holds := entities _ _ _ after furnished (.of_length (by decide +kernel))
  exact ⟨made, bounded, ⟨_, _, eq_ok_of_answer? added, rfl, viewports _ _ (eq_ok_of_answer? added) 4 rfl⟩,
    _, after, furnished, rfl, holds 8 rfl, holds 9 rfl⟩

end Histories

end Scene

end EntityScene
