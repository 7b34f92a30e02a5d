import EntityScene.Proofs.Pool
import EntityScene.Proofs.Storage
import EntityScene.Scene.Data

/-!
The data of a scene are sound: one storage serves each resource, and both pools are sound. Every
operation on the data keeps this, also when it stops halfway.
-/

namespace EntityScene.Data

open Act

variable {μ α : Type}

/-- One storage serves each resource of the registry, and the pools are sound. -/
structure Sound (data : Data μ) : Prop where
  length : data.storages.length = data.registry.size
  serves {resource : ResourceId} {descriptor : Descriptor} {storage : Storage} :
    data.registry.get? resource = some descriptor → data.storages[resource]? = some storage →
      storage.Serves descriptor
  entities : data.entities.Sound
  viewports : data.viewports.Sound

theorem create_sound {registry : Registry} {entityCapacity viewportCapacity : Nat} {memory : μ}
    {data : Data μ} (made : create registry entityCapacity viewportCapacity memory = .ok data) :
    data = ⟨registry, registry.descriptors.map Storage.ofDescriptor, .empty, .empty, .empty, memory⟩ ∧
      data.Sound := by
  unfold create at made
  cases entities : Pool.withCapacity entityCapacity with
  | error cause => simp [entities, bind, Except.bind] at made
  | ok pool =>
      cases viewports : Pool.withCapacity viewportCapacity with
      | error cause => simp [entities, viewports, bind, Except.bind] at made
      | ok pool' =>
          simp only [entities, viewports, bind, Except.bind, pure, Except.pure, Except.ok.injEq] at made
          rw [Pool.withCapacity_eq entities, Pool.withCapacity_eq viewports] at made
          subst made
          refine ⟨rfl, by simp [Registry.size], ?_, Pool.empty_sound, Pool.empty_sound⟩
          intro resource descriptor storage registered found
          simp only [Registry.get?] at registered
          simp only [List.getElem?_map, registered, Option.map_some, Option.some.injEq] at found
          rw [← found]
          exact Storage.ofDescriptor_serves descriptor

section Lookup

variable {data : Data μ} {resource : ResourceId} {descriptor : Descriptor}

theorem Sound.found (sound : data.Sound) (registered : data.registry.get? resource = some descriptor) :
    ∃ cells, data.storages[resource]? = some ⟨descriptor, cells⟩ ∧
      cells.shape = descriptor.kind.shape ∧ cells.Sound descriptor.element.type := by
  have inside : resource < data.storages.length := by
    rw [sound.length]
    exact (List.getElem?_eq_some_iff.mp registered).1
  have found := List.getElem?_eq_getElem inside
  have serves := sound.serves registered found
  refine ⟨data.storages[resource].cells, ?_, serves.shape, serves.values⟩
  rw [found, ← serves.described]

/-- A scene component is stored as a scalar. -/
theorem Sound.scalar (sound : data.Sound) (registered : data.registry.get? resource = some descriptor)
    (kind : descriptor.kind = .sceneComponent) :
    ∃ value, data.storages[resource]? = some ⟨descriptor, .scalar value⟩ ∧
      Scalar.Sound descriptor.element.type value := by
  obtain ⟨cells, found, shape, values⟩ := sound.found registered
  rw [kind] at shape
  cases cells with
  | scalar value => exact ⟨value, found, values⟩
  | indexed | events | requests => cases shape

/-- A component of entities or viewports is stored as a table. -/
theorem Sound.indexed (sound : data.Sound) (registered : data.registry.get? resource = some descriptor)
    (kind : descriptor.kind.isIndexed = true) :
    ∃ table, data.storages[resource]? = some ⟨descriptor, .indexed table⟩ ∧
      Indexed.Sound descriptor.element.type table := by
  obtain ⟨cells, found, shape, values⟩ := sound.found registered
  have indexed : descriptor.kind.shape = .indexed := by
    cases same : descriptor.kind <;> rw [same] at kind <;> first | rfl | cases kind
  rw [indexed] at shape
  cases cells with
  | indexed table => exact ⟨table, found, values⟩
  | scalar | events | requests => cases shape

/-- An event resource is stored as a list. -/
theorem Sound.events (sound : data.Sound) (registered : data.registry.get? resource = some descriptor)
    (kind : descriptor.kind = .event) :
    ∃ list, data.storages[resource]? = some ⟨descriptor, .events list⟩ ∧
      Events.Sound descriptor.element.type list := by
  obtain ⟨cells, found, shape, values⟩ := sound.found registered
  rw [kind] at shape
  cases cells with
  | events list => exact ⟨list, found, values⟩
  | scalar | indexed | requests => cases shape

/-- Putting back a storage that serves its resource keeps the data sound. -/
theorem Sound.set {storage : Storage} (sound : data.Sound)
    (serves : ∀ descriptor, data.registry.get? resource = some descriptor → storage.Serves descriptor) :
    Sound { data with storages := data.storages.set resource storage } where
  length := by
    rw [List.length_set]
    exact sound.length
  serves {place other found} registered here := by
    rw [List.getElem?_set] at here
    split at here
    · rename_i same
      subst same
      split at here
      · rw [← Option.some.inj here]
        exact serves other registered
      · cases here
    · exact sound.serves registered here
  entities := sound.entities
  viewports := sound.viewports

end Lookup

section Storages

variable {resource : ResourceId} {live : Live (Data μ)} {act : Act Storage α}

theorem ends_onStorageAt {storage : Storage} {post : Except Fault α → Live (Data μ) → Prop}
    (found : live.core.storages[resource]? = some storage) :
    Ends (onStorageAt resource act) live post ↔
      Ends act ⟨live.journal, storage⟩ fun outcome after =>
        post outcome
          ⟨after.journal,
            { live.core with storages := live.core.storages.set resource after.core }⟩ := by
  unfold onStorageAt withStorage storageAt
  rw [ends_bind, ends_core, continues_ok, found, ends_bind, ends_ofExcept, continues_ok, ends_focus]

theorem ends_onStorageAt_missing {post : Except Fault α → Live (Data μ) → Prop}
    (missing : live.core.storages[resource]? = none) :
    Ends (onStorageAt resource act) live post ↔
      post (.error (.outOfBounds resource live.core.storages.length)) live := by
  unfold onStorageAt storageAt
  rw [ends_bind, ends_core, continues_ok, missing, ends_bind, ends_ofExcept]
  rfl

/-- The two ways to a storage differ only in the fault where there is none. -/
theorem ends_onStorage {storage : Storage} {post : Except Fault α → Live (Data μ) → Prop}
    (found : live.core.storages[resource]? = some storage) :
    Ends (onStorage resource act) live post ↔ Ends (onStorageAt resource act) live post := by
  rw [ends_onStorageAt found]
  unfold onStorage withStorage Data.storage
  rw [ends_bind, ends_core, continues_ok, found, ends_bind, ends_ofExcept, continues_ok, ends_focus]

theorem ends_onStorage_missing {post : Except Fault α → Live (Data μ) → Prop}
    (missing : live.core.storages[resource]? = none) :
    Ends (onStorage resource act) live post ↔ post (.error (.unregistered resource)) live := by
  unfold onStorage Data.storage
  rw [ends_bind, ends_core, continues_ok, missing, ends_bind, ends_ofExcept]
  rfl

theorem onStorage_ends {post : Except Fault α → Live (Data μ) → Prop}
    (refused : live.core.storages[resource]? = none → ∀ cause, post (.error cause) live)
    (acts : Ends (onStorageAt resource act) live post) : Ends (onStorage resource act) live post := by
  cases found : live.core.storages[resource]? with
  | some storage => exact (ends_onStorage found).mpr acts
  | none => exact (ends_onStorage_missing found).mpr (refused found _)

/-- An act on one storage leaves everything but the storages alone. -/
theorem onStorageAt_frame (resource : ResourceId) (act : Act Storage α) (live : Live (Data μ)) :
    Ends (onStorageAt resource act) live fun _ after =>
      after.core = { live.core with storages := after.core.storages } := by
  cases found : live.core.storages[resource]? with
  | some storage =>
      rw [ends_onStorageAt found]
      exact ends_leaves.mpr rfl
  | none => exact (ends_onStorageAt_missing found).mpr rfl

theorem onStorageAt_others (resource : ResourceId) (act : Act Storage α) (live : Live (Data μ)) :
    Ends (onStorageAt resource act) live fun _ after =>
      ∀ other, other ≠ resource → after.core.storages[other]? = live.core.storages[other]? := by
  cases found : live.core.storages[resource]? with
  | some storage =>
      rw [ends_onStorageAt found]
      exact ends_leaves.mpr fun other apart => List.getElem?_set_ne apart.symm
  | none => exact (ends_onStorageAt_missing found).mpr fun _ _ => rfl

/-- Sound data over the registry. -/
structure SoundOver (registry : Registry) (data : Data μ) : Prop where
  sound : data.Sound
  registry : data.registry = registry

/-- A storage of the table serves the resource at its place. -/
theorem SoundOver.exists_serves {registry : Registry} {data : Data μ} (based : SoundOver registry data)
    {storage : Storage} (found : data.storages[resource]? = some storage) :
    ∃ descriptor, registry.get? resource = some descriptor ∧ storage.Serves descriptor := by
  have inside := (List.getElem?_eq_some_iff.mp found).1
  rw [based.sound.length, based.registry] at inside
  have registered : registry.get? resource = some registry.descriptors[resource] :=
    List.getElem?_eq_getElem inside
  refine ⟨_, registered, based.sound.serves ?_ found⟩
  rw [based.registry]
  exact registered

theorem keeps_onStorageAt {registry : Registry}
    (keeps : ∀ descriptor, Keeps (Storage.Serves descriptor) act) :
    Keeps (SoundOver registry : Data μ → Prop) (onStorageAt resource act) := by
  rintro live ⟨sound, based⟩
  cases found : live.core.storages[resource]? with
  | some storage =>
      rw [ends_onStorageAt found]
      cases registered : live.core.registry.get? resource with
      | some descriptor =>
          refine (keeps descriptor ⟨live.journal, storage⟩ (sound.serves registered found)).mono ?_
          intro _ after serves
          refine ⟨sound.set fun other registered' => ?_, based⟩
          rw [registered] at registered'
          rw [← Option.some.inj registered']
          exact serves
      | none =>
          refine ends_leaves.mpr ⟨sound.set fun other registered' => ?_, based⟩
          rw [registered] at registered'
          cases registered'
  | none => exact (ends_onStorageAt_missing found).mpr ⟨sound, based⟩

theorem keeps_onStorage {registry : Registry}
    (keeps : ∀ descriptor, Keeps (Storage.Serves descriptor) act) :
    Keeps (SoundOver registry : Data μ → Prop) (onStorage resource act) := by
  intro live kept
  exact onStorage_ends (fun _ _ => kept) (keeps_onStorageAt keeps live kept)

end Storages

section Views

/-- The cells of a resource. A resource that is not registered has none. -/
def cells (data : Data μ) (resource : ResourceId) : Cells :=
  match data.storages[resource]? with
  | some storage => storage.cells
  | none => .requests

/-- The value of a scene component. -/
def scalar? (data : Data μ) (resource : ResourceId) : Option Value := (data.cells resource).scalar?

/-- The value of a component for an identity. -/
def component? (data : Data μ) (resource : ResourceId) (identity : Identity) : Option Value :=
  (data.cells resource).component? identity

/-- The events of a resource. -/
def events? (data : Data μ) (resource : ResourceId) : List Value := (data.cells resource).events?

/-- The data with other cells for a resource. -/
def withCells (data : Data μ) (resource : ResourceId) (descriptor : Descriptor) (cells : Cells) : Data μ :=
  { data with storages := data.storages.set resource ⟨descriptor, cells⟩ }

variable {data : Data μ} {resource : ResourceId} {descriptor : Descriptor} {before after : Cells}

theorem cells_of_found (found : data.storages[resource]? = some ⟨descriptor, before⟩) :
    data.cells resource = before := by
  unfold cells
  rw [found]

theorem cells_set {storage changed : Storage} (found : data.storages[resource]? = some storage)
    (other : ResourceId) :
    cells { data with storages := data.storages.set resource changed } other =
      if other = resource then changed.cells else data.cells other := by
  have inside := (List.getElem?_eq_some_iff.mp found).1
  unfold cells
  dsimp only
  rw [List.getElem?_set]
  by_cases same : other = resource
  · simp [same, inside]
  · simp [same, Ne.symm same]

theorem cells_withCells (found : data.storages[resource]? = some ⟨descriptor, before⟩)
    (other : ResourceId) :
    (data.withCells resource descriptor after).cells other =
      if other = resource then after else data.cells other := cells_set found other

theorem scalar?_withCells (found : data.storages[resource]? = some ⟨descriptor, before⟩)
    (other : ResourceId) :
    (data.withCells resource descriptor after).scalar? other =
      if other = resource then after.scalar? else data.scalar? other := by
  unfold scalar?
  rw [cells_withCells found]
  split <;> rfl

theorem component?_withCells (found : data.storages[resource]? = some ⟨descriptor, before⟩)
    (other : ResourceId) (identity : Identity) :
    (data.withCells resource descriptor after).component? other identity =
      if other = resource then after.component? identity else data.component? other identity := by
  unfold component?
  rw [cells_withCells found]
  split <;> rfl

theorem events?_withCells (found : data.storages[resource]? = some ⟨descriptor, before⟩)
    (other : ResourceId) :
    (data.withCells resource descriptor after).events? other =
      if other = resource then after.events? else data.events? other := by
  unfold events?
  rw [cells_withCells found]
  split <;> rfl

/-- Sound cells of the same shape keep the data sound. -/
theorem Sound.withCells (sound : data.Sound)
    (found : data.storages[resource]? = some ⟨descriptor, before⟩) (shape : after.shape = before.shape)
    (values : after.Sound descriptor.element.type) :
    (data.withCells resource descriptor after).Sound := by
  refine sound.set fun other registered => ?_
  have serves := sound.serves registered found
  exact ⟨serves.described, shape.trans serves.shape, serves.described ▸ values⟩

/-- New data have empty cells. -/
theorem create_cells {registry : Registry} {entityCapacity viewportCapacity : Nat} {memory : μ}
    (made : create registry entityCapacity viewportCapacity memory = .ok data) (resource : ResourceId) :
    ∃ shape : Shape, data.cells resource = shape.emptyCells := by
  rw [(create_sound made).1]
  unfold cells
  rw [List.getElem?_map]
  cases registry.descriptors[resource]? with
  | none => exact ⟨.requests, rfl⟩
  | some descriptor => exact ⟨descriptor.kind.shape, rfl⟩

end Views

section Writes

variable {live : Live (Data μ)} {resource : ResourceId} {descriptor : Descriptor}

/-- Writing a scene component. -/
theorem emplaceScalar_ends {before : Scalar}
    (found : live.core.storages[resource]? = some ⟨descriptor, .scalar before⟩)
    (sound : Scalar.Sound descriptor.element.type before) (value : Value) :
    Ends (onStorageAt resource (Storage.onScalar fun descriptor => Scalar.emplace descriptor value)) live
      fun outcome after => ∃ changed,
        Written descriptor before.toList value before none (some value) outcome changed ∧
          after.core = live.core.withCells resource descriptor (.scalar changed) := by
  rw [ends_onStorageAt found, Storage.ends_onScalar]
  have written : Ends (Scalar.emplace descriptor value) ⟨live.journal, before⟩ _ :=
    Scalar.emplace_ends sound value
  exact written.mono fun _ after written => ⟨after.core, written, rfl⟩

/-- Writing a component for an identity. -/
theorem emplaceIndexed_ends {table : Indexed}
    (found : live.core.storages[resource]? = some ⟨descriptor, .indexed table⟩)
    (sound : Indexed.Sound descriptor.element.type table) (identity : Identity) (value : Value) :
    Ends (onStorageAt resource (Storage.onIndexed fun descriptor =>
        Indexed.emplace descriptor identity value)) live
      fun outcome after => ∃ changed,
        Written descriptor (table.occupant? identity.index.toNat).toList value table
            (table.vacate identity.index.toNat) (table.store identity value) outcome changed ∧
          after.core = live.core.withCells resource descriptor (.indexed changed) := by
  rw [ends_onStorageAt found, Storage.ends_onIndexed]
  have written : Ends (Indexed.emplace descriptor identity value) ⟨live.journal, table⟩ _ :=
    Indexed.emplace_ends sound identity value
  exact written.mono fun _ after written => ⟨after.core, written, rfl⟩

end Writes

section Requests

/-- Removing entities keeps the invariant. -/
structure Despawns (invariant : Data μ → Prop) : Prop where
  commands {data : Data μ} (commands : CommandQueue) : invariant data → invariant { data with commands }
  remove {data : Data μ} (entity : Identity) :
    invariant data → invariant { data with entities := (data.entities.remove entity).2 }

/-- Creating entities over the registry and giving them components keeps the invariant. -/
structure Spawns (registry : Registry) (invariant : Data μ → Prop) : Prop where
  based {data : Data μ} : invariant data → data.registry = registry
  emplace {data : Data μ} {entity : Identity} {entities : Pool} : invariant data →
    data.entities.emplace = .ok (entity, entities) →
      invariant { data with entities } ∧ entity ∈ entities.live
  component {resource : ResourceId} {descriptor : Descriptor} (entity : Identity) (value : Value) :
    registry.descriptor resource = .ok descriptor → descriptor.kind = .entityComponent →
    Keeps (fun data => invariant data ∧ entity ∈ data.entities.live)
      (onStorageAt resource (Storage.onIndexed fun descriptor => Indexed.emplace descriptor entity value))

theorem Despawns.despawnAll {invariant : Data μ → Prop} (despawns : Despawns invariant)
    (targets : List Identity) : Keeps invariant (despawnAll targets) := by
  induction targets with
  | nil => exact .pure 0
  | cons entity rest ih =>
      intro live holds
      unfold Data.despawnAll
      rw [ends_bind, ends_core, continues_ok]
      dsimp only
      rw [ends_bind, ends_update, continues_ok]
      have others : Keeps invariant (do
          let others ← Data.despawnAll rest
          pure (others + if (live.core.entities.remove entity).1 then 1 else 0)) :=
        .bind ih fun _ => .pure _
      exact others _ (despawns.remove entity holds)

namespace Spawns

variable {registry : Registry} {invariant : Data μ → Prop} (spawns : Spawns registry invariant)

include spawns

theorem newEntity {live : Live (Data μ)} (holds : invariant live.core) :
    Ends newEntity live fun outcome after => invariant after.core ∧
      ∀ entity, outcome = .ok entity → entity ∈ after.core.entities.live := by
  unfold Data.newEntity
  rw [ends_bind, ends_core, continues_ok, ends_bind, ends_ofExcept]
  cases made : live.core.entities.emplace with
  | error cause => exact ⟨holds, fun _ never => nomatch never⟩
  | ok answer =>
      dsimp only [continues_ok]
      rw [ends_bind, ends_update, continues_ok]
      obtain ⟨kept, member⟩ := spawns.emplace holds made
      refine ⟨kept, ?_⟩
      rintro _ ⟨⟩
      exact member

theorem furnish (entity : Identity) (blueprint : Blueprint) :
    Keeps (fun data => invariant data ∧ entity ∈ data.entities.live) (furnish entity blueprint) := by
  induction blueprint with
  | nil => exact .pure ()
  | cons component rest ih =>
      unfold Data.furnish
      refine .bind_core fun data holds => .bind_ofExcept fun descriptor found => ?_
      rw [spawns.based holds.1] at found
      split
      · rename_i kind
        exact .bind (spawns.component entity component.2 found kind) fun _ => ih
      · exact .fault _

theorem spawnAll (blueprints : List Blueprint) : Keeps invariant (spawnAll blueprints) := by
  induction blueprints with
  | nil => exact .pure ()
  | cons blueprint rest ih =>
      intro live holds
      unfold Data.spawnAll
      rw [ends_bind]
      refine (spawns.newEntity holds).mono ?_
      rintro outcome after ⟨kept, live⟩
      cases outcome with
      | error cause => exact kept
      | ok entity =>
          rw [continues_ok, ends_bind]
          refine (spawns.furnish entity blueprint after ⟨kept, live entity rfl⟩).mono ?_
          rintro outcome final ⟨kept', _⟩
          cases outcome with
          | error cause => exact kept'
          | ok _ => exact ih final kept'

end Spawns

/-- The despawns of the waiting requests come before the spawns. -/
theorem applyCommands_ends {registry : Registry} {begun invariant : Data μ → Prop} {live : Live (Data μ)}
    (despawns : Despawns begun) (spawns : Spawns registry invariant)
    (between : ∀ data, begun data → invariant data) (holds : begun live.core) :
    Ends applyCommands live fun _ after => invariant after.core := by
  unfold Data.applyCommands
  rw [ends_bind, ends_core, continues_ok]
  dsimp only
  rw [ends_bind, ends_update, continues_ok, ends_bind]
  have cleared : begun (Live.core ⟨live.journal, { live.core with commands := .empty }⟩) :=
    despawns.commands .empty holds
  refine (despawns.despawnAll _ _ cleared).mono ?_
  intro outcome after kept
  cases outcome with
  | error cause => exact between _ kept
  | ok count =>
      rw [continues_ok]
      refine Keeps.bind (spawns.spawnAll _) (fun _ => ?_) after (between _ kept)
      split
      · exact .bind_core fun _ _ => .log _ _
      · exact .pure _

theorem soundOver_despawns (registry : Registry) : Despawns (SoundOver registry : Data μ → Prop) where
  commands _ kept := ⟨{ kept.sound with }, kept.registry⟩
  remove entity kept :=
    ⟨{ kept.sound with entities := Pool.remove_sound kept.sound.entities entity }, kept.registry⟩

theorem soundOver_spawns (registry : Registry) :
    Spawns registry (SoundOver registry : Data μ → Prop) where
  based kept := kept.registry
  emplace kept made := by
    obtain ⟨sound, live, _⟩ := Pool.emplace_spec kept.sound.entities made
    refine ⟨⟨{ kept.sound with entities := sound }, kept.registry⟩, ?_⟩
    rw [live]
    exact Array.mem_push_self
  component {resource _} entity value _ _ := by
    rintro live ⟨kept, member⟩
    refine ((keeps_onStorageAt fun _ => Storage.keeps_emplaceIndexed entity value) live kept).and
      (onStorageAt_frame resource _ live) |>.mono ?_
    rintro _ after ⟨kept', same⟩
    rw [same]
    rw [same] at kept'
    exact ⟨kept', member⟩

theorem applyCommands_soundOver (registry : Registry) :
    Keeps (SoundOver registry : Data μ → Prop) applyCommands := fun _ based =>
  applyCommands_ends (soundOver_despawns registry) (soundOver_spawns registry) (fun _ kept => kept) based

end Requests

theorem onStorages_keeps {invariant : Data μ → Prop} {act : Act Storage Unit}
    (each : ∀ resource, Keeps invariant (onStorageAt resource act)) (resources : List ResourceId) :
    Keeps invariant (onStorages act resources) := by
  induction resources with
  | nil => exact .pure ()
  | cons resource rest ih =>
      unfold onStorages
      exact .bind (each resource) fun _ => ih

/-- Acting on each storage in turn, where no act ends in a fault: what is told of the storages done so
far is told of all in the end. -/
theorem onStorages_tells {act : Act Storage Unit} (told : List ResourceId → Live (Data μ) → Prop)
    (done : List ResourceId) {resources : List ResourceId} {live : Live (Data μ)} (begun : told done live)
    (each : ∀ resource ∈ resources, ∀ {done : List ResourceId} {live : Live (Data μ)}, told done live →
      Ends (onStorageAt resource act) live fun outcome after =>
        outcome = .ok () ∧ told (done ++ [resource]) after) :
    Ends (onStorages act resources) live fun outcome after =>
      outcome = .ok () ∧ told (done ++ resources) after := by
  induction resources generalizing done live with
  | nil =>
      rw [List.append_nil]
      exact ⟨rfl, begun⟩
  | cons resource rest ih =>
      unfold onStorages
      rw [ends_bind, List.append_cons]
      refine (each resource List.mem_cons_self begun).mono ?_
      rintro _ after ⟨rfl, goes⟩
      exact ih _ goes fun other member => each other (List.mem_cons_of_mem _ member)

theorem endTick_keeps {invariant : Data μ → Prop}
    (each : ∀ resource, Keeps invariant (onStorageAt resource Storage.endTick)) :
    Keeps invariant endTick := by
  unfold endTick
  exact .bind_core fun _ _ => onStorages_keeps each _

end EntityScene.Data
