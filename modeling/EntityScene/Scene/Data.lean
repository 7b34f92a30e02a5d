import EntityScene.Commands
import EntityScene.Identity.Pool
import EntityScene.Resource.Registry
import EntityScene.Storage

/-!
The data of a scene: a storage for each resource, the entities and viewports, the waiting requests, and
what the callbacks remember between their calls.
-/

namespace EntityScene

structure Data (μ : Type) where
  registry : Registry
  storages : List Storage
  entities : Pool
  viewports : Pool
  commands : CommandQueue
  memory : μ

namespace Data

variable {μ α : Type}

/-- Empty storages for the resources of the registry, and empty pools. -/
def create (registry : Registry) (entityCapacity viewportCapacity : Nat) (memory : μ) :
    Except Fault (Data μ) := do
  let entities ← Pool.withCapacity entityCapacity
  let viewports ← Pool.withCapacity viewportCapacity
  pure
    { registry
      storages := registry.descriptors.map Storage.ofDescriptor
      entities, viewports
      commands := .empty
      memory }

/-- The storage at a place of the table. -/
def storageAt (data : Data μ) (resource : ResourceId) : Except Fault Storage :=
  match data.storages[resource]? with
  | some storage => .ok storage
  | none => .error (.outOfBounds resource data.storages.length)

/-- The storage of a resource. -/
def storage (data : Data μ) (resource : ResourceId) : Except Fault Storage :=
  match data.storages[resource]? with
  | some storage => .ok storage
  | none => .error (.unregistered resource)

/-- Acts on a storage that was found in the table and puts it back. -/
def withStorage (resource : ResourceId) (storage : Storage) (act : Act Storage α) :
    Act (Data μ) α :=
  Act.focus (fun _ => storage)
    (fun storage data => { data with storages := data.storages.set resource storage }) act

def onStorageAt (resource : ResourceId) (act : Act Storage α) : Act (Data μ) α := do
  let storage ← Act.ofExcept ((← Act.core).storageAt resource)
  withStorage resource storage act

def onStorage (resource : ResourceId) (act : Act Storage α) : Act (Data μ) α := do
  let storage ← Act.ofExcept ((← Act.core).storage resource)
  withStorage resource storage act

/-- Removes the entities that are live; the answer is their number. -/
def despawnAll : List Identity → Act (Data μ) Nat
  | [] => pure 0
  | entity :: rest => do
    let (removed, entities) := (← Act.core).entities.remove entity
    Act.update fun data => { data with entities }
    let others ← despawnAll rest
    pure (others + if removed then 1 else 0)

/-- A new live entity. -/
def newEntity : Act (Data μ) Identity := do
  let (entity, entities) ← Act.ofExcept (← Act.core).entities.emplace
  Act.update fun data => { data with entities }
  pure entity

/-- Gives an entity the components of a blueprint, in order. -/
def furnish (entity : Identity) : Blueprint → Act (Data μ) Unit
  | [] => pure ()
  | (resource, value) :: rest => do
    let descriptor ← Act.ofExcept ((← Act.core).registry.descriptor resource)
    if descriptor.kind = .entityComponent then
      onStorageAt resource (Storage.onIndexed fun descriptor =>
        Indexed.emplace descriptor entity value)
      furnish entity rest
    else Act.fault (.spawnTarget descriptor.label)

/-- Creates the requested entities in order, each with its components. -/
def spawnAll : List Blueprint → Act (Data μ) Unit
  | [] => pure ()
  | blueprint :: rest => do
    let entity ← newEntity
    furnish entity blueprint
    spawnAll rest

/-- Applies the waiting requests: despawns, then spawns. The queue is empty afterwards, also after a
fault. -/
def applyCommands : Act (Data μ) Unit := do
  let queue := (← Act.core).commands
  Act.update fun data => { data with commands := .empty }
  let despawned ← despawnAll queue.despawns
  spawnAll queue.spawns
  let requested := queue.despawns.length
  let spawned := queue.spawns.length
  if 0 < requested || 0 < spawned then
    let live := (← Act.core).entities.count
    Act.log .debug
      s!"applied {despawned}/{requested} despawns and {spawned} spawns ({live} entities live)"

/-- Acts on each storage in turn, given the places that are left. -/
def onStorages (act : Act Storage Unit) : List ResourceId → Act (Data μ) Unit
  | [] => pure ()
  | resource :: rest => do
    onStorageAt resource act
    onStorages act rest

/-- What lives for one tick goes. -/
def endTick : Act (Data μ) Unit := do
  onStorages Storage.endTick (List.range (← Act.core).storages.length)

/-- Releases the storages in turn, also those after one that fails. -/
def releaseEach : List ResourceId → Act (Data μ) Unit
  | [] => pure ()
  | resource :: rest => Act.ensuring (onStorageAt resource Storage.release) (releaseEach rest)

/-- Destroys every value held, storage by storage. -/
def release : Act (Data μ) Unit := do
  releaseEach (List.range (← Act.core).storages.length)

end Data

end EntityScene
