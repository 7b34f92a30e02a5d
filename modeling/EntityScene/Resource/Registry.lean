import EntityScene.Resource.Descriptor

/-!
The table of resources. A resource's id is its place in the table, names are unique and lead back to the
ids, and the table starts with the resources that the scene itself serves.
-/

namespace EntityScene

inductive RegistryError where
  | duplicateName (name : String) (existing : ResourceId)
  | capacityExceeded (capacity : Nat)
  deriving DecidableEq, Repr, Inhabited

def RegistryError.name : RegistryError → String
  | .duplicateName _ _ => "DuplicateName"
  | .capacityExceeded _ => "CapacityExceeded"

def RegistryError.message : RegistryError → String
  | .duplicateName name existing =>
    s!"resource name `{name}` is already registered as resource {existing}"
  | .capacityExceeded capacity => s!"resource limit reached (capacity {capacity})"

structure Registry where
  descriptors : List Descriptor
  /-- The ids by name. An entry hides those behind it. -/
  names : List (String × ResourceId) :=
    (descriptors.map fun descriptor => (descriptor.name, descriptor.id)).reverse

namespace Registry

/-- The most resources that a table holds. -/
def capacity : Nat := 4096

/-- The delta of the current tick. -/
def deltaTime : ResourceId := 0

/-- The accumulated, scaled time. -/
def gameTime : ResourceId := 1

/-- The requests to spawn entities. -/
def spawnRequests : ResourceId := 2

/-- The requests to despawn entities. -/
def despawnRequests : ResourceId := 3

/-- The table with the built-in resources only. -/
def builtin : Registry where
  descriptors :=
    [⟨deltaTime, "DeltaTime", .sceneComponent, .plain .single⟩,
     ⟨gameTime, "GameTime", .sceneComponent, .plain .single⟩,
     ⟨spawnRequests, "EntitySpawnList", .entitySpawnList, .plain .spawnList⟩,
     ⟨despawnRequests, "EntityDespawnList", .entityDespawnList, .plain .despawnList⟩]

def size (registry : Registry) : Nat := registry.descriptors.length

def isEmpty (registry : Registry) : Bool := registry.descriptors.isEmpty

def get? (registry : Registry) (id : ResourceId) : Option Descriptor := registry.descriptors[id]?

/-- No destruction of a value of a registered resource fails. -/
def Releasing (registry : Registry) : Prop :=
  ∀ (resource : ResourceId) (descriptor : Descriptor), registry.get? resource = some descriptor →
    descriptor.element.Releasing

def descriptor (registry : Registry) (id : ResourceId) : Except Fault Descriptor :=
  match registry.get? id with
  | some descriptor => .ok descriptor
  | none => .error (.noDescriptor id registry.size)

/-- The id of the resource with this name. -/
def idOf? (registry : Registry) (name : String) : Option ResourceId :=
  registry.names.lookup name

/-- Adds a resource at the end of the table and its name to the names. -/
def push (registry : Registry) (name : String) (kind : Kind) (element : Element) : ResourceId × Registry :=
  let id := registry.size
  (id, ⟨registry.descriptors ++ [⟨id, name, kind, element⟩], (name, id) :: registry.names⟩)

/-- Adds a resource. A taken name is reported before a full table. -/
def register (registry : Registry) (name : String) (kind : Kind) (element : Element) :
    Except RegistryError (ResourceId × Registry) :=
  match registry.idOf? name with
  | some existing => .error (.duplicateName name existing)
  | none =>
    if registry.size < capacity then .ok (registry.push name kind element)
    else .error (.capacityExceeded capacity)

/-- Answers a call to add a resource, with the table that the call leaves. A refusal leaves it as it is. -/
def attempt (registry : Registry) (name : String) (kind : Kind) (element : Element) :
    Except RegistryError ResourceId × Registry :=
  match registry.register name kind element with
  | .ok (id, grown) => (.ok id, grown)
  | .error cause => (.error cause, registry)

/-- Adds the declared resources in order, up to the first refusal. -/
def declare (registry : Registry) (resources : List (String × Kind × Element)) :
    Except RegistryError Registry :=
  resources.foldlM
    (fun registry (name, kind, element) => do pure (← registry.register name kind element).2) registry

/-- Registers the names one after the other until one is refused: the ids given, the refusal and the
table. -/
def registerAll (registry : Registry) (kind : Kind) (element : Element) :
    List String → List ResourceId × Option RegistryError × Registry
  | [] => ([], none, registry)
  | name :: rest =>
    match registry.register name kind element with
    | .error cause => ([], some cause, registry)
    | .ok (id, registry) =>
      let (ids, refusal, registry) := registry.registerAll kind element rest
      (id :: ids, refusal, registry)

end Registry

end EntityScene
