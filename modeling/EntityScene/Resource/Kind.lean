/-!
Kinds of resources and kinds of jobs.
-/

namespace EntityScene

/-- What a resource holds: one value for the scene, one per viewport or per entity, the events of a
tick, or requests to create or remove entities. -/
inductive Kind where
  | sceneComponent | viewportComponent | entityComponent | event | entitySpawnList | entityDespawnList
  deriving DecidableEq, Repr, Inhabited

def Kind.text : Kind → String
  | .sceneComponent => "scene component"
  | .viewportComponent => "viewport component"
  | .entityComponent => "entity component"
  | .event => "event"
  | .entitySpawnList => "entity spawn list"
  | .entityDespawnList => "entity despawn list"

def Kind.name : Kind → String
  | .sceneComponent => "SceneComponent"
  | .viewportComponent => "ViewportComponent"
  | .entityComponent => "EntityComponent"
  | .event => "Event"
  | .entitySpawnList => "EntitySpawnList"
  | .entityDespawnList => "EntityDespawnList"

def Kind.all : List Kind :=
  [.sceneComponent, .viewportComponent, .entityComponent, .event, .entitySpawnList,
   .entityDespawnList]

/-- The kind with this name. -/
def Kind.ofName? (name : String) : Option Kind := Kind.all.find? fun kind => kind.name == name

/-- Values are attached to identities. -/
def Kind.isIndexed : Kind → Bool
  | .viewportComponent | .entityComponent => true
  | _ => false

def Kind.isRequestList : Kind → Bool
  | .entitySpawnList | .entityDespawnList => true
  | _ => false

/-- When a job runs: once when its scene is built, or at every tick. -/
inductive JobKind where
  | setup | update
  deriving DecidableEq, Repr, Inhabited

def JobKind.text : JobKind → String
  | .setup => "setup"
  | .update => "update"

def JobKind.name : JobKind → String
  | .setup => "Setup"
  | .update => "Update"

/-- The kind that this text stands for. -/
def JobKind.ofText? (text : String) : Option JobKind :=
  [JobKind.setup, .update].find? fun kind => kind.text == text

end EntityScene
