import EntityScene.Value

/-!
Requests to create and remove entities. They wait in a queue until the next tick.
-/

namespace EntityScene

/-- Requests to spawn, in the order in which they were made. -/
abbrev SpawnList := List Blueprint

/-- Requests to despawn, in the order in which they were made. -/
abbrev DespawnList := List Identity

/-- Moves every request of the second list to the end of the first; the answer says whether there was
one. -/
def SpawnList.append (list other : SpawnList) : Bool × SpawnList × SpawnList :=
  (!other.isEmpty, list ++ other, [])

/-- Takes some requests from the front. What is not taken is dropped, so the list is empty
afterwards. -/
def SpawnList.drain (list : SpawnList) (count : Nat) : List Blueprint × SpawnList :=
  (list.take count, [])

def DespawnList.drain (list : DespawnList) (count : Nat) : List Identity × DespawnList :=
  (list.take count, [])

def DespawnList.text (list : DespawnList) : String :=
  "DespawnList \x7b entities: [" ++ ", ".intercalate (list.map Identity.text) ++ "] \x7d"

inductive Command where
  | spawn (blueprint : Blueprint)
  | despawn (entity : Identity)

/-- The requests that wait for the next tick. -/
structure CommandQueue where
  spawns : SpawnList := []
  despawns : DespawnList := []

namespace CommandQueue

def empty : CommandQueue := {}

def push (queue : CommandQueue) : Command → CommandQueue
  | .spawn blueprint => { queue with spawns := queue.spawns ++ [blueprint] }
  | .despawn entity => { queue with despawns := queue.despawns ++ [entity] }

/-- Appends a whole list of requests to spawn; the answer says whether there was one. The list is
empty afterwards. -/
def appendSpawns (queue : CommandQueue) (list : SpawnList) : Bool × CommandQueue × SpawnList :=
  let (added, spawns, rest) := SpawnList.append queue.spawns list
  (added, { queue with spawns }, rest)

end CommandQueue

end EntityScene
