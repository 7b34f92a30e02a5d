import EntityScene.Storage.Events
import EntityScene.Storage.Indexed
import EntityScene.Storage.Scalar

/-!
Storages of resources. The kind of a resource decides the shape of its storage; whoever needs a
particular shape asks for it, and asking for another one is a fault.
-/

namespace EntityScene

/-- What a storage holds. Request lists hold nothing: their writes go to the command queue. -/
inductive Cells where
  | scalar (value : Scalar)
  | indexed (table : Indexed)
  | events (list : Events)
  | requests

def Cells.shape : Cells → Shape
  | .scalar _ => .scalar
  | .indexed _ => .indexed
  | .events _ => .events
  | .requests => .requests

structure Storage where
  descriptor : Descriptor
  cells : Cells

/-- The shape in which a kind is stored. -/
def Kind.shape : Kind → Shape
  | .sceneComponent => .scalar
  | .viewportComponent | .entityComponent => .indexed
  | .event => .events
  | .entitySpawnList | .entityDespawnList => .requests

def Shape.emptyCells : Shape → Cells
  | .scalar => .scalar none
  | .indexed => .indexed .empty
  | .events => .events []
  | .requests => .requests

namespace Storage

/-- An empty storage of the shape of the resource's kind. -/
def ofDescriptor (descriptor : Descriptor) : Storage :=
  ⟨descriptor, descriptor.kind.shape.emptyCells⟩

/-- An empty storage of a chosen shape. A table by identity needs a kind with identities, and a
request marker a kind of requests. -/
def ofShape (descriptor : Descriptor) (shape : Shape) : Except Fault Storage :=
  let fits :=
    match shape with
    | .indexed => descriptor.kind.isIndexed
    | .requests => descriptor.kind.isRequestList
    | .scalar | .events => true
  if fits then .ok ⟨descriptor, shape.emptyCells⟩ else .error (.wrongKindForShape shape)

/-- The fault of asking this storage for another shape. -/
def mismatch (storage : Storage) (shape : Shape) : Fault :=
  .wrongShape storage.descriptor.label shape

def scalar (storage : Storage) : Except Fault Scalar :=
  match storage.cells with
  | .scalar value => .ok value
  | _ => .error (storage.mismatch .scalar)

def indexed (storage : Storage) : Except Fault Indexed :=
  match storage.cells with
  | .indexed table => .ok table
  | _ => .error (storage.mismatch .indexed)

def events (storage : Storage) : Except Fault Events :=
  match storage.cells with
  | .events list => .ok list
  | _ => .error (storage.mismatch .events)

def requests (storage : Storage) : Except Fault Unit :=
  match storage.cells with
  | .requests => .ok ()
  | _ => .error (storage.mismatch .requests)

variable {α : Type}

/-- Acts on the cells of one shape, given the cells and how to put them back. -/
def within {τ : Type} (cells : τ) (wrap : τ → Cells) (act : Act τ α) : Act Storage α :=
  Act.focus (fun _ => cells) (fun cells storage => { storage with cells := wrap cells }) act

def onScalar (act : Descriptor → Act Scalar α) : Act Storage α := do
  let storage ← Act.core
  match storage.cells with
  | .scalar value => within value .scalar (act storage.descriptor)
  | _ => Act.fault (storage.mismatch .scalar)

def onIndexed (act : Descriptor → Act Indexed α) : Act Storage α := do
  let storage ← Act.core
  match storage.cells with
  | .indexed table => within table .indexed (act storage.descriptor)
  | _ => Act.fault (storage.mismatch .indexed)

def onEvents (act : Descriptor → Act Events α) : Act Storage α := do
  let storage ← Act.core
  match storage.cells with
  | .events list => within list .events (act storage.descriptor)
  | _ => Act.fault (storage.mismatch .events)

/-- What lives for one tick goes: only events do. -/
def endTick : Act Storage Unit := do
  let storage ← Act.core
  match storage.cells with
  | .events list => within list .events (Events.clear storage.descriptor)
  | _ => pure ()

/-- Destroys every value held. -/
def release : Act Storage Unit := do
  let storage ← Act.core
  match storage.cells with
  | .scalar value => within value .scalar (Scalar.release storage.descriptor)
  | .indexed table => within table .indexed (Indexed.release storage.descriptor)
  | .events list => within list .events (Events.clear storage.descriptor)
  | .requests => pure ()

end Storage

end EntityScene
