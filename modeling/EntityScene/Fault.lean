import EntityScene.Resource.Kind
import EntityScene.Value

/-!
Faults: what stops an operation midway. The operation keeps the changes it made before the fault.
-/

namespace EntityScene

/-- What messages tell of a resource. -/
structure Label where
  id : ResourceId
  name : String
  kind : Kind
  typeName : String
  size : Nat
  align : Nat
  deriving DecidableEq, Repr, Inhabited

/-- A type name with the size and alignment of its values. -/
def layoutText (typeName : String) (size align : Nat) : String :=
  s!"{typeName} (size {size}, align {align})"

def Label.text (label : Label) : String :=
  let layout := layoutText label.typeName label.size label.align
  let kind := label.kind.text
  s!"resource {label.id} `{label.name}` ({kind}, {layout})"

/-- The shapes in which resources are stored. -/
inductive Shape where
  | scalar | indexed | events | requests
  deriving DecidableEq, Repr, Inhabited

def Shape.name : Shape → String
  | .scalar => "scene_runtime::engine::storage::SceneComponentStorage"
  | .indexed => "scene_runtime::engine::storage::IndexedComponentStorage"
  | .events => "scene_runtime::engine::storage::EventStorage"
  | .requests => "scene_runtime::engine::storage::RequestListStorage"

inductive Fault where
  | outOfBounds (index length : Nat)
  | capacityOverflow
  | poolExhausted
  | notLive (identity : Identity)
  /-- A value handed to the copying of another element type. -/
  | copyMismatch (typeName : String)
  /-- A value handed to the destruction of another element type. -/
  | destroyMismatch (typeName : String)
  /-- The element type declined to copy a value. -/
  | copyRefused (message : String)
  /-- The element type failed to destroy a value. -/
  | destroyRefused (message : String)
  /-- Something failed while a fault was being cleaned up after. Nothing goes on after that. -/
  | aborted
  /-- A storage was asked for a shape that it does not have. -/
  | wrongShape (resource : Label) (shape : Shape)
  /-- A storage of this shape was wanted for a resource of another kind. -/
  | wrongKindForShape (shape : Shape)
  | wrongElement (resource : Label)
  | unregistered (resource : ResourceId)
  | noDescriptor (resource : ResourceId) (count : Nat)
  | notOfKind (resource : Label) (kind : Kind)
  | spawnTarget (resource : Label)
  | inputRange (position count : Nat)
  | inputMismatch (position : Nat) (resource : ResourceId) (type : ElementType)
  | inputMissing (resource : ResourceId) (kind : Kind)
  | inputOutsideLoop (resource : ResourceId) (kind : Kind)
  | outputRange (position count : Nat)
  | outputMismatch (position : Nat) (resource : ResourceId) (expected : String) (got : ElementType)
  | initMismatch (position : Nat) (expected : String) (got : ElementType)
  | outputUnsupported (resource : ResourceId) (kind : Kind)
  | outputNotSpawnList (resource : ResourceId) (kind : Kind)
  | outputOutsideLoop (resource : ResourceId) (kind : Kind)
  | wrongSchedule (job : String) (jobKind scheduleKind : JobKind)
  /-- A callback stopped by itself. -/
  | raised (message : String)
  deriving DecidableEq, Repr, Inhabited

def Fault.message : Fault → String
  | .outOfBounds index length =>
    s!"index out of bounds: the len is {length} but the index is {index}"
  | .capacityOverflow => "capacity overflow"
  | .poolExhausted => s!"identity pool exhausted ({Identity.indexCap} slots)"
  | .notLive identity => identity.text ++ " is not live"
  | .copyMismatch typeName => s!"clone_value: value is not a `{typeName}`"
  | .destroyMismatch typeName => s!"destroy: value is not a `{typeName}`"
  | .copyRefused message => message
  | .destroyRefused message => message
  | .aborted => "panic in a destructor during cleanup"
  | .wrongShape resource shape => resource.text ++ " is not backed by a " ++ shape.name
  | .wrongKindForShape .requests => "assertion failed: descriptor.kind.is_request_list()"
  | .wrongKindForShape _ => "assertion failed: descriptor.kind.is_indexed()"
  | .wrongElement resource =>
    "value written to " ++ resource.text ++ s!" is not a `{resource.typeName}`"
  | .unregistered resource => s!"resource {resource} is not registered"
  | .noDescriptor resource count => s!"resource {resource} is not registered ({count} resources)"
  | .notOfKind resource kind => resource.text ++ " is not a " ++ kind.text
  | .spawnTarget resource =>
    "spawn descriptor initializes " ++ resource.text ++ ", which is not an entity component"
  | .inputRange position count => s!"input {position} out of range ({count} inputs declared)"
  | .inputMismatch position resource type =>
    s!"input {position} (resource {resource}) is not a `" ++ type.name ++ "`"
  | .inputMissing resource kind =>
    s!"input {resource} (" ++ kind.text ++ ") has no value for this match"
  | .inputOutsideLoop resource kind =>
    s!"internal error: entered unreachable code: input {resource} (" ++ kind.text ++
      ") resolved outside its loop"
  | .outputRange position count => s!"output {position} out of range ({count} outputs declared)"
  | .outputMismatch position resource expected got =>
    s!"output {position} (resource {resource}) expects `{expected}`, got `" ++ got.name ++ "`"
  | .initMismatch position expected got =>
    s!"output {position} expects `{expected}`, got `" ++ got.name ++ "`"
  | .outputUnsupported resource kind =>
    "writing " ++ kind.text ++ s!" outputs is not implemented (resource {resource})"
  | .outputNotSpawnList resource kind =>
    s!"output {resource} (" ++ kind.text ++ ") does not hold a `SpawnList`"
  | .outputOutsideLoop resource kind =>
    s!"internal error: entered unreachable code: output {resource} (" ++ kind.text ++
      ") committed outside its loop"
  | .wrongSchedule job jobKind scheduleKind =>
    s!"assertion `left == right` failed: job `{job}` added to the " ++ scheduleKind.text ++
      " scheduler\n  left: " ++ jobKind.name ++ "\n right: " ++ scheduleKind.name
  | .raised message => message

end EntityScene
