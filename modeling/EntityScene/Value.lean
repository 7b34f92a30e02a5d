import EntityScene.Identity
import EntityScene.Number.Binary

/-!
Values that resources hold. A value carries its element type, so a reader can ask for it.
-/

namespace EntityScene

/-- A resource is known by its place in the registry. -/
abbrev ResourceId := Nat

inductive ElementType where
  | single | double | int32 | int64 | uint8 | uint32 | uint64 | bool | string | unit
  | int32List | spawnList | despawnList
  deriving DecidableEq, Repr, Inhabited

/-- The name under which messages report the type. -/
def ElementType.name : ElementType → String
  | .single => "f32"
  | .double => "f64"
  | .int32 => "i32"
  | .int64 => "i64"
  | .uint8 => "u8"
  | .uint32 => "u32"
  | .uint64 => "u64"
  | .bool => "bool"
  | .string => "alloc::string::String"
  | .unit => "()"
  | .int32List => "alloc::vec::Vec<i32>"
  | .spawnList => "scene_runtime::engine::commands::SpawnList"
  | .despawnList => "scene_runtime::engine::commands::DespawnList"

/-- Bytes that a value of the type occupies in place. -/
def ElementType.size : ElementType → Nat
  | .single | .int32 | .uint32 => 4
  | .double | .int64 | .uint64 => 8
  | .uint8 | .bool => 1
  | .unit => 0
  | .string | .int32List | .spawnList | .despawnList => 24

def ElementType.align : ElementType → Nat
  | .single | .int32 | .uint32 => 4
  | .uint8 | .bool | .unit => 1
  | .double | .int64 | .uint64 | .string | .int32List | .spawnList | .despawnList => 8

/-- A value of one of the element types. A request to spawn lists the components of the new entity
with their first values. -/
inductive Value where
  | single (x : Single)
  | double (x : Double)
  | int32 (n : Int32)
  | int64 (n : Int64)
  | uint8 (n : UInt8)
  | uint32 (n : UInt32)
  | uint64 (n : UInt64)
  | bool (b : Bool)
  | string (text : String)
  | unit
  | int32List (items : List Int32)
  | spawnList (requests : List (List (ResourceId × Value)))
  | despawnList (targets : List Identity)
  deriving Inhabited

/-- The first values of a new entity's components, in the order in which they are given. -/
abbrev Blueprint := List (ResourceId × Value)

def Value.type : Value → ElementType
  | .single _ => .single
  | .double _ => .double
  | .int32 _ => .int32
  | .int64 _ => .int64
  | .uint8 _ => .uint8
  | .uint32 _ => .uint32
  | .uint64 _ => .uint64
  | .bool _ => .bool
  | .string _ => .string
  | .unit => .unit
  | .int32List _ => .int32List
  | .spawnList _ => .spawnList
  | .despawnList _ => .despawnList

/-- Zero, false or empty. -/
def ElementType.default : ElementType → Value
  | .single => .single .zero
  | .double => .double .zero
  | .int32 => .int32 0
  | .int64 => .int64 0
  | .uint8 => .uint8 0
  | .uint32 => .uint32 0
  | .uint64 => .uint64 0
  | .bool => .bool false
  | .string => .string ""
  | .unit => .unit
  | .int32List => .int32List []
  | .spawnList => .spawnList []
  | .despawnList => .despawnList []

@[simp] theorem ElementType.type_default (type : ElementType) : type.default.type = type := by
  cases type <;> rfl

/-- The value, if it has the wanted type. -/
def Value.as? (type : ElementType) (value : Value) : Option Value :=
  if value.type = type then some value else none

end EntityScene
