import EntityScene.Proofs.Verdict

/-!
Direct writes to a scene. A write has its conditions: the identity is live in its own pool, the resource is
registered with the kind that the write is for, and the value has the resource's type. A write that breaks
one of them faults before it has done anything. Any other write puts its value in the one place that it is
aimed at, unless the element refuses to destroy what is there or to copy the value.
-/

namespace EntityScene

open Act

variable {σ μ α : Type}

/-- The outcome of an act that stopped before it did anything, and not because a value was not copied or not
destroyed. -/
def Refused (live : Live σ) (outcome : Except Fault α) (after : Live σ) : Prop :=
  after = live ∧ ∃ cause : Fault, outcome = .error cause ∧ cause.vacates = false

theorem Refused.error (live : Live σ) {cause : Fault} (other : cause.vacates = false) :
    Refused live (.error cause : Except Fault α) live :=
  ⟨rfl, cause, rfl, other⟩

theorem Written.map {γ δ : Type} {descriptor : Descriptor} {held : List Value} {value : Value}
    {before vacated stored after : γ} {outcome : Except Fault Unit} (wrap : γ → δ)
    (written : Written descriptor held value before vacated stored outcome after) :
    Written descriptor held value (wrap before) (wrap vacated) (wrap stored) outcome (wrap after) := by
  cases written with
  | refused mistyped => exact .refused mistyped
  | stopped typed stops => exact .stopped typed stops
  | stored typed replaces => exact .stored typed replaces

namespace Indexed

/-- The value at a slot with its owner. A slot beyond the table holds none. -/
def slot? (table : Indexed) (index : Nat) : Option (Identity × Value) := table.slots[index]?.join

/-- The slot of the identity received the value, and no other slot changed. The slot counts as used from
then on, and the count grows if it did not before. -/
structure Refilled (table : Indexed) (identity : Identity) (value : Value) (after : Indexed) : Prop where
  slot : after.slot? identity.index.toNat = some (identity, value)
  others : ∀ index, index ≠ identity.index.toNat → after.slot? index = table.slot? index
  size : after.size = if (table.slot? identity.index.toNat).isSome then table.size else table.size + 1

theorem Refilled.component {table after : Indexed} {identity : Identity} {value : Value}
    (refilled : Refilled table identity value after) : after.component identity = some value := by
  have held : after.slots[identity.index.toNat]? = some (some (identity, value)) :=
    Option.join_eq_some_iff.mp refilled.slot
  unfold Indexed.component
  rw [held]
  exact if_pos rfl

end Indexed

namespace Scene

/-- What a direct write is aimed at: the scene, an entity, a viewport, or the end of a list of events. -/
inductive Target where
  | scene
  | entity (entity : Identity)
  | viewport (viewport : Identity)
  | events

namespace Target

/-- The kind of the resources that the target has values of. -/
def kind : Target → Kind
  | .scene => .sceneComponent
  | .entity _ => .entityComponent
  | .viewport _ => .viewportComponent
  | .events => .event

/-- What is read of a resource at the target; of events it is the last. -/
def read (target : Target) (scene : Scene μ) (resource : ResourceId) : Except Fault (Option Value) :=
  match target with
  | .scene => scene.scalar resource
  | .entity identity | .viewport identity => do pure ((← scene.indexed resource).component identity)
  | .events => do pure (← scene.events resource).getLast?

/-- The value was put at the target, and the rest of the cells is as it was. -/
inductive Fills (value : Value) : Target → Cells → Cells → Prop
  | scene (held : Scalar) : Fills value .scene (.scalar held) (.scalar (some value))
  | entity {identity : Identity} {table after : Indexed} (refilled : table.Refilled identity value after) :
    Fills value (.entity identity) (.indexed table) (.indexed after)
  | viewport {identity : Identity} {table after : Indexed} (refilled : table.Refilled identity value after) :
    Fills value (.viewport identity) (.indexed table) (.indexed after)
  | events (list : Events) : Fills value .events (.events list) (.events (list ++ [value]))

/-- The value at the target, which a write has to destroy. A component's place may still have the value of an
identity that was there before. -/
def occupant? (target : Target) (cells : Cells) : Option Value :=
  match target, cells with
  | .scene, .scalar held => held
  | .entity identity, .indexed table | .viewport identity, .indexed table =>
    table.occupant? identity.index.toNat
  | _, _ => none

/-- What the write does to the storage. -/
def change (target : Target) (value : Value) : Storage.Write :=
  match target with
  | .scene => .emplaceScalar value
  | .entity identity | .viewport identity => .emplaceIndexed identity value
  | .events => .pushEvent value

section Cells

variable {value : Value} {descriptor : Descriptor} {cells : Cells} {journal : Journal}

/-- A value put at the target is read there. -/
theorem Fills.read {target : Target} {scene : Scene μ} {resource : ResourceId} {before : Cells}
    (fills : target.Fills value before cells)
    (found : scene.data.storages[resource]? = some ⟨descriptor, cells⟩) :
    target.read scene resource = .ok (some value) := by
  have stored : scene.data.storage resource = .ok ⟨descriptor, cells⟩ := by
    rw [Data.storage, found]
  cases fills with
  | scene held =>
      rw [Target.read, Scene.scalar, stored]
      rfl
  | entity refilled | viewport refilled =>
      rw [Target.read, Scene.indexed, stored]
      exact congrArg Except.ok refilled.component
  | events list =>
      rw [Target.read, Scene.events, stored]
      exact congrArg Except.ok List.getLast?_concat

end Cells

end Target

/-- A value for a resource at a target. -/
structure DirectWrite where
  target : Target
  resource : ResourceId
  value : Value

namespace DirectWrite

def perform (write : DirectWrite) : Act (Scene μ) Unit :=
  match write.target with
  | .scene => emplaceScalar write.resource write.value
  | .entity identity => emplaceEntityComponent write.resource identity write.value
  | .viewport identity => emplaceViewportComponent write.resource identity write.value
  | .events => sendEvent write.resource write.value

/-- The value that is in the place of the write. -/
def occupant? (write : DirectWrite) (data : Data μ) : Option Value :=
  write.target.occupant? (data.cells write.resource)

end DirectWrite

section Storages

variable {live : Live (Scene μ)} {kind : Kind} {resource : ResourceId} {identity : Identity} {value : Value}
  {descriptor : Descriptor}

end Storages

namespace DirectWrite

variable {live : Live (Scene μ)} {descriptor : Descriptor}

end DirectWrite

end Scene

end EntityScene
