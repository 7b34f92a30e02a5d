import EntityScene.Act
import EntityScene.Resource.Registry

/-!
Output slots of a join. One slot per declared output serves all matches of the join in turn: what a
callback writes stays in the buffer of the slot after the commit, but counts as unwritten in the next
match.
-/

namespace EntityScene

structure OutputSlot where
  descriptor : Descriptor
  buffer : Option Value
  written : Bool

abbrev Outputs := List OutputSlot

namespace Outputs

/-- One empty slot per resource. -/
def prepare (registry : Registry) (resources : List ResourceId) : Except Fault Outputs :=
  resources.mapM fun resource => do
    let descriptor ← registry.descriptor resource
    pure ⟨descriptor, none, false⟩

def slot (outputs : Outputs) (position : Nat) : Except Fault OutputSlot :=
  match outputs[position]? with
  | some slot => .ok slot
  | none => .error (.outputRange position outputs.length)

def putSlot (position : Nat) (slot : OutputSlot) : Act Outputs Unit :=
  Act.update fun outputs => outputs.set position slot

/-- Writes a value for this match, in place of one written before. -/
def set (position : Nat) (value : Value) : Act Outputs Unit := do
  let slot ← Act.ofExcept ((← Act.core).slot position)
  let element := slot.descriptor.element
  if value.type = element.type then
    putSlot position { slot with buffer := some value, written := true }
  else Act.fault (.outputMismatch position slot.descriptor.id element.name value.type)

/-- The value written for this match, or else a first value, which counts as written from then on. An
empty slot is filled by the element; a buffer left by an earlier match restarts from the default of
the type. The type is compared after the slot has been marked and filled. -/
def getOrInit (position : Nat) (type : ElementType) : Act Outputs Value := do
  let slot ← Act.ofExcept ((← Act.core).slot position)
  putSlot position { slot with written := true }
  let value ←
    match slot.buffer with
    | some value => pure value
    | none => slot.descriptor.fresh
  putSlot position { slot with buffer := some value, written := true }
  if value.type = type then
    if slot.buffer.isSome && !slot.written then
      putSlot position { slot with buffer := some type.default, written := true }
      pure type.default
    else pure value
  else Act.fault (.initMismatch position slot.descriptor.element.name type)

/-- The value written for this match, if it has the wanted type. -/
def get (outputs : Outputs) (position : Nat) (type : ElementType) :
    Except Fault (Option Value) := do
  let slot ← outputs.slot position
  pure (if slot.written then slot.buffer.bind (Value.as? type) else none)

/-- The value written for this match; the slot counts as unwritten afterwards and keeps the value. -/
def takeWritten (position : Nat) : Act Outputs (Option Value) := do
  let slot ← Act.ofExcept ((← Act.core).slot position)
  if slot.written then
    putSlot position { slot with written := false }
    pure slot.buffer
  else pure none

/-- Destroys the buffers in slot order and empties the slots. -/
def release : Outputs → Act Outputs Unit
  | [] => Act.setCore []
  | slot :: rest => do
    slot.descriptor.destroyAll slot.buffer.toList
    release rest

end Outputs

end EntityScene
