import EntityScene.Act

/-!
The storage of a component of entities or viewports. A slot remembers the identity it was written for,
so a value left behind by a removed identity is never read for the next one in its slot.
-/

namespace EntityScene

structure Indexed where
  slots : Array (Option (Identity × Value)) := #[]
  occupied : Nat := 0

namespace Indexed

def empty : Indexed := {}

/-- The value stored for exactly this identity. -/
def component (table : Indexed) (identity : Identity) : Option Value :=
  match table.slots[identity.index.toNat]? with
  | some (some (owner, value)) => if owner = identity then some value else none
  | _ => none

def contains (table : Indexed) (identity : Identity) : Bool := (table.component identity).isSome

/-- The number of slots in use, also of those left behind by removed identities. -/
def size (table : Indexed) : Nat := table.occupied

def isEmpty (table : Indexed) : Bool := table.occupied == 0

/-- The table has a slot for the index. -/
def grow (table : Indexed) (index : Nat) : Indexed :=
  { table with slots := table.slots ++ Array.replicate (index + 1 - table.slots.size) none }

def putSlot (table : Indexed) (index : Nat) (slot : Option (Identity × Value)) : Indexed :=
  { table with slots := table.slots.setIfInBounds index slot }

/-- Stores a copy of the value for the identity. Whatever the slot held goes first; a slot that was
empty counts as used from then on. -/
def emplace (descriptor : Descriptor) (identity : Identity) (value : Value) : Act Indexed Unit := do
  descriptor.check value
  let index := identity.index.toNat
  Act.update fun table => table.grow index
  match (← Act.core).slots[index]? with
  | some (some (_, previous)) =>
    Act.update fun table => table.putSlot index none
    descriptor.destroy previous
  | _ => Act.update fun table => { table with occupied := table.occupied + 1 }
  let copy ← descriptor.copy value
  Act.update fun table => table.putSlot index (some (identity, copy))

/-- Removes the value stored for exactly this identity; the answer says whether there was one. -/
def remove (descriptor : Descriptor) (identity : Identity) : Act Indexed Bool := do
  match (← Act.core).component identity with
  | some value =>
    Act.update fun table => table.putSlot identity.index.toNat none
    descriptor.destroy value
    Act.update fun table => { table with occupied := table.occupied - 1 }
    pure true
  | none => pure false

/-- The values held, in slot order. -/
def values (table : Indexed) : List Value :=
  table.slots.toList.filterMap fun slot => slot.map Prod.snd

/-- Destroys the values in slot order. -/
def release (descriptor : Descriptor) : Act Indexed Unit := do
  let held := (← Act.core).values
  Act.setCore empty
  descriptor.destroyAll held

end Indexed

end EntityScene
