import EntityScene.Identity
import EntityScene.Fault

/-!
A pool of identities. Removing an identity raises the version of its slot and frees the slot, and the
slot freed last is used first. The live identities form a sequence: a new one goes to its end, and the
last one takes the place of a removed one.
-/

namespace EntityScene

/-- A slot knows its version and, while live, its place among the live identities. -/
structure Pool.Slot where
  version : UInt32
  place : Option UInt32
  deriving DecidableEq, Repr, Inhabited

def Pool.Slot.fresh : Pool.Slot := ⟨0, none⟩

structure Pool where
  slots : Array Pool.Slot := #[]
  free : List UInt32 := []
  live : Array Identity := #[]
  deriving DecidableEq, Repr, Inhabited

def Pool.empty : Pool := {}

/-- The bytes of a slot in the table that a pool reserves for its capacity. -/
def Pool.slotBytes : Nat := 12

/-- An empty pool with room for `capacity` identities. The room must be addressable. -/
def Pool.withCapacity (capacity : Nat) : Except Fault Pool :=
  if Pool.slotBytes * capacity < 0x8000000000000000 then .ok Pool.empty else .error .capacityOverflow

def Pool.count (pool : Pool) : Nat := pool.live.size

def Pool.isEmpty (pool : Pool) : Bool := pool.live.isEmpty

/-- The identity at a place of the enumeration. -/
def Pool.get? (pool : Pool) (position : Nat) : Option Identity := pool.live[position]?

def Pool.get (pool : Pool) (position : Nat) : Except Fault Identity :=
  match pool.live[position]? with
  | some identity => .ok identity
  | none => .error (.outOfBounds position pool.live.size)

/-- The identity is live: its slot is in use and has its version. -/
def Pool.contains (pool : Pool) (identity : Identity) : Bool :=
  match pool.slots[identity.index.toNat]? with
  | some slot => slot.version == identity.version && slot.place.isSome
  | none => false

/-- Makes the slot at `index` live at the end of the enumeration. -/
def Pool.occupy (pool : Pool) (index : UInt32) : Identity × Pool :=
  let version := (pool.slots[index.toNat]?.map Pool.Slot.version).getD 0
  let identity : Identity := ⟨index, version⟩
  (identity,
    { pool with
      slots := pool.slots.setIfInBounds index.toNat ⟨version, some pool.live.size.toUInt32⟩
      live := pool.live.push identity })

/-- A new live identity, in the slot freed last or else in a new slot. -/
def Pool.emplace (pool : Pool) : Except Fault (Identity × Pool) :=
  match pool.free with
  | index :: free => .ok ({ pool with free }.occupy index)
  | [] =>
    if pool.slots.size < Identity.indexCap then
      let index := pool.slots.size.toUInt32
      .ok ({ pool with slots := pool.slots.push Pool.Slot.fresh }.occupy index)
    else .error .poolExhausted

/-- New live identities, in the order in which they are made. -/
def Pool.emplaceMany (pool : Pool) : Nat → Except Fault (List Identity × Pool)
  | 0 => .ok ([], pool)
  | count + 1 => do
    let (identity, pool) ← pool.emplace
    let (others, pool) ← pool.emplaceMany count
    pure (identity :: others, pool)

/-- Drops the entry at `position` and puts the last one in its place. -/
def swapRemove {α : Type} (sequence : Array α) (position : Nat) : Array α :=
  match sequence.back? with
  | some last => (sequence.setIfInBounds position last).pop
  | none => #[]

/-- Tells the slot of the identity at `position`, if there is one, that it stands there. -/
def Pool.reseat (pool : Pool) (position : UInt32) : Pool :=
  match pool.live[position.toNat]? with
  | some moved =>
    { pool with
      slots := pool.slots.modify moved.index.toNat fun slot => { slot with place := some position } }
  | none => pool

/-- Removes an identity; the answer says whether it was live. -/
def Pool.remove (pool : Pool) (identity : Identity) : Bool × Pool :=
  match pool.slots[identity.index.toNat]? with
  | none => (false, pool)
  | some slot =>
    if slot.version = identity.version then
      match slot.place with
      | none => (false, pool)
      | some place =>
        (true,
          Pool.reseat
            { slots := pool.slots.setIfInBounds identity.index.toNat ⟨slot.version + 1, none⟩
              free := identity.index :: pool.free
              live := swapRemove pool.live place.toNat }
            place)
    else (false, pool)

end EntityScene
