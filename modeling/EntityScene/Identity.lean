/-!
Identities of entities and viewports: a slot index together with the version of the slot.
-/

namespace EntityScene

structure Identity where
  index : UInt32
  version : UInt32
  deriving DecidableEq, Repr, Inhabited

/-- The number of slots a pool may use; the largest index is never handed out. -/
def Identity.indexCap : Nat := 4294967295

/-- Selects the index in a packed identity. -/
def Identity.indexMask : UInt64 := 0xffffffff

/-- The version fills the high half of the word and the index the low half. -/
def Identity.packed (identity : Identity) : UInt64 :=
  identity.version.toUInt64 <<< 32 ||| identity.index.toUInt64

def Identity.ofPacked (word : UInt64) : Identity :=
  ⟨(word &&& Identity.indexMask).toUInt32, (word >>> 32).toUInt32⟩

/-- Identities are ordered by version, then by index. -/
def Identity.le (first second : Identity) : Bool := decide (first.packed ≤ second.packed)

def Identity.text (identity : Identity) : String :=
  "Identity(" ++ toString identity.packed.toNat ++ ")"

end EntityScene
