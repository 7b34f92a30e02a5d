import EntityScene.Proofs.Ledger

/-!
How many slots of a table are in use. A write counts its slot before the copy for it is made, and it
empties a slot in use without uncounting it. If the copy is then declined, or the old value is not
destroyed, an empty slot is left that counts, and nothing sets the count right again.
-/

namespace EntityScene.Indexed

open Act

/-- The operations that fill and empty the slots of a table. -/
inductive Change where
  | emplace (identity : Identity) (value : Value)
  | remove (identity : Identity)

def Change.perform (descriptor : Descriptor) : Change → Act Indexed Unit
  | .emplace identity value => Indexed.emplace descriptor identity value
  | .remove identity => do let _ ← Indexed.remove descriptor identity

/-- The change writes a value of the type whose copy is declined. -/
def Change.declined (descriptor : Descriptor) : Change → Bool
  | .emplace _ value =>
    value.type = descriptor.element.type && (descriptor.element.declines value).isSome
  | .remove _ => false

/-- The change stops halfway in the table: the old value is not destroyed, or the copy of the new one is
declined. -/
def Change.stops (descriptor : Descriptor) (table : Indexed) : Change → Bool
  | .emplace identity value =>
    value.type = descriptor.element.type &&
      !(descriptor.replacing (table.occupant? identity.index.toNat).toList value).isOk
  | .remove identity => !(descriptor.disposal (table.component identity).toList).isOk

/-- Where every value is destroyed, changes stop at declined copies only. -/
theorem Change.stops_releasing {descriptor : Descriptor} (releasing : descriptor.element.Releasing)
    (table : Indexed) (change : Change) : change.stops descriptor table = change.declined descriptor := by
  cases change with
  | emplace identity value =>
      have destroyed : (table.occupant? identity.index.toNat).any
          (fun old => (descriptor.element.retains old).isSome) = false := by
        cases table.occupant? identity.index.toNat <;> simp [releasing _]
      simp only [stops, declined, Descriptor.replacing_isOk, destroyed, Bool.or_false, Bool.not_not]
  | remove identity =>
      simp only [stops, declined, Descriptor.disposal_ok releasing]
      rfl

/-- The table after the changes, whatever faults they ended in. -/
def changeAll (descriptor : Descriptor) (changes : List Change) (live : Live Indexed) : Live Indexed :=
  changes.foldl (fun live change => (change.perform descriptor).leaves live) live

/-- How many of the changes stop halfway. -/
def stopped (descriptor : Descriptor) : List Change → Live Indexed → Nat
  | [], _ => 0
  | change :: rest, live =>
    (if change.stops descriptor live.core then 1 else 0) +
      stopped descriptor rest ((change.perform descriptor).leaves live)

theorem stopped_releasing {descriptor : Descriptor} (releasing : descriptor.element.Releasing)
    (changes : List Change) (live : Live Indexed) :
    stopped descriptor changes live = changes.countP (Change.declined descriptor) := by
  induction changes generalizing live with
  | nil => rfl
  | cons change rest ih =>
      rw [stopped, ih, change.stops_releasing releasing, List.countP_cons, Nat.add_comm]

/-- The number of slots that hold a value. -/
def held (table : Indexed) : Nat := table.values.length

section Counts

variable {table : Indexed} {index : Nat}

theorem held_grow (table : Indexed) (index : Nat) : (table.grow index).held = table.held := by
  simp only [held, values_grow]

/-- Filling an empty slot adds one value. -/
theorem held_fill (vacant : table.slots[index]? = some none) (entry : Identity × Value) :
    (table.putSlot index (some entry)).held = table.held + 1 := by
  have exchanged := congrArg Multiset.card (values_putSlot vacant (some entry))
  simp [slotValues] at exchanged
  simp only [held]
  omega

/-- Emptying a slot in use takes one value away. -/
theorem held_empty {entry : Identity × Value} (found : table.slots[index]? = some (some entry)) :
    (table.putSlot index none).held + 1 = table.held := by
  have exchanged := congrArg Multiset.card (values_putSlot found none)
  simp [slotValues] at exchanged
  simp only [held]
  omega

/-- A vacated slot counts and holds nothing, whether it was in use or not. -/
theorem vacate_counts (table : Indexed) (index : Nat) :
    (table.vacate index).occupied + table.held = table.occupied + (table.vacate index).held + 1 := by
  unfold vacate
  split
  · rename_i entry found
    have emptied := held_empty found
    rw [held_grow] at emptied
    simp only [putSlot, grow] at emptied ⊢
    omega
  · have grown := held_grow table index
    simp only [held, values, grow] at grown ⊢
    omega

/-- A store counts its slot once. -/
theorem store_counts (table : Indexed) (identity : Identity) (value : Value) :
    (table.store identity value).occupied + table.held =
      table.occupied + (table.store identity value).held := by
  have vacated := vacate_counts table identity.index.toNat
  have vacant : (table.vacate identity.index.toNat).slots[identity.index.toNat]? = some none := by
    simp [getElem?_vacate]
  have filled := held_fill vacant (identity, value)
  simp only [store, putSlot] at filled ⊢
  omega

end Counts

/-- The table is sound, and its count exceeds the slots that hold a value by the excess. -/
structure Counted (type : ElementType) (excess : Nat) (table : Indexed) : Prop where
  sound : table.Sound type
  occupied : table.occupied = table.held + excess

namespace Counted

variable {descriptor : Descriptor} {excess : Nat}

theorem empty (type : ElementType) : Counted type 0 Indexed.empty :=
  ⟨empty_sound type, rfl⟩

theorem emplace {live : Live Indexed} (counted : Counted descriptor.element.type excess live.core)
    (identity : Identity) (value : Value) :
    Ends (Indexed.emplace descriptor identity value) live fun _ after =>
      Counted descriptor.element.type
        (excess + if (Change.emplace identity value).stops descriptor live.core then 1 else 0) after.core := by
  apply (emplace_ends counted.sound identity value).mono
  intro outcome after written
  have before := counted.occupied
  generalize after.core = final at written
  cases written with
  | refused mistyped =>
      simp only [Change.stops, mistyped, decide_false, Bool.false_and, Bool.false_eq_true, if_false]
      exact counted
  | stopped typed stops =>
      have vacated := vacate_counts live.core identity.index.toNat
      have halfway : (Change.emplace identity value).stops descriptor live.core = true := by
        simp [Change.stops, typed, stops, Except.isOk, Except.toBool]
      rw [if_pos halfway]
      exact ⟨counted.sound.vacate _, by omega⟩
  | stored typed replaces =>
      have stored := store_counts live.core identity value
      have through : ¬(Change.emplace identity value).stops descriptor live.core = true := by
        simp [Change.stops, replaces, Except.isOk, Except.toBool]
      rw [if_neg through]
      exact ⟨counted.sound.store identity typed, by omega⟩

theorem remove {live : Live Indexed} (counted : Counted descriptor.element.type excess live.core)
    (identity : Identity) :
    Ends (Indexed.remove descriptor identity) live fun _ after =>
      Counted descriptor.element.type
        (excess + if (Change.remove identity).stops descriptor live.core then 1 else 0) after.core := by
  apply (remove_ends counted.sound identity).mono
  intro outcome after removed
  have before := counted.occupied
  generalize after.core = final at removed
  cases removed with
  | erased disposed =>
      have through : ¬(Change.remove identity).stops descriptor live.core = true := by
        simp [Change.stops, disposed, Except.isOk, Except.toBool]
      rw [if_neg through]
      refine ⟨counted.sound.erase identity, ?_⟩
      cases found : live.core.component identity with
      | none => simpa only [erase, found, Nat.add_zero] using before
      | some value =>
          have emptied := held_empty (component_found found)
          simp only [erase, found, held, values] at before emptied ⊢
          omega
  | stopped fails =>
      have halfway : (Change.remove identity).stops descriptor live.core = true := by
        simp [Change.stops, fails, Except.isOk, Except.toBool]
      rw [if_pos halfway]
      refine ⟨counted.sound.putSlot_none _, ?_⟩
      cases found : live.core.component identity with
      | none =>
          rw [found] at fails
          cases fails
      | some value =>
          have emptied := held_empty (component_found found)
          simp only [putSlot] at emptied ⊢
          omega

/-- One change raises the excess if it stops halfway, and not otherwise. -/
theorem perform {live : Live Indexed} (counted : Counted descriptor.element.type excess live.core)
    (change : Change) :
    Ends (change.perform descriptor) live fun _ after =>
      Counted descriptor.element.type (excess + if change.stops descriptor live.core then 1 else 0)
        after.core := by
  cases change with
  | emplace identity value => exact counted.emplace identity value
  | remove identity =>
      simp only [Change.perform, ends_bind]
      apply (counted.remove identity).mono
      intro outcome after kept
      cases outcome <;> exact kept

theorem changeAll {live : Live Indexed} (counted : Counted descriptor.element.type excess live.core)
    (changes : List Change) :
    Counted descriptor.element.type (excess + stopped descriptor changes live)
      (changeAll descriptor changes live).core := by
  induction changes generalizing live excess with
  | nil => exact counted
  | cons change rest ih =>
      have later := ih (ends_leaves.mp (counted.perform change))
      rw [Nat.add_assoc] at later
      exact later

end Counted

/-- After any changes of a new table, its size is the number of slots that hold a value and, on top of
that, the number of changes that stopped halfway: of writes whose copy was declined and, if there are values
that are not destroyed, of changes that met one. So the size is exact as long as no change has stopped, and
never again after that; a table without values then no longer counts as empty. -/
theorem size_exceeds_held_by_declined (descriptor : Descriptor) (journal : Journal) (changes : List Change) :
    let table := (changeAll descriptor changes ⟨journal, .empty⟩).core
    let declined := changes.countP (Change.declined descriptor)
    let stopped := stopped descriptor changes ⟨journal, .empty⟩
    table.size = table.held + stopped ∧ (table.size = table.held ↔ stopped = 0) ∧
      (table.isEmpty = true ↔ table.held = 0 ∧ stopped = 0) ∧
      (descriptor.element.Releasing → stopped = declined) := by
  intro table declined stopped
  have counted : Counted descriptor.element.type (0 + stopped) table :=
    Counted.changeAll (Counted.empty descriptor.element.type) changes
  have occupied := counted.occupied
  refine ⟨?_, ?_, ?_, fun releasing => stopped_releasing releasing changes _⟩ <;>
    simp only [size, isEmpty, beq_iff_eq] <;> omega

/-- A component of 32-bit words of which 13 cannot be copied. -/
def unlucky : Descriptor := ⟨4, "luck", .entityComponent, .fragile 13⟩

/-- A declined copy in a new table leaves a size of one, and no slot holds a value; so does one that was
to overwrite the only value. -/
theorem size_inexact_after_declined_copy :
    let once := (changeAll unlucky [.emplace ⟨0, 0⟩ (.uint32 13)] ⟨{}, .empty⟩).core
    let again :=
      (changeAll unlucky [.emplace ⟨0, 0⟩ (.uint32 7), .emplace ⟨0, 0⟩ (.uint32 13)] ⟨{}, .empty⟩).core
    once.size = 1 ∧ once.held = 0 ∧ once.isEmpty = false ∧
      again.size = 1 ∧ again.held = 0 ∧ again.isEmpty = false := by
  decide +kernel

end EntityScene.Indexed
