import EntityScene.Proofs.Run
import Mathlib.Algebra.Order.Group.Multiset
import Mathlib.Data.Finset.Card

/-!
The ledger against the storages. For each resource the copies that the ledger records are those that have
ended and those that its storage holds; what it records as destroyed beside the ended copies was discarded
from output buffers. Every act on storages keeps this balance, however it ends.
-/

namespace EntityScene

open Act

variable {σ α β : Type}

/-- What is picked from a list, counted by its places. -/
theorem length_filterMap_eq_card (pick : α → Option β) (list : List α) :
    (list.filterMap pick).length =
      {position ∈ Finset.range list.length | (list[position]?.bind pick).isSome = true}.card := by
  induction list using List.reverseRecOn with
  | nil => rfl
  | append_singleton front last ih =>
      have same : {position ∈ Finset.range front.length |
          ((front ++ [last])[position]?.bind pick).isSome = true} =
            {position ∈ Finset.range front.length | (front[position]?.bind pick).isSome = true} := by
        apply Finset.filter_congr
        intro position inside
        rw [List.getElem?_append_left (Finset.mem_range.mp inside)]
      rw [List.filterMap_append, List.length_append, List.length_append, List.length_singleton,
        Finset.range_add_one, Finset.filter_insert, same, ih]
      cases picked : pick last <;> simp [picked]

namespace Lifecycle

def copied? : Lifecycle → Option Value
  | .copied value => some value
  | _ => none

def destroyed? : Lifecycle → Option Value
  | .destroyed value => some value
  | _ => none

def initialized? : Lifecycle → Option Value
  | .initialized value => some value
  | _ => none

end Lifecycle

namespace Ledger

/-- The values of the resource in the entries that are picked. -/
def noted (pick : Lifecycle → Option Value) (resource : ResourceId) (entries : List LedgerEntry) :
    Multiset Value :=
  entries.filterMap fun entry => if entry.resource = resource then pick entry.event else none

/-- The values of the resource that were copied. -/
def copied (resource : ResourceId) (entries : List LedgerEntry) : Multiset Value :=
  noted Lifecycle.copied? resource entries

/-- The values of the resource that were destroyed. -/
def destroyed (resource : ResourceId) (entries : List LedgerEntry) : Multiset Value :=
  noted Lifecycle.destroyed? resource entries

/-- The values of the resource that initialization gave. -/
def initialized (resource : ResourceId) (entries : List LedgerEntry) : Multiset Value :=
  noted Lifecycle.initialized? resource entries

theorem noted_cons (pick : Lifecycle → Option Value) (resource : ResourceId) (entry : LedgerEntry)
    (entries : List LedgerEntry) :
    noted pick resource (entry :: entries) =
      if entry.resource = resource then (pick entry.event).toList + noted pick resource entries
      else noted pick resource entries := by
  unfold noted
  rw [List.filterMap_cons]
  by_cases here : entry.resource = resource
  · cases picked : pick entry.event <;> simp [here]
  · simp [here]

end Ledger

/-- What is known of a resource when its entries are counted: where the counting began and what was held
then, what was discarded from output buffers since, and how many values were initialized. -/
structure Audit where
  resource : ResourceId
  base : List LedgerEntry
  brought : Multiset Value
  discarded : Multiset Value
  initialized : Nat

namespace Audit

/-- The entries since the base: what was held then and the copies are those that have ended and those that
are held, and the values destroyed are the ended copies and those that were discarded. -/
def Balanced (audit : Audit) (ledger : List LedgerEntry) (held : Multiset Value) : Prop :=
  ∃ (entries : List LedgerEntry) (ended : Multiset Value), ledger = entries ++ audit.base ∧
    Ledger.copied audit.resource entries + audit.brought = ended + held ∧
    Ledger.destroyed audit.resource entries = ended + audit.discarded ∧
    (Ledger.initialized audit.resource entries).card = audit.initialized

/-- Nothing is counted yet. -/
def begun (resource : ResourceId) (ledger : List LedgerEntry) (held : Multiset Value) : Audit :=
  ⟨resource, ledger, held, 0, 0⟩

/-- What the values count for if they belong to the descriptor. -/
def share (audit : Audit) (descriptor : Descriptor) (values : Multiset Value) : Multiset Value :=
  if descriptor.id = audit.resource then values else 0

/-- The value of a buffer is discarded. -/
def discard (audit : Audit) (descriptor : Descriptor) (values : Multiset Value) : Audit :=
  { audit with discarded := audit.share descriptor values + audit.discarded }

/-- Further values are initialized. -/
def provide (audit : Audit) (count : Nat) : Audit :=
  { audit with initialized := audit.initialized + count }

variable {audit : Audit} {ledger : List LedgerEntry} {held rest values : Multiset Value}
  {descriptor : Descriptor} {value : Value}

theorem share_zero (audit : Audit) (descriptor : Descriptor) : audit.share descriptor 0 = 0 := by
  unfold share
  split <;> rfl

theorem provide_provide (audit : Audit) (first second : Nat) :
    (audit.provide first).provide second = audit.provide (first + second) := by
  unfold provide
  rw [Nat.add_assoc]

theorem begun_balanced (resource : ResourceId) (ledger : List LedgerEntry) (held : Multiset Value) :
    (begun resource ledger held).Balanced ledger held := ⟨[], 0, rfl, rfl, rfl, rfl⟩

namespace Balanced

theorem copy (balanced : audit.Balanced ledger (audit.share descriptor values + rest)) :
    audit.Balanced (⟨descriptor.id, .copied value⟩ :: ledger)
      (audit.share descriptor (value ::ₘ values) + rest) := by
  obtain ⟨entries, ended, rfl, copied, destroyed, initialized⟩ := balanced
  refine ⟨⟨descriptor.id, .copied value⟩ :: entries, ended, rfl, ?_⟩
  unfold Ledger.copied Ledger.destroyed Ledger.initialized share at *
  by_cases here : descriptor.id = audit.resource
  · simp_all [Ledger.noted_cons, Lifecycle.copied?, Lifecycle.destroyed?, Lifecycle.initialized?]
  · simp_all [Ledger.noted_cons]

theorem destroy (balanced : audit.Balanced ledger (audit.share descriptor (value ::ₘ values) + rest)) :
    audit.Balanced (⟨descriptor.id, .destroyed value⟩ :: ledger) (audit.share descriptor values + rest) := by
  obtain ⟨entries, ended, rfl, copied, destroyed, initialized⟩ := balanced
  unfold Ledger.copied Ledger.destroyed Ledger.initialized share at *
  by_cases here : descriptor.id = audit.resource
  · refine ⟨⟨descriptor.id, .destroyed value⟩ :: entries, value ::ₘ ended, rfl, ?_⟩
    unfold Ledger.copied Ledger.destroyed Ledger.initialized
    simp_all [Ledger.noted_cons, Lifecycle.copied?, Lifecycle.destroyed?, Lifecycle.initialized?]
  · refine ⟨⟨descriptor.id, .destroyed value⟩ :: entries, ended, rfl, ?_⟩
    unfold Ledger.copied Ledger.destroyed Ledger.initialized
    simp_all [Ledger.noted_cons]

theorem decline (balanced : audit.Balanced ledger held) (resource : ResourceId) :
    audit.Balanced (⟨resource, .declined value⟩ :: ledger) held := by
  obtain ⟨entries, ended, rfl, copied, destroyed, initialized⟩ := balanced
  refine ⟨⟨resource, .declined value⟩ :: entries, ended, rfl, ?_⟩
  unfold Ledger.copied Ledger.destroyed Ledger.initialized at *
  simp_all [Ledger.noted_cons, Lifecycle.copied?, Lifecycle.destroyed?, Lifecycle.initialized?]

theorem discard (balanced : audit.Balanced ledger held) (descriptor : Descriptor) (value : Value) :
    (audit.discard descriptor {value}).Balanced (⟨descriptor.id, .destroyed value⟩ :: ledger) held := by
  obtain ⟨entries, ended, rfl, copied, destroyed, initialized⟩ := balanced
  refine ⟨⟨descriptor.id, .destroyed value⟩ :: entries, ended, rfl, ?_⟩
  unfold Ledger.copied Ledger.destroyed Ledger.initialized Audit.discard share at *
  by_cases here : descriptor.id = audit.resource
  · simp_all [Ledger.noted_cons, Lifecycle.copied?, Lifecycle.destroyed?, Lifecycle.initialized?]
  · simp_all [Ledger.noted_cons]

theorem provide (balanced : audit.Balanced ledger held) (descriptor : Descriptor) (value : Value) :
    (audit.provide (audit.share descriptor {value}).card).Balanced
      (⟨descriptor.id, .initialized value⟩ :: ledger) held := by
  obtain ⟨entries, ended, rfl, copied, destroyed, initialized⟩ := balanced
  refine ⟨⟨descriptor.id, .initialized value⟩ :: entries, ended, rfl, ?_⟩
  unfold Ledger.copied Ledger.destroyed Ledger.initialized Audit.provide share at *
  by_cases here : descriptor.id = audit.resource
  · simp_all [Ledger.noted_cons, Lifecycle.copied?, Lifecycle.destroyed?, Lifecycle.initialized?]
  · simp_all [Ledger.noted_cons]

end Balanced

end Audit

namespace Act

/-- The act carries a condition on the ledger and the state, whatever its outcome. -/
def Carries (condition : List LedgerEntry → σ → Prop) (act : Act σ α) : Prop :=
  ∀ live, condition live.journal.ledger live.core →
    Ends act live fun _ after => condition after.journal.ledger after.core

namespace Carries

variable {condition : List LedgerEntry → σ → Prop}

theorem pure (answer : α) : Carries condition (Pure.pure answer : Act σ α) := fun _ holds => holds

theorem fault (cause : Fault) : Carries condition (Act.fault cause : Act σ α) := fun _ holds => holds

theorem log (level : LogLevel) (text : String) : Carries condition (Act.log level text) :=
  fun _ holds => holds

theorem ofExcept (outcome : Except Fault α) : Carries condition (Act.ofExcept outcome : Act σ α) := by
  intro live holds
  rw [ends_ofExcept]
  exact holds

theorem update {change : σ → σ}
    (kept : ∀ ledger state, condition ledger state → condition ledger (change state)) :
    Carries condition (Act.update change) := fun live holds => kept live.journal.ledger live.core holds

theorem bind {act : Act σ α} {next : α → Act σ β} (first : Carries condition act)
    (rest : ∀ answer, Carries condition (next answer)) : Carries condition (act >>= next) := by
  intro live holds
  rw [ends_bind]
  refine (first live holds).mono ?_
  intro outcome after kept
  cases outcome with
  | ok answer => exact rest answer after kept
  | error cause => exact kept

theorem bind_core {next : σ → Act σ β} (rest : ∀ state, Carries condition (next state)) :
    Carries condition (core >>= next) := by
  intro live holds
  rw [ends_bind, ends_core]
  exact rest live.core live holds

end Carries

end Act

section Values

variable {audit : Audit} {rest : Multiset Value} {descriptor : Descriptor} {value : Value} {live : Live σ}

/-- Destroying values of the type takes them off what is held. -/
theorem Descriptor.destroyAll_balanced {values : List Value} (releasing : descriptor.element.Releasing)
    (typed : ∀ value ∈ values, value.type = descriptor.element.type)
    (balanced : audit.Balanced live.journal.ledger (audit.share descriptor values + rest)) :
    Ends (descriptor.destroyAll values) live fun outcome after =>
      outcome = .ok () ∧ after.core = live.core ∧ audit.Balanced after.journal.ledger rest := by
  induction values generalizing live with
  | nil =>
      rw [Multiset.coe_nil, Audit.share_zero, Multiset.zero_add] at balanced
      exact ⟨rfl, rfl, balanced⟩
  | cons value values ih =>
      unfold destroyAll
      rw [ends_bind, Descriptor.ends_destroy_released (typed value List.mem_cons_self) (releasing value)]
      exact ih (fun other member => typed other (List.mem_cons_of_mem _ member)) balanced.destroy

/-- A copy that is made in a place and put there counts as held. -/
theorem Descriptor.copy_balanced (cells : σ → Multiset Value) {next : Value → Act σ Unit}
    (typed : value.type = descriptor.element.type)
    (balanced : audit.Balanced live.journal.ledger (audit.share descriptor (cells live.core) + rest))
    (stores : ∀ journal, Ends (next value) ⟨journal, live.core⟩ fun _ after =>
      after.journal = journal ∧ cells after.core = value ::ₘ cells live.core) :
    Ends (descriptor.copy value >>= next) live fun _ after =>
      audit.Balanced after.journal.ledger (audit.share descriptor (cells after.core) + rest) := by
  rw [ends_bind, Descriptor.ends_copy typed]
  cases descriptor.element.declines value with
  | some message => exact balanced.decline descriptor.id
  | none =>
      dsimp only [continues_ok]
      refine (stores _).mono ?_
      rintro outcome after ⟨same, stored⟩
      rw [same, stored]
      exact balanced.copy

theorem Scalar.emplace_balanced {live : Live Scalar} (releasing : descriptor.element.Releasing)
    (sound : Scalar.Sound descriptor.element.type live.core)
    (balanced : audit.Balanced live.journal.ledger (audit.share descriptor live.core.toList + rest))
    (value : Value) :
    Ends (Scalar.emplace descriptor value) live fun _ after =>
      audit.Balanced after.journal.ledger (audit.share descriptor after.core.toList + rest) := by
  unfold Scalar.emplace
  rw [ends_bind, Descriptor.ends_check]
  split
  · rename_i typed
    rw [continues_ok, ends_bind, ends_core, continues_ok]
    have copied (journal : Journal) (vacated : audit.Balanced journal.ledger (audit.share descriptor 0 + rest)) :
        Ends (do let copy ← descriptor.copy value; Act.setCore (some copy)) ⟨journal, none⟩ fun _ after =>
          audit.Balanced after.journal.ledger (audit.share descriptor after.core.toList + rest) := by
      refine Descriptor.copy_balanced (fun scalar : Scalar => (scalar.toList : Multiset Value)) typed ?_
        fun _ => ⟨rfl, rfl⟩
      exact vacated
    rcases live with ⟨journal, _ | previous⟩
    · exact copied journal balanced
    · rw [ends_bind, ends_setCore, continues_ok, ends_bind,
        Descriptor.ends_destroy_released (sound _ rfl) (releasing _)]
      exact copied _ balanced.destroy
  · exact balanced

theorem Scalar.release_balanced {live : Live Scalar} (releasing : descriptor.element.Releasing)
    (sound : Scalar.Sound descriptor.element.type live.core)
    (balanced : audit.Balanced live.journal.ledger (audit.share descriptor live.core.toList + rest)) :
    Ends (Scalar.release descriptor) live fun outcome after =>
      outcome = .ok () ∧ after.core = none ∧ audit.Balanced after.journal.ledger rest := by
  have typed : ∀ value ∈ live.core.toList, value.type = descriptor.element.type :=
    fun value member => sound value (Option.mem_toList.mp member)
  unfold Scalar.release
  rw [ends_bind, ends_core, continues_ok, ends_bind, ends_setCore, continues_ok]
  refine Descriptor.destroyAll_balanced releasing typed ?_
  exact balanced

theorem Events.push_balanced {live : Live Events}
    (balanced : audit.Balanced live.journal.ledger (audit.share descriptor live.core + rest)) (value : Value) :
    Ends (Events.push descriptor value) live fun _ after =>
      audit.Balanced after.journal.ledger (audit.share descriptor after.core + rest) := by
  unfold Events.push
  rw [ends_bind, Descriptor.ends_check]
  split
  · rename_i typed
    refine Descriptor.copy_balanced (fun events : Events => (events : Multiset Value)) typed balanced
      fun _ => ⟨rfl, ?_⟩
    rw [← Multiset.coe_add, Multiset.add_comm]
    rfl
  · exact balanced

theorem Events.clear_balanced {live : Live Events} (releasing : descriptor.element.Releasing)
    (sound : Events.Sound descriptor.element.type live.core)
    (balanced : audit.Balanced live.journal.ledger (audit.share descriptor live.core + rest)) :
    Ends (Events.clear descriptor) live fun outcome after =>
      outcome = .ok () ∧ after.core = [] ∧ audit.Balanced after.journal.ledger rest := by
  unfold Events.clear
  rw [ends_bind, ends_core, continues_ok, ends_bind, ends_setCore, continues_ok]
  refine Descriptor.destroyAll_balanced releasing sound ?_
  exact balanced

end Values

namespace Indexed

/-- The value in a slot. -/
def slotValues (slot : Option (Identity × Value)) : Multiset Value := (slot.map Prod.snd).toList

theorem slotValues_set {slots : List (Option (Identity × Value))} {index : Nat}
    {old : Option (Identity × Value)} (found : slots[index]? = some old) (new : Option (Identity × Value)) :
    slotValues old + ((slots.set index new).filterMap fun slot => slot.map Prod.snd) =
      slotValues new + (slots.filterMap fun slot => slot.map Prod.snd) := by
  have cons (slot : Option (Identity × Value)) (rest : List (Option (Identity × Value))) :
      (((slot :: rest).filterMap fun slot => slot.map Prod.snd : List Value) : Multiset Value) =
        slotValues slot + (rest.filterMap fun slot => slot.map Prod.snd) := by
    cases slot <;> rfl
  induction slots generalizing index with
  | nil => cases found
  | cons first rest ih =>
      cases index with
      | zero =>
          cases found
          rw [List.set_cons_zero, cons, cons, add_left_comm]
      | succ index =>
          rw [List.set_cons_succ, cons, cons, add_left_comm, ih found, add_left_comm]

/-- Putting something else into a slot exchanges the value there. -/
theorem values_putSlot {table : Indexed} {index : Nat} {old : Option (Identity × Value)}
    (found : table.slots[index]? = some old) (new : Option (Identity × Value)) :
    slotValues old + ((table.putSlot index new).values : Multiset Value) = slotValues new + table.values := by
  unfold values putSlot
  rw [Array.toList_setIfInBounds]
  rw [← Array.getElem?_toList] at found
  exact slotValues_set found new

theorem values_vacated {table : Indexed} {index : Nat} {owner : Identity} {value : Value}
    (found : table.slots[index]? = some (some (owner, value))) :
    (table.values : Multiset Value) = value ::ₘ (table.putSlot index none).values := by
  have exchanged := values_putSlot found none
  simpa [slotValues] using exchanged.symm

theorem values_grow (table : Indexed) (index : Nat) : (table.grow index).values = table.values := by
  unfold values grow
  rw [Array.toList_append, List.filterMap_append, Array.toList_replicate]
  simp

section Tables

variable {audit : Audit} {rest : Multiset Value} {descriptor : Descriptor} {live : Live Indexed}

theorem emplace_balanced (releasing : descriptor.element.Releasing)
    (sound : Sound descriptor.element.type live.core)
    (balanced : audit.Balanced live.journal.ledger (audit.share descriptor live.core.values + rest))
    (identity : Identity) (value : Value) :
    Ends (emplace descriptor identity value) live fun _ after =>
      audit.Balanced after.journal.ledger (audit.share descriptor after.core.values + rest) := by
  unfold emplace
  rw [ends_bind, Descriptor.ends_check]
  split
  · rename_i typed
    simp only [continues_ok, ends_bind, ends_update, ends_core]
    rw [← values_grow live.core identity.index.toNat] at balanced
    have copied (journal : Journal) {table : Indexed}
        (vacant : table.slots[identity.index.toNat]? = some none)
        (vacated : audit.Balanced journal.ledger (audit.share descriptor table.values + rest)) :
        Ends (do
            let copy ← descriptor.copy value
            Act.update fun table => table.putSlot identity.index.toNat (some (identity, copy)))
          ⟨journal, table⟩ fun _ after =>
            audit.Balanced after.journal.ledger (audit.share descriptor after.core.values + rest) := by
      refine Descriptor.copy_balanced (fun table : Indexed => (table.values : Multiset Value)) typed ?_
        fun _ => ⟨rfl, values_putSlot vacant (some (identity, value))⟩
      exact vacated
    split
    · rename_i owner previous held
      have previousTyped := (sound.grow _ _ _ _ held).2
      rw [ends_bind, ends_update, continues_ok, ends_bind,
        Descriptor.ends_destroy_released previousTyped (releasing _)]
      have vacant : ((live.core.grow identity.index.toNat).putSlot identity.index.toNat none).slots[
          identity.index.toNat]? = some none := by
        simp [putSlot, (Array.getElem?_eq_some_iff.mp held).1]
      refine copied _ vacant ?_
      rw [values_vacated held] at balanced
      exact balanced.destroy
    · rename_i notHeld
      rw [ends_bind, ends_update]
      refine copied live.journal ?_ balanced
      have inside : identity.index.toNat < (live.core.grow identity.index.toNat).slots.size := by
        simp only [grow, Array.size_append, Array.size_replicate]
        omega
      have found := Array.getElem?_eq_getElem inside
      cases held : (live.core.grow identity.index.toNat).slots[identity.index.toNat] with
      | none => rw [found, held]
      | some entry =>
          rw [held] at found
          exact absurd found (notHeld entry.1 entry.2)
  · exact balanced

theorem remove_balanced (releasing : descriptor.element.Releasing)
    (sound : Sound descriptor.element.type live.core)
    (balanced : audit.Balanced live.journal.ledger (audit.share descriptor live.core.values + rest))
    (identity : Identity) :
    Ends (remove descriptor identity) live fun _ after =>
      audit.Balanced after.journal.ledger (audit.share descriptor after.core.values + rest) := by
  unfold remove
  rw [ends_bind, ends_core, continues_ok]
  split
  · rename_i value held
    have found := component_found held
    rw [ends_bind, ends_update, continues_ok, ends_bind,
      Descriptor.ends_destroy_released (sound _ _ _ found).2 (releasing _)]
    rw [continues_ok, ends_bind, ends_update, continues_ok, ends_pure]
    rw [values_vacated found] at balanced
    exact balanced.destroy
  · exact balanced

theorem release_balanced (releasing : descriptor.element.Releasing)
    (sound : Sound descriptor.element.type live.core)
    (balanced : audit.Balanced live.journal.ledger (audit.share descriptor live.core.values + rest)) :
    Ends (release descriptor) live fun outcome after =>
      outcome = .ok () ∧ after.core = empty ∧ audit.Balanced after.journal.ledger rest := by
  have typed : ∀ value ∈ live.core.values, value.type = descriptor.element.type := by
    intro value member
    obtain ⟨slot, found, held⟩ := List.mem_filterMap.mp member
    obtain ⟨⟨owner, _⟩, rfl, rfl⟩ := Option.map_eq_some_iff.mp held
    obtain ⟨index, here⟩ := List.getElem?_of_mem found
    rw [Array.getElem?_toList] at here
    exact (sound index owner _ here).2
  unfold release
  rw [ends_bind, ends_core, continues_ok]
  dsimp only
  rw [ends_bind, ends_setCore, continues_ok]
  refine Descriptor.destroyAll_balanced releasing typed ?_
  exact balanced

end Tables

end Indexed

/-- The values in the cells. -/
def Cells.held : Cells → Multiset Value
  | .scalar value => value.toList
  | .indexed table => table.values
  | .events list => list
  | .requests => 0

namespace Storage

/-- The storage serves the resource, whose values are all destroyed when they are to be, and the ledger is
balanced with what it holds and the rest. -/
structure Audited (audit : Audit) (rest : Multiset Value) (descriptor : Descriptor)
    (ledger : List LedgerEntry) (storage : Storage) : Prop where
  serves : Serves descriptor storage
  releasing : descriptor.element.Releasing
  balanced : audit.Balanced ledger (audit.share descriptor storage.cells.held + rest)

section Shapes

variable {audit : Audit} {rest : Multiset Value} {descriptor : Descriptor}

theorem carries_onScalar {act : Descriptor → Act Scalar α} (serves : Keeps (Serves descriptor) (onScalar act))
    (balances : descriptor.element.Releasing → ∀ live : Live Scalar, Scalar.Sound descriptor.element.type live.core →
      audit.Balanced live.journal.ledger (audit.share descriptor live.core.toList + rest) →
        Ends (act descriptor) live fun _ after =>
          audit.Balanced after.journal.ledger (audit.share descriptor after.core.toList + rest)) :
    Carries (Audited audit rest descriptor) (onScalar act) := by
  rintro ⟨journal, own, cells⟩ audited
  have releasing := audited.releasing
  refine ((serves _ audited.serves).and ?_).mono fun _ _ both => ⟨both.1, releasing, both.2⟩
  obtain ⟨⟨rfl, _, values⟩, _, balanced⟩ := audited
  cases cells with
  | scalar value =>
      rw [ends_onScalar]
      exact balances releasing ⟨journal, value⟩ values balanced
  | indexed | events | requests => exact balanced

theorem carries_onIndexed {act : Descriptor → Act Indexed α}
    (serves : Keeps (Serves descriptor) (onIndexed act))
    (balances : descriptor.element.Releasing → ∀ live : Live Indexed, Indexed.Sound descriptor.element.type live.core →
      audit.Balanced live.journal.ledger (audit.share descriptor live.core.values + rest) →
        Ends (act descriptor) live fun _ after =>
          audit.Balanced after.journal.ledger (audit.share descriptor after.core.values + rest)) :
    Carries (Audited audit rest descriptor) (onIndexed act) := by
  rintro ⟨journal, own, cells⟩ audited
  have releasing := audited.releasing
  refine ((serves _ audited.serves).and ?_).mono fun _ _ both => ⟨both.1, releasing, both.2⟩
  obtain ⟨⟨rfl, _, values⟩, _, balanced⟩ := audited
  cases cells with
  | indexed table =>
      rw [ends_onIndexed]
      exact balances releasing ⟨journal, table⟩ values balanced
  | scalar | events | requests => exact balanced

theorem carries_onEvents {act : Descriptor → Act Events α} (serves : Keeps (Serves descriptor) (onEvents act))
    (balances : descriptor.element.Releasing → ∀ live : Live Events, Events.Sound descriptor.element.type live.core →
      audit.Balanced live.journal.ledger (audit.share descriptor live.core + rest) →
        Ends (act descriptor) live fun _ after =>
          audit.Balanced after.journal.ledger (audit.share descriptor after.core + rest)) :
    Carries (Audited audit rest descriptor) (onEvents act) := by
  rintro ⟨journal, own, cells⟩ audited
  have releasing := audited.releasing
  refine ((serves _ audited.serves).and ?_).mono fun _ _ both => ⟨both.1, releasing, both.2⟩
  obtain ⟨⟨rfl, _, values⟩, _, balanced⟩ := audited
  cases cells with
  | events list =>
      rw [ends_onEvents]
      exact balances releasing ⟨journal, list⟩ values balanced
  | scalar | indexed | requests => exact balanced

end Shapes

section Writes

variable (audit : Audit) (rest : Multiset Value) (descriptor : Descriptor)

theorem emplaceScalar_carries (value : Value) :
    Carries (Audited audit rest descriptor) (onScalar fun descriptor => Scalar.emplace descriptor value) :=
  carries_onScalar (keeps_emplaceScalar value) fun releasing _ sound balanced =>
    Scalar.emplace_balanced releasing sound balanced value

theorem emplaceIndexed_carries (identity : Identity) (value : Value) :
    Carries (Audited audit rest descriptor)
      (onIndexed fun descriptor => Indexed.emplace descriptor identity value) :=
  carries_onIndexed (keeps_emplaceIndexed identity value) fun releasing _ sound balanced =>
    Indexed.emplace_balanced releasing sound balanced identity value

theorem clearEvents_carries : Carries (Audited audit rest descriptor) (onEvents Events.clear) := by
  refine carries_onEvents keeps_clearEvents fun releasing live sound balanced => ?_
  refine (Events.clear_balanced releasing sound balanced).mono ?_
  rintro _ after ⟨_, cleared, balanced'⟩
  rw [cleared, Multiset.coe_nil, Audit.share_zero, zero_add]
  exact balanced'

theorem endTick_carries : Carries (Audited audit rest descriptor) endTick := by
  rintro ⟨journal, own, cells⟩ audited
  cases cells with
  | events list => exact clearEvents_carries audit rest descriptor ⟨journal, own, .events list⟩ audited
  | scalar | indexed | requests => exact audited

theorem write_carries (change : Write) : Carries (Audited audit rest descriptor) change.perform := by
  cases change with
  | emplaceScalar value => exact emplaceScalar_carries audit rest descriptor value
  | emplaceIndexed identity value => exact emplaceIndexed_carries audit rest descriptor identity value
  | removeIndexed identity =>
      refine .bind (carries_onIndexed (keeps_removeIndexed identity) fun releasing _ sound balanced => ?_)
        fun _ => .pure ()
      exact Indexed.remove_balanced releasing sound balanced identity
  | pushEvent value =>
      refine carries_onEvents (keeps_pushEvent value) fun _ _ _ balanced => ?_
      exact Events.push_balanced balanced value
  | clearEvents => exact clearEvents_carries audit rest descriptor
  | endTick => exact endTick_carries audit rest descriptor

/-- Releasing a storage does not fault and leaves nothing held. -/
theorem release_balanced {audit : Audit} {rest : Multiset Value} {descriptor : Descriptor} {live : Live Storage}
    (audited : Audited audit rest descriptor live.journal.ledger live.core) :
    Ends release live fun outcome after =>
      outcome = .ok () ∧ after.core.cells.held = 0 ∧
        Audited audit rest descriptor after.journal.ledger after.core := by
  obtain ⟨journal, own, cells⟩ := live
  obtain ⟨⟨rfl, shape, values⟩, releasing, balanced⟩ := audited
  have emptied {ledger : List LedgerEntry} (balanced : audit.Balanced ledger rest) :
      audit.Balanced ledger (audit.share own 0 + rest) := by
    rw [Audit.share_zero, zero_add]
    exact balanced
  unfold release within
  rw [ends_bind, ends_core, continues_ok]
  cases cells with
  | scalar value =>
      have sound : Scalar.Sound own.element.type value := values
      have balances := @Scalar.release_balanced audit rest own ⟨journal, value⟩ releasing sound balanced
      refine ends_focus.mpr (balances.mono ?_)
      rintro _ after ⟨rfl, cleared, balanced'⟩
      rw [cleared]
      exact ⟨rfl, rfl, ⟨rfl, shape, fun _ held => nomatch held⟩, releasing, emptied balanced'⟩
  | indexed table =>
      have sound : Indexed.Sound own.element.type table := values
      have balances := @Indexed.release_balanced audit rest own ⟨journal, table⟩ releasing sound balanced
      refine ends_focus.mpr (balances.mono ?_)
      rintro _ after ⟨rfl, cleared, balanced'⟩
      rw [cleared]
      exact ⟨rfl, rfl, ⟨rfl, shape, Indexed.empty_sound _⟩, releasing, emptied balanced'⟩
  | events list =>
      have sound : Events.Sound own.element.type list := values
      have balances := @Events.clear_balanced audit rest own ⟨journal, list⟩ releasing sound balanced
      refine ends_focus.mpr (balances.mono ?_)
      rintro _ after ⟨rfl, cleared, balanced'⟩
      rw [cleared]
      exact ⟨rfl, rfl, ⟨rfl, shape, fun _ member => nomatch member⟩, releasing, emptied balanced'⟩
  | requests => exact ⟨rfl, rfl, ⟨rfl, shape, values⟩, releasing, balanced⟩

end Writes

end Storage

end EntityScene
