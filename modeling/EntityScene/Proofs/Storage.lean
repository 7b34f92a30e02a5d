import EntityScene.Proofs.Act
import EntityScene.Storage

/-!
What the storages hold. The cells of a storage have the shape of its resource's kind, their values have
the resource's type, and each slot of a table is owned by an identity with the slot's index. Writing
keeps this, also when it stops halfway.
-/

namespace EntityScene

open Act

variable {σ : Type}

section Values

variable {descriptor : Descriptor} {value : Value} {live : Live σ}

theorem Descriptor.ends_check {post : Except Fault Unit → Live σ → Prop} :
    Ends (descriptor.check value) live post ↔
      if value.type = descriptor.element.type then post (.ok ()) live
      else post (.error (.wrongElement descriptor.label)) live := by
  unfold check
  split <;> rfl

/-- A value of the type is destroyed unless the element fails to. The ledger records either. -/
theorem Descriptor.ends_destroy {post : Except Fault Unit → Live σ → Prop}
    (typed : value.type = descriptor.element.type) :
    Ends (descriptor.destroy value) live post ↔
      match descriptor.element.retains value with
      | some message =>
        post (.error (.destroyRefused message))
          { live with
            journal.ledger := ⟨descriptor.id, .retained value⟩ :: live.journal.ledger }
      | none =>
        post (.ok ())
          { live with
            journal.ledger := ⟨descriptor.id, .destroyed value⟩ :: live.journal.ledger } := by
  unfold destroy
  rw [if_pos typed]
  cases descriptor.element.retains value <;> rfl

theorem Descriptor.ends_destroy_released {post : Except Fault Unit → Live σ → Prop}
    (typed : value.type = descriptor.element.type) (released : descriptor.element.retains value = none) :
    Ends (descriptor.destroy value) live post ↔
      post (.ok ())
        { live with
          journal.ledger := ⟨descriptor.id, .destroyed value⟩ :: live.journal.ledger } := by
  rw [ends_destroy typed, released]

/-- A value of the type is copied unless the element declines it. The ledger records either. -/
theorem Descriptor.ends_copy {post : Except Fault Value → Live σ → Prop}
    (typed : value.type = descriptor.element.type) :
    Ends (descriptor.copy value) live post ↔
      match descriptor.element.declines value with
      | some message =>
        post (.error (.copyRefused message))
          { live with
            journal.ledger := ⟨descriptor.id, .declined value⟩ :: live.journal.ledger }
      | none =>
        post (.ok value)
          { live with
            journal.ledger := ⟨descriptor.id, .copied value⟩ :: live.journal.ledger } := by
  unfold copy
  rw [if_pos typed]
  cases descriptor.element.declines value <;> rfl

/-- How the destruction of values of the type ends. -/
def Descriptor.disposal (descriptor : Descriptor) : List Value → Except Fault Unit
  | [] => .ok ()
  | value :: rest =>
    match descriptor.element.retains value with
    | some message => .error (.destroyRefused message)
    | none => descriptor.disposal rest

/-- Destroying values of the type leaves the state alone. -/
theorem Descriptor.destroyAll_ends {values : List Value}
    (typed : ∀ value ∈ values, value.type = descriptor.element.type) :
    Ends (descriptor.destroyAll values) live fun outcome after =>
      outcome = descriptor.disposal values ∧ after.core = live.core := by
  induction values generalizing live with
  | nil => exact ⟨rfl, rfl⟩
  | cons value rest ih =>
      unfold destroyAll disposal
      rw [ends_bind, Descriptor.ends_destroy (typed value List.mem_cons_self)]
      cases descriptor.element.retains value with
      | some message => exact ⟨rfl, rfl⟩
      | none => exact ih fun other member => typed other (List.mem_cons_of_mem _ member)

/-- The destruction of values ends in a fault only if it fails for one of them. -/
theorem Descriptor.disposal_error {values : List Value} {cause : Fault}
    (fails : descriptor.disposal values = .error cause) :
    ∃ value ∈ values, ∃ message, descriptor.element.retains value = some message ∧
      cause = .destroyRefused message := by
  induction values with
  | nil => cases fails
  | cons value rest ih =>
      unfold disposal at fails
      cases retains : descriptor.element.retains value with
      | some message =>
          rw [retains] at fails
          exact ⟨value, List.mem_cons_self, message, retains, (Except.error.inj fails).symm⟩
      | none =>
          rw [retains] at fails
          obtain ⟨other, member, failure⟩ := ih fails
          exact ⟨other, List.mem_cons_of_mem _ member, failure⟩

theorem Descriptor.disposal_ok (releasing : descriptor.element.Releasing) (values : List Value) :
    descriptor.disposal values = .ok () := by
  cases disposed : descriptor.disposal values with
  | ok _ => rfl
  | error cause =>
      obtain ⟨other, _, message, retains, _⟩ := disposal_error disposed
      rw [releasing other] at retains
      cases retains

/-- How the replacing of values by a copy of a value of the type ends: the old values are destroyed, and
then the copy is made. -/
def Descriptor.replacing (descriptor : Descriptor) (held : List Value) (value : Value) : Except Fault Unit :=
  match descriptor.disposal held, descriptor.element.declines value with
  | .error cause, _ => .error cause
  | .ok _, some message => .error (.copyRefused message)
  | .ok _, none => .ok ()

end Values

/-- How the writing of a value in the place of others ends: a value of another type changes nothing, a value
that cannot replace them leaves the place vacated, and any other value takes the place. -/
inductive Written {γ : Type} (descriptor : Descriptor) (held : List Value) (value : Value)
    (before vacated stored : γ) : Except Fault Unit → γ → Prop
  | refused (mistyped : value.type ≠ descriptor.element.type) :
    Written descriptor held value before vacated stored (.error (.wrongElement descriptor.label)) before
  | stopped {cause : Fault} (typed : value.type = descriptor.element.type)
    (stops : descriptor.replacing held value = .error cause) :
    Written descriptor held value before vacated stored (.error cause) vacated
  | stored (typed : value.type = descriptor.element.type)
    (replaces : descriptor.replacing held value = .ok ()) :
    Written descriptor held value before vacated stored (.ok ()) stored

section Replacing

variable {γ : Type} {descriptor : Descriptor} {held : List Value} {value : Value}

/-- A replacing that stops does so because of an old value or because of the new one. -/
theorem Descriptor.replacing_error {cause : Fault} (stops : descriptor.replacing held value = .error cause) :
    (∃ old ∈ held, ∃ message, descriptor.element.retains old = some message ∧ cause = .destroyRefused message) ∨
      ∃ message, descriptor.element.declines value = some message ∧ cause = .copyRefused message := by
  unfold replacing at stops
  cases disposed : descriptor.disposal held with
  | error other =>
      rw [disposed] at stops
      cases stops
      exact .inl (disposal_error disposed)
  | ok _ =>
      rw [disposed] at stops
      cases declines : descriptor.element.declines value with
      | some message =>
          rw [declines] at stops
          exact .inr ⟨message, rfl, (Except.error.inj stops).symm⟩
      | none =>
          rw [declines] at stops
          cases stops

theorem Descriptor.replacing_ok (replaces : descriptor.replacing held value = .ok ()) :
    descriptor.disposal held = .ok () ∧ descriptor.element.declines value = none := by
  unfold replacing at replaces
  split at replaces
  · cases replaces
  · cases replaces
  · rename_i disposed accepts
    exact ⟨disposed, accepts⟩

theorem Descriptor.disposal_isOk (descriptor : Descriptor) (old : Option Value) :
    (descriptor.disposal old.toList).isOk = !old.any fun held => (descriptor.element.retains held).isSome := by
  cases old with
  | none => rfl
  | some held =>
      cases retains : descriptor.element.retains held <;>
        simp [disposal, retains, Except.isOk, Except.toBool]

/-- What decides whether a value can take the place of another one. -/
theorem Descriptor.replacing_isOk (descriptor : Descriptor) (old : Option Value) (value : Value) :
    (descriptor.replacing old.toList value).isOk =
      !((descriptor.element.declines value).isSome ||
        old.any fun held => (descriptor.element.retains held).isSome) := by
  cases old with
  | none =>
      cases declines : descriptor.element.declines value <;>
        simp [replacing, disposal, declines, Except.isOk, Except.toBool]
  | some held =>
      cases retains : descriptor.element.retains held <;> cases declines : descriptor.element.declines value <;>
        simp [replacing, disposal, retains, declines, Except.isOk, Except.toBool]

/-- Where the old values can be destroyed, only the copy counts. -/
theorem Descriptor.replacing_disposed (disposed : descriptor.disposal held = .ok ()) :
    descriptor.replacing held value =
      match descriptor.element.declines value with
      | some message => .error (.copyRefused message)
      | none => .ok () := by
  unfold replacing
  rw [disposed]
  cases descriptor.element.declines value <;> rfl

variable {before vacated stored : γ} {outcome : Except Fault Unit} {after : γ}

/-- What holds before, in between and after the writing holds however it ends. -/
theorem Written.elim (written : Written descriptor held value before vacated stored outcome after)
    {condition : γ → Prop} (first : condition before) (second : condition vacated)
    (third : value.type = descriptor.element.type → condition stored) : condition after := by
  cases written with
  | refused => exact first
  | stopped => exact second
  | stored typed => exact third typed

/-- How a writing ends is determined by the value and the place. -/
theorem Written.unique {outcome' : Except Fault Unit} {after' : γ}
    (written : Written descriptor held value before vacated stored outcome after)
    (written' : Written descriptor held value before vacated stored outcome' after') :
    outcome' = outcome ∧ after' = after := by
  cases written with
  | refused mistyped =>
      cases written' with
      | refused => exact ⟨rfl, rfl⟩
      | stopped typed | stored typed => exact absurd typed mistyped
  | stopped typed stops =>
      cases written' with
      | refused mistyped => exact absurd typed mistyped
      | stopped _ stops' =>
          rw [stops] at stops'
          cases stops'
          exact ⟨rfl, rfl⟩
      | stored _ replaces =>
          rw [stops] at replaces
          cases replaces
  | stored typed replaces =>
      cases written' with
      | refused mistyped => exact absurd typed mistyped
      | stopped _ stops =>
          rw [replaces] at stops
          cases stops
      | stored => exact ⟨rfl, rfl⟩

end Replacing

/-- The copy that ends a writing is made in the vacated place. -/
theorem Descriptor.copy_written {descriptor : Descriptor} {held : List Value} {value : Value} {live : Live σ}
    {before stored : σ} {next : Value → Act σ Unit} (typed : value.type = descriptor.element.type)
    (disposed : descriptor.disposal held = .ok ())
    (stores : ∀ journal, Ends (next value) ⟨journal, live.core⟩ fun outcome after =>
      outcome = .ok () ∧ after.core = stored) :
    Ends (descriptor.copy value >>= next) live fun outcome after =>
      Written descriptor held value before live.core stored outcome after.core := by
  have replacing : descriptor.replacing held value = _ := replacing_disposed disposed
  rw [ends_bind, Descriptor.ends_copy typed]
  cases declines : descriptor.element.declines value with
  | some message =>
      rw [declines] at replacing
      exact .stopped typed replacing
  | none =>
      rw [declines] at replacing
      dsimp only [continues_ok]
      refine (stores _).mono ?_
      rintro outcome after ⟨rfl, stored⟩
      rw [stored]
      exact .stored typed replacing

/-- A writing in the place of a value destroys that value first, and stops there if that fails. -/
theorem Descriptor.destroy_written {descriptor : Descriptor} {old value : Value} {live : Live σ}
    {before stored : σ} {next : Unit → Act σ Unit} (oldTyped : old.type = descriptor.element.type)
    (typed : value.type = descriptor.element.type)
    (copies : descriptor.disposal [old] = .ok () → ∀ journal, Ends (next ()) ⟨journal, live.core⟩ fun outcome after =>
      Written descriptor [old] value before live.core stored outcome after.core) :
    Ends (descriptor.destroy old >>= next) live fun outcome after =>
      Written descriptor [old] value before live.core stored outcome after.core := by
  rw [ends_bind, Descriptor.ends_destroy oldTyped]
  cases retains : descriptor.element.retains old with
  | some message =>
      have stops : descriptor.replacing [old] value = .error (.destroyRefused message) := by
        simp [replacing, disposal, retains]
      exact .stopped typed stops
  | none =>
      have disposed : descriptor.disposal [old] = .ok () := by simp [disposal, retains]
      exact copies disposed _

/-- The value of a scene component has the type. -/
def Scalar.Sound (type : ElementType) (scalar : Scalar) : Prop :=
  ∀ value, scalar = some value → value.type = type

theorem Scalar.emplace_ends {descriptor : Descriptor} {live : Live Scalar}
    (sound : Scalar.Sound descriptor.element.type live.core) (value : Value) :
    Ends (Scalar.emplace descriptor value) live fun outcome after =>
      Written descriptor live.core.toList value live.core none (some value) outcome after.core := by
  unfold Scalar.emplace
  rw [ends_bind, Descriptor.ends_check]
  split
  · rename_i typed
    rw [continues_ok, ends_bind, ends_core, continues_ok]
    have copied (disposed : descriptor.disposal live.core.toList = .ok ()) (journal : Journal) :
        Ends (do let copy ← descriptor.copy value; Act.setCore (some copy)) ⟨journal, none⟩ fun outcome after =>
          Written descriptor live.core.toList value live.core none (some value) outcome after.core :=
      Descriptor.copy_written typed disposed fun _ => ⟨rfl, rfl⟩
    rcases live with ⟨journal, _ | previous⟩
    · exact copied rfl _
    · rw [ends_bind, ends_setCore, continues_ok]
      exact Descriptor.destroy_written (sound _ rfl) typed copied
  · rename_i mistyped
    exact .refused mistyped

namespace Indexed

/-- Each slot is owned by an identity with its index and holds a value of the type. -/
def Sound (type : ElementType) (table : Indexed) : Prop :=
  ∀ (index : Nat) (owner : Identity) (value : Value),
    table.slots[index]? = some (some (owner, value)) → owner.index.toNat = index ∧ value.type = type

/-- The table without what it holds at the index; a slot that was empty counts as used. -/
def vacate (table : Indexed) (index : Nat) : Indexed :=
  match (table.grow index).slots[index]? with
  | some (some _) => (table.grow index).putSlot index none
  | _ => { table.grow index with occupied := table.occupied + 1 }

/-- The table with a value for an identity. -/
def store (table : Indexed) (identity : Identity) (value : Value) : Indexed :=
  (table.vacate identity.index.toNat).putSlot identity.index.toNat (some (identity, value))

theorem getElem?_grow (table : Indexed) (index other : Nat) :
    (table.grow index).slots[other]? =
      if other < table.slots.size then table.slots[other]?
      else if other ≤ index then some none else none := by
  unfold grow
  rw [Array.getElem?_append]
  split
  · rfl
  · rw [Array.getElem?_replicate]
    split <;> split <;> first | rfl | omega

theorem getElem?_vacate (table : Indexed) (index other : Nat) :
    (table.vacate index).slots[other]? =
      if other = index then some none else (table.grow index).slots[other]? := by
  have inside : index < (table.grow index).slots.size := by
    simp only [grow, Array.size_append, Array.size_replicate]
    omega
  unfold vacate
  split
  · simp only [putSlot, Array.getElem?_setIfInBounds, inside, if_true, eq_comm]
  · rename_i notHeld
    dsimp only
    by_cases same : other = index
    · subst same
      rw [if_pos rfl]
      cases found : (table.grow other).slots[other]? with
      | none =>
          rw [Array.getElem?_eq_none_iff] at found
          omega
      | some slot =>
          cases slot with
          | none => rfl
          | some entry => exact absurd found (notHeld entry)
    · rw [if_neg same]

theorem component_vacate (table : Indexed) (index : Nat) (identity : Identity) :
    (table.vacate index).component identity =
      if identity.index.toNat = index then none else table.component identity := by
  unfold component
  rw [getElem?_vacate, getElem?_grow]
  by_cases same : identity.index.toNat = index
  · simp [same]
  · by_cases inside : identity.index.toNat < table.slots.size
    · simp [same, inside]
    · have outside : table.slots[identity.index.toNat]? = none := by
        rw [Array.getElem?_eq_none_iff]
        omega
      by_cases within : identity.index.toNat ≤ index
      · simp [same, inside, within]
      · simp [same, inside, within]

theorem getElem?_store (table : Indexed) (identity : Identity) (value : Value) (other : Nat) :
    (table.store identity value).slots[other]? =
      if other = identity.index.toNat then some (some (identity, value))
      else (table.grow identity.index.toNat).slots[other]? := by
  have vacated := getElem?_vacate table identity.index.toNat identity.index.toNat
  rw [if_pos rfl] at vacated
  have inside : identity.index.toNat < (table.vacate identity.index.toNat).slots.size :=
    (Array.getElem?_eq_some_iff.mp vacated).1
  unfold store putSlot
  simp only [Array.getElem?_setIfInBounds, inside, if_true, getElem?_vacate]
  by_cases same : other = identity.index.toNat
  · simp [same]
  · simp [same, Ne.symm same]

/-- A write is read back by its identity, hides the slot from other versions of it and leaves the other
slots as they are. -/
theorem component_store (table : Indexed) (identity : Identity) (value : Value) (other : Identity) :
    (table.store identity value).component other =
      if other = identity then some value
      else if other.index = identity.index then none else table.component other := by
  by_cases same : other.index = identity.index
  · unfold component
    rw [getElem?_store, same, if_pos rfl]
    simp [eq_comm]
  · have apart : other.index.toNat ≠ identity.index.toNat := fun equal => same (UInt32.toNat_inj.mp equal)
    have different : other ≠ identity := fun equal => same (congrArg Identity.index equal)
    have vacated := component_vacate table identity.index.toNat other
    rw [if_neg apart] at vacated
    rw [if_neg different, if_neg same, ← vacated]
    unfold component
    rw [getElem?_store, getElem?_vacate, if_neg apart, if_neg apart]

theorem empty_sound (type : ElementType) : Sound type Indexed.empty := by
  intro index owner value found
  simp [empty] at found

theorem Sound.grow {type : ElementType} {table : Indexed} (sound : Sound type table) (size : Nat) :
    Sound type (table.grow size) := by
  intro index owner value found
  rw [getElem?_grow] at found
  split at found
  · exact sound index owner value found
  · split at found <;> cases found

theorem Sound.vacate {type : ElementType} {table : Indexed} (sound : Sound type table) (vacated : Nat) :
    Sound type (table.vacate vacated) := by
  intro index owner value found
  rw [getElem?_vacate] at found
  split at found
  · cases found
  · exact sound.grow vacated index owner value found

theorem Sound.store {type : ElementType} {table : Indexed} (sound : Sound type table)
    (identity : Identity) {value : Value} (typed : value.type = type) :
    Sound type (table.store identity value) := by
  intro index owner held found
  rw [getElem?_store] at found
  split at found
  · rename_i same
    obtain ⟨rfl, rfl⟩ := Prod.mk.inj (Option.some.inj (Option.some.inj found))
    exact ⟨same.symm, typed⟩
  · exact sound.grow identity.index.toNat index owner held found

/-- The value at a slot, if there is one. -/
def occupant? (table : Indexed) (index : Nat) : Option Value := table.slots[index]?.join.map Prod.snd

theorem occupant?_grow (table : Indexed) (index other : Nat) :
    (table.grow index).occupant? other = table.occupant? other := by
  unfold occupant?
  rw [getElem?_grow]
  split
  · rfl
  · rename_i outside
    rw [Array.getElem?_eq_none (Nat.le_of_not_lt outside)]
    split <;> rfl

theorem occupant?_store (table : Indexed) (identity : Identity) (value : Value) (other : Nat) :
    (table.store identity value).occupant? other =
      if other = identity.index.toNat then some value else table.occupant? other := by
  have grown := occupant?_grow table identity.index.toNat other
  unfold occupant? at grown ⊢
  rw [getElem?_store]
  split
  · rfl
  · exact grown

/-- What has to go before a slot takes another value: the value that is there, or none, and then the slot is
counted. -/
theorem vacate_cases (table : Indexed) (index : Nat) :
    (∃ owner previous, (table.grow index).slots[index]? = some (some (owner, previous)) ∧
      table.occupant? index = some previous ∧ table.vacate index = (table.grow index).putSlot index none) ∨
    (∀ owner previous, (table.grow index).slots[index]? ≠ some (some (owner, previous))) ∧
      table.occupant? index = none ∧
      table.vacate index = { table.grow index with occupied := table.occupied + 1 } := by
  rw [← occupant?_grow table index]
  unfold occupant? vacate
  cases found : (table.grow index).slots[index]? with
  | none => exact .inr ⟨by simp, rfl, rfl⟩
  | some slot =>
      cases slot with
      | none => exact .inr ⟨by simp, rfl, rfl⟩
      | some entry => exact .inl ⟨entry.1, entry.2, rfl, rfl, rfl⟩

theorem emplace_ends {descriptor : Descriptor} {live : Live Indexed}
    (sound : Sound descriptor.element.type live.core) (identity : Identity) (value : Value) :
    Ends (emplace descriptor identity value) live fun outcome after =>
      Written descriptor (live.core.occupant? identity.index.toNat).toList value live.core
        (live.core.vacate identity.index.toNat) (live.core.store identity value) outcome after.core := by
  unfold emplace
  rw [ends_bind, Descriptor.ends_check]
  split
  · rename_i typed
    simp only [continues_ok, ends_bind, ends_update, ends_core]
    have copied {held : List Value} (disposed : descriptor.disposal held = .ok ()) (journal : Journal) :
        Ends (do
            let copy ← descriptor.copy value
            Act.update fun table => table.putSlot identity.index.toNat (some (identity, copy)))
          ⟨journal, live.core.vacate identity.index.toNat⟩ fun outcome after =>
            Written descriptor held value live.core (live.core.vacate identity.index.toNat)
              (live.core.store identity value) outcome after.core :=
      Descriptor.copy_written typed disposed fun _ => ⟨rfl, rfl⟩
    rcases live.core.vacate_cases identity.index.toNat with
      ⟨owner, previous, held, occupied, vacated⟩ | ⟨free, empty, vacated⟩
    · rw [vacated] at copied
      have previousTyped := (sound.grow _ _ _ _ held).2
      rw [held, ends_bind, ends_update, continues_ok, vacated, occupied]
      exact Descriptor.destroy_written previousTyped typed copied
    · split
      · rename_i owner previous held
        exact absurd held (free owner previous)
      · rw [vacated] at copied ⊢
        rw [ends_bind, ends_update, empty]
        exact copied rfl _
  · rename_i mistyped
    exact .refused mistyped

/-- The table without the value of an identity. -/
def erase (table : Indexed) (identity : Identity) : Indexed :=
  match table.component identity with
  | some _ => { table.putSlot identity.index.toNat none with occupied := table.occupied - 1 }
  | none => table

theorem component_found {table : Indexed} {identity : Identity} {value : Value}
    (held : table.component identity = some value) :
    table.slots[identity.index.toNat]? = some (some (identity, value)) := by
  unfold component at held
  split at held
  · rename_i owner other found
    split at held
    · rename_i same
      rw [found, same, Option.some.inj held]
    · cases held
  · cases held

/-- How a removal ends: the value of the identity is destroyed and the table is without it, or the
destruction fails and the slot is empty but still counted. -/
inductive Removed (descriptor : Descriptor) (table : Indexed) (identity : Identity) :
    Except Fault Bool → Indexed → Prop
  | erased (disposed : descriptor.disposal (table.component identity).toList = .ok ()) :
    Removed descriptor table identity (.ok (table.contains identity)) (table.erase identity)
  | stopped {cause : Fault} (fails : descriptor.disposal (table.component identity).toList = .error cause) :
    Removed descriptor table identity (.error cause) (table.putSlot identity.index.toNat none)

/-- What holds of the table without the value or with an empty slot holds however the removal ends. -/
theorem Removed.elim {descriptor : Descriptor} {table after : Indexed} {identity : Identity}
    {outcome : Except Fault Bool} (removed : Removed descriptor table identity outcome after)
    {condition : Indexed → Prop} (first : condition (table.erase identity))
    (second : condition (table.putSlot identity.index.toNat none)) : condition after := by
  cases removed with
  | erased => exact first
  | stopped => exact second

theorem remove_ends {descriptor : Descriptor} {live : Live Indexed}
    (sound : Sound descriptor.element.type live.core) (identity : Identity) :
    Ends (remove descriptor identity) live fun outcome after =>
      Removed descriptor live.core identity outcome after.core := by
  have ends : Ends (remove descriptor identity) live fun outcome after =>
      (descriptor.disposal (live.core.component identity).toList = .ok () →
        outcome = .ok (live.core.contains identity) ∧ after.core = live.core.erase identity) ∧
      ∀ cause, descriptor.disposal (live.core.component identity).toList = .error cause →
        outcome = .error cause ∧ after.core = live.core.putSlot identity.index.toNat none := by
    unfold remove
    rw [ends_bind, ends_core, continues_ok]
    split
    · rename_i value held
      have typed := (sound _ _ _ (component_found held)).2
      rw [ends_bind, ends_update, continues_ok, ends_bind, Descriptor.ends_destroy typed]
      cases retains : descriptor.element.retains value with
      | some message => simp [held, Descriptor.disposal, retains]
      | none =>
          dsimp only
          rw [continues_ok, ends_bind, ends_update, continues_ok, ends_pure]
          simp [held, Descriptor.disposal, retains, contains, Indexed.erase, putSlot]
    · rename_i absent
      simp [absent, Descriptor.disposal, contains, Indexed.erase]
  refine ends.mono ?_
  rintro outcome after ⟨erases, stops⟩
  cases disposed : descriptor.disposal (live.core.component identity).toList with
  | ok _ =>
      obtain ⟨rfl, left⟩ := erases disposed
      rw [left]
      exact .erased disposed
  | error cause =>
      obtain ⟨rfl, left⟩ := stops cause disposed
      rw [left]
      exact .stopped disposed

theorem Sound.putSlot_none {type : ElementType} {table : Indexed} (sound : Sound type table) (vacated : Nat) :
    Sound type (table.putSlot vacated none) := by
  intro index owner value found
  simp only [putSlot, Array.getElem?_setIfInBounds] at found
  split at found
  · split at found <;> cases found
  · exact sound index owner value found

theorem Sound.erase {type : ElementType} {table : Indexed} (sound : Sound type table)
    (identity : Identity) : Sound type (table.erase identity) := by
  unfold Indexed.erase
  split
  · exact sound.putSlot_none identity.index.toNat
  · exact sound

end Indexed

/-- The events have the type. -/
def Events.Sound (type : ElementType) (events : Events) : Prop := ∀ value ∈ events, value.type = type

theorem Events.push_ends (descriptor : Descriptor) (value : Value) (live : Live Events) :
    Ends (Events.push descriptor value) live fun outcome after =>
      Written descriptor [] value live.core live.core (live.core ++ [value]) outcome after.core := by
  unfold Events.push
  rw [ends_bind, Descriptor.ends_check]
  split
  · rename_i typed
    exact Descriptor.copy_written typed rfl fun _ => ⟨rfl, rfl⟩
  · rename_i mistyped
    exact .refused mistyped

theorem Events.clear_ends {descriptor : Descriptor} {live : Live Events}
    (sound : Events.Sound descriptor.element.type live.core) :
    Ends (Events.clear descriptor) live fun outcome after =>
      outcome = descriptor.disposal live.core ∧ after.core = [] := by
  unfold Events.clear
  rw [ends_bind, ends_core, continues_ok, ends_bind, ends_setCore, continues_ok]
  exact Descriptor.destroyAll_ends sound

/-- The values in the cells have the type, and tables are owned by the identities of their slots. -/
def Cells.Sound (type : ElementType) : Cells → Prop
  | .scalar value => Scalar.Sound type value
  | .indexed table => Indexed.Sound type table
  | .events list => Events.Sound type list
  | .requests => True

namespace Cells

/-- The value of a scene component. Cells of another shape have none. -/
def scalar? : Cells → Option Value
  | .scalar value => value
  | _ => none

/-- The value for an identity. -/
def component? (cells : Cells) (identity : Identity) : Option Value :=
  match cells with
  | .indexed table => table.component identity
  | _ => none

/-- The events. -/
def events? : Cells → List Value
  | .events list => list
  | _ => []

end Cells

theorem Kind.eq_event_of_shape {kind : Kind} (shape : kind.shape = .events) : kind = .event := by
  cases kind <;> first | rfl | cases shape

namespace Storage

/-- A storage serves a resource: it has the shape of the resource's kind and values of its type. -/
structure Serves (descriptor : Descriptor) (storage : Storage) : Prop where
  described : storage.descriptor = descriptor
  shape : storage.cells.shape = descriptor.kind.shape
  values : storage.cells.Sound descriptor.element.type

theorem ofDescriptor_serves (descriptor : Descriptor) : Serves descriptor (ofDescriptor descriptor) where
  described := rfl
  shape := by
    unfold ofDescriptor
    cases descriptor.kind <;> rfl
  values := by
    unfold ofDescriptor
    cases descriptor.kind with
    | sceneComponent => exact fun _ held => nomatch held
    | viewportComponent | entityComponent => exact Indexed.empty_sound _
    | event => exact fun _ member => nomatch member
    | entitySpawnList | entityDespawnList => trivial

section Shapes

variable {α : Type} {descriptor : Descriptor} {journal : Journal}
  {post : Except Fault α → Live Storage → Prop}

theorem ends_onScalar {value : Scalar} {act : Descriptor → Act Scalar α} :
    Ends (onScalar act) ⟨journal, ⟨descriptor, .scalar value⟩⟩ post ↔
      Ends (act descriptor) ⟨journal, value⟩ fun outcome after =>
        post outcome ⟨after.journal, ⟨descriptor, .scalar after.core⟩⟩ := by
  unfold onScalar within
  rw [ends_bind, ends_core, continues_ok, ends_focus]

theorem ends_onIndexed {table : Indexed} {act : Descriptor → Act Indexed α} :
    Ends (onIndexed act) ⟨journal, ⟨descriptor, .indexed table⟩⟩ post ↔
      Ends (act descriptor) ⟨journal, table⟩ fun outcome after =>
        post outcome ⟨after.journal, ⟨descriptor, .indexed after.core⟩⟩ := by
  unfold onIndexed within
  rw [ends_bind, ends_core, continues_ok, ends_focus]

theorem ends_onEvents {list : Events} {act : Descriptor → Act Events α} :
    Ends (onEvents act) ⟨journal, ⟨descriptor, .events list⟩⟩ post ↔
      Ends (act descriptor) ⟨journal, list⟩ fun outcome after =>
        post outcome ⟨after.journal, ⟨descriptor, .events after.core⟩⟩ := by
  unfold onEvents within
  rw [ends_bind, ends_core, continues_ok, ends_focus]

/-- An act on cells of one shape keeps a storage serving if it keeps such cells sound. -/
theorem keeps_onScalar {act : Descriptor → Act Scalar α}
    (keeps : Keeps (Scalar.Sound descriptor.element.type) (act descriptor)) :
    Keeps (Serves descriptor) (onScalar act) := by
  rintro ⟨journal, other, cells⟩ ⟨rfl, shape, values⟩
  cases cells with
  | scalar value =>
      rw [ends_onScalar]
      exact (keeps ⟨journal, value⟩ values).mono fun _ _ kept => ⟨rfl, shape, kept⟩
  | indexed | events | requests => exact ⟨rfl, shape, values⟩

theorem keeps_onIndexed {act : Descriptor → Act Indexed α}
    (keeps : Keeps (Indexed.Sound descriptor.element.type) (act descriptor)) :
    Keeps (Serves descriptor) (onIndexed act) := by
  rintro ⟨journal, other, cells⟩ ⟨rfl, shape, values⟩
  cases cells with
  | indexed table =>
      rw [ends_onIndexed]
      exact (keeps ⟨journal, table⟩ values).mono fun _ _ kept => ⟨rfl, shape, kept⟩
  | scalar | events | requests => exact ⟨rfl, shape, values⟩

theorem keeps_onEvents {act : Descriptor → Act Events α}
    (keeps : Keeps (Events.Sound descriptor.element.type) (act descriptor)) :
    Keeps (Serves descriptor) (onEvents act) := by
  rintro ⟨journal, other, cells⟩ ⟨rfl, shape, values⟩
  cases cells with
  | events list =>
      rw [ends_onEvents]
      exact (keeps ⟨journal, list⟩ values).mono fun _ _ kept => ⟨rfl, shape, kept⟩
  | scalar | indexed | requests => exact ⟨rfl, shape, values⟩

end Shapes

section Writes

variable {descriptor : Descriptor}

theorem keeps_emplaceScalar (value : Value) :
    Keeps (Serves descriptor) (onScalar fun descriptor => Scalar.emplace descriptor value) := by
  refine keeps_onScalar fun live sound => (Scalar.emplace_ends sound value).mono ?_
  intro outcome after written
  refine written.elim sound (fun _ held => nomatch held) fun typed other held => ?_
  rw [← Option.some.inj held]
  exact typed

theorem keeps_emplaceIndexed (identity : Identity) (value : Value) :
    Keeps (Serves descriptor) (onIndexed fun descriptor => Indexed.emplace descriptor identity value) := by
  refine keeps_onIndexed fun live sound => (Indexed.emplace_ends sound identity value).mono ?_
  intro outcome after written
  exact written.elim sound (sound.vacate _) fun typed => sound.store identity typed

theorem keeps_removeIndexed (identity : Identity) :
    Keeps (Serves descriptor) (onIndexed fun descriptor => Indexed.remove descriptor identity) := by
  refine keeps_onIndexed fun live sound => (Indexed.remove_ends sound identity).mono ?_
  intro outcome after removed
  exact removed.elim (sound.erase identity) (sound.putSlot_none identity.index.toNat)

theorem keeps_pushEvent (value : Value) :
    Keeps (Serves descriptor) (onEvents fun descriptor => Events.push descriptor value) := by
  refine keeps_onEvents fun live sound => (Events.push_ends descriptor value live).mono ?_
  intro outcome after written
  refine written.elim sound sound fun typed other member => ?_
  rcases List.mem_append.mp member with held | new
  · exact sound other held
  · rw [List.mem_singleton.mp new]
    exact typed

theorem keeps_clearEvents : Keeps (Serves descriptor) (onEvents Events.clear) := by
  refine keeps_onEvents fun live sound => (Events.clear_ends sound).mono ?_
  rintro outcome after ⟨_, cleared⟩
  rw [cleared]
  exact fun _ member => nomatch member

theorem keeps_endTick : Keeps (Serves descriptor) endTick := by
  rintro ⟨journal, other, cells⟩ ⟨rfl, shape, values⟩
  unfold endTick
  rw [ends_bind, ends_core, continues_ok]
  cases cells with
  | events list =>
      have sound : Events.Sound other.element.type list := values
      unfold within
      rw [ends_focus]
      refine (Events.clear_ends sound).mono ?_
      rintro outcome after ⟨_, cleared⟩
      refine ⟨rfl, shape, ?_⟩
      rw [cleared]
      exact fun _ member => nomatch member
  | scalar | indexed | requests => exact ⟨rfl, shape, values⟩

end Writes

end Storage

end EntityScene
