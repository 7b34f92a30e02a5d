import EntityScene.Dialogue
import EntityScene.Proofs.Storage

/-!
Output slots during a join. The slots keep the descriptors of the declared outputs, their buffers hold
values of the right types, and a slot counts as written only if the callback has asked for it.
-/

namespace EntityScene

open Act

/-- What the buffer holds has the type of the output. -/
def OutputSlot.Sound (slot : OutputSlot) : Prop :=
  ∀ value, slot.buffer = some value → value.type = slot.descriptor.element.type

/-- What a request for a first value finds in the buffer, or else the element's initial value. -/
def OutputSlot.content (slot : OutputSlot) : Value := slot.buffer.getD slot.descriptor.element.initial

/-- The buffer was left by an earlier match. -/
def OutputSlot.stale (slot : OutputSlot) : Bool := slot.buffer.isSome && !slot.written

theorem OutputSlot.Sound.content {slot : OutputSlot} (sound : slot.Sound) :
    slot.content.type = slot.descriptor.element.type := by
  unfold OutputSlot.content
  cases held : slot.buffer with
  | some value => exact sound value held
  | none => exact slot.descriptor.element.initial_type

namespace Outputs

/-- The slots belong to the described outputs, in their order, and hold values of their types. -/
structure Sound (descriptors : List Descriptor) (outputs : Outputs) : Prop where
  described : outputs.map OutputSlot.descriptor = descriptors
  typed : ∀ slot ∈ outputs, slot.Sound

/-- No slot is written yet. -/
def Unwritten (outputs : Outputs) : Prop := ∀ slot ∈ outputs, slot.written = false

section Access

variable {outputs : Outputs} {descriptors : List Descriptor} {position : Nat} {slot : OutputSlot}

theorem Sound.length (sound : Sound descriptors outputs) : outputs.length = descriptors.length := by
  rw [← sound.described, List.length_map]

theorem Sound.descriptor (sound : Sound descriptors outputs) (found : outputs[position]? = some slot) :
    descriptors[position]? = some slot.descriptor := by
  rw [← sound.described, List.getElem?_map, found]
  rfl

/-- A slot may be put in place of one with its descriptor. -/
theorem Sound.put (sound : Sound descriptors outputs) (found : outputs[position]? = some slot)
    {changed : OutputSlot} (same : changed.descriptor = slot.descriptor) (fits : changed.Sound) :
    Sound descriptors (List.set outputs position changed) where
  described := by
    rw [List.map_set, same, sound.described]
    have inside := (List.getElem?_eq_some_iff.mp (sound.descriptor found)).1
    have here := (List.getElem?_eq_some_iff.mp (sound.descriptor found)).2
    rw [← here, List.set_getElem_self inside]
  typed other member := by
    rcases List.mem_or_eq_of_mem_set member with old | new
    · exact sound.typed other old
    · rw [new]
      exact fits

theorem slot_found (found : outputs[position]? = some slot) : outputs.slot position = .ok slot := by
  simp only [Outputs.slot, found]

theorem slot_missing (missing : outputs[position]? = none) :
    outputs.slot position = .error (.outputRange position outputs.length) := by
  simp only [Outputs.slot, missing]

end Access

section Steps

variable {live : Live Outputs} {position : Nat} {slot : OutputSlot}

@[simp] theorem ends_putSlot {post : Except Fault Unit → Live Outputs → Prop} :
    Ends (putSlot position slot) live post ↔
      post (.ok ()) ⟨live.journal, List.set live.core position slot⟩ := Iff.rfl

/-- What begins with the slot of an output ends in a fault if there is no such output. -/
theorem ends_slot_missing {α : Type} {next : OutputSlot → Act Outputs α}
    {post : Except Fault α → Live Outputs → Prop} (missing : live.core[position]? = none) :
    Ends (do
      let slot ← Act.ofExcept ((← Act.core).slot position)
      next slot) live post ↔
      post (.error (.outputRange position live.core.length)) live := by
  rw [ends_bind, ends_core, continues_ok, slot_missing missing, ends_bind, ends_ofExcept, continues_error]

/-- A value of the type is written; another one is refused. -/
theorem ends_set {value : Value} {post : Except Fault Unit → Live Outputs → Prop}
    (found : live.core[position]? = some slot) :
    Ends (set position value) live post ↔
      if value.type = slot.descriptor.element.type then
        post (.ok ())
          ⟨live.journal, List.set live.core position { slot with buffer := some value, written := true }⟩
      else
        post (.error (.outputMismatch position slot.descriptor.id slot.descriptor.element.name value.type))
          live := by
  unfold set
  rw [ends_bind, ends_core, continues_ok, slot_found found, ends_bind, ends_ofExcept, continues_ok]
  dsimp only
  split <;> rfl

/-- The journal after a request for a first value: an empty slot is initialized. -/
def opened (slot : OutputSlot) (journal : Journal) : Journal :=
  match slot.buffer with
  | some _ => journal
  | none =>
    { journal with
      ledger := ⟨slot.descriptor.id, .initialized slot.descriptor.element.initial⟩ :: journal.ledger }

/-- The slot is marked and filled before the types are compared; then a stale buffer restarts. -/
theorem ends_getOrInit {type : ElementType} {post : Except Fault Value → Live Outputs → Prop}
    (found : live.core[position]? = some slot) :
    Ends (getOrInit position type) live post ↔
      if slot.content.type = type then
        post (.ok (if slot.stale then type.default else slot.content))
          ⟨opened slot live.journal,
            List.set live.core position
              { slot with
                buffer := some (if slot.stale then type.default else slot.content)
                written := true }⟩
      else
        post (.error (.initMismatch position slot.descriptor.element.name type))
          ⟨opened slot live.journal,
            List.set live.core position { slot with buffer := some slot.content, written := true }⟩ := by
  unfold getOrInit
  rw [ends_bind, ends_core, continues_ok, slot_found found, ends_bind, ends_ofExcept, continues_ok,
    ends_bind, ends_putSlot, continues_ok]
  unfold OutputSlot.content OutputSlot.stale opened
  cases held : slot.buffer with
  | some value =>
      dsimp only
      rw [ends_bind, ends_pure, continues_ok, ends_bind, ends_putSlot, continues_ok]
      simp only [List.set_set, Option.getD_some, Option.isSome_some, Bool.true_and]
      split
      · split
        · rw [ends_bind, ends_putSlot, continues_ok, ends_pure]
          simp only [List.set_set]
        · rfl
      · rfl
  | none =>
      dsimp only
      unfold Descriptor.fresh
      rw [ends_bind, ends_bind, ends_enter, continues_ok, ends_pure, continues_ok, ends_bind, ends_putSlot,
        continues_ok]
      simp only [List.set_set, Option.getD_none, Option.isSome_none, Bool.false_and, Bool.false_eq_true, if_false]
      split <;> rfl

/-- What was written is handed out and the slot counts as unwritten. -/
theorem ends_takeWritten {post : Except Fault (Option Value) → Live Outputs → Prop}
    (found : live.core[position]? = some slot) :
    Ends (takeWritten position) live post ↔
      if slot.written then
        post (.ok slot.buffer) ⟨live.journal, List.set live.core position { slot with written := false }⟩
      else post (.ok none) live := by
  unfold takeWritten
  rw [ends_bind, ends_core, continues_ok, slot_found found, ends_bind, ends_ofExcept, continues_ok]
  split <;> rfl

end Steps

section Lifetime

/-- New slots for the described outputs. -/
def blank (descriptors : List Descriptor) : Outputs :=
  descriptors.map fun descriptor => ⟨descriptor, none, false⟩

theorem blank_sound (descriptors : List Descriptor) : Sound descriptors (blank descriptors) where
  described := by simp [blank, Function.comp_def]
  typed slot member := by
    obtain ⟨descriptor, _, rfl⟩ := List.mem_map.mp member
    exact fun _ held => nomatch held

theorem blank_unwritten (descriptors : List Descriptor) : Unwritten (blank descriptors) := by
  intro slot member
  obtain ⟨descriptor, _, rfl⟩ := List.mem_map.mp member
  rfl

/-- Slots can be made for registered resources. -/
theorem prepare_ok {registry : Registry} {resources : List ResourceId} {descriptors : List Descriptor}
    (registered : resources.map registry.get? = descriptors.map some) :
    prepare registry resources = .ok (blank descriptors) := by
  induction resources generalizing descriptors with
  | nil =>
      cases descriptors with
      | nil => rfl
      | cons => cases registered
  | cons resource rest ih =>
      cases descriptors with
      | nil => cases registered
      | cons descriptor others =>
          simp only [List.map_cons, List.cons.injEq] at registered
          have found : registry.descriptor resource = .ok descriptor := by
            simp only [Registry.descriptor, registered.1]
          have made : prepare registry rest = .ok (blank others) := ih registered.2
          unfold prepare at made ⊢
          rw [List.mapM_cons, made, found]
          rfl

/-- How the release of slots ends whose buffers have their types. -/
def disposal : Outputs → Except Fault Unit
  | [] => .ok ()
  | slot :: rest =>
    match slot.descriptor.disposal slot.buffer.toList with
    | .error cause => .error cause
    | .ok _ => disposal rest

/-- A release ends in a fault only if the destruction of some buffer fails. -/
theorem disposal_error {outputs : Outputs} {cause : Fault} (fails : outputs.disposal = .error cause) :
    ∃ slot ∈ outputs, ∃ value, slot.buffer = some value ∧
      ∃ message, slot.descriptor.element.retains value = some message ∧ cause = .destroyRefused message := by
  induction outputs with
  | nil => cases fails
  | cons slot rest ih =>
      unfold disposal at fails
      cases disposed : slot.descriptor.disposal slot.buffer.toList with
      | error other =>
          rw [disposed] at fails
          cases fails
          obtain ⟨value, member, failure⟩ := Descriptor.disposal_error disposed
          exact ⟨slot, List.mem_cons_self, value, Option.mem_toList.mp member, failure⟩
      | ok _ =>
          rw [disposed] at fails
          obtain ⟨other, member, failure⟩ := ih fails
          exact ⟨other, List.mem_cons_of_mem _ member, failure⟩

theorem disposal_ok {outputs : Outputs} (releasing : ∀ slot ∈ outputs, slot.descriptor.element.Releasing) :
    outputs.disposal = .ok () := by
  cases disposed : outputs.disposal with
  | ok _ => rfl
  | error cause =>
      obtain ⟨slot, member, value, _, message, retains, _⟩ := disposal_error disposed
      rw [releasing slot member value] at retains
      cases retains

theorem release_ends {outputs : Outputs} {live : Live Outputs}
    (typed : ∀ slot ∈ outputs, slot.Sound) :
    Ends (release outputs) live fun outcome after =>
      outcome = outputs.disposal ∧ (outcome = .ok () → after.core = []) := by
  induction outputs generalizing live with
  | nil => exact ⟨rfl, fun _ => rfl⟩
  | cons slot rest ih =>
      unfold release disposal
      have buffered : ∀ value ∈ slot.buffer.toList, value.type = slot.descriptor.element.type := by
        intro value member
        exact typed slot List.mem_cons_self value (Option.mem_toList.mp member)
      rw [ends_bind]
      refine (Descriptor.destroyAll_ends buffered).mono ?_
      rintro outcome after ⟨rfl, _⟩
      cases slot.descriptor.disposal slot.buffer.toList with
      | error cause =>
          refine ⟨rfl, ?_⟩
          rintro ⟨⟩
      | ok _ => exact ih fun other member => typed other (List.mem_cons_of_mem _ member)

end Lifetime

end Outputs

end EntityScene
