import EntityScene.Proofs.ValueFlow
import EntityScene.Value.Arithmetic

/-!
Rejected requests. A request to write an output is rejected if there is no such output or its values are
of another type, and the callback may go on after that. A rejected value leaves every slot as it was. A
rejected request for a first value does not: the slot is filled and counts as written before the types are
compared, so the commit of the call takes what was in the slot, a value of an earlier match or a new one.
-/

namespace EntityScene

open Act

variable {μ : Type}

namespace Exchange

/-- A request to write an output that was not granted. -/
def isRejected : Exchange → Bool
  | ⟨.set _ _, .error _⟩ | ⟨.getOrInit _ _, .error _⟩ => true
  | _ => false

/-- The output that the exchange has written. -/
def writes? : Exchange → Option Nat
  | ⟨.set position _, .ok _⟩ | ⟨.getOrInit position _, .ok _⟩ => some position
  | _ => none

/-- The output for which a first value was asked in vain. -/
def marks? : Exchange → Option Nat
  | ⟨.getOrInit position _, .error _⟩ => some position
  | _ => none

/-- There is no output at the position of the request, or its values are of another type. -/
def Unfit (outputs : Outputs) : Exchange → Prop
  | ⟨.set position value, _⟩ =>
    ∀ slot, outputs[position]? = some slot → value.type ≠ slot.descriptor.element.type
  | ⟨.getOrInit position type, _⟩ =>
    ∀ slot, outputs[position]? = some slot → slot.descriptor.element.type ≠ type
  | _ => False

theorem target?_eq_some {exchange : Exchange} {position : Nat} :
    exchange.target? = some position ↔
      exchange.writes? = some position ∨ exchange.marks? = some position := by
  obtain ⟨request, answer⟩ := exchange
  cases request <;> cases answer <;> simp [target?, writes?, marks?]

end Exchange

/-- The slot after a first value of another type was asked for. -/
def OutputSlot.marked (slot : OutputSlot) : OutputSlot :=
  { slot with buffer := some slot.content, written := true }

theorem OutputSlot.filled_written (slot : OutputSlot) (exchange : Exchange) :
    (slot.filled exchange).written = true := by
  unfold filled
  split <;> rfl

namespace Outputs

/-- A rejected request leaves every slot as it was, or marks the slot for which it asked a first value. -/
theorem told_rejected (outputs : Outputs) {exchange : Exchange} (rejected : exchange.isRejected = true)
    (position : Nat) :
    (outputs.told exchange)[position]? =
      if exchange.marks? = some position then outputs[position]?.map OutputSlot.marked
      else outputs[position]? := by
  obtain ⟨request, answer⟩ := exchange
  cases answer with
  | ok answer => cases request <;> cases rejected
  | error cause =>
      cases request with
      | set place value => rfl
      | getOrInit place type =>
          change (outputs.modify place OutputSlot.marked)[position]? = _
          simp only [List.getElem?_modify, Exchange.marks?, Option.some.injEq]
          split
          · rfl
          · exact Option.map_id'
      | get | describe | count => cases rejected

/-- There is an output at the position and it counts as written. -/
def WrittenAt (outputs : Outputs) (position : Nat) : Prop :=
  ∃ slot, outputs[position]? = some slot ∧ slot.written = true

theorem told_length (outputs : Outputs) (exchange : Exchange) :
    (outputs.told exchange).length = outputs.length := by
  unfold told
  split
  · exact List.length_modify _ _ _
  · rfl

theorem told_writtenAt {outputs : Outputs} {exchange : Exchange} {position : Nat}
    (inside : position < outputs.length) :
    (outputs.told exchange).WrittenAt position ↔
      outputs.WrittenAt position ∨ exchange.target? = some position := by
  unfold told WrittenAt
  cases aims : exchange.target? with
  | none => simp
  | some place =>
      by_cases same : place = position
      · simp [same, List.getElem?_eq_getElem inside, OutputSlot.filled_written]
      · simp [same]

/-- A slot is written after some exchanges if it was before or one of them aimed at it. -/
theorem replay_writtenAt {position : Nat} (exchanges : List Exchange) {outputs : Outputs}
    (inside : position < outputs.length) :
    (outputs.replay exchanges).WrittenAt position ↔
      outputs.WrittenAt position ∨ ∃ exchange ∈ exchanges, exchange.target? = some position := by
  induction exchanges generalizing outputs with
  | nil => simp [replay]
  | cons exchange rest ih =>
      change ((outputs.told exchange).replay rest).WrittenAt position ↔ _
      rw [ih (by rw [told_length]; exact inside), told_writtenAt inside, List.exists_mem_cons_iff, or_assoc]

theorem replay_length (outputs : Outputs) (exchanges : List Exchange) :
    (outputs.replay exchanges).length = outputs.length := by
  induction exchanges generalizing outputs with
  | nil => rfl
  | cons exchange rest ih => exact (ih (outputs.told exchange)).trans (told_length outputs exchange)

theorem Unwritten.not_writtenAt {outputs : Outputs} (unwritten : outputs.Unwritten) (position : Nat) :
    ¬outputs.WrittenAt position := by
  rintro ⟨slot, found, written⟩
  rw [unwritten slot (List.mem_of_getElem? found)] at written
  cases written

/-- In slots that were unwritten, the written ones are those that an exchange wrote or marked. -/
theorem Unwritten.replay_written {outputs : Outputs} (unwritten : outputs.Unwritten)
    {exchanges : List Exchange} {position : Nat} {slot : OutputSlot}
    (found : (outputs.replay exchanges)[position]? = some slot) :
    slot.written = true ↔ ∃ exchange ∈ exchanges,
      exchange.writes? = some position ∨ exchange.marks? = some position := by
  have inside : position < outputs.length := by
    rw [← replay_length outputs exchanges]
    exact (List.getElem?_eq_some_iff.mp found).1
  have here : slot.written = true ↔ (outputs.replay exchanges).WrittenAt position := by
    simp [WrittenAt, found]
  rw [here, replay_writtenAt exchanges inside]
  simp only [unwritten.not_writtenAt, false_or, Exchange.target?_eq_some]

end Outputs

section Conducted

variable {outputs : Outputs} {exchange : Exchange}

theorem Exchange.Happens.typed (happens : exchange.Happens outputs) (typed : ∀ slot ∈ outputs, slot.Sound) :
    ∀ slot ∈ outputs.told exchange, slot.Sound := by
  have both := (happens {}).and (Request.perform_wrote ⟨rfl, typed⟩ exchange.request)
  have kept : Ends exchange.request.perform ⟨{}, outputs⟩ fun _ _ =>
      ∀ slot ∈ outputs.told exchange, slot.Sound := by
    refine both.mono ?_
    rintro _ after ⟨⟨_, told⟩, sound, _⟩
    rw [← told]
    exact sound.typed
  exact ends_leaves.mp kept

/-- Requests to write an output are rejected exactly if they do not fit. -/
theorem Exchange.Happens.isRejected_iff (happens : exchange.Happens outputs)
    (typed : ∀ slot ∈ outputs, slot.Sound) : exchange.isRejected = true ↔ exchange.Unfit outputs := by
  obtain ⟨request, answer⟩ := exchange
  have ends : Ends request.perform ⟨{}, outputs⟩ fun found _ => found = answer :=
    (happens {}).mono fun _ _ both => both.1
  cases request with
  | set position value =>
      unfold Request.perform at ends
      cases found : outputs[position]? with
      | none =>
          unfold Outputs.set at ends
          rw [Outputs.ends_slot_missing found] at ends
          cases ends
          simp [isRejected, Unfit, found]
      | some slot =>
          rw [Outputs.ends_set found] at ends
          split at ends <;> cases ends <;> simp_all [isRejected, Unfit]
  | getOrInit position type =>
      unfold Request.perform at ends
      cases found : outputs[position]? with
      | none =>
          unfold Outputs.getOrInit at ends
          rw [Outputs.ends_slot_missing found] at ends
          cases ends
          simp [isRejected, Unfit, found]
      | some slot =>
          rw [Outputs.ends_getOrInit found, (typed slot (List.mem_of_getElem? found)).content] at ends
          split at ends <;> cases ends <;> simp_all [isRejected, Unfit]
  | get | describe | count => cases answer <;> simp [isRejected, Unfit]

/-- Each of the exchanges happens in the slots that those before it leave, and these hold values of their
types. -/
theorem Outputs.Conducts.split {earlier later : List Exchange} (typed : ∀ slot ∈ outputs, slot.Sound)
    (conducts : outputs.Conducts (earlier ++ exchange :: later)) :
    exchange.Happens (outputs.replay earlier) ∧ ∀ slot ∈ outputs.replay earlier, slot.Sound := by
  induction earlier generalizing outputs with
  | nil => exact ⟨conducts.1, typed⟩
  | cons first rest ih => exact ih (conducts.1.typed typed) conducts.2

end Conducted

namespace Join

theorem writingsFrom_append (held : ResourceId → Spot → Option Value) (resources : List ResourceId)
    (earlier : List Writing) (slots : Outputs) (first second : List Call) :
    writingsFrom held resources earlier slots (first ++ second) =
      writingsFrom held resources earlier slots first ++
        writingsFrom held resources (earlier ++ writingsFrom held resources earlier slots first)
          (slotsAfter slots first) second := by
  induction first generalizing slots earlier with
  | nil =>
      rw [writingsFrom, List.append_nil]
      rfl
  | cons call rest ih =>
      simp only [List.cons_append, writingsFrom, ih, List.append_assoc]
      rfl

/-- One call more writes what its commit takes from the slots. -/
theorem writings_take_succ (base : Data μ) (plan : Plan) {calls : List Call} {index : Nat} {call : Call}
    (found : calls[index]? = some call) :
    writings base plan (calls.take (index + 1)) = writings base plan (calls.take index) ++
      committed base.occupant? call.place (writings base plan (calls.take index)) (plan.outputs.map Prod.fst)
        ((slotsBefore base.registry plan (calls.take index)).replay call.exchanges) := by
  unfold writings
  rw [List.take_add_one, found, Option.toList_some, writingsFrom_append, List.nil_append]
  simp only [writingsFrom, List.append_nil]
  rfl

/-- The calls that went on come first. -/
theorem Traversed.goesOn_first {registry : Registry} {plan : Plan} {places : List Match} {calls : List Call}
    {outcome : Except Fault Bool} (traversed : Traversed registry plan places calls outcome) :
    calls.filter Call.goesOn <+: calls := by
  induction traversed with
  | done => exact List.prefix_refl []
  | @next call rest calls outcome going others ih =>
      rw [List.filter_cons_of_pos (Call.goesOn_iff.mpr going)]
      exact (List.prefix_cons_inj call).mpr ih
  | @last call rest outcome visited ends =>
      cases goes : call.goesOn <;> simp [List.filter, goes]

/-- Each call of a run finds slots that count as unwritten. A request of the call is rejected exactly if
there is no such output or its values are of another type, and then every slot is as before, except that a
rejected request for a first value fills the slot it names and marks it as written. The slots that are
written at the end of the call are therefore those that it wrote and those that it marked. These its commit
takes if it goes on: the writings of a run are those of its calls in turn, as long as they go on, and if it
ends without a fault they are what it leaves. -/
theorem rejected_request_leaves_or_marks {registry : Registry} {scene : Live (Scene μ)}
    {reads writes : List ResourceId} {plan : Plan} (reachable : Scene.Reachable registry scene)
    (accepted : Plan.make registry reads writes = .ok plan) (callback : Callback μ) :
    let before := scene.core.data
    let made := calls plan callback ⟨scene.journal, before⟩
    (∀ index call, made[index]? = some call →
      let start := slotsBefore registry plan (made.take index)
      start.Unwritten ∧
      (∀ earlier exchange later, call.exchanges = earlier ++ exchange :: later →
        let slots := start.replay earlier
        exchange.Happens slots ∧
        (exchange.isRejected = true ↔ exchange.Unfit slots) ∧
        (exchange.isRejected = true → ∀ position, (slots.told exchange)[position]? =
          if exchange.marks? = some position then slots[position]?.map OutputSlot.marked
          else slots[position]?)) ∧
      (∀ position slot, (start.replay call.exchanges)[position]? = some slot →
        (slot.written = true ↔ ∃ exchange ∈ call.exchanges,
          exchange.writes? = some position ∨ exchange.marks? = some position)) ∧
      writings before plan (made.take (index + 1)) = writings before plan (made.take index) ++
        committed before.occupant? call.place (writings before plan (made.take index))
          (plan.outputs.map Prod.fst) (start.replay call.exchanges)) ∧
    made.filter Call.goesOn <+: made ∧
    ∀ completed after, run plan callback ⟨scene.journal, before⟩ = .ok completed after →
      Reflects before (writings before plan (made.filter Call.goesOn)) after.core := by
  have based : Data.SoundOver registry (Live.core ⟨scene.journal, scene.core.data⟩) := reachable.soundOver
  obtain ⟨follows, flows⟩ := run_follows based accepted callback
  refine ⟨fun index call found => ?_, ?_, fun completed after ended => ?_⟩
  · have here := follows index call found
    have taken := writings_take_succ scene.core.data plan found
    rw [based.registry] at taken
    refine ⟨here.unwritten, fun earlier exchange later parts => ?_, fun position slot => ?_, taken⟩
    · have conducts := here.conducts
      rw [parts] at conducts
      obtain ⟨happens, typed⟩ := conducts.split here.typed
      exact ⟨happens, happens.isRejected_iff typed, Outputs.told_rejected _⟩
    · exact here.unwritten.replay_written
  · exact ends_leaves.mp ((run_traversed based accepted callback).mono
      fun _ _ ⟨_, _, traversed⟩ => traversed.goesOn_first)
  · exact ((ends_of_ok ended).mp flows).reflects rfl

/-- Writes a number for the first viewport and asks for a flag in its place for another one. -/
def sampleCaught : Callback Unit := fun inputs => do
  if inputs.place.viewport = some ⟨0, 0⟩ then (Request.set 0 (.uint32 7)).send else askFlag
  pure true

def caughtPlan : Plan := ⟨[(4, .viewportComponent)], [(5, .viewportComponent)], none, true, false⟩

/-- The number of the first viewport ends up at the other one, whose only request was rejected. -/
theorem rejected_request_leaves_or_marks_sample :
    let live : Live (Data Unit) := ⟨Sample.scene.journal, Sample.scene.core.data⟩
    let made := calls caughtPlan sampleCaught live
    let left := (run caughtPlan sampleCaught).leaves live
    Scene.Reachable Sample.registry Sample.scene ∧ Plan.make Sample.registry [4] [5] = .ok caughtPlan ∧
      made.map (fun call => (call.place.viewport, call.exchanges.map Exchange.isRejected)) =
        [(some ⟨0, 0⟩, [false]), (some ⟨2, 0⟩, [true])] ∧
      (∀ index call, made[index]? = some call →
        let start := slotsBefore Sample.registry caughtPlan (made.take index)
        start.Unwritten ∧
        ∀ position slot, (start.replay call.exchanges)[position]? = some slot →
          (slot.written = true ↔ ∃ exchange ∈ call.exchanges,
            exchange.writes? = some position ∨ exchange.marks? = some position)) ∧
      made.filter Call.goesOn <+: made ∧
      (run caughtPlan sampleCaught).answer? live = some true ∧
      Reflects live.core (writings live.core caughtPlan (made.filter Call.goesOn)) left.core ∧
      (left.core.component? 5 ⟨2, 0⟩).any (Value.same (.uint32 7)) = true := by
  have accepted : Plan.make Sample.registry [4] [5] = .ok caughtPlan := rfl
  have completes : (run caughtPlan sampleCaught).answer? ⟨Sample.scene.journal, Sample.scene.core.data⟩ =
      some true := by decide +kernel
  obtain ⟨each, first, reflects⟩ :=
    rejected_request_leaves_or_marks Sample.scene_reachable accepted sampleCaught
  refine ⟨Sample.scene_reachable, accepted, by decide +kernel, fun index call found => ?_, first, completes,
    ?_, by decide +kernel⟩
  · obtain ⟨unwritten, _, written, _⟩ := each index call found
    exact ⟨unwritten, written⟩
  · exact reflects true _ (eq_ok_of_answer? completes)

/-- A call whose only request is rejected sets a scene component that had no value. -/
theorem rejected_request_commits_first_value :
    let live : Live (Data Unit) := ⟨Sample.scene.journal, Sample.scene.core.data⟩
    let plan : Plan := ⟨[], [(Registry.deltaTime, .sceneComponent)], none, false, false⟩
    let callback : Callback Unit := fun _ => do
      askFlag
      pure true
    (Plan.make Sample.registry [] [Registry.deltaTime]).toOption = some plan ∧
      (calls plan callback live).map (fun call => call.exchanges.map Exchange.isRejected) = [[true]] ∧
      (run plan callback).answer? live = some true ∧
      (live.core.scalar? Registry.deltaTime).isSome = false ∧
      (((run plan callback).leaves live).core.scalar? Registry.deltaTime).isSome = true := by
  decide +kernel

end Join

end EntityScene
