import EntityScene.Proofs.Rejections

/-!
First values of outputs. The first call of a run that asks for a value of an output is given the initial
value of its element. A later one is given the default of the type, which need not be the same; and if a
request of another type was rejected before, it is given what an earlier match left in the slot.
-/

namespace EntityScene

open Act

variable {μ : Type}

/-- The exchange fills or marks the output at the position. -/
def Exchange.uses (position : Nat) (exchange : Exchange) : Bool := exchange.target? = some position

/-- A first value of the output at the position was asked for in vain. -/
def Exchange.vain (position : Nat) (exchange : Exchange) : Bool := exchange.marks? = some position

/-- The exchange is a request for a first value of the output in the type. -/
def Exchange.wants (position : Nat) (type : ElementType) : Exchange → Bool
  | ⟨.getOrInit place wanted, _⟩ => place = position && wanted = type
  | _ => false

/-- The word that the exchange has given out. -/
def Exchange.word? : Exchange → Option UInt32
  | ⟨.getOrInit _ _, .ok (.uint32 word)⟩ => some word
  | _ => none

/-- The call fills or marks the output at the position. -/
def Join.Call.uses (position : Nat) (call : Join.Call) : Bool := call.exchanges.any (Exchange.uses position)

namespace OutputSlot

/-- The later slot is for the same output, and its buffer is empty only if that of the earlier one was and
the output has not been used since. -/
structure Since (used : Bool) (earlier later : OutputSlot) : Prop where
  descriptor : later.descriptor = earlier.descriptor
  filled : later.buffer.isSome = (earlier.buffer.isSome || used)

theorem Since.refl (slot : OutputSlot) : Since false slot slot where
  descriptor := rfl
  filled := (Bool.or_false _).symm

theorem Since.trans {first second third : OutputSlot} {used again : Bool} (since : Since used first second)
    (since' : Since again second third) : Since (used || again) first third where
  descriptor := since'.descriptor.trans since.descriptor
  filled := by rw [since'.filled, since.filled, Bool.or_assoc]

theorem filled_since (slot : OutputSlot) (exchange : Exchange) : Since true slot (slot.filled exchange) := by
  unfold filled
  split <;> exact ⟨rfl, (Bool.or_true _).symm⟩

theorem settled_since (slot : OutputSlot) : Since false slot slot.settled where
  descriptor := slot.settled_descriptor
  filled := by
    unfold settled
    split
    · rename_i value _ waits
      have held : slot.buffer = some value := by
        unfold written? at waits
        split at waits
        · exact waits
        · cases waits
      simp [held]
    · simp

/-- To mark a slot again changes nothing. -/
theorem marked_marked (slot : OutputSlot) : slot.marked.marked = slot.marked := rfl

/-- What a slot that has not been written gives out first, marked or not. -/
theorem unwritten_first {slot : OutputSlot} (unwritten : slot.written = false) (asked : Bool) (type : ElementType) :
    let now := if asked then slot.marked else slot
    (if now.stale then type.default else now.content) =
      (slot.buffer.map fun value => if asked then value else type.default).getD
        slot.descriptor.element.initial := by
  cases held : slot.buffer <;> cases asked <;> simp [stale, marked, content, held, unwritten]

end OutputSlot

namespace Outputs

variable {outputs : Outputs} {position : Nat} {slot : OutputSlot}

theorem told_unused {exchange : Exchange} (unused : exchange.target? ≠ some position) :
    (outputs.told exchange)[position]? = outputs[position]? := by
  unfold told
  cases aims : exchange.target? with
  | none => rfl
  | some place =>
      rw [aims] at unused
      simp [show place ≠ position from fun same => unused (congrArg some same)]

theorem told_since (found : outputs[position]? = some slot) (exchange : Exchange) :
    ∃ later, (outputs.told exchange)[position]? = some later ∧ slot.Since (exchange.uses position) later := by
  by_cases aims : exchange.target? = some position
  · have inside := (List.getElem?_eq_some_iff.mp found).1
    refine ⟨slot.filled exchange, ?_, ?_⟩
    · rw [told_found aims found, List.getElem?_set_self inside]
    · simpa [Exchange.uses, aims] using slot.filled_since exchange
  · refine ⟨slot, (told_unused aims).trans found, ?_⟩
    simpa [Exchange.uses, aims] using OutputSlot.Since.refl slot

theorem replay_since (found : outputs[position]? = some slot) (exchanges : List Exchange) :
    ∃ later, (outputs.replay exchanges)[position]? = some later ∧
      slot.Since (exchanges.any (Exchange.uses position)) later := by
  induction exchanges generalizing outputs slot with
  | nil => exact ⟨slot, found, .refl slot⟩
  | cons exchange rest ih =>
      obtain ⟨middle, found', since⟩ := told_since found exchange
      obtain ⟨later, found'', since'⟩ := ih found'
      exact ⟨later, found'', since.trans since'⟩

/-- As long as a call writes no value to an output, its slot is as it was at first, or marked. -/
theorem replay_unwritten (found : outputs[position]? = some slot) {exchanges : List Exchange}
    (unwritten : ∀ exchange ∈ exchanges, exchange.writes? ≠ some position) :
    (outputs.replay exchanges)[position]? =
      some (if exchanges.any (Exchange.vain position) then slot.marked else slot) := by
  induction exchanges generalizing outputs slot with
  | nil => exact found
  | cons exchange rest ih =>
      obtain ⟨first, others⟩ := List.forall_mem_cons.mp unwritten
      show ((outputs.told exchange).replay rest)[position]? = _
      by_cases asks : exchange.marks? = some position
      · have marked : (outputs.told exchange)[position]? = some slot.marked := by
          have rejected : exchange.isRejected = true := by
            obtain ⟨request, answer⟩ := exchange
            cases request <;> cases answer <;> first | rfl | cases asks
          rw [told_rejected outputs rejected, if_pos asks, found]
          rfl
        have later := ih marked others
        rw [OutputSlot.marked_marked, ite_self] at later
        simpa [Exchange.vain, asks] using later
      · have unused : exchange.target? ≠ some position := by
          rw [ne_eq, Exchange.target?_eq_some]
          exact not_or.mpr ⟨first, asks⟩
        have later := ih ((told_unused unused).trans found) others
        simpa [Exchange.vain, asks] using later

end Outputs

/-- A first value of the output's own type is always given. -/
theorem Exchange.Happens.first_value {outputs : Outputs} {position : Nat} {type : ElementType}
    {answer : Except Fault Value} (happens : Exchange.Happens outputs ⟨.getOrInit position type, answer⟩)
    {slot : OutputSlot} (found : outputs[position]? = some slot) (typed : slot.content.type = type) :
    answer = .ok (if slot.stale then type.default else slot.content) := by
  have ends : Ends (Outputs.getOrInit position type) ⟨{}, outputs⟩ fun given _ => given = answer :=
    (happens {}).mono fun _ _ both => both.1
  rw [Outputs.ends_getOrInit found, if_pos typed] at ends
  exact ends.symm

namespace Join

theorem slotsAfter_since {slots : Outputs} {position : Nat} {slot : OutputSlot}
    (found : slots[position]? = some slot) (calls : List Call) :
    ∃ later, (slotsAfter slots calls)[position]? = some later ∧
      slot.Since (calls.any (Call.uses position)) later := by
  induction calls generalizing slots slot with
  | nil => exact ⟨slot, found, .refl slot⟩
  | cons call rest ih =>
      obtain ⟨middle, found', since⟩ := Outputs.replay_since found call.exchanges
      have settled : ((slots.replay call.exchanges).map OutputSlot.settled)[position]? = some middle.settled := by
        rw [List.getElem?_map, found']
        rfl
      obtain ⟨later, found'', since'⟩ := ih settled
      have both := since.trans middle.settled_since |>.trans since'
      rw [Bool.or_false] at both
      exact ⟨later, found'', both⟩

/-- The slot of a registered output before a call of the run. -/
theorem slotsBefore_since {registry : Registry} {plan : Plan} {descriptors : List Descriptor}
    (describes : Describes registry plan descriptors) {position : Nat} {resource : ResourceId} {kind : Kind}
    {descriptor : Descriptor} (output : plan.outputs[position]? = some (resource, kind))
    (registered : registry.get? resource = some descriptor) (calls : List Call) :
    ∃ slot, (slotsBefore registry plan calls)[position]? = some slot ∧
      OutputSlot.Since (calls.any (Call.uses position)) ⟨descriptor, none, false⟩ slot := by
  unfold slotsBefore
  rw [describes.filterMap_eq]
  apply slotsAfter_since
  have here := congrArg (fun list => list[position]?) describes
  simp only [List.getElem?_map, output, Option.map_some, registered] at here
  obtain ⟨other, found, same⟩ := Option.map_eq_some_iff.mp here.symm
  cases same
  simp [Outputs.blank, found]

/-- What a call is given first for an output, in terms of the slot that it finds. -/
theorem Follows.first_value {plan : Plan} {base : Data μ} {written : List Writing} {slots : Outputs} {call : Call}
    (follows : Follows plan base written slots call) {earlier later : List Exchange} {position : Nat}
    {type : ElementType} {answer : Except Fault Value}
    (parts : call.exchanges = earlier ++ ⟨.getOrInit position type, answer⟩ :: later) {slot : OutputSlot}
    (found : slots[position]? = some slot) (own : type = slot.descriptor.element.type)
    (unwritten : ∀ exchange ∈ earlier, exchange.writes? ≠ some position) :
    answer = .ok ((slot.buffer.map fun value =>
      if earlier.any (Exchange.vain position) then value else type.default).getD slot.descriptor.element.initial) := by
  have conducts := follows.conducts
  rw [parts] at conducts
  obtain ⟨happens, typed⟩ := conducts.split follows.typed
  have now := Outputs.replay_unwritten found unwritten
  have content := (typed _ (List.mem_of_getElem? now)).content
  have same : (if earlier.any (Exchange.vain position) then slot.marked else slot).descriptor = slot.descriptor := by
    split <;> rfl
  rw [same, ← own] at content
  rw [happens.first_value now content,
    OutputSlot.unwritten_first (follows.unwritten slot (List.mem_of_getElem? found))]

/-- What a call of a run is given when it asks for a value of an output, in the type of the output, before it
has written one. If no earlier call of the run has used the output, it is the initial value of the element.
Otherwise it is the default of the type or, if the same call has asked for another type in vain, what the
earlier calls left in the slot. So it is always the initial value if that is the default and no request for
a first value is rejected. -/
theorem first_value_by_use {registry : Registry} {scene : Live (Scene μ)} {reads writes : List ResourceId}
    {plan : Plan} (reachable : Scene.Reachable registry scene)
    (accepted : Plan.make registry reads writes = .ok plan) (callback : Callback μ) :
    let made := calls plan callback ⟨scene.journal, scene.core.data⟩
    ∀ (index : Nat) (call : Call), made[index]? = some call →
    ∀ (earlier later : List Exchange) (position : Nat) (type : ElementType) (answer : Except Fault Value),
      call.exchanges = earlier ++ ⟨.getOrInit position type, answer⟩ :: later →
    ∀ (resource : ResourceId) (kind : Kind) (descriptor : Descriptor),
      plan.outputs[position]? = some (resource, kind) → registry.get? resource = some descriptor →
      type = descriptor.element.type → (∀ exchange ∈ earlier, exchange.writes? ≠ some position) →
      let used := (made.take index).any (Call.uses position)
      let asked := earlier.any (Exchange.vain position)
      (used = false → answer = .ok descriptor.element.initial) ∧
        (used = true → asked = false → answer = .ok descriptor.element.type.default) ∧
        (used = true → asked = true → ∃ slot value,
          (slotsBefore registry plan (made.take index))[position]? = some slot ∧ slot.buffer = some value ∧
            answer = .ok value) ∧
        (descriptor.element.initial = descriptor.element.type.default → asked = false →
          answer = .ok descriptor.element.initial) := by
  have based : Data.SoundOver registry (Live.core ⟨scene.journal, scene.core.data⟩) := reachable.soundOver
  intro made index call found earlier later position type answer parts resource kind descriptor output registered
    own unwritten used asked
  have follows := (run_follows based accepted callback).1 index call found
  obtain ⟨descriptors, describes⟩ := exists_describes (recording_fits based accepted).1
  change Describes scene.core.data.registry plan descriptors at describes
  rw [based.registry] at describes
  obtain ⟨slot, here, since⟩ := slotsBefore_since describes output registered (made.take index)
  have described : slot.descriptor = descriptor := since.descriptor
  have filled : slot.buffer.isSome = used := since.filled
  have given := follows.first_value parts here (own.trans (by rw [described])) unwritten
  rw [described, own] at given
  change answer = .ok ((slot.buffer.map fun value =>
    if asked then value else descriptor.element.type.default).getD descriptor.element.initial) at given
  clear_value asked
  rw [given, ← filled]
  cases held : slot.buffer with
  | none => simp
  | some value =>
      cases asked with
      | false => simp +contextual
      | true => simp [here, held]

/-- Words that start from seven. -/
def scoring : Element := { Element.plain .uint32 with initial := .uint32 7, initial_type := rfl }

def scoreRegistry : Registry where
  descriptors := Registry.builtin.descriptors ++
    [⟨4, "click", .event, .plain .uint32⟩, ⟨5, "score", .sceneComponent, scoring⟩]

def scoreStart : Scene Unit :=
  ⟨⟨scoreRegistry, scoreRegistry.descriptors.map Storage.ofDescriptor, .empty, .empty, .empty, ()⟩,
    .empty .update, .default, .zero⟩

/-- A new scene with two clicks. -/
def scoreScene : Live (Scene Unit) :=
  Scene.runAll [.sendEvent 4 (.uint32 1), .sendEvent 4 (.uint32 2)]
    ⟨((Scene.create scoreRegistry ([] : List (Job Unit)) .default).leaves ⟨{}, ()⟩).journal, scoreStart⟩

theorem scoreScene_reachable : Scene.Reachable scoreRegistry scoreScene :=
  ⟨[], .default, ⟨{}, ()⟩, scoreStart, _, _, rfl, rfl⟩

def scorePlan : Plan := ⟨[(4, .event)], [(5, .sceneComponent)], some 4, false, false⟩

/-- Asks for the score of each click. -/
def sampleScore : Callback Unit := fun _ => do
  discard (Request.getOrInit 0 .uint32).send
  pure true

/-- Scores nine for the first click and asks for a flag before the score of the other one. -/
def caughtScore : Callback Unit := fun inputs => do
  if inputs.place.event = some 0 then (Request.set 0 (.uint32 9)).send else askFlag
  discard (Request.getOrInit 0 .uint32).send
  pure true

theorem exists_only_request {made : List Call} {index position : Nat} {type : ElementType}
    (shape : (made[index]?.map fun call => call.exchanges.map (Exchange.wants position type)) = some [true]) :
    ∃ call answer, made[index]? = some call ∧ call.exchanges = [⟨.getOrInit position type, answer⟩] := by
  obtain ⟨call, found, single⟩ := Option.map_eq_some_iff.mp shape
  obtain ⟨exchange, only, wants⟩ := List.map_eq_singleton_iff.mp single
  obtain ⟨request, answer⟩ := exchange
  cases request with
  | getOrInit place wanted =>
      simp only [Exchange.wants, Bool.and_eq_true, decide_eq_true_eq] at wants
      obtain ⟨rfl, rfl⟩ := wants
      exact ⟨call, answer, found, only⟩
  | set | get | describe | count => cases wants

/-- The first click is given seven and the second one zero. -/
theorem first_value_by_use_sample :
    let made := calls scorePlan sampleScore ⟨scoreScene.journal, scoreScene.core.data⟩
    Scene.Reachable scoreRegistry scoreScene ∧ Plan.make scoreRegistry [4] [5] = .ok scorePlan ∧
      (∃ call answer, made[0]? = some call ∧ call.exchanges = [⟨.getOrInit 0 .uint32, answer⟩] ∧
        answer = .ok (.uint32 7)) ∧
      ∃ call answer, made[1]? = some call ∧ call.exchanges = [⟨.getOrInit 0 .uint32, answer⟩] ∧
        answer = .ok (.uint32 0) := by
  have accepted : Plan.make scoreRegistry [4] [5] = .ok scorePlan := rfl
  have values := first_value_by_use scoreScene_reachable accepted sampleScore
  have shape (index : Nat) (inside : index < 2) :
      ((calls scorePlan sampleScore ⟨scoreScene.journal, scoreScene.core.data⟩)[index]?.map fun call =>
        call.exchanges.map (Exchange.wants 0 .uint32)) = some [true] := by
    revert index
    decide +kernel
  obtain ⟨first, answer, found, only⟩ := exists_only_request (shape 0 (by decide))
  obtain ⟨second, answer', found', only'⟩ := exists_only_request (shape 1 (by decide))
  have initial := values 0 first found [] [] 0 .uint32 answer only 5 .sceneComponent _ rfl rfl rfl (by simp)
  have default := values 1 second found' [] [] 0 .uint32 answer' only' 5 .sceneComponent _ rfl rfl rfl (by simp)
  exact ⟨scoreScene_reachable, accepted, ⟨first, answer, found, only, initial.1 rfl⟩,
    second, answer', found', only', default.2.1 (by decide +kernel) rfl⟩

/-- The initial score is seven, but the second click is given zero, or what the first one left. -/
theorem later_first_value_not_initial :
    let live : Live (Data Unit) := ⟨scoreScene.journal, scoreScene.core.data⟩
    (Plan.make scoreRegistry [4] [5]).toOption = some scorePlan ∧
      (scoreRegistry.get? 5).any (fun score => score.element.initial.same (.uint32 7)) = true ∧
      (calls scorePlan sampleScore live).map (fun call => call.exchanges.map Exchange.word?) =
        [[some 7], [some 0]] ∧
      (calls scorePlan caughtScore live).map (fun call => call.exchanges.map Exchange.word?) =
        [[none, some 9], [none, some 9]] := by
  decide +kernel

end Join

end EntityScene
