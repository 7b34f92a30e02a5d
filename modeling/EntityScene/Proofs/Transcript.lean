import EntityScene.Join
import EntityScene.Proofs.Outputs
import EntityScene.Proofs.Simulation

/-!
Transcripts of joins. A recorded callback does what the callback does and also remembers each of its
calls: the inputs it read, the requests it made with what came back, and how it ended. Forgetting the
calls again gives the plain callback.
-/

namespace EntityScene

open Act

variable {μ α β : Type}

/-- A request with what came back. -/
structure Exchange where
  request : Request
  answer : Except Fault request.Answer

/-- The output at the position counts as written: a value was accepted for it, or a first value was
asked for there, whatever came back. -/
def Exchange.Writes (position : Nat) : Exchange → Prop
  | ⟨.set place _, .ok _⟩ => place = position
  | ⟨.getOrInit place _, _⟩ => place = position
  | _ => False

namespace Dialogue

/-- The dialogue with a list of its exchanges. -/
def transcribed : Dialogue α → Dialogue (α × List Exchange)
  | .done result => .done (result, [])
  | .ask request next => .ask request fun answer =>
    (next answer).transcribed.bind fun (result, rest) => .done (result, ⟨request, answer⟩ :: rest)

theorem ends_ask {request : Request} {next : Except Fault request.Answer → Dialogue α}
    {live : Live Outputs} {post : Except Fault α → Live Outputs → Prop} :
    Ends (ask request next).run live post ↔
      Ends request.perform live fun answer after => Ends (next answer).run after post := by
  change Ends (attempt request.perform >>= fun answer => (next answer).run) live post ↔ _
  rw [ends_bind, ends_attempt]
  rfl

theorem run_bind (dialogue : Dialogue α) (next : α → Dialogue β) :
    (dialogue.bind next).run = dialogue.run >>= fun result => (next result).run := by
  induction dialogue with
  | done result => rfl
  | ask request answered ih =>
      simp only [Dialogue.bind, run, bind_assoc]
      congr 1
      funext answer
      exact ih answer

/-- The list of exchanges changes nothing else. -/
theorem transcribed_run (dialogue : Dialogue α) :
    (do let (result, _) ← dialogue.transcribed.run; pure result) = dialogue.run := by
  induction dialogue with
  | done result => rfl
  | ask request next ih =>
      simp only [transcribed, run, run_bind, bind_assoc]
      congr 1
      funext answer
      rw [← ih answer]
      rfl

end Dialogue

/-- How the slots stand after some exchanges: what counts as written did so before or was written. -/
def Outputs.Wrote (before after : Outputs) (exchanges : List Exchange) : Prop :=
  ∀ (position : Nat) (slot : OutputSlot), after[position]? = some slot → slot.written = true →
    (∃ old, before[position]? = some old ∧ old.written = true) ∨
      ∃ exchange ∈ exchanges, exchange.Writes position

/-- A request leaves the slots alone or fills one of them with a value of its type. -/
theorem Request.perform_ends {descriptors : List Descriptor} {live : Live Outputs}
    (sound : Outputs.Sound descriptors live.core) (request : Request) :
    Ends request.perform live fun answer after =>
      after.core = live.core ∨
        ∃ position slot value, live.core[position]? = some slot ∧
          value.type = slot.descriptor.element.type ∧
          after.core = List.set live.core position { slot with buffer := some value, written := true } ∧
          Exchange.Writes position ⟨request, answer⟩ := by
  cases request with
  | set position value =>
      unfold perform
      cases found : live.core[position]? with
      | none =>
          unfold Outputs.set
          rw [Outputs.ends_slot_missing found]
          exact Or.inl rfl
      | some slot =>
          rw [Outputs.ends_set found]
          split
          · rename_i typed
            exact Or.inr ⟨position, slot, value, found, typed, rfl, rfl⟩
          · exact Or.inl rfl
  | getOrInit position type =>
      unfold perform
      cases found : live.core[position]? with
      | none =>
          unfold Outputs.getOrInit
          rw [Outputs.ends_slot_missing found]
          exact Or.inl rfl
      | some slot =>
          have content := (sound.typed slot (List.mem_of_getElem? found)).content
          rw [Outputs.ends_getOrInit found]
          split
          · rename_i wanted
            refine Or.inr ⟨position, slot, _, found, ?_, rfl, rfl⟩
            split
            · rw [ElementType.type_default, ← wanted, content]
            · exact content
          · exact Or.inr ⟨position, slot, _, found, content, rfl, rfl⟩
  | get position type =>
      unfold perform
      rw [ends_bind, ends_core, continues_ok, ends_ofExcept]
      exact Or.inl rfl
  | describe position =>
      unfold perform
      rw [ends_bind, ends_core, continues_ok, ends_bind, ends_ofExcept]
      cases live.core.slot position <;> exact Or.inl rfl
  | count => exact Or.inl rfl

theorem Outputs.Wrote.refl (outputs : Outputs) : Wrote outputs outputs [] :=
  fun _ slot found written => Or.inl ⟨slot, found, written⟩

theorem Outputs.Wrote.cons {before middle after : Outputs} {exchange : Exchange}
    {rest : List Exchange} (first : Wrote before middle [exchange]) (second : Wrote middle after rest) :
    Wrote before after (exchange :: rest) := by
  intro position slot found written
  rcases second position slot found written with ⟨old, was, wasWritten⟩ | ⟨other, member, writes⟩
  · rcases first position old was wasWritten with earlier | ⟨other, member, writes⟩
    · exact Or.inl earlier
    · rw [List.mem_singleton.mp member] at writes
      exact Or.inr ⟨exchange, List.mem_cons_self, writes⟩
  · exact Or.inr ⟨other, List.mem_cons_of_mem _ member, writes⟩

/-- A slot may be put in place of one that counts as written if it does. -/
theorem Outputs.Wrote.put {outputs : Outputs} {position : Nat} {slot changed : OutputSlot}
    (found : outputs[position]? = some slot) (fewer : changed.written = true → slot.written = true) :
    Wrote outputs (List.set outputs position changed) [] := by
  intro place other here written
  rw [List.getElem?_set] at here
  split at here
  · rename_i same
    subst same
    split at here
    · rw [← Option.some.inj here] at written
      exact Or.inl ⟨slot, found, fewer written⟩
    · cases here
  · exact Or.inl ⟨other, here, written⟩

/-- The slots after a request. -/
theorem Request.perform_wrote {descriptors : List Descriptor} {live : Live Outputs}
    (sound : Outputs.Sound descriptors live.core) (request : Request) :
    Ends request.perform live fun answer after =>
      Outputs.Sound descriptors after.core ∧ Outputs.Wrote live.core after.core [⟨request, answer⟩] := by
  refine (Request.perform_ends sound request).mono ?_
  rintro answer after (same | ⟨position, slot, value, found, typed, changed, writes⟩)
  · rw [same]
    exact ⟨sound, fun _ slot found written => Or.inl ⟨slot, found, written⟩⟩
  · rw [changed]
    refine ⟨sound.put found rfl fun other held => ?_, ?_⟩
    · rw [← Option.some.inj held]
      exact typed
    · intro place other here written
      rw [List.getElem?_set] at here
      split at here
      · rename_i same
        rw [← same]
        exact Or.inr ⟨_, List.mem_singleton_self _, writes⟩
      · exact Or.inl ⟨other, here, written⟩

/-- The slots after a dialogue, which itself never ends in a fault. -/
theorem Dialogue.transcribed_ends {descriptors : List Descriptor} (dialogue : Dialogue α)
    {live : Live Outputs} (sound : Outputs.Sound descriptors live.core) :
    Ends dialogue.transcribed.run live fun outcome after =>
      ∃ result exchanges, outcome = .ok (result, exchanges) ∧
        Outputs.Sound descriptors after.core ∧ Outputs.Wrote live.core after.core exchanges := by
  induction dialogue generalizing live with
  | done result => exact ⟨result, [], rfl, sound, .refl _⟩
  | ask request next ih =>
      unfold transcribed
      rw [ends_ask]
      refine (Request.perform_wrote sound request).mono ?_
      rintro answer middle ⟨sound', first⟩
      rw [run_bind, ends_bind]
      refine (ih answer sound').mono ?_
      rintro _ after ⟨result, rest, rfl, sound'', wrote⟩
      exact ⟨result, _, rfl, sound'', first.cons wrote⟩

/-- One call of a callback. -/
structure Join.Call where
  inputs : Inputs
  exchanges : List Exchange
  outcome : Except Fault Bool

/-- The event, viewport and entity of the call. -/
def Join.Call.place (call : Join.Call) : Match := call.inputs.place

/-- The callback remembers its calls beside its own memory. -/
def Callback.recorded (callback : Callback μ) : Callback (μ × List Join.Call) := fun inputs =>
  ExceptT.mk fun (memory, calls) =>
    ((callback inputs).run.run memory).transcribed.bind fun ((outcome, memory), exchanges) =>
      .done (outcome, memory, calls ++ [⟨inputs, exchanges, outcome⟩])

/-- The same data with another memory. -/
def Data.withMemory {ν : Type} (data : Data μ) (memory : ν) : Data ν :=
  ⟨data.registry, data.storages, data.entities, data.viewports, data.commands, memory⟩

/-- The data before the first recorded call. -/
def Data.recording (data : Data μ) : Data (μ × List Join.Call) := data.withMemory (data.memory, [])

/-- The data without the recorded calls. -/
def Data.forget (data : Data (μ × List Join.Call)) : Data μ := data.withMemory data.memory.1

def Frame.forget (frame : Frame (μ × List Join.Call)) : Frame μ := ⟨frame.data.forget, frame.outputs⟩

namespace Join

/-- A recorded call differs from the plain one in what is remembered only. -/
theorem call_recorded (callback : Callback μ) (inputs : Inputs) :
    Projects Frame.forget (call callback.recorded inputs) (call callback inputs) := by
  rintro ⟨journal, data, outputs⟩ _ rfl
  let dialogue := (callback inputs).run.run data.memory.1
  have plain : (callback inputs).run.run data.memory.1 = dialogue := rfl
  have recorded : (callback.recorded inputs).run.run data.memory =
      dialogue.transcribed.bind fun ((outcome, memory), exchanges) =>
        .done (outcome, memory, data.memory.2 ++ [⟨inputs, exchanges, outcome⟩]) := rfl
  -- Both calls carry the same dialogue out; the list of exchanges is dropped again from the one.
  have erased := congrFun (Dialogue.transcribed_run dialogue) ⟨journal, outputs⟩
  unfold call onOutputs Act.core Act.focus Act.update
  simp only [bind, EStateM.bind, Frame.forget, Data.forget, Data.withMemory, recorded, plain,
    Dialogue.run_bind] at erased ⊢
  rw [← erased]
  cases dialogue.transcribed.run ⟨journal, outputs⟩ with
  | ok answer after =>
      obtain ⟨⟨outcome, memory⟩, exchanges⟩ := answer
      cases outcome with
      | ok going => exact .ok rfl
      | error cause => exact .error rfl
  | error cause after => exact .error rfl

/-- A call carries a dialogue out on the slots and then remembers what comes of its result. -/
theorem call_eq {callback : Callback μ} {inputs : Inputs} {live : Live (Frame μ)} {dialogue : Dialogue β}
    {finish : β → Except Fault Bool × μ}
    (talks : (callback inputs).run.run live.core.data.memory =
      dialogue.bind fun result => .done (finish result)) :
    call callback inputs live =
      (onOutputs dialogue.run >>= fun result => do
        Act.update fun frame => { frame with data.memory := (finish result).2 }
        Act.ofExcept (finish result).1) live := by
  change (onOutputs ((callback inputs).run.run live.core.data.memory).run >>= _) live = _
  rw [talks, Dialogue.run_bind]
  simp only [bind, EStateM.bind, onOutputs, Act.focus]
  cases dialogue.run ⟨live.journal, live.core.outputs⟩ <;> rfl

/-- A recorded call carries the dialogue out with a list of its exchanges and adds itself to the calls. -/
theorem call_recorded_eq (callback : Callback μ) (inputs : Inputs) (live : Live (Frame (μ × List Call))) :
    call callback.recorded inputs live =
      (onOutputs ((callback inputs).run.run live.core.data.memory.1).transcribed.run >>=
        fun ((outcome, memory), exchanges) => do
          Act.update fun frame =>
            { frame with
              data.memory := (memory, live.core.data.memory.2 ++ [⟨inputs, exchanges, outcome⟩]) }
          Act.ofExcept outcome) live := by
  let finish : (Except Fault Bool × μ) × List Exchange → Except Fault Bool × μ × List Call :=
    fun ((outcome, memory), exchanges) =>
      (outcome, memory, live.core.data.memory.2 ++ [⟨inputs, exchanges, outcome⟩])
  have talks : (callback.recorded inputs).run.run live.core.data.memory =
      ((callback inputs).run.run live.core.data.memory.1).transcribed.bind fun result =>
        .done (finish result) := rfl
  exact call_eq talks

/-- A recorded call adds itself to the calls and leaves the rest of the data alone. -/
theorem call_ends {descriptors : List Descriptor} {live : Live (Frame (μ × List Call))}
    (callback : Callback μ) (inputs : Inputs)
    (sound : Outputs.Sound descriptors live.core.outputs) :
    Ends (call callback.recorded inputs) live fun outcome after => ∃ memory exchanges,
      after.core.data =
        live.core.data.withMemory
          (memory, live.core.data.memory.2 ++ [⟨inputs, exchanges, outcome⟩]) ∧
        Outputs.Sound descriptors after.core.outputs ∧
        Outputs.Wrote live.core.outputs after.core.outputs exchanges := by
  rw [ends_congr (call_recorded_eq callback inputs live)]
  unfold onOutputs
  rw [ends_bind, ends_focus]
  refine (Dialogue.transcribed_ends _ sound).mono ?_
  rintro _ after ⟨⟨outcome, memory⟩, exchanges, rfl, sound', wrote⟩
  rw [continues_ok, ends_bind, ends_update, continues_ok, ends_ofExcept]
  exact ⟨memory, exchanges, rfl, sound', wrote⟩

end Join

end EntityScene
