import EntityScene.Proofs.ValueFlow
import Mathlib.Data.List.TakeWhile

/-!
Outputs that no commit supports. A commit that meets an output of events or of requests to despawn ends
in a fault there, after the outputs declared before it. A join whose plan has such an output therefore
makes one call at most, and what that call leaves is known exactly.
-/

namespace EntityScene

open Act

variable {μ ν : Type}

namespace Join

theorem Writing.put_withMemory (data : Data μ) (memory : ν) (writing : Writing) :
    writing.put (data.withMemory memory) = (writing.put data).withMemory memory := by
  cases writing with
  | requested => rfl
  | stored resource spot value =>
      simp only [put, Data.withMemory]
      split <;> rfl

theorem putAll_withMemory (data : Data μ) (memory : ν) (writings : List Writing) :
    putAll (data.withMemory memory) writings = (putAll data writings).withMemory memory := by
  induction writings generalizing data with
  | nil => rfl
  | cons writing rest ih =>
      unfold putAll at ih ⊢
      rw [List.foldl_cons, List.foldl_cons, Writing.put_withMemory, ih]

/-- What the written ones of the outputs leave, in the order of their declaration. -/
def written (place : Match) (outputs : List (ResourceId × Kind)) (slots : Outputs) : List Writing :=
  (outputs.zip slots).filterMap fun pair => slotWriting place pair.1.1 pair.2

theorem written_cons (place : Match) (output : ResourceId × Kind) (outputs : List (ResourceId × Kind))
    (slot : OutputSlot) (slots : Outputs) :
    written place (output :: outputs) (slot :: slots) =
      (slotWriting place output.1 slot).toList ++ written place outputs slots := by
  unfold written
  rw [List.zip_cons_cons, List.filterMap_cons]
  dsimp only
  cases slotWriting place output.1 slot <;> rfl

section Commits

variable {reads writes : List ResourceId} {plan : Plan} {base : Data μ} {place : Match}
  {descriptors : List Descriptor} {position : Nat} {resource : ResourceId} {kind : Kind}
  {live : Live (Frame μ)}

/-- A commit ends with the first output that it does not support. -/
theorem commit_halts (front rest : List (ResourceId × Kind)) (unsupported : kind.commits = false) :
    (commit place position (front ++ (resource, kind) :: rest) : Act (Frame μ) Unit) =
      (commit place position front >>= fun _ => Act.fault (.outputUnsupported resource kind)) := by
  induction front generalizing position with
  | nil =>
      rw [List.nil_append, commit_cons, commitSlot, if_pos (Kind.commits_eq_false.mp unsupported)]
      rfl
  | cons output others ih =>
      rw [List.cons_append, commit_cons, commit_cons, bind_assoc]
      simp only [ih]

/-- A commit of supported outputs makes the writings and nothing else, unless one of the values is refused.
The induction is on the outputs; what stands before the position was committed already. -/
theorem commit_puts {earlier : List Writing} {outputs rest : List (ResourceId × Kind)}
    (fits : plan.Fits base.registry reads writes) (describes : Describes base.registry plan descriptors)
    (releasing : Releasing base.registry plan) (placed : Placed plan base place)
    (left : outputs ++ rest = plan.outputs.drop position)
    (supported : ∀ output ∈ outputs, output.2.commits = true) (steady : Steady plan base live.core.data)
    (sound : Outputs.Sound descriptors live.core.outputs) (reflects : Reflects base earlier live.core.data) :
    Ends (commit place position outputs) live fun outcome after =>
      if ∀ slot ∈ (live.core.outputs.drop position).take outputs.length, slot.stuck = false then
        outcome = .ok () ∧
          after.core.data = putAll live.core.data (written place outputs (live.core.outputs.drop position))
      else ∃ cause, outcome = .error cause ∧ cause.isUnsupported = false := by
  induction outputs generalizing position live earlier with
  | nil => simp [commit, written, putAll]
  | cons output others ih =>
      obtain ⟨resource, kind⟩ := output
      have declared : plan.outputs[position]? = some (resource, kind) := by
        rw [← List.head?_drop, ← left]
        rfl
      have remaining : others ++ rest = plan.outputs.drop (position + 1) := by
        rw [← List.tail_drop, ← left]
        rfl
      obtain ⟨slot, found, described, registered, sort⟩ := exists_slot fits describes sound declared
      obtain ⟨inside, here⟩ := List.getElem?_eq_some_iff.mp found
      have split : live.core.outputs.drop position = slot :: live.core.outputs.drop (position + 1) := by
        rw [List.drop_eq_getElem_cons inside, here]
      have member := List.mem_of_getElem? declared
      have typed := sound.typed slot (List.mem_of_getElem? found)
      have blocks : isBlocked base.occupant? place earlier resource slot = slot.stuck :=
        isBlocked_releasing (releasing _ member slot.descriptor registered)
      rw [commit_cons, ends_bind, split, written_cons, putAll_append, List.length_cons, List.take_succ_cons]
      apply (commitSlot_lands fits placed member registered sort steady typed found reflects).mono
      intro outcome after lands
      cases lands with
      | refused stuck _ named =>
          rw [blocks] at stuck
          have blocked : ¬∀ other ∈ slot :: (live.core.outputs.drop (position + 1)).take others.length,
              other.stuck = false := by
            intro free
            have mine := free slot List.mem_cons_self
            rw [stuck] at mine
            cases mine
          rw [sort, supported _ List.mem_cons_self] at named
          rw [continues_error, if_neg blocked]
          exact ⟨_, rfl, named⟩
      | written free steady' reflects' changed data =>
          rw [blocks] at free
          have sound' : Outputs.Sound descriptors after.core.outputs := by
            rw [changed]
            exact sound.put found slot.settled_descriptor (typed.settled free)
          have untouched : after.core.outputs.drop (position + 1) = live.core.outputs.drop (position + 1) := by
            rw [changed, List.drop_set_of_lt (Nat.lt_succ_self position)]
          have rests := ih remaining (fun other later => supported other (List.mem_cons_of_mem _ later)) steady'
            sound' reflects'
          rw [untouched, data] at rests
          simpa only [continues_ok, List.forall_mem_cons, free, true_and] using rests

/-- A commit with an unsupported output ends in a fault: at this output and with those in front of it
committed, or before it at a value that is refused. -/
theorem commit_unsupported {earlier : List Writing} {front rest : List (ResourceId × Kind)}
    (fits : plan.Fits base.registry reads writes) (describes : Describes base.registry plan descriptors)
    (releasing : Releasing base.registry plan) (placed : Placed plan base place)
    (split : plan.outputs = front ++ (resource, kind) :: rest)
    (supported : ∀ output ∈ front, output.2.commits = true) (unsupported : kind.commits = false)
    (steady : Steady plan base live.core.data) (sound : Outputs.Sound descriptors live.core.outputs)
    (reflects : Reflects base earlier live.core.data) :
    Ends (commit place 0 plan.outputs) live fun outcome after => ∃ cause, outcome = .error cause ∧
      if ∀ slot ∈ live.core.outputs.take front.length, slot.stuck = false then
        cause = .outputUnsupported resource kind ∧
          after.core.data = putAll live.core.data (written place front live.core.outputs)
      else cause.isUnsupported = false := by
  have left : front ++ (resource, kind) :: rest = plan.outputs.drop 0 := split.symm
  rw [split, commit_halts front rest unsupported, ends_bind]
  apply (commit_puts fits describes releasing placed left supported steady sound reflects).mono
  intro outcome after puts
  rw [List.drop_zero] at puts
  by_cases free : ∀ slot ∈ live.core.outputs.take front.length, slot.stuck = false
  · rw [if_pos free] at puts
    obtain ⟨rfl, puts⟩ := puts
    exact ⟨_, rfl, by rw [if_pos free]; exact ⟨rfl, puts⟩⟩
  · rw [if_neg free] at puts
    obtain ⟨cause, rfl, other⟩ := puts
    exact ⟨cause, rfl, by rw [if_neg free]; exact other⟩

end Commits

section Runs

variable {reads writes : List ResourceId} {plan : Plan} {descriptors : List Descriptor}
  {resource : ResourceId} {kind : Kind} {front rest : List (ResourceId × Kind)}

/-- How a join over the matches ends whose plan has the unsupported output after those in front of it. It
makes no call if there is no match. Otherwise it makes one call into the slots, and nothing is committed
but what stands in front of the output, if the call goes on. -/
inductive Halted (base : Data μ) (front : List (ResourceId × Kind)) (resource : ResourceId) (kind : Kind)
    (slots : Outputs) : List Match → List Call → Except Fault Bool → Data μ → Prop
  | idle : Halted base front resource kind slots [] [] (.ok true) base
  | raised {call : Call} {place : Match} {others : List Match} {cause : Fault} {memory : μ}
    (here : call.place = place) (raises : call.outcome = .error cause) :
    Halted base front resource kind slots (place :: others) [call] (.error cause) (base.withMemory memory)
  | stopped {call : Call} {place : Match} {others : List Match} {memory : μ} (here : call.place = place)
    (stops : call.outcome = .ok false) :
    Halted base front resource kind slots (place :: others) [call] (.ok false) (base.withMemory memory)
  | halted {call : Call} {place : Match} {others : List Match} {cause : Fault} {after : Data μ}
    (here : call.place = place) (goes : call.outcome = .ok true)
    (left : if ∀ slot ∈ (slots.replay call.exchanges).take front.length, slot.stuck = false then
        cause = .outputUnsupported resource kind ∧
          after = (putAll base (written place front (slots.replay call.exchanges))).withMemory after.memory
      else cause.isUnsupported = false) :
    Halted base front resource kind slots (place :: others) [call] (.error cause) after

theorem Halted.forget {base after : Data (μ × List Call)} {slots : Outputs} {places : List Match}
    {calls : List Call} {outcome : Except Fault Bool}
    (halted : Halted base front resource kind slots places calls outcome after) :
    Halted base.forget front resource kind slots places calls outcome after.forget := by
  cases halted with
  | idle => exact .idle
  | raised here raises => exact .raised here raises
  | stopped here stops => exact .stopped here stops
  | halted here goes left =>
      apply Halted.halted here goes
      split
      · rename_i free
        rw [if_pos free] at left
        refine ⟨left.1, ?_⟩
        unfold Data.forget
        rw [putAll_withMemory, left.2]
        rfl
      · rename_i refused
        rw [if_neg refused] at left
        exact left

/-- The first visit does not go on. -/
theorem visit_halts {base : Data (μ × List Call)} {place : Match} {journal : Journal} {slots : Outputs}
    (callback : Callback μ) (fits : plan.Fits base.registry reads writes)
    (describes : Describes base.registry plan descriptors) (releasing : Releasing base.registry plan)
    (placed : Placed plan base place) (split : plan.outputs = front ++ (resource, kind) :: rest)
    (supported : ∀ output ∈ front, output.2.commits = true) (unsupported : kind.commits = false)
    (ready : Ready plan base descriptors ⟨base, slots⟩) (others : List Match) :
    Ends (visit plan callback.recorded place) ⟨journal, ⟨base, slots⟩⟩ fun outcome after => ∃ call : Call,
      after.core.data.memory.2 = base.memory.2 ++ [call] ∧
        Halted base front resource kind slots (place :: others) [call] outcome after.core.data := by
  obtain ⟨inputs, read, rfl⟩ := resolve_ok fits ready.steady placed
  unfold visit
  rw [ends_bind, ends_core, continues_ok, read, ends_bind, ends_ofExcept, continues_ok, ends_bind]
  refine ((call_replays callback inputs _).and (call_ends callback inputs ready.sound)).mono ?_
  rintro outcome ⟨journal', data, outputs⟩ ⟨⟨memory, exchanges, rfl, _, rfl⟩, _, _, _, sound', _⟩
  cases outcome with
  | error cause => exact ⟨⟨inputs, exchanges, .error cause⟩, rfl, .raised rfl rfl⟩
  | ok going =>
      rw [continues_ok]
      cases going with
      | false => exact ⟨⟨inputs, exchanges, .ok false⟩, rfl, .stopped rfl rfl⟩
      | true =>
          change Ends (commit inputs.place 0 plan.outputs >>= fun _ => pure true) _ _
          rw [ends_bind]
          refine ((commit_unsupported fits describes releasing placed split supported unsupported
            (ready.steady.aside base.commands _) sound' ((Reflects.refl base).withMemory _)).and
            (commit_memory plan inputs.place (· = _) _ rfl)).mono ?_
          rintro _ after ⟨⟨cause, rfl, left⟩, kept⟩
          refine ⟨⟨inputs, exchanges, .ok true⟩, congrArg Prod.snd kept, .halted rfl rfl ?_⟩
          rw [putAll_withMemory] at left
          rw [kept]
          exact left

/-- A run of sound data whose plan has an unsupported output. -/
theorem run_recorded_halts {live : Live (Data (μ × List Call))} (callback : Callback μ)
    (fits : plan.Fits live.core.registry reads writes) (sound : live.core.Sound)
    (releasing : Releasing live.core.registry plan)
    (split : plan.outputs = front ++ (resource, kind) :: rest)
    (supported : ∀ output ∈ front, output.2.commits = true) (unsupported : kind.commits = false) :
    Ends (run plan callback.recorded) live fun outcome after => ∃ calls : List Call,
      after.core.memory.2 = live.core.memory.2 ++ calls ∧
        Halted live.core front resource kind (slotsBefore live.core.registry plan [])
          (live.core.staticJoin reads writes) calls outcome after.core := by
  obtain ⟨descriptors, describes⟩ := exists_describes fits
  have blank : slotsBefore live.core.registry plan [] = Outputs.blank descriptors := by
    rw [slotsBefore, describes.filterMap_eq]
    rfl
  rw [blank]
  refine (traverse_ends (fun walked data => ∃ calls : List Call, data.memory.2 = live.core.memory.2 ++ calls ∧
    Halted live.core front resource kind (Outputs.blank descriptors) (live.core.staticJoin reads writes) calls
      walked data) fits describes sound (fun unset => ?_) fun set journal => ?_).mono ?_
  · unfold Data.staticJoin
    rw [if_neg (by rw [unset]; exact Bool.false_ne_true)]
    exact ⟨[], (List.append_nil _).symm, .idle⟩
  · have placed : ∀ place ∈ live.core.staticJoin reads writes, Placed plan live.core place :=
      fun _ member => mem_staticJoin fits set member
    have ready : Ready plan live.core descriptors ⟨live.core, Outputs.blank descriptors⟩ :=
      .blank sound descriptors
    rw [ends_congr (walk_recorded_eq callback fits describes sound set journal)]
    refine ((visitAll_ends callback fits describes placed ready).mono fun _ _ both => both.1).and ?_
    cases matched : live.core.staticJoin reads writes with
    | nil => exact ⟨[], (List.append_nil _).symm, .idle⟩
    | cons place others =>
        rw [matched] at placed
        unfold visitAll
        rw [ends_bind]
        refine (visit_halts callback fits describes releasing (placed place List.mem_cons_self) split supported
          unsupported ready others).mono ?_
        rintro outcome after ⟨call, remembered, halted⟩
        cases outcome with
        | error cause => exact ⟨[call], remembered, halted⟩
        | ok going =>
            rw [continues_ok]
            cases going with
            | false => exact ⟨[call], remembered, halted⟩
            | true => cases halted
  · rintro _ _ ⟨walked, closed, halted⟩
    rw [← closed.of_releasing releasing]
    exact halted

/-- The outputs up to the first unsupported one, if there is one at all. -/
theorem exists_first_unsupported {outputs : List (ResourceId × Kind)}
    (unsupported : ∃ output ∈ outputs, output.2.commits = false) :
    ∃ resource kind rest,
      outputs = (outputs.takeWhile fun output => output.2.commits) ++ (resource, kind) :: rest ∧
        kind.commits = false := by
  obtain ⟨output, member, never⟩ := unsupported
  have refuses := List.head?_dropWhile_not (fun output : ResourceId × Kind => output.2.commits) outputs
  cases left : outputs.dropWhile fun output => output.2.commits with
  | nil =>
      rw [List.dropWhile_eq_nil_iff.mp left output member] at never
      cases never
  | cons first rest =>
      rw [left] at refuses
      refine ⟨first.1, first.2, rest, ?_, refuses⟩
      rw [← left, List.takeWhile_append_dropWhile]

end Runs

/-- A join whose plan has an output of events or of requests to despawn stops with its first call, provided
that no destruction of a value of its outputs fails. Without a match it answers true and changes nothing.
Otherwise it calls the callback once, on the first match. If the call answers false or ends in a fault, so
does the join, and nothing is committed. If it answers true, the join ends in a fault, whatever was written
to the unsupported output: if no value in front of the first such output is refused, the fault is that of
this output, and the data are those before the call with the written outputs in front of it committed in the
order of their declaration; otherwise it is another one. -/
theorem unsupported_output_stops_join {registry : Registry} {scene : Live (Scene μ)}
    {reads writes : List ResourceId} {plan : Plan} (reachable : Scene.Reachable registry scene)
    (accepted : Plan.make registry reads writes = .ok plan)
    (unsupported : ∃ output ∈ plan.outputs, output.2.commits = false)
    (releasing : Releasing registry plan) (callback : Callback μ) :
    let before := scene.core.data
    let live : Live (Data μ) := ⟨scene.journal, before⟩
    let after := ((run plan callback).leaves live).core
    let front := plan.outputs.takeWhile fun output => output.2.commits
    ∃ resource kind, plan.outputs[front.length]? = some (resource, kind) ∧ kind.commits = false ∧
      (before.staticJoin reads writes = [] →
        (run plan callback).answer? live = some true ∧ after = before ∧ calls plan callback live = []) ∧
      ∀ place others, before.staticJoin reads writes = place :: others →
        ∃ call, calls plan callback live = [call] ∧ call.place = place ∧
          (∀ cause, call.outcome = .error cause →
            (run plan callback).fault? live = some cause ∧ after = before.withMemory after.memory) ∧
          (call.outcome = .ok false →
            (run plan callback).answer? live = some false ∧ after = before.withMemory after.memory) ∧
          (call.outcome = .ok true → ∃ cause, (run plan callback).fault? live = some cause ∧
            let slots := (slotsBefore registry plan []).replay call.exchanges
            if ∀ slot ∈ slots.take front.length, slot.stuck = false then
              cause = .outputUnsupported resource kind ∧
                after = (putAll before (written place front slots)).withMemory after.memory
            else cause.isUnsupported = false) := by
  intro before live after front
  obtain ⟨resource, kind, rest, split, never⟩ := exists_first_unsupported unsupported
  change plan.outputs = front ++ _ at split
  have supported : ∀ output ∈ front, output.2.commits = true := by
    intro output member
    have holds := List.mem_takeWhile_imp member
    exact holds
  have based : Data.SoundOver registry live.core := reachable.soundOver
  obtain ⟨fits, sound⟩ := recording_fits based accepted
  rw [← based.registry] at releasing
  have halts : Ends (run plan callback) live fun outcome after =>
      Halted before front resource kind (slotsBefore registry plan []) (before.staticJoin reads writes)
        (calls plan callback live) outcome after.core :=
    run_ends_of_recorded (fun made outcome after => Halted before front resource kind
      (slotsBefore registry plan []) (before.staticJoin reads writes) made outcome after.core) (by
        rw [← based.registry]
        refine Ends.mono (run_recorded_halts callback fits sound releasing split supported never) ?_
        rintro outcome after ⟨made, remembered, halted⟩
        exact ⟨made, remembered, halted.forget⟩)
  obtain ⟨outcome, answers, faults, halted⟩ := halts.exists_outcome
  change Halted _ _ _ _ _ _ _ outcome after at halted
  have first : plan.outputs[front.length]? = some (resource, kind) := by
    rw [split, List.getElem?_append_right (Nat.le_refl _), Nat.sub_self]
    rfl
  generalize calls plan callback live = made at halted ⊢
  clear_value after front
  refine ⟨resource, kind, first, never, fun idle => ?_, fun place others matched => ?_⟩
  · rw [idle] at halted
    cases halted with
    | idle => exact ⟨answers true rfl, rfl, rfl⟩
  · rw [matched] at halted
    cases halted with
    | @raised call _ _ cause _ here raises =>
        refine ⟨call, rfl, here, ?_⟩
        rw [raises]
        exact ⟨fun other same => ⟨faults other same, rfl⟩, by rintro ⟨⟩, by rintro ⟨⟩⟩
    | @stopped call _ _ _ here stops =>
        refine ⟨call, rfl, here, ?_⟩
        rw [stops]
        exact ⟨by rintro _ ⟨⟩, fun _ => ⟨answers false rfl, rfl⟩, by rintro ⟨⟩⟩
    | @halted call _ _ cause _ here goes left =>
        refine ⟨call, rfl, here, ?_⟩
        rw [goes]
        exact ⟨by rintro _ ⟨⟩, by rintro ⟨⟩, fun _ => ⟨cause, faults cause rfl, left⟩⟩

/-- Resizes a viewport, asks for an entity and marks the viewport as seen. -/
def sampleClicks : Callback Unit := fun _ => do
  (Request.set 0 (.uint32 7)).send
  (Request.set 1 (.spawnList [[]])).send
  (Request.set 3 (.uint32 1)).send
  pure true

/-- Clicks cannot be committed, and they stand between outputs that can. -/
def clickPlan : Plan :=
  ⟨[(4, .viewportComponent)],
    [(4, .viewportComponent), (2, .entitySpawnList), (6, .event), (5, .viewportComponent)], none, true, false⟩

theorem unsupported_output_stops_join_sample :
    let live : Live (Data Unit) := ⟨Sample.scene.journal, Sample.scene.core.data⟩
    Scene.Reachable Sample.registry Sample.scene ∧ Plan.make Sample.registry [4] [4, 2, 6, 5] = .ok clickPlan ∧
      (∃ output ∈ clickPlan.outputs, output.2.commits = false) ∧ Releasing Sample.registry clickPlan ∧
      live.core.staticJoin [4] [4, 2, 6, 5] = [⟨none, some ⟨0, 0⟩, none⟩, ⟨none, some ⟨2, 0⟩, none⟩] ∧
      (run clickPlan sampleClicks).fault? live = some (.outputUnsupported 6 .event) ∧
      ∃ call, calls clickPlan sampleClicks live = [call] ∧ call.place = ⟨none, some ⟨0, 0⟩, none⟩ ∧
        let slots := (slotsBefore Sample.registry clickPlan []).replay call.exchanges
        (written call.place (clickPlan.outputs.take 2) slots).length = 2 ∧
          ((run clickPlan sampleClicks).leaves live).core =
            (putAll live.core (written call.place (clickPlan.outputs.take 2) slots)).withMemory
              ((run clickPlan sampleClicks).leaves live).core.memory := by
  have accepted : Plan.make Sample.registry [4] [4, 2, 6, 5] = .ok clickPlan := rfl
  have unsupported : ∃ output ∈ clickPlan.outputs, output.2.commits = false := by decide
  have releasing : Releasing Sample.registry clickPlan := by
    simp [Releasing, clickPlan, Sample.registry, Registry.builtin, Registry.get?, Element.Releasing,
      Element.plain]
  have matched : Sample.scene.core.data.staticJoin [4] [4, 2, 6, 5] =
      [⟨none, some ⟨0, 0⟩, none⟩, ⟨none, some ⟨2, 0⟩, none⟩] := by decide +kernel
  have goes : ∀ call ∈ calls clickPlan sampleClicks ⟨Sample.scene.journal, Sample.scene.core.data⟩,
      call.goesOn = true ∧
      (∀ slot ∈ ((slotsBefore Sample.registry clickPlan []).replay call.exchanges).take 2,
        slot.stuck = false) ∧
      (written call.place (clickPlan.outputs.take 2)
        ((slotsBefore Sample.registry clickPlan []).replay call.exchanges)).length = 2 := by decide +kernel
  obtain ⟨resource, kind, first, _, _, joins⟩ :=
    unsupported_output_stops_join Sample.scene_reachable accepted unsupported releasing sampleClicks
  obtain ⟨call, made, here, _, _, halts⟩ := joins _ _ matched
  rw [made] at goes
  obtain ⟨going, free, two⟩ := goes call List.mem_cons_self
  obtain ⟨cause, faults, left⟩ := halts (Call.goesOn_iff.mp going)
  obtain ⟨same, leaves⟩ := (if_pos free).mp left
  have named : some (6, .event) = some (resource, kind) := first
  obtain ⟨rfl, rfl⟩ := Prod.mk.inj (Option.some.inj named)
  rw [← here] at leaves
  exact ⟨Sample.scene_reachable, accepted, unsupported, releasing, matched, same ▸ faults, call, made, here, two,
    leaves⟩

end Join

end EntityScene
