import EntityScene.Proofs.Run
import EntityScene.Proofs.StaticJoin

/-!
Runs over the static join. On the data of a reachable scene a run calls its callback on the matches of
the static join in turn, and it ends in a fault only for reasons that lie in the callback or in the
outputs it declares.
-/

namespace EntityScene.Join

open Act

variable {μ : Type}

section Runs

variable {reads writes : List ResourceId} {plan : Plan} {descriptors : List Descriptor}

/-- The calls of a run over the matches, with its outcome: one call for each match in turn, up to the
first one after which the run does not go on. -/
inductive Traversed (registry : Registry) (plan : Plan) :
    List Match → List Call → Except Fault Bool → Prop
  | done : Traversed registry plan [] [] (.ok true)
  | next {call : Call} {rest : List Match} {calls : List Call} {outcome : Except Fault Bool}
    (going : call.outcome = .ok true) (others : Traversed registry plan rest calls outcome) :
    Traversed registry plan (call.place :: rest) (call :: calls) outcome
  | last {call : Call} {rest : List Match} {outcome : Except Fault Bool}
    (visited : Visited registry plan call outcome) (ends : outcome ≠ .ok true) :
    Traversed registry plan (call.place :: rest) [call] outcome

/-- What holds between two visits: the data decide about matches as before, and the slots are sound and
unwritten. -/
structure Ready (plan : Plan) (base : Data μ) (descriptors : List Descriptor) (frame : Frame μ) : Prop where
  steady : Steady plan base frame.data
  sound : Outputs.Sound descriptors frame.outputs
  unwritten : Outputs.Unwritten frame.outputs

theorem visit_advances {base : Data (μ × List Call)} (callback : Callback μ)
    (fits : plan.Fits base.registry reads writes) (describes : Describes base.registry plan descriptors)
    {place : Match} (placed : Placed plan base place) :
    Advances (Ready plan base descriptors) (visit plan callback.recorded place) := by
  intro live ready
  refine (visit_ends callback fits describes placed ready.steady ready.sound ready.unwritten).mono ?_
  rintro outcome after ⟨call, _, _, sound, _, kept⟩ going
  exact ⟨(kept going).1, sound, (kept going).2⟩

/-- Slots are ready when they are new. -/
theorem Ready.blank {base : Data μ} (sound : base.Sound) (descriptors : List Descriptor) :
    Ready plan base descriptors ⟨base, Outputs.blank descriptors⟩ :=
  ⟨.refl sound, Outputs.blank_sound descriptors, Outputs.blank_unwritten descriptors⟩

/-- A walk with new slots visits the matches of the static join in turn. -/
theorem walk_recorded_eq {base : Data (μ × List Call)} (callback : Callback μ)
    (fits : plan.Fits base.registry reads writes) (describes : Describes base.registry plan descriptors)
    (sound : base.Sound) (set : base.scalarsSet reads = true) (journal : Journal) :
    walk plan (visit plan callback.recorded) ⟨journal, ⟨base, Outputs.blank descriptors⟩⟩ =
      visitAll (visit plan callback.recorded) (base.staticJoin reads writes)
        ⟨journal, ⟨base, Outputs.blank descriptors⟩⟩ :=
  walk_eq_visitAll fits set (fun _ ready => Ready.steady ready)
    (fun _ placed => visit_advances callback fits describes placed) _ (.blank sound descriptors)

/-- The visits of matches make the calls of a run over them. -/
theorem visitAll_ends {base : Data (μ × List Call)} (callback : Callback μ)
    (fits : plan.Fits base.registry reads writes) (describes : Describes base.registry plan descriptors)
    {places : List Match} (placed : ∀ place ∈ places, Placed plan base place)
    {live : Live (Frame (μ × List Call))} (ready : Ready plan base descriptors live.core) :
    Ends (visitAll (visit plan callback.recorded) places) live fun outcome after =>
      Outputs.Sound descriptors after.core.outputs ∧
        ∃ calls, after.core.data.memory.2 = live.core.data.memory.2 ++ calls ∧
          Traversed base.registry plan places calls outcome := by
  induction places generalizing live with
  | nil => exact ⟨ready.sound, [], (List.append_nil _).symm, .done⟩
  | cons place rest ih =>
      unfold visitAll
      rw [ends_bind]
      refine (visit_ends callback fits describes (placed place List.mem_cons_self) ready.steady ready.sound
        ready.unwritten).mono ?_
      rintro outcome after ⟨call, rfl, remembered, sound, visited, kept⟩
      cases outcome with
      | error cause => exact ⟨sound, [call], remembered, .last visited (by rintro ⟨⟩)⟩
      | ok going =>
          rw [continues_ok]
          cases going with
          | false => exact ⟨sound, [call], remembered, .last visited (by rintro ⟨⟩)⟩
          | true =>
              have ready' : Ready plan base descriptors after.core := ⟨(kept rfl).1, sound, (kept rfl).2⟩
              refine (ih (fun other member => placed other (List.mem_cons_of_mem _ member)) ready').mono ?_
              rintro outcome final ⟨sound', calls, remembered', traversed⟩
              refine ⟨sound', call :: calls, ?_, ?_⟩
              · rw [remembered', remembered, List.append_assoc]
                rfl
              · cases visited with
                | goesOn going => exact .next going traversed

/-- A traversal of sound data walks the plan with new slots, or does nothing if a scene component among
the inputs has no value. -/
theorem traverse_eq {live : Live (Data μ)} {visit : Match → Act (Frame μ) Bool}
    (fits : plan.Fits live.core.registry reads writes)
    (describes : Describes live.core.registry plan descriptors) (sound : live.core.Sound) :
    traverse plan visit live =
      Act.span "iterate" []
        (if live.core.scalarsSet reads then withOutputs (Outputs.blank descriptors) (walk plan visit)
        else pure true) live := by
  obtain ⟨lacking, looked, iff⟩ := lacksScalar_ok sound fits.input_kind
  rw [← scalarsSet_iff fits] at iff
  unfold traverse
  refine span_congr fun journal => ?_
  simp only [bind, EStateM.bind, Act.core, looked, Act.ofExcept, pure, EStateM.pure]
  cases lacking with
  | true =>
      have unset : ¬live.core.scalarsSet reads = true := by
        intro set
        cases iff.mpr set
      rw [if_neg unset]
      rfl
  | false =>
      rw [if_pos (iff.mp rfl), Outputs.prepare_ok describes]
      rfl

/-- A value of one of the plan's outputs is not destroyed, and this is the fault. -/
def Retains (registry : Registry) (plan : Plan) (cause : Fault) : Prop :=
  ∃ output ∈ plan.outputs, ∃ descriptor, registry.get? output.1 = some descriptor ∧
    ∃ value message, descriptor.element.retains value = some message ∧ cause = .destroyRefused message

/-- No destruction of a value of one of the plan's outputs fails. -/
def Releasing (registry : Registry) (plan : Plan) : Prop :=
  ∀ output ∈ plan.outputs, ∀ descriptor, registry.get? output.1 = some descriptor →
    descriptor.element.Releasing

/-- How a run ends after its walk: as the walk did, unless a value in the slots is not destroyed when they
are released. -/
inductive Closed (registry : Registry) (plan : Plan) : Except Fault Bool → Except Fault Bool → Prop
  | released {walked : Except Fault Bool} : Closed registry plan walked walked
  | retained {completed : Bool} {cause : Fault} (retains : Retains registry plan cause) :
    Closed registry plan (.ok completed) (.error cause)
  | aborted {cause other : Fault} (retains : Retains registry plan other) :
    Closed registry plan (.error cause) (.error .aborted)

namespace Closed

variable {registry : Registry} {walked outcome : Except Fault Bool}

theorem of_cleaned (walked : Except Fault Bool) {ending : Except Fault Unit}
    (retains : ∀ cause, ending = .error cause → Retains registry plan cause) :
    Closed registry plan walked (cleaned walked ending) := by
  cases ending with
  | ok _ => cases walked <;> exact .released
  | error cause =>
      cases walked with
      | ok _ => exact .retained (retains cause rfl)
      | error _ => exact .aborted (retains cause rfl)

theorem of_ok {completed : Bool} (closed : Closed registry plan walked (.ok completed)) :
    walked = .ok completed := by
  cases closed
  rfl

/-- Where every value is destroyed, a run ends as its walk does. -/
theorem of_releasing (closed : Closed registry plan walked outcome) (releasing : Releasing registry plan) :
    walked = outcome := by
  have never {cause : Fault} : ¬Retains registry plan cause := by
    rintro ⟨output, declared, descriptor, registered, value, message, retains, _⟩
    rw [releasing output declared descriptor registered value] at retains
    cases retains
  cases closed with
  | released => rfl
  | retained retains | aborted retains => exact absurd retains never

end Closed

section Slots

/-- Each of the descriptors belongs to an output of the plan. -/
theorem Describes.exists_output {registry : Registry} (describes : Describes registry plan descriptors)
    {descriptor : Descriptor} (member : descriptor ∈ descriptors) :
    ∃ output ∈ plan.outputs, registry.get? output.1 = some descriptor := by
  have listed : some descriptor ∈ descriptors.map some := List.mem_map_of_mem member
  rw [← describes, List.map_map] at listed
  exact List.mem_map.mp listed

variable {registry : Registry} (describes : Describes registry plan descriptors) {outputs : Outputs}
  (sound : Outputs.Sound descriptors outputs)

include describes sound

/-- Each slot belongs to an output of the plan. -/
theorem exists_output {slot : OutputSlot} (member : slot ∈ outputs) :
    ∃ output ∈ plan.outputs, registry.get? output.1 = some slot.descriptor := by
  apply describes.exists_output
  rw [← sound.described]
  exact List.mem_map_of_mem member

/-- A release of sound slots fails only at a value of one of the plan's outputs. -/
theorem retains_of_disposal {cause : Fault} (fails : outputs.disposal = .error cause) :
    Retains registry plan cause := by
  obtain ⟨slot, member, value, _, message, retains, rfl⟩ := Outputs.disposal_error fails
  obtain ⟨output, declared, registered⟩ := exists_output describes sound member
  exact ⟨output, declared, slot.descriptor, registered, value, message, retains, rfl⟩

end Slots

/-- A traversal of sound data prepares its slots and releases them, which is all that can go wrong beside
the walk. -/
theorem traverse_releases {live : Live (Data μ)} {visit : Match → Act (Frame μ) Bool}
    (post : Except Fault Bool → List LedgerEntry → Data μ → Prop)
    (fits : plan.Fits live.core.registry reads writes)
    (describes : Describes live.core.registry plan descriptors) (sound : live.core.Sound)
    (unset : live.core.scalarsSet reads = false → post (.ok true) live.journal.ledger live.core)
    (walks : live.core.scalarsSet reads = true → ∀ journal, journal.ledger = live.journal.ledger →
      Ends (walk plan visit) ⟨journal, ⟨live.core, Outputs.blank descriptors⟩⟩ fun outcome after =>
        Outputs.Sound descriptors after.core.outputs ∧
          Ends (Outputs.release after.core.outputs) ⟨after.journal, after.core.outputs⟩ fun _ final =>
            post outcome final.journal.ledger after.core.data) :
    Ends (traverse plan visit) live fun outcome after => ∃ walked,
      Closed live.core.registry plan walked outcome ∧ post walked after.journal.ledger after.core := by
  rw [ends_congr (traverse_eq fits describes sound), ends_span]
  cases set : live.core.scalarsSet reads with
  | false => exact ⟨.ok true, .released, unset set⟩
  | true =>
      change Ends (withOutputs _ _) _ _
      unfold withOutputs
      rw [ends_focus, ends_ensuring]
      refine Ends.mono (walks set _ rfl) ?_
      rintro walked after ⟨sound', released⟩
      unfold releaseOutputs
      rw [ends_bind, ends_core, continues_ok, ends_onOutputs]
      refine ((Outputs.release_ends sound'.typed).and released).mono ?_
      rintro ending _ ⟨⟨disposed, _⟩, holds⟩
      refine ⟨walked, .of_cleaned walked fun cause failed => ?_, holds⟩
      rw [disposed] at failed
      exact retains_of_disposal describes sound' failed

theorem traverse_ends {live : Live (Data μ)} {visit : Match → Act (Frame μ) Bool}
    (post : Except Fault Bool → Data μ → Prop) (fits : plan.Fits live.core.registry reads writes)
    (describes : Describes live.core.registry plan descriptors) (sound : live.core.Sound)
    (unset : live.core.scalarsSet reads = false → post (.ok true) live.core)
    (walks : live.core.scalarsSet reads = true → ∀ journal,
      Ends (walk plan visit) ⟨journal, ⟨live.core, Outputs.blank descriptors⟩⟩ fun outcome after =>
        Outputs.Sound descriptors after.core.outputs ∧ post outcome after.core.data) :
    Ends (traverse plan visit) live fun outcome after => ∃ walked,
      Closed live.core.registry plan walked outcome ∧ post walked after.core := by
  refine traverse_releases (fun outcome _ data => post outcome data) fits describes sound unset ?_
  intro set journal _
  exact (walks set journal).mono fun _ _ both => ⟨both.1, .of_forall fun _ _ => both.2⟩

/-- How a run over the matches ends: as its walk does, up to the release of the slots. -/
def Ran (registry : Registry) (plan : Plan) (places : List Match) (calls : List Call)
    (outcome : Except Fault Bool) : Prop :=
  ∃ walked, Closed registry plan walked outcome ∧ Traversed registry plan places calls walked

/-- A run of sound data calls the callback on the matches of the static join in turn. -/
theorem run_ends {live : Live (Data (μ × List Call))} (callback : Callback μ)
    (fits : plan.Fits live.core.registry reads writes) (sound : live.core.Sound) :
    Ends (run plan callback.recorded) live fun outcome after =>
      ∃ calls, after.core.memory.2 = live.core.memory.2 ++ calls ∧
        Ran live.core.registry plan (live.core.staticJoin reads writes) calls outcome := by
  obtain ⟨descriptors, describes⟩ := exists_describes fits
  refine (traverse_ends (fun walked data => ∃ calls, data.memory.2 = live.core.memory.2 ++ calls ∧
    Traversed live.core.registry plan (live.core.staticJoin reads writes) calls walked)
    fits describes sound (fun unset => ?_) fun set journal => ?_).mono ?_
  · refine ⟨[], (List.append_nil _).symm, ?_⟩
    unfold Data.staticJoin
    rw [if_neg (by rw [unset]; exact Bool.false_ne_true)]
    exact .done
  · rw [ends_congr (walk_recorded_eq callback fits describes sound set journal)]
    exact visitAll_ends callback fits describes (fun _ member => mem_staticJoin fits set member)
      (.blank sound descriptors)
  · rintro _ _ ⟨walked, closed, calls, remembered, traversed⟩
    exact ⟨calls, remembered, walked, closed, traversed⟩

end Runs

namespace Traversed

variable {registry : Registry} {plan : Plan} {places : List Match} {calls : List Call}

/-- The calls are made on the first matches, in order. -/
theorem places_first {outcome : Except Fault Bool} (traversed : Traversed registry plan places calls outcome) :
    calls.map Call.place <+: places := by
  induction traversed with
  | done => exact List.prefix_refl []
  | next _ _ ih => exact (List.prefix_cons_inj _).mpr ih
  | last => exact (List.prefix_cons_inj _).mpr List.nil_prefix

/-- Every call but the last lets the run go on. -/
theorem earlier {outcome : Except Fault Bool} (traversed : Traversed registry plan places calls outcome) :
    ∀ call ∈ calls.dropLast, call.outcome = .ok true := by
  induction traversed with
  | done => exact fun _ member => nomatch member
  | @next call rest calls outcome going others ih =>
      intro other member
      cases calls with
      | nil => cases member
      | cons =>
          rw [List.dropLast_cons_cons] at member
          rcases List.mem_cons.mp member with rfl | later
          · exact going
          · exact ih other later
  | last => exact fun _ member => nomatch member

theorem completed {outcome : Except Fault Bool} (traversed : Traversed registry plan places calls outcome)
    (complete : outcome = .ok true) :
    calls.map Call.place = places ∧ ∀ call ∈ calls, call.outcome = .ok true := by
  induction traversed with
  | done => exact ⟨rfl, fun _ member => nomatch member⟩
  | next going _ ih =>
      obtain ⟨same, all⟩ := ih complete
      refine ⟨by rw [List.map_cons, same], fun call member => ?_⟩
      rcases List.mem_cons.mp member with rfl | later
      · exact going
      · exact all call later
  | last _ ends => exact absurd complete ends

/-- A run that does not complete ends with its last call. -/
theorem stopped {outcome : Except Fault Bool} (traversed : Traversed registry plan places calls outcome)
    (incomplete : outcome ≠ .ok true) :
    ∃ last, calls.getLast? = some last ∧ Visited registry plan last outcome := by
  induction traversed with
  | done => exact absurd rfl incomplete
  | @next call rest calls outcome _ _ ih =>
      obtain ⟨last, found, visited⟩ := ih incomplete
      refine ⟨last, ?_, visited⟩
      rw [List.getLast?_cons, found]
      rfl
  | @last call _ _ visited _ => exact ⟨call, rfl, visited⟩

end Traversed

namespace Ran

variable {registry : Registry} {plan : Plan} {places : List Match} {calls : List Call}

theorem of_ok {completed : Bool} (ran : Ran registry plan places calls (.ok completed)) :
    Traversed registry plan places calls (.ok completed) := by
  obtain ⟨walked, closed, traversed⟩ := ran
  rw [closed.of_ok] at traversed
  exact traversed

end Ran

/-- A recorded run ends as the plain run does, with the calls beside the memory. -/
theorem run_recorded_ok {plan : Plan} {callback : Callback μ} {live after : Live (Data μ)} {completed : Bool}
    (ended : run plan callback live = .ok completed after) :
    run plan callback.recorded ⟨live.journal, live.core.recording⟩ =
      .ok completed ⟨after.journal, after.core.withMemory (after.core.memory, calls plan callback live)⟩ := by
  have alike := run_recorded plan callback ⟨live.journal, live.core.recording⟩ _ rfl
  change Alike _ _ _ (run plan callback live) at alike
  unfold calls leaves
  rw [ended] at alike
  generalize run plan callback.recorded ⟨live.journal, live.core.recording⟩ = result at alike
  cases alike with
  | ok kept =>
      cases kept
      rfl

/-- An accepted plan fits sound data, also while calls are recorded. -/
theorem recording_fits {registry : Registry} {data : Data μ} {reads writes : List ResourceId} {plan : Plan}
    (based : Data.SoundOver registry data) (accepted : Plan.make registry reads writes = .ok plan) :
    plan.Fits data.recording.registry reads writes ∧ data.recording.Sound := by
  refine ⟨?_, { based.sound with }⟩
  change plan.Fits data.registry reads writes
  rw [based.registry]
  exact Plan.make_fits accepted

/-- What a recorded run says of its calls and of what it leaves, the plain run says of its own. -/
theorem run_ends_of_recorded {plan : Plan} {callback : Callback μ} {live : Live (Data μ)}
    (post : List Call → Except Fault Bool → Live (Data μ) → Prop)
    (ends : Ends (run plan callback.recorded) ⟨live.journal, live.core.recording⟩ fun outcome after =>
      ∃ made, after.core.memory.2 = live.core.recording.memory.2 ++ made ∧
        post made outcome ⟨after.journal, after.core.forget⟩) :
    Ends (run plan callback) live (post (calls plan callback live)) := by
  change Ends (run plan callback) ⟨live.journal, live.core.recording.forget⟩ _
  apply (run_recorded plan callback).ends
  refine ends_at_leaves.mpr ((ends_at_leaves.mp ends).mono ?_)
  rintro outcome _ ⟨made, remembered, holds⟩
  change calls plan callback live = [] ++ made at remembered
  rw [remembered]
  exact holds

/-- The calls of a run on sound data are those of a run over the static join. -/
theorem run_traversed {registry : Registry} {live : Live (Data μ)} {reads writes : List ResourceId}
    {plan : Plan} (based : Data.SoundOver registry live.core)
    (accepted : Plan.make registry reads writes = .ok plan) (callback : Callback μ) :
    Ends (run plan callback) live fun outcome _ =>
      Ran registry plan (live.core.staticJoin reads writes) (calls plan callback live) outcome := by
  obtain ⟨fits, sound⟩ := recording_fits based accepted
  refine run_ends_of_recorded (fun made outcome _ =>
    Ran registry plan (live.core.staticJoin reads writes) made outcome) ?_
  rw [← based.registry]
  exact run_ends callback fits sound

/-- The calls of a run on the data of a reachable scene are those of a run over the static join. -/
theorem calls_traversed {registry : Registry} {scene : Live (Scene μ)} {reads writes : List ResourceId}
    {plan : Plan} (reachable : Scene.Reachable registry scene)
    (accepted : Plan.make registry reads writes = .ok plan) (callback : Callback μ) :
    Ends (run plan callback) ⟨scene.journal, scene.core.data⟩ fun outcome _ =>
      Ran registry plan (scene.core.data.staticJoin reads writes)
        (calls plan callback ⟨scene.journal, scene.core.data⟩) outcome :=
  run_traversed reachable.soundOver accepted callback

/-- A run that ends without a fault makes its calls on the static join of the data before it: in order,
each match once, up to and including the first call that answers false. It answers true exactly if it
got through all of them and no call answered false. Recording the calls does not change the run. -/
theorem run_calls_staticJoin {registry : Registry} {scene : Live (Scene μ)} {reads writes : List ResourceId}
    {plan : Plan} (reachable : Scene.Reachable registry scene)
    (accepted : Plan.make registry reads writes = .ok plan) (callback : Callback μ) {completed : Bool}
    {after : Live (Data μ)}
    (ended : run plan callback ⟨scene.journal, scene.core.data⟩ = .ok completed after) :
    let matched := scene.core.data.staticJoin reads writes
    let made := calls plan callback ⟨scene.journal, scene.core.data⟩
    run plan callback.recorded ⟨scene.journal, scene.core.data.recording⟩ =
        .ok completed ⟨after.journal, after.core.withMemory (after.core.memory, made)⟩ ∧
      made.map Call.place <+: matched ∧
      (∀ call ∈ made.dropLast, call.outcome = .ok true) ∧
      (completed = true ↔ made.map Call.place = matched ∧ ∀ call ∈ made, call.outcome = .ok true) ∧
      (completed = false ↔ ∃ last, made.getLast? = some last ∧ last.outcome = .ok false) := by
  have traversed := ((ends_of_ok ended).mp (calls_traversed reachable accepted callback)).of_ok
  have last (stops : completed = false) :
      ∃ last, (calls plan callback ⟨scene.journal, scene.core.data⟩).getLast? = some last ∧
        last.outcome = .ok false := by
    rw [stops] at traversed
    obtain ⟨last, found, visited⟩ := traversed.stopped fun equal => nomatch equal
    cases visited with
    | stops stopped => exact ⟨last, found, stopped⟩
  refine ⟨run_recorded_ok ended, traversed.places_first, traversed.earlier, ?_, ?_⟩
  · constructor
    · intro complete
      exact traversed.completed (by rw [complete])
    · rintro ⟨_, all⟩
      cases completed with
      | true => rfl
      | false =>
          obtain ⟨call, found, stopped⟩ := last rfl
          have going := all call (List.mem_of_getLast? found)
          rw [stopped] at going
          cases going
  · constructor
    · exact last
    · rintro ⟨call, found, stopped⟩
      cases completed with
      | false => rfl
      | true =>
          have going := (traversed.completed rfl).2 call (List.mem_of_getLast? found)
          rw [stopped] at going
          cases going

/-- Resizes a viewport for each event, until the first viewport comes up for the second event. -/
def sampleCallback : Callback Unit := fun inputs => do
  (Request.set 0 (.uint32 7)).send
  pure (inputs.place != ⟨some 1, some ⟨0, 0⟩, none⟩)

def samplePlan : Plan :=
  ⟨[(4, .viewportComponent), (6, .event)], [(4, .viewportComponent)], some 6, true, false⟩

theorem run_calls_staticJoin_sample :
    let live : Live (Data Unit) := ⟨Sample.scene.journal, Sample.scene.core.data⟩
    let made := calls samplePlan sampleCallback live
    Scene.Reachable Sample.registry Sample.scene ∧
      Plan.make Sample.registry [4, 6] [4] = .ok samplePlan ∧
      live.core.staticJoin [4, 6] [4] =
        [⟨some 0, some ⟨0, 0⟩, none⟩, ⟨some 0, some ⟨2, 0⟩, none⟩, ⟨some 1, some ⟨0, 0⟩, none⟩,
          ⟨some 1, some ⟨2, 0⟩, none⟩] ∧
      made.length = 3 ∧ made.map Call.place <+: live.core.staticJoin [4, 6] [4] ∧
      (∃ last, made.getLast? = some last ∧ last.outcome = .ok false) := by
  have accepted : Plan.make Sample.registry [4, 6] [4] = .ok samplePlan := rfl
  have stops : (run samplePlan sampleCallback).answer? ⟨Sample.scene.journal, Sample.scene.core.data⟩ =
      some false := by decide +kernel
  obtain ⟨_, first, _, _, stopped⟩ :=
    run_calls_staticJoin Sample.scene_reachable accepted sampleCallback (eq_ok_of_answer? stops)
  exact ⟨Sample.scene_reachable, accepted, by decide +kernel, by decide +kernel, first, stopped.mp rfl⟩

/-- The fault lies with the last of the calls: it ended in this fault itself, or it went on and one of its
outputs cannot be committed. -/
def Owned (registry : Registry) (plan : Plan) (made : List Call) (cause : Fault) : Prop :=
  ∃ last, made.getLast? = some last ∧
    (last.outcome = .error cause ∨ last.outcome = .ok true ∧ Refusal registry plan last.exchanges cause)

theorem Traversed.owned {registry : Registry} {plan : Plan} {places : List Match} {made : List Call}
    {cause : Fault} (traversed : Traversed registry plan places made (.error cause)) :
    Owned registry plan made cause := by
  obtain ⟨last, found, visited⟩ := traversed.stopped fun equal => nomatch equal
  cases visited with
  | raises raised => exact ⟨last, found, Or.inl raised⟩
  | refused going refusal => exact ⟨last, found, Or.inr ⟨going, refusal⟩⟩

/-- In every reachable scene one storage serves each resource: it has the shape of the resource's kind,
its values have the resource's type, and its slots are owned by identities with their index. A run of an
accepted plan faults only if its last call does, or if that call goes on and an output cannot be
committed: its element declines the copy or does not destroy the value in its place, it is an output of
events or despawns, or it is a written output of spawns with values of another type; or if a value in the
slots is not destroyed at the end, which is an abort if the run has faulted before. -/
theorem storages_serve_and_faults_are_owned {registry : Registry} {scene : Live (Scene μ)}
    (reachable : Scene.Reachable registry scene) :
    scene.core.data.registry = registry ∧ scene.core.data.storages.length = registry.size ∧
      (∀ resource descriptor storage, registry.get? resource = some descriptor →
        scene.core.data.storages[resource]? = some storage → storage.Serves descriptor) ∧
      ∀ (reads writes : List ResourceId) (plan : Plan) (callback : Callback μ) (cause : Fault)
        (after : Live (Data μ)), Plan.make registry reads writes = .ok plan →
        run plan callback ⟨scene.journal, scene.core.data⟩ = .error cause after →
        let made := calls plan callback ⟨scene.journal, scene.core.data⟩
        Owned registry plan made cause ∨ Retains registry plan cause ∨
          cause = .aborted ∧ (∃ first, Owned registry plan made first) ∧
            ∃ second, Retains registry plan second := by
  obtain ⟨sound, based⟩ := reachable.soundOver
  refine ⟨based, by rw [sound.length, based], fun resource descriptor storage registered found => ?_, ?_⟩
  · rw [← based] at registered
    exact sound.serves registered found
  · intro reads writes plan callback cause after accepted ended
    obtain ⟨walked, closed, traversed⟩ := (ends_of_error ended).mp (calls_traversed reachable accepted callback)
    cases closed with
    | released => exact .inl traversed.owned
    | retained retains => exact .inr (.inl retains)
    | aborted retains => exact .inr (.inr ⟨rfl, ⟨_, traversed.owned⟩, _, retains⟩)

/-- Writes a note where a list of spawn requests is wanted. -/
def sampleNotes : Callback Unit := fun _ => do
  (Request.set 0 (.uint32 7)).send
  pure true

theorem storages_serve_and_faults_are_owned_sample :
    let live : Live (Data Unit) := ⟨Sample.scene.journal, Sample.scene.core.data⟩
    let plan : Plan := ⟨[(4, .viewportComponent)], [(7, .entitySpawnList)], none, true, false⟩
    Scene.Reachable Sample.registry Sample.scene ∧ Plan.make Sample.registry [4] [7] = .ok plan ∧
      (run plan sampleNotes).fault? live = some (.outputNotSpawnList 7 .entitySpawnList) ∧
      live.core.storages.length = 10 ∧
      Owned Sample.registry plan (calls plan sampleNotes live) (.outputNotSpawnList 7 .entitySpawnList) := by
  intro live plan
  have accepted : Plan.make Sample.registry [4] [7] = .ok plan := rfl
  have faults : (run plan sampleNotes).fault? live = some (.outputNotSpawnList 7 .entitySpawnList) := by
    decide +kernel
  obtain ⟨_, length, _, owned⟩ := storages_serve_and_faults_are_owned Sample.scene_reachable
  refine ⟨Sample.scene_reachable, accepted, faults, length, ?_⟩
  rcases owned [4] [7] plan sampleNotes _ _ accepted (eq_error_of_fault? faults) with here | retains | aborted
  · exact here
  · obtain ⟨_, _, _, _, _, _, _, same⟩ := retains
    cases same
  · cases aborted.1

/-- Asks for a flag as the first value of the output and goes on when that is rejected. -/
def askFlag : Routine Unit Unit := do
  try discard (Request.getOrInit 0 .bool).send
  catch _ => pure ()

/-- An element of 32-bit words of which 13 cannot be destroyed. -/
def clinging : Element :=
  { Element.plain .uint32 with
    retains := fun value =>
      match value with
      | .uint32 n => if n = 13 then some "clinging value 13" else none
      | _ => none }

def clingingRegistry : Registry where
  descriptors := Registry.builtin.descriptors ++ [⟨4, "mood", .sceneComponent, clinging⟩]

/-- A scene in which the component has the value 13. -/
def clingingScene : Live (Scene Unit) :=
  Scene.runAll [.emplaceScalar 4 (.uint32 13)]
    ⟨((Scene.create clingingRegistry ([] : List (Job Unit)) .default).leaves ⟨{}, ()⟩).journal,
      ⟨⟨clingingRegistry, clingingRegistry.descriptors.map Storage.ofDescriptor, .empty, .empty, .empty, ()⟩,
        .empty .update, .default, .zero⟩⟩

/-- A run that writes 7 over the value 13 ends in the fault of its destruction: its only call goes on, no copy
is declined and its only output is a scene component. So does, in its own way, a run with an output of spawns
whose only request is rejected. -/
theorem run_faults_where_value_is_not_destroyed :
    let live : Live (Data Unit) := ⟨clingingScene.journal, clingingScene.core.data⟩
    let plan : Plan := ⟨[], [(4, .sceneComponent)], none, false, false⟩
    let other : Live (Data Unit) := ⟨Sample.scene.journal, Sample.scene.core.data⟩
    let noting : Plan := ⟨[], [(7, .entitySpawnList)], none, false, false⟩
    let asks : Callback Unit := fun _ => do
      askFlag
      pure true
    Scene.Reachable clingingRegistry clingingScene ∧ Plan.make clingingRegistry [] [4] = .ok plan ∧
      (calls plan sampleNotes live).map (fun call => call.outcome.toOption) = [some true] ∧
      (∀ value, clinging.declines value = none) ∧
      (run plan sampleNotes).fault? live = some (.destroyRefused "clinging value 13") ∧
      Plan.make Sample.registry [] [7] = .ok noting ∧
      (calls noting asks other).map (fun call => call.exchanges.map (·.answer.isOk)) = [[false]] ∧
      (run noting asks).fault? other = some (.outputNotSpawnList 7 .entitySpawnList) := by
  refine ⟨?_, rfl, by decide +kernel, fun _ => rfl, by decide +kernel, rfl, by decide +kernel, by decide +kernel⟩
  exact ⟨[], .default, ⟨{}, ()⟩, _, _, _, rfl, rfl⟩

end EntityScene.Join
