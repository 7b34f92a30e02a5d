import EntityScene.Proofs.Oblivious
import EntityScene.Proofs.Traversal

/-!
Scratch reuse. The slots of a run serve all its matches in turn and keep the values of earlier ones in
their buffers. A run with new slots for every match makes the same calls, with the same answers to the
same requests, and leaves the same data; only values are initialized and destroyed more often.
-/

namespace EntityScene

open Act

variable {μ α : Type}

/-- New values of the resources are the defaults of their types. -/
def Defaulting (descriptors : List Descriptor) : Prop :=
  ∀ descriptor ∈ descriptors, descriptor.element.initial = descriptor.element.type.default

/-- Every request of the exchanges was answered without a fault. -/
def Normal (exchanges : List Exchange) : Prop :=
  ∀ exchange ∈ exchanges, exchange.answer.isOk = true

instance (exchanges : List Exchange) : Decidable (Normal exchanges) :=
  inferInstanceAs (Decidable (∀ exchange ∈ exchanges, exchange.answer.isOk = true))

section Requests

variable {descriptors : List Descriptor} {live live' : Live Outputs}

theorem Outputs.opened_copies (slot : OutputSlot) (journal : Journal) :
    (Outputs.opened slot journal).copies = journal.copies := by
  unfold Outputs.opened
  cases slot.buffer with
  | some value => rfl
  | none => exact Journal.copies_skip journal rfl

/-- A slot that is not written starts from the default of its type, whether its buffer is empty or not. -/
theorem OutputSlot.Sound.first_value {slot : OutputSlot} {type : ElementType} (sound : slot.Sound)
    (default : slot.descriptor.element.initial = slot.descriptor.element.type.default)
    (typed : slot.content.type = type) :
    (if slot.stale then type.default else slot.content) =
      if slot.written then slot.content else type.default := by
  have own := sound.content
  unfold OutputSlot.stale
  cases slot.written with
  | true => simp only [Bool.not_true, Bool.and_false, Bool.false_eq_true, if_false, if_true]
  | false =>
      cases held : slot.buffer with
      | some value =>
          simp only [Option.isSome_some, Bool.not_false, Bool.and_true, if_true, Bool.false_eq_true, if_false]
      | none =>
          have same : slot.content = type.default := by
            rw [← typed, own, ← default, OutputSlot.content, held]
            rfl
          simp only [same, ite_self]

theorem Outputs.set_oblivious (position : Nat) (value : Value) :
    Oblivious Outputs.shown (Outputs.set position value) := by
  unfold Outputs.set
  refine Similar.bind_core fun live live' same => Outputs.alike_slot same.1 position same ?_
  intro slot slot' equal
  obtain ⟨described, marked, held⟩ := OutputSlot.shown_eq.mp equal
  rw [described]
  split
  · refine .ok ⟨Outputs.shown_set same.1 position ?_, same.2⟩
    exact OutputSlot.shown_eq.mpr ⟨rfl, rfl, fun _ => rfl⟩
  · exact .error same

theorem Outputs.get_shown {outputs outputs' : Outputs} (same : outputs'.shown = outputs.shown)
    (position : Nat) (type : ElementType) : outputs'.get position type = outputs.get position type := by
  unfold Outputs.get
  rcases Outputs.slot_shown same position with ⟨slot, slot', found, found', equal⟩ | ⟨missing, missing'⟩
  · obtain ⟨_, marked, held⟩ := OutputSlot.shown_eq.mp equal
    rw [Outputs.slot_found found, Outputs.slot_found found']
    simp only [bind, Except.bind, marked]
    split
    · rename_i written
      rw [held written]
    · rfl
  · rw [Outputs.slot_missing missing, Outputs.slot_missing missing', Outputs.length_shown same]

theorem Outputs.getOrInit_alike {position : Nat} {type : ElementType} {slot slot' : OutputSlot}
    (defaults : Defaulting descriptors) (sound : Outputs.Sound descriptors live.core)
    (sound' : Outputs.Sound descriptors live'.core) (same : Same Outputs.shown live live')
    (found : live.core[position]? = some slot) (found' : live'.core[position]? = some slot')
    (equal : slot'.shown = slot.shown) :
    Alike (Same Outputs.shown) (fun _ _ => True) (Outputs.getOrInit position type live)
      (Outputs.getOrInit position type live') := by
  obtain ⟨described, marked, held⟩ := OutputSlot.shown_eq.mp equal
  have typed := sound.typed slot (List.mem_of_getElem? found)
  have typed' := sound'.typed slot' (List.mem_of_getElem? found')
  have default := defaults _ (List.mem_of_getElem? (sound.descriptor found))
  have types : slot'.content.type = slot.content.type := by rw [typed'.content, typed.content, described]
  refine .of_ends ?_
  rw [Outputs.ends_getOrInit found]
  split
  · rename_i wanted
    rw [Outputs.ends_getOrInit found', types, if_pos wanted, typed.first_value default wanted,
      typed'.first_value (by rw [described]; exact default) (types.trans wanted), marked]
    -- Only the contents of a written slot show, and those are the same.
    have value : (if slot.written then slot'.content else type.default) =
        if slot.written then slot.content else type.default := by
      split
      · rename_i written
        unfold OutputSlot.content
        rw [held written, described]
      · rfl
    rw [value]
    refine ⟨rfl, fun _ => ⟨Outputs.shown_set same.1 position ?_, ?_⟩, fun never => nomatch never⟩
    · exact OutputSlot.shown_eq.mpr ⟨described, rfl, fun _ => rfl⟩
    · rw [Outputs.opened_copies, Outputs.opened_copies, same.2]
  · rename_i mistyped
    rw [Outputs.ends_getOrInit found', types, if_neg mistyped, described]
    exact ⟨rfl, (nomatch ·), fun _ => trivial⟩

/-- Slots that show the same answer a request alike. A refused first value may leave them different. -/
theorem Request.perform_alike (defaults : Defaulting descriptors)
    (sound : Outputs.Sound descriptors live.core) (sound' : Outputs.Sound descriptors live'.core)
    (same : Same Outputs.shown live live') (request : Request) :
    Alike (Same Outputs.shown) (fun _ _ => True) (request.perform live) (request.perform live') := by
  have weaken {β : Type} {act : Act Outputs β} (oblivious : Oblivious Outputs.shown act) :
      Alike (Same Outputs.shown) (fun _ _ => True) (act live) (act live') :=
    (oblivious live live' same).mono (fun _ _ kept => kept) fun _ _ _ => trivial
  cases request with
  | set position value => exact weaken (Outputs.set_oblivious position value)
  | getOrInit position type =>
      rcases Outputs.slot_shown same.1 position with ⟨slot, slot', found, found', equal⟩ | ⟨missing, missing'⟩
      · exact Outputs.getOrInit_alike defaults sound sound' same found found' equal
      · change Alike _ _ ((Act.ofExcept (live.core.slot position) >>= _) live)
          ((Act.ofExcept (live'.core.slot position) >>= _) live')
        rw [Outputs.slot_missing missing, Outputs.slot_missing missing', Outputs.length_shown same.1]
        exact .error trivial
  | get position type =>
      change Alike _ _ (Act.ofExcept (live.core.get position type) live)
        (Act.ofExcept (live'.core.get position type) live')
      rw [Outputs.get_shown same.1]
      exact weaken (Oblivious.ofExcept _)
  | describe position =>
      refine weaken (Similar.bind_core fun live live' same => Outputs.alike_slot same.1 position same ?_)
      intro slot slot' equal
      obtain ⟨described, marked, _⟩ := OutputSlot.shown_eq.mp equal
      rw [described, marked]
      exact .ok same
  | count =>
      change Alike _ _ (.ok live.core.length live) (.ok live'.core.length live')
      rw [Outputs.length_shown same.1]
      exact .ok same

/-- Dialogues with slots that show the same run alike as long as every request is answered. -/
theorem Dialogue.transcribed_parallel (defaults : Defaulting descriptors) (dialogue : Dialogue α)
    (sound : Outputs.Sound descriptors live.core) (sound' : Outputs.Sound descriptors live'.core)
    (same : Same Outputs.shown live live') :
    Parallel (fun outcome _ => ∃ result exchanges, outcome = .ok (result, exchanges) ∧ ¬Normal exchanges)
      (Same Outputs.shown) (Same Outputs.shown) dialogue.transcribed.run dialogue.transcribed.run
      live live' := by
  induction dialogue generalizing live live' with
  | done result => exact Or.inr (.ok same)
  | ask request next ih =>
      have wrote {live : Live Outputs} (sound : Outputs.Sound descriptors live.core) :
          Ends (attempt request.perform) live fun _ after => Outputs.Sound descriptors after.core :=
        ends_attempt.mpr ((Request.perform_wrote sound request).mono fun _ _ kept => kept.1)
      have begun : Parallel (fun outcome _ => ∃ cause, outcome = .ok (.error cause)) (Same Outputs.shown)
          (Same Outputs.shown) (attempt request.perform) (attempt request.perform) live live' := by
        have alike := Request.perform_alike defaults sound sound' same request
        unfold Parallel Ends attempt
        generalize request.perform live = result at alike
        generalize request.perform live' = result' at alike
        cases alike with
        | ok kept => exact Or.inr (.ok kept)
        | error _ => exact Or.inl ⟨_, rfl⟩
      refine begun.bind ((wrote sound).mono ?_) fun answer after after' ended ended' same' => ?_
      · rintro _ after kept ⟨cause, rfl⟩
        rw [continues_ok, run_bind, ends_bind]
        refine (transcribed_ends (next (.error cause)) kept).mono ?_
        rintro _ final ⟨result, rest, rfl, _⟩
        exact ⟨result, _, rfl, fun normal => nomatch normal _ List.mem_cons_self⟩
      · have kept := (ends_of_ok ended).mp (wrote sound)
        have kept' := (ends_of_ok ended').mp (wrote sound')
        rw [run_bind]
        refine (ih answer kept kept' same').bind (.of_forall ?_) fun _ _ _ _ _ kept => Or.inr (.ok kept)
        rintro _ _ ⟨result, rest, rfl, spoilt⟩
        exact ⟨result, _, rfl, fun normal => spoilt fun other member =>
          normal other (List.mem_cons_of_mem _ member)⟩

end Requests

namespace Join

/-- A request of the call was not answered. -/
def Spoilt (data : Data (μ × List Call)) : Prop := ∃ call ∈ data.memory.2, ¬Normal call.exchanges

section Visits

variable {plan : Plan} {descriptors : List Descriptor} {live live' : Live (Frame (μ × List Call))}

/-- Calls with slots that show the same run alike as long as every request is answered. -/
theorem call_parallel (defaults : Defaulting descriptors) (callback : Callback μ) (inputs : Inputs)
    (sound : Outputs.Sound descriptors live.core.outputs)
    (sound' : Outputs.Sound descriptors live'.core.outputs) (same : Same Frame.shown live live') :
    Parallel (fun _ after => Spoilt after.core.data) (Same Frame.shown) (Same Frame.shown)
      (call callback.recorded inputs) (call callback.recorded inputs) live live' := by
  obtain ⟨data, outputs⟩ := shown_eq.mp same.1
  have begun : Parallel
      (fun outcome _ => ∃ result exchanges, outcome = .ok (result, exchanges) ∧ ¬Normal exchanges)
      (Same Frame.shown) (Same Frame.shown)
      (onOutputs ((callback inputs).run.run live.core.data.memory.1).transcribed.run)
      (onOutputs ((callback inputs).run.run live.core.data.memory.1).transcribed.run) live live' := by
    have shows : Same Outputs.shown ⟨live.journal, live.core.outputs⟩ ⟨live'.journal, live'.core.outputs⟩ :=
      ⟨outputs, same.2⟩
    rcases Dialogue.transcribed_parallel defaults _ sound sound' shows with spoilt | alike
    · exact Or.inl (ends_onOutputs.mpr spoilt)
    · exact Or.inr (alike.focus (fun _ _ kept => ⟨shown_eq.mpr ⟨data, kept.1⟩, kept.2⟩)
        fun _ _ kept => ⟨shown_eq.mpr ⟨data, kept.1⟩, kept.2⟩)
  have second := call_recorded_eq callback inputs live'
  rw [data] at second
  refine .congr (call_recorded_eq callback inputs live) second (begun.bind (.of_forall ?_) ?_)
  · rintro _ after ⟨⟨result, memory⟩, exchanges, rfl, spoilt⟩
    rw [continues_ok, ends_bind, ends_update, continues_ok, ends_ofExcept]
    exact ⟨_, List.mem_append_right _ List.mem_cons_self, spoilt⟩
  · rintro ⟨⟨result, memory⟩, exchanges⟩ after after' _ _ kept
    refine Or.inr (Similar.bind (Oblivious.update fun frame frame' equal => ?_)
      (fun _ => Oblivious.ofExcept _) after after' kept)
    obtain ⟨data, outputs⟩ := shown_eq.mp equal
    exact shown_eq.mpr ⟨by rw [data], outputs⟩

/-- A commit makes no calls. -/
theorem commit_spoilt (plan : Plan) (place : Match) :
    Keeps (fun frame : Frame (μ × List Call) => Spoilt frame.data) (commit place 0 plan.outputs) :=
  commit_memory plan place fun memory : μ × List Call => ∃ call ∈ memory.2, ¬Normal call.exchanges

theorem visit_parallel (defaults : Defaulting descriptors) (callback : Callback μ) (place : Match)
    (sound : Outputs.Sound descriptors live.core.outputs)
    (sound' : Outputs.Sound descriptors live'.core.outputs) (same : Same Frame.shown live live') :
    Parallel (fun _ after => Spoilt after.core.data) (Same Frame.shown) (Same Frame.shown)
      (visit plan callback.recorded place) (visit plan callback.recorded place) live live' := by
  obtain ⟨data, outputs⟩ := shown_eq.mp same.1
  unfold visit
  refine .bind_core ?_
  rw [data]
  refine .bind_ofExcept same fun inputs => ?_
  refine Parallel.bind (call_parallel defaults callback inputs sound sound' same) (.of_forall ?_) ?_
  · intro outcome after spoilt
    cases outcome with
    | error cause => exact spoilt
    | ok going =>
        cases going with
        | false => exact spoilt
        | true => exact Keeps.bind (commit_spoilt plan place) (fun _ => .pure true) after spoilt
  · intro going after after' _ _ kept
    cases going with
    | false => exact Or.inr (.ok kept)
    | true =>
        exact Or.inr (Similar.bind (commit_oblivious place 0 plan.outputs) (fun _ => .pure true)
          after after' kept)

end Visits

/-- Puts new output slots in place of the old ones, which are released. -/
def renew (plan : Plan) : Act (Frame μ) Unit := do
  releaseOutputs
  let outputs ← Act.ofExcept (Outputs.prepare (← Act.core).data.registry (plan.outputs.map Prod.fst))
  Act.update fun frame => { frame with outputs }

/-- Calls the callback on one match with new output slots. -/
def visitFresh (plan : Plan) (callback : Callback μ) (place : Match) : Act (Frame μ) Bool := do
  renew plan
  visit plan callback place

/-- Runs a plan with new output slots for every match. -/
def runFresh (plan : Plan) (callback : Callback μ) : Act (Data μ) Bool :=
  traverse plan (visitFresh plan callback)

/-- The calls that a run with new output slots makes. -/
def freshCalls (plan : Plan) (callback : Callback μ) (live : Live (Data μ)) : List Call :=
  ((runFresh plan callback.recorded).leaves ⟨live.journal, live.core.recording⟩).core.memory.2

theorem renew_projects (plan : Plan) :
    Projects Frame.forget (renew plan : Act (Frame (μ × List Call)) Unit) (renew plan) := by
  unfold renew releaseOutputs
  refine Similar.bind (Projects.bind_core fun frame => onOutputs_projects _) fun _ => ?_
  refine Projects.bind_core fun frame => (Projects.ofExcept _).bind fun outputs => ?_
  exact Projects.update fun _ => rfl

theorem runFresh_recorded (plan : Plan) (callback : Callback μ) :
    Projects Data.forget (runFresh plan callback.recorded) (runFresh plan callback) :=
  traverse_projects plan fun place => Similar.bind (renew_projects plan) fun _ =>
    visit_projects plan callback place

section Renewal

variable {plan : Plan} {descriptors : List Descriptor}

theorem destroyAll_copies {σ : Type} (descriptor : Descriptor) (values : List Value) (live : Live σ) :
    Ends (descriptor.destroyAll values) live fun _ after => after.journal.copies = live.journal.copies := by
  induction values generalizing live with
  | nil => rfl
  | cons value rest ih =>
      unfold Descriptor.destroyAll Descriptor.destroy
      split
      · split
        · exact Journal.copies_skip _ rfl
        · rw [ends_bind, ends_enter, continues_ok]
          refine (ih _).mono fun _ after same => ?_
          exact same.trans (Journal.copies_skip _ rfl)
      · rfl

theorem release_copies (outputs : Outputs) (live : Live Outputs) :
    Ends outputs.release live fun _ after => after.journal.copies = live.journal.copies := by
  induction outputs generalizing live with
  | nil => rfl
  | cons slot rest ih =>
      unfold Outputs.release
      rw [ends_bind]
      refine (destroyAll_copies slot.descriptor slot.buffer.toList live).mono ?_
      intro outcome after same
      cases outcome with
      | error cause => exact same
      | ok _ => exact (ih after).mono fun _ _ same' => same'.trans same

theorem shown_eq_blank {outputs : Outputs} (sound : Outputs.Sound descriptors outputs)
    (unwritten : outputs.Unwritten) : outputs.shown = Outputs.blank descriptors := by
  unfold Outputs.shown Outputs.blank
  rw [← sound.described, List.map_map]
  refine List.map_congr_left fun slot member => ?_
  unfold OutputSlot.shown
  rw [unwritten slot member]
  rfl

/-- The frames between two visits: the data are the same, and the slots are sound. -/
def Close (descriptors : List Descriptor) (first second : Live (Frame μ)) : Prop :=
  Same Frame.data first second ∧ Outputs.Sound descriptors first.core.outputs ∧
    Outputs.Sound descriptors second.core.outputs

-- The slots are released once per match in one run and once in all in the other, so the two runs can only
-- be compared where no release fails.
variable (releasing : ∀ descriptor ∈ descriptors, descriptor.element.Releasing)

include releasing

/-- Releasing sound slots neither faults nor touches the data. -/
theorem releaseOutputs_ends {live : Live (Frame μ)} (sound : Outputs.Sound descriptors live.core.outputs) :
    Ends releaseOutputs live fun outcome after => outcome = .ok () ∧ Same Frame.data live after := by
  unfold releaseOutputs
  rw [ends_bind, ends_core, continues_ok, ends_onOutputs]
  refine ((Outputs.release_ends sound.typed).and (release_copies _ _)).mono ?_
  rintro _ after ⟨⟨rfl, _⟩, same⟩
  refine ⟨Outputs.disposal_ok fun slot member => ?_, rfl, same⟩
  apply releasing
  rw [← sound.described]
  exact List.mem_map_of_mem member

theorem renew_ends {live : Live (Frame μ)} (describes : Describes live.core.data.registry plan descriptors)
    (sound : Outputs.Sound descriptors live.core.outputs) :
    Ends (renew plan) live fun outcome after => outcome = .ok () ∧ Same Frame.data live after ∧
      after.core.outputs = Outputs.blank descriptors := by
  unfold renew
  rw [ends_bind]
  refine (releaseOutputs_ends releasing sound).mono ?_
  rintro _ after ⟨rfl, data, copies⟩
  rw [continues_ok, ends_bind, ends_core, continues_ok, data, Outputs.prepare_ok describes]
  exact ⟨rfl, ⟨data, copies⟩, rfl⟩

variable {reads writes : List ResourceId} {base : Data (μ × List Call)} {place : Match}
  {live live' : Live (Frame (μ × List Call))}

/-- A visit with new slots visits from a frame with blank slots. -/
theorem visitFresh_eq (callback : Callback μ) (describes : Describes base.registry plan descriptors)
    (steady : Steady plan base live.core.data) (sound : Outputs.Sound descriptors live.core.outputs) :
    ∃ middle, visitFresh plan callback.recorded place live = visit plan callback.recorded place middle ∧
      Same Frame.data live middle ∧ middle.core.outputs = Outputs.blank descriptors := by
  rw [← steady.registry] at describes
  obtain ⟨middle, renewed, same⟩ := eq_ok_of_ends (renew_ends releasing describes sound)
  refine ⟨middle, ?_, same⟩
  simp only [visitFresh, bind, EStateM.bind, renewed]

/-- What holds between two visits with new slots. -/
structure Settling (plan : Plan) (base : Data μ) (descriptors : List Descriptor) (frame : Frame μ) : Prop where
  steady : Steady plan base frame.data
  sound : Outputs.Sound descriptors frame.outputs

theorem visitFresh_advances (callback : Callback μ) (fits : plan.Fits base.registry reads writes)
    (describes : Describes base.registry plan descriptors) (placed : Placed plan base place) :
    Advances (Settling plan base descriptors) (visitFresh plan callback.recorded place) := by
  intro live settling
  obtain ⟨middle, same, near, blank⟩ := visitFresh_eq releasing callback describes settling.steady settling.sound
  have steady : Steady plan base middle.core.data := by
    rw [near.1]
    exact settling.steady
  rw [ends_congr same]
  refine (visit_ends callback fits describes placed steady
    (by rw [blank]; exact Outputs.blank_sound descriptors)
    (by rw [blank]; exact Outputs.blank_unwritten descriptors)).mono ?_
  rintro outcome after ⟨call, _, _, sound, _, kept⟩ going
  exact ⟨(kept going).1, sound⟩

/-- A visit with slots that are not written and one with new slots run alike. -/
theorem visitFresh_parallel (callback : Callback μ) (defaults : Defaulting descriptors)
    (fits : plan.Fits base.registry reads writes) (describes : Describes base.registry plan descriptors)
    (placed : Placed plan base place) (ready : Ready plan base descriptors live.core)
    (near : Same Frame.data live live') (sound : Outputs.Sound descriptors live'.core.outputs) :
    Parallel (fun _ after => Spoilt after.core.data) (Close descriptors) (Close descriptors)
      (visit plan callback.recorded place) (visitFresh plan callback.recorded place) live live' := by
  have steady : Steady plan base live'.core.data := by
    rw [near.1]
    exact ready.steady
  obtain ⟨middle, same, near', blank⟩ := visitFresh_eq releasing callback describes steady sound
  have fresh : Ready plan base descriptors middle.core :=
    { steady := by rw [near'.1]; exact steady
      sound := by rw [blank]; exact Outputs.blank_sound descriptors
      unwritten := by rw [blank]; exact Outputs.blank_unwritten descriptors }
  have shown : Same Frame.shown live middle := by
    refine ⟨shown_eq.mpr ⟨near'.1.trans near.1, ?_⟩, near'.2.trans near.2⟩
    rw [shown_eq_blank fresh.sound fresh.unwritten, shown_eq_blank ready.sound ready.unwritten]
  have ends {live : Live (Frame (μ × List Call))} (ready : Ready plan base descriptors live.core) :
      Ends (visit plan callback.recorded place) live fun _ after =>
        Outputs.Sound descriptors after.core.outputs :=
    (visit_ends callback fits describes placed ready.steady ready.sound ready.unwritten).mono
      fun _ _ ⟨_, _, _, sound, _⟩ => sound
  refine .congr rfl same ?_
  rcases visit_parallel defaults callback place ready.sound fresh.sound shown with spoilt | alike
  · exact Or.inl spoilt
  · have data : ∀ first second : Live (Frame (μ × List Call)), Same Frame.shown first second ∧
        Outputs.Sound descriptors first.core.outputs ∧ Outputs.Sound descriptors second.core.outputs →
        Close descriptors first second :=
      fun _ _ kept => ⟨⟨(shown_eq.mp kept.1.1).1, kept.1.2⟩, kept.2⟩
    exact Or.inr ((alike.with_ends (ends ready) (ends fresh)).mono data data)

theorem visitAll_parallel (callback : Callback μ) (defaults : Defaulting descriptors)
    (fits : plan.Fits base.registry reads writes) (describes : Describes base.registry plan descriptors)
    {places : List Match} (placed : ∀ place ∈ places, Placed plan base place)
    (ready : Ready plan base descriptors live.core) (near : Same Frame.data live live')
    (sound : Outputs.Sound descriptors live'.core.outputs) :
    Parallel (fun _ after => Spoilt after.core.data) (Close descriptors) (Close descriptors)
      (visitAll (visit plan callback.recorded) places) (visitAll (visitFresh plan callback.recorded) places)
      live live' := by
  induction places generalizing live live' with
  | nil => exact Or.inr (.ok ⟨near, ready.sound, sound⟩)
  | cons place rest ih =>
      have here := placed place List.mem_cons_self
      have others : ∀ other ∈ rest, Placed plan base other :=
        fun other member => placed other (List.mem_cons_of_mem _ member)
      have advances := visit_advances callback fits describes here live ready
      unfold visitAll
      refine (visitFresh_parallel releasing callback defaults fits describes here ready near sound).bind
        (advances.mono ?_) ?_
      · intro outcome after kept spoilt
        cases outcome with
        | error cause => exact spoilt
        | ok going =>
            cases going with
            | false => exact spoilt
            | true =>
                -- The calls of the later visits come after the one that spoilt the run.
                rw [continues_ok, if_pos rfl]
                refine (visitAll_ends callback fits describes others (kept rfl)).mono ?_
                rintro _ final ⟨_, calls, remembered, _⟩
                obtain ⟨call, member, abnormal⟩ := spoilt
                exact ⟨call, by rw [remembered]; exact List.mem_append_left _ member, abnormal⟩
      · intro going after after' ended _ close
        cases going with
        | false => exact Or.inr (.ok close)
        | true => exact ih others ((ends_of_ok ended).mp advances rfl) close.1 close.2.2

/-- Released slots are not seen in the data. -/
theorem withOutputs_parallel {live : Live (Data (μ × List Call))}
    {outputs : Outputs}
    {first second : Act (Frame (μ × List Call)) Bool}
    (inside : Parallel (fun _ after => Spoilt after.core.data) (Close descriptors) (Close descriptors)
      first second ⟨live.journal, ⟨live.core, outputs⟩⟩ ⟨live.journal, ⟨live.core, outputs⟩⟩) :
    Parallel (fun _ after => Spoilt after.core) (Same id) (Same id) (withOutputs outputs first)
      (withOutputs outputs second) live live := by
  unfold withOutputs
  rcases inside with ends | alike
  · refine Or.inl (ends_focus.mpr (ends_ensuring.mpr (ends.mono fun _ after spoilt => ?_)))
    exact Keeps.bind_core (fun _ _ => onOutputs_keeps _) after spoilt
  · have releases (after after' : Live (Frame (μ × List Call))) (close : Close descriptors after after') :
        Alike (Same Frame.data) (Same Frame.data) (releaseOutputs after) (releaseOutputs after') := by
      obtain ⟨same, sound, sound'⟩ := close
      obtain ⟨final, released, kept⟩ := eq_ok_of_ends (releaseOutputs_ends releasing sound)
      obtain ⟨final', released', kept'⟩ := eq_ok_of_ends (releaseOutputs_ends releasing sound')
      rw [released, released']
      exact .ok ⟨by rw [kept.1, kept'.1, same.1], by rw [kept.2, kept'.2, same.2]⟩
    exact Or.inr ((alike.ensuring releases).focus (fun _ _ same => same) fun _ _ same => same)

/-- A run and a run with new slots for every match run alike as long as every request is answered. -/
theorem run_parallel {live : Live (Data (μ × List Call))} (callback : Callback μ)
    (defaults : Defaulting descriptors) (fits : plan.Fits live.core.registry reads writes)
    (describes : Describes live.core.registry plan descriptors) (sound : live.core.Sound) :
    Parallel (fun _ after => Spoilt after.core) (Same id) (Same id) (run plan callback.recorded)
      (runFresh plan callback.recorded) live live := by
  refine .congr (traverse_eq fits describes sound) (traverse_eq fits describes sound) (.span fun journal => ?_)
  cases set : live.core.scalarsSet reads with
  | false => exact Or.inr (.ok ⟨rfl, rfl⟩)
  | true =>
      have ready : Ready plan live.core descriptors ⟨live.core, Outputs.blank descriptors⟩ :=
        .blank sound descriptors
      have first := walk_recorded_eq callback fits describes sound set journal
      have second := walk_eq_visitAll fits set (fun _ settling => Settling.steady settling)
        (fun _ placed => visitFresh_advances releasing callback fits describes placed) ⟨journal, _⟩
        ⟨ready.steady, ready.sound⟩
      refine withOutputs_parallel releasing (.congr first second ?_)
      exact visitAll_parallel releasing callback defaults fits describes
        (fun _ member => mem_staticJoin fits set member) ready ⟨rfl, rfl⟩ ready.sound

end Renewal

/-- Images of states that are the same are the same. -/
theorem alike_images {σ τ : Type} {change : σ → τ} {first second : EStateM.Result Fault (Live σ) Bool}
    {image image' : EStateM.Result Fault (Live τ) Bool} (alike : Alike (Same id) (Same id) first second)
    (projects : Alike (Image change) (Image change) first image)
    (projects' : Alike (Image change) (Image change) second image') :
    Alike (Same id) (Same id) image image' := by
  cases alike with
  | ok same =>
      cases projects with
      | ok kept =>
          cases projects' with
          | ok kept' =>
              cases kept
              cases kept'
              exact .ok ⟨congrArg change same.1, same.2⟩
  | error same =>
      cases projects with
      | error kept =>
          cases projects' with
          | error kept' =>
              cases kept
              cases kept'
              exact .error ⟨congrArg change same.1, same.2⟩

/-- The slots are reused from match to match, and no callback can tell. If the requests of all calls are
answered, new values are the defaults of their types and no destruction of a value fails, then a run with
new slots for every match makes the same calls: it reads the same inputs and answers the same requests in
the same way. It ends with the same answer or the same fault and leaves the same data, and the same copies
have been made. -/
theorem runFresh_alike {registry : Registry} {scene : Live (Scene μ)} {reads writes : List ResourceId}
    {plan : Plan} (reachable : Scene.Reachable registry scene)
    (accepted : Plan.make registry reads writes = .ok plan) (callback : Callback μ)
    (defaults : Defaulting registry.descriptors) (releasing : Releasing registry plan)
    (normal : ∀ call ∈ calls plan callback ⟨scene.journal, scene.core.data⟩, Normal call.exchanges) :
    freshCalls plan callback ⟨scene.journal, scene.core.data⟩ =
        calls plan callback ⟨scene.journal, scene.core.data⟩ ∧
      Alike (Same id) (Same id) (run plan callback ⟨scene.journal, scene.core.data⟩)
        (runFresh plan callback ⟨scene.journal, scene.core.data⟩) := by
  obtain ⟨fits, sound⟩ := recording_fits reachable.soundOver accepted
  obtain ⟨descriptors, describes⟩ := exists_describes fits
  have same : scene.core.data.registry = registry := reachable.soundOver.registry
  have output : ∀ descriptor ∈ descriptors, ∃ output ∈ plan.outputs, registry.get? output.1 = some descriptor := by
    intro descriptor member
    rw [← same]
    exact describes.exists_output member
  have fresh : Defaulting descriptors := by
    intro descriptor member
    obtain ⟨_, _, registered⟩ := output descriptor member
    exact defaults descriptor (List.mem_of_getElem? registered)
  have released : ∀ descriptor ∈ descriptors, descriptor.element.Releasing := by
    intro descriptor member
    obtain ⟨output, declared, registered⟩ := output descriptor member
    exact releasing output declared descriptor registered
  have parallel : Parallel _ _ _ _ _ ⟨scene.journal, scene.core.data.recording⟩ _ :=
    run_parallel released callback fresh fits describes sound
  rcases parallel with spoilt | alike
  · obtain ⟨call, member, abnormal⟩ := ends_leaves.mp spoilt
    exact absurd (normal call member) abnormal
  · refine ⟨?_, alike_images alike (run_recorded plan callback _ _ rfl) (runFresh_recorded plan callback _ _ rfl)⟩
    exact congrArg (fun data : Data (μ × List Call) => data.memory.2) alike.leaves.1

/-- Asks for a first size, writes another one and reads it back. -/
def sampleSizes : Callback Unit := fun _ => do
  let _ ← (Request.getOrInit 0 .uint32).send
  (Request.set 0 (.uint32 9)).send
  let _ ← (Request.get 0 .uint32).send
  pure true

theorem runFresh_alike_sample :
    let live : Live (Data Unit) := ⟨Sample.scene.journal, Sample.scene.core.data⟩
    Scene.Reachable Sample.registry Sample.scene ∧
      Plan.make Sample.registry [4, 6] [4] = .ok samplePlan ∧
      Defaulting Sample.registry.descriptors ∧ Releasing Sample.registry samplePlan ∧
      (calls samplePlan sampleSizes live).length = 4 ∧
      (∀ call ∈ calls samplePlan sampleSizes live, Normal call.exchanges) ∧
      freshCalls samplePlan sampleSizes live = calls samplePlan sampleSizes live ∧
      Alike (Same id) (Same id) (run samplePlan sampleSizes live) (runFresh samplePlan sampleSizes live) := by
  intro live
  have accepted : Plan.make Sample.registry [4, 6] [4] = .ok samplePlan := rfl
  have defaults : Defaulting Sample.registry.descriptors := by
    simp [Defaulting, Sample.registry, Registry.builtin, Element.plain]
  have releasing : Releasing Sample.registry samplePlan := by
    simp [Releasing, samplePlan, Sample.registry, Registry.builtin, Registry.get?, Element.Releasing,
      Element.plain]
  have normal : ∀ call ∈ calls samplePlan sampleSizes live, Normal call.exchanges := by decide +kernel
  exact ⟨Sample.scene_reachable, accepted, defaults, releasing, by decide +kernel, normal,
    runFresh_alike Sample.scene_reachable accepted sampleSizes defaults releasing normal⟩

end Join

end EntityScene
