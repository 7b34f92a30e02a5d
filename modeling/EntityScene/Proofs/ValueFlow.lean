import EntityScene.Proofs.Reflects
import EntityScene.Proofs.Traversal

/-!
The flow of values through a join. What a match reads is what the last earlier match of the join wrote
there, or else what was there before the join; and what the join leaves is what its calls wrote last.
-/

namespace EntityScene.Join

open Act Data

variable {μ ν : Type}

section Reads

variable {reads writes : List ResourceId} {plan : Plan} {base : Data μ} {data : Data ν} {place : Match}
  {earlier : List Writing}

/-- What a call reads: each input at the spot where the match meets it, with the value written there last
or else with that of the base. -/
def Reads (plan : Plan) (base : Data μ) (earlier : List Writing) (inputs : Inputs) : Prop :=
  ∀ (position : Nat) (resource : ResourceId) (kind : Kind),
    plan.inputs[position]? = some (resource, kind) → ∃ spot value, inputs.place.spot? kind = some spot ∧
      inputs.values[position]? = some ⟨resource, spot, value⟩ ∧
      (latest? earlier resource spot).or (base.at? resource spot) = some value

theorem getElem?_of_mapM {α β : Type} {act : α → Except Fault β} {items : List α} {answers : List β}
    (made : items.mapM act = .ok answers) {position : Nat} {item : α} (here : items[position]? = some item) :
    ∃ answer, act item = .ok answer ∧ answers[position]? = some answer := by
  induction items generalizing answers position with
  | nil => cases here
  | cons first rest ih =>
      rw [List.mapM_cons] at made
      cases one : act first with
      | error cause => simp [one, bind, Except.bind] at made
      | ok answer =>
          cases others : rest.mapM act with
          | error cause => simp [one, others, bind, Except.bind] at made
          | ok tail =>
              simp only [one, others, bind, Except.bind, pure, Except.pure, Except.ok.injEq] at made
              subst made
              cases position with
              | zero =>
                  cases here
                  exact ⟨answer, one, rfl⟩
              | succ position => exact ih others here

/-- A match meets each input of its plan. -/
theorem Placed.exists_spot (placed : Placed plan base place) {resource : ResourceId} {kind : Kind}
    (declared : (resource, kind) ∈ plan.inputs) : ∃ spot, place.spot? kind = some spot := by
  have attached := placed.attached (List.mem_append_left _ declared)
  cases kind with
  | sceneComponent | entitySpawnList | entityDespawnList => exact ⟨.scene, rfl⟩
  | event =>
      obtain ⟨position, here, _⟩ := placed.event declared
      exact ⟨.event position, by simp [Match.spot?, here]⟩
  | viewportComponent =>
      obtain ⟨identity, here⟩ := attached rfl
      exact ⟨.viewport identity, Option.map_eq_some_iff.mpr ⟨identity, here, rfl⟩⟩
  | entityComponent =>
      obtain ⟨identity, here⟩ := attached rfl
      exact ⟨.entity identity, Option.map_eq_some_iff.mpr ⟨identity, here, rfl⟩⟩

/-- A match looks at the spot where it meets the resource. -/
theorem lookUp_at? (sound : data.Sound) {resource : ResourceId} {kind : Kind}
    (registered : data.registry.kind? resource = some kind) (readable : kind.isRequestList = false)
    {spot : Spot} (met : place.spot? kind = some spot) :
    lookUp data place resource kind = .ok (spot, data.at? resource spot) := by
  obtain ⟨descriptor, described, sort⟩ := Registry.kind?_eq_some.mp registered
  obtain ⟨event, viewport, entity⟩ := place
  unfold lookUp
  cases kind with
  | sceneComponent =>
      obtain ⟨scalar, found, _⟩ := sound.scalar described sort
      cases met
      rw [Data.at?, Data.scalar?, Data.cells_of_found found, storageAt_ok found]
      rfl
  | event =>
      obtain ⟨list, found, _⟩ := sound.events described sort
      obtain ⟨position, rfl, rfl⟩ := Option.map_eq_some_iff.mp met
      rw [Data.at?, Data.events?, Data.cells_of_found found, storageAt_ok found]
      rfl
  | viewportComponent | entityComponent =>
      obtain ⟨table, found, _⟩ := sound.indexed described (by rw [sort]; rfl)
      obtain ⟨identity, rfl, rfl⟩ := Option.map_eq_some_iff.mp met
      rw [Data.at?, Data.component?, Data.cells_of_found found, storageAt_ok found]
      rfl
  | entitySpawnList | entityDespawnList => cases readable

/-- What is resolved from data that show the writings is what a call reads. -/
theorem resolve_reads {data : Data μ} (fits : plan.Fits base.registry reads writes)
    (steady : Steady plan base data) (placed : Placed plan base place) (reflects : Reflects base earlier data)
    {inputs : Inputs} (resolved : resolve data plan place = .ok inputs) : Reads plan base earlier inputs := by
  intro position resource kind declared
  have member := List.mem_of_getElem? declared
  have kinds := fits.input_kind _ member
  obtain ⟨spot, met⟩ := placed.exists_spot member
  obtain ⟨_, value, looked⟩ := lookUp_ok fits steady placed member
  have found := lookUp_at? steady.sound (by rw [steady.registry]; exact kinds) (fits.readable _ member) met
  rw [found] at looked
  obtain ⟨rfl, held⟩ := Prod.mk.inj (Except.ok.inj looked)
  rw [reflects.shows (attends_of_placed placed kinds (fits.readable _ member) met)] at held
  unfold resolve at resolved
  cases made : plan.inputs.mapM (resolveInput data place) with
  | error cause => simp [made, bind, Except.bind] at resolved
  | ok values =>
      simp only [made, bind, Except.bind, pure, Except.pure, Except.ok.injEq] at resolved
      subst resolved
      obtain ⟨input, read, here⟩ := getElem?_of_mapM made declared
      rw [resolveInput_ok (found.trans looked)] at read
      cases read
      exact ⟨spot, value, met, here, held⟩

end Reads

section Runs

variable {reads writes : List ResourceId} {plan : Plan} {descriptors : List Descriptor}

/-- What is known of a call before which the writings were made and the slots left: what it reads, that
nothing waits in the slots, and that its exchanges happen in them. -/
structure Follows (plan : Plan) (base : Data μ) (earlier : List Writing) (slots : Outputs) (call : Call) :
    Prop where
  reads : Reads plan base earlier call.inputs
  typed : ∀ slot ∈ slots, slot.Sound
  unwritten : slots.Unwritten
  conducts : slots.Conducts call.exchanges

/-- A recorded call tells by its exchanges what it has done to the slots. -/
theorem call_replays (callback : Callback μ) (inputs : Inputs) (live : Live (Frame (μ × List Call))) :
    Ends (call callback.recorded inputs) live fun outcome after => ∃ memory exchanges,
      after.core.data =
        live.core.data.withMemory
          (memory, live.core.data.memory.2 ++ [⟨inputs, exchanges, outcome⟩]) ∧
        live.core.outputs.Conducts exchanges ∧
        after.core.outputs = live.core.outputs.replay exchanges := by
  rw [ends_congr (call_recorded_eq callback inputs live)]
  unfold onOutputs
  rw [ends_bind, ends_focus]
  refine (Dialogue.transcribed_replay _ _).mono ?_
  rintro _ after ⟨⟨outcome, memory⟩, exchanges, rfl, conducts, same⟩
  rw [continues_ok, ends_bind, ends_update, continues_ok, ends_ofExcept]
  exact ⟨memory, exchanges, rfl, conducts, same⟩

/-- What calls into the slots have left: what they requested is in the queue, and unless they ended in a
fault, the data show all that they wrote. -/
structure Flowed (base : Data μ) (written : List Writing) (outcome : Except Fault Bool) (after : Data μ) :
    Prop where
  spawns : after.commands.spawns = base.commands.spawns ++ recorded written
  reflects {going : Bool} : outcome = .ok going → Reflects base written after

theorem Reflects.withMemory {base data : Data μ} {earlier : List Writing}
    (reflects : Reflects base earlier data) (memory : ν) : Reflects base earlier (data.withMemory memory) :=
  ⟨reflects.shows, reflects.stands, reflects.remains, reflects.spawns⟩

/-- One visit reads what was written so far and adds what it writes itself. -/
theorem visit_flows {base : Data (μ × List Call)} {place : Match} {live : Live (Frame (μ × List Call))}
    {earlier : List Writing} (callback : Callback μ) (fits : plan.Fits base.registry reads writes)
    (describes : Describes base.registry plan descriptors) (placed : Placed plan base place)
    (ready : Ready plan base descriptors live.core) (reflects : Reflects base earlier live.core.data) :
    Ends (visit plan callback.recorded place) live fun outcome after => ∃ call : Call,
      after.core.data.memory.2 = live.core.data.memory.2 ++ [call] ∧
        Follows plan base earlier live.core.outputs call ∧
        Flowed base
          (earlier ++ writingsFrom base.occupant? (plan.outputs.map Prod.fst) earlier live.core.outputs
            ([call].filter Call.goesOn))
          outcome after.core.data ∧
        (outcome = .ok true → call.goesOn = true ∧
          after.core.outputs = (live.core.outputs.replay call.exchanges).map OutputSlot.settled) := by
  obtain ⟨inputs, read, here⟩ := resolve_ok fits ready.steady placed
  have reads := resolve_reads fits ready.steady placed reflects read
  unfold visit
  rw [ends_bind, ends_core, continues_ok, read, ends_bind, ends_ofExcept, continues_ok, ends_bind]
  refine ((call_replays callback inputs live).and (call_ends callback inputs ready.sound)).mono ?_
  rintro outcome after ⟨⟨memory, exchanges, same, conducts, replayed⟩, _, _, _, sound', _⟩
  have follows : Follows plan base earlier live.core.outputs ⟨inputs, exchanges, outcome⟩ :=
    ⟨reads, ready.sound.typed, ready.unwritten, conducts⟩
  have remembered : after.core.data.memory.2 =
      live.core.data.memory.2 ++ [⟨inputs, exchanges, outcome⟩] := by
    rw [same]
    rfl
  have reflects' : Reflects base earlier after.core.data := by
    rw [same]
    exact reflects.withMemory _
  have stopped {call : Call} (stops : call.goesOn = false) :
      earlier ++ writingsFrom base.occupant? (plan.outputs.map Prod.fst) earlier live.core.outputs
        ([call].filter Call.goesOn) = earlier := by
    rw [List.filter_cons_of_neg (by rw [stops]; exact Bool.false_ne_true), List.filter_nil, writingsFrom,
      List.append_nil]
  cases outcome with
  | error cause =>
      refine ⟨⟨inputs, exchanges, .error cause⟩, remembered, follows, ?_, by rintro ⟨⟩⟩
      rw [stopped rfl]
      exact ⟨reflects'.spawns, by rintro _ ⟨⟩⟩
  | ok going =>
      rw [continues_ok]
      cases going with
      | false =>
          refine ⟨⟨inputs, exchanges, .ok false⟩, remembered, follows, ?_, by rintro ⟨⟩⟩
          rw [stopped rfl]
          exact ⟨reflects'.spawns, fun _ => reflects'⟩
      | true =>
          have steady' : Steady plan base after.core.data := by
            rw [same]
            exact ready.steady.aside live.core.data.commands _
          change Ends (commit place 0 plan.outputs >>= fun _ => pure true) _ _
          rw [ends_bind]
          refine ((commit_lands fits describes placed rfl steady' sound' reflects').and
            (commit_memory plan place (· = after.core.data.memory) after rfl)).mono ?_
          rintro ended final ⟨landed, kept⟩
          have writes : writingsFrom base.occupant? (plan.outputs.map Prod.fst) earlier live.core.outputs
              ([⟨inputs, exchanges, .ok true⟩].filter Call.goesOn) =
                committed base.occupant? place earlier (plan.outputs.map Prod.fst) after.core.outputs := by
            rw [List.filter_cons_of_pos rfl, List.filter_nil, writingsFrom, writingsFrom, List.append_nil,
              replayed, ← here]
            rfl
          rw [← kept] at remembered
          simp only [List.drop_zero, List.take_zero, List.nil_append, ← writes] at landed
          cases ended with
          | error cause =>
              exact ⟨⟨inputs, exchanges, .ok true⟩, remembered, follows,
                ⟨landed.spawns, by rintro _ ⟨⟩⟩, by rintro ⟨⟩⟩
          | ok _ =>
              refine ⟨⟨inputs, exchanges, .ok true⟩, remembered, follows,
                ⟨landed.spawns, fun _ => landed.reflects rfl⟩, fun _ => ⟨rfl, ?_⟩⟩
              rw [← replayed]
              exact landed.outputs rfl

/-- The visits of matches in turn: each call reads what the calls before it wrote, and the data left show
what all calls wrote. -/
theorem visitAll_flows {base : Data (μ × List Call)} {earlier : List Writing} (callback : Callback μ)
    (fits : plan.Fits base.registry reads writes) (describes : Describes base.registry plan descriptors)
    {places : List Match} (placed : ∀ place ∈ places, Placed plan base place)
    {live : Live (Frame (μ × List Call))} (ready : Ready plan base descriptors live.core)
    (reflects : Reflects base earlier live.core.data) :
    Ends (visitAll (visit plan callback.recorded) places) live fun outcome after => ∃ calls : List Call,
      after.core.data.memory.2 = live.core.data.memory.2 ++ calls ∧
        (∀ index call, calls[index]? = some call → Follows plan base
          (earlier ++ writingsFrom base.occupant? (plan.outputs.map Prod.fst) earlier live.core.outputs
            (calls.take index))
          (slotsAfter live.core.outputs (calls.take index)) call) ∧
        Flowed base
          (earlier ++ writingsFrom base.occupant? (plan.outputs.map Prod.fst) earlier live.core.outputs
            (calls.filter Call.goesOn))
          outcome after.core.data := by
  induction places generalizing live earlier with
  | nil =>
      refine ⟨[], (List.append_nil _).symm, by simp, ?_⟩
      rw [List.filter_nil, writingsFrom, List.append_nil]
      exact ⟨reflects.spawns, fun _ => reflects⟩
  | cons place rest ih =>
      have here := placed place List.mem_cons_self
      unfold visitAll
      rw [ends_bind]
      refine ((visit_flows callback fits describes here ready reflects).and
        (visit_advances callback fits describes here live ready)).mono ?_
      rintro outcome after ⟨⟨call, remembered, follows, flowed, went⟩, advances⟩
      have first {others : List Call} : Follows plan base
          (earlier ++ writingsFrom base.occupant? (plan.outputs.map Prod.fst) earlier live.core.outputs
            ((call :: others).take 0))
          (slotsAfter live.core.outputs ((call :: others).take 0)) call := by
        rw [List.take_zero, writingsFrom, List.append_nil]
        exact follows
      have alone : ∀ index other, [call][index]? = some other → Follows plan base
          (earlier ++ writingsFrom base.occupant? (plan.outputs.map Prod.fst) earlier live.core.outputs
            ([call].take index))
          (slotsAfter live.core.outputs ([call].take index)) other := by
        intro index other found
        obtain ⟨rfl, rfl⟩ : index = 0 ∧ call = other := by
          cases index <;> simp_all
        exact first
      cases outcome with
      | error cause => exact ⟨[call], remembered, alone, flowed.spawns, by rintro _ ⟨⟩⟩
      | ok going =>
          rw [continues_ok]
          cases going with
          | false => exact ⟨[call], remembered, alone, flowed.spawns, fun _ => flowed.reflects rfl⟩
          | true =>
              obtain ⟨goes, settled⟩ := went rfl
              refine (ih (fun other member => placed other (List.mem_cons_of_mem _ member)) (advances rfl)
                (flowed.reflects rfl)).mono ?_
              rintro outcome final ⟨others, remembered', follows', flowed'⟩
              -- What the first call wrote comes before what the others write into the slots it settled.
              have joined (list : List Call) :
                  let own := earlier ++ writingsFrom base.occupant? (plan.outputs.map Prod.fst) earlier
                    live.core.outputs ([call].filter Call.goesOn)
                  own ++ writingsFrom base.occupant? (plan.outputs.map Prod.fst) own after.core.outputs list =
                    earlier ++ writingsFrom base.occupant? (plan.outputs.map Prod.fst) earlier
                      live.core.outputs (call :: list) := by
                simp only [settled, List.filter_cons_of_pos goes, List.filter_nil, writingsFrom,
                  List.append_nil, List.append_assoc]
              refine ⟨call :: others, ?_, ?_, ?_⟩
              · rw [remembered', remembered, List.append_assoc]
                rfl
              · intro index other found
                cases index with
                | zero =>
                    cases found
                    exact first
                | succ index =>
                    rw [List.take_succ_cons, ← joined, slotsAfter, List.foldl_cons, ← settled]
                    exact follows' index other found
              · rw [List.filter_cons_of_pos goes, ← joined]
                exact flowed'

theorem Describes.filterMap_eq {registry : Registry} (describes : Describes registry plan descriptors) :
    (plan.outputs.filterMap fun output => registry.get? output.1) = descriptors := by
  have same := congrArg (List.filterMap id) describes
  simpa [List.filterMap_map, Function.comp_def] using same

/-- A recorded run of sound data. -/
theorem run_recorded_flows {live : Live (Data (μ × List Call))} (callback : Callback μ)
    (fits : plan.Fits live.core.registry reads writes) (sound : live.core.Sound) :
    Ends (run plan callback.recorded) live fun outcome after => ∃ calls : List Call,
      after.core.memory.2 = live.core.memory.2 ++ calls ∧
        (∀ index call, calls[index]? = some call →
          Follows plan live.core (writings live.core plan (calls.take index))
            (slotsBefore live.core.registry plan (calls.take index)) call) ∧
        Flowed live.core (writings live.core plan (calls.filter Call.goesOn)) outcome after.core := by
  obtain ⟨descriptors, describes⟩ := exists_describes fits
  have slots (list : List Call) : writings live.core plan list =
      [] ++ writingsFrom live.core.occupant? (plan.outputs.map Prod.fst) [] (Outputs.blank descriptors)
        list := by
    rw [writings, describes.filterMap_eq, List.nil_append]
  have before (list : List Call) : slotsBefore live.core.registry plan list =
      slotsAfter (Outputs.blank descriptors) list := by
    rw [slotsBefore, describes.filterMap_eq]
  simp only [slots, before]
  refine (traverse_ends (fun walked data => ∃ calls : List Call,
    data.memory.2 = live.core.memory.2 ++ calls ∧
    (∀ index call, calls[index]? = some call → Follows plan live.core
      ([] ++ writingsFrom live.core.occupant? (plan.outputs.map Prod.fst) [] (Outputs.blank descriptors)
        (calls.take index))
      (slotsAfter (Outputs.blank descriptors) (calls.take index)) call) ∧
    Flowed live.core
      ([] ++ writingsFrom live.core.occupant? (plan.outputs.map Prod.fst) [] (Outputs.blank descriptors)
        (calls.filter Call.goesOn)) walked data)
    fits describes sound (fun unset => ?_) fun set journal => ?_).mono ?_
  · exact ⟨[], (List.append_nil _).symm, by simp, (Reflects.refl live.core).spawns, fun _ => .refl live.core⟩
  · have ready : Ready plan live.core descriptors ⟨live.core, Outputs.blank descriptors⟩ :=
      .blank sound descriptors
    rw [ends_congr (walk_recorded_eq callback fits describes sound set journal)]
    have placed : ∀ place ∈ live.core.staticJoin reads writes, Placed plan live.core place :=
      fun _ member => mem_staticJoin fits set member
    exact (visitAll_ends callback fits describes placed ready).and
      (visitAll_flows callback fits describes placed ready (.refl live.core)) |>.mono
        fun _ _ both => ⟨both.1.1, both.2⟩
  · rintro outcome _ ⟨walked, closed, calls, remembered, follows, spawns, reflects⟩
    refine ⟨calls, remembered, follows, spawns, ?_⟩
    rintro going rfl
    exact reflects closed.of_ok

end Runs

section Plain

variable {registry : Registry} {reads writes : List ResourceId} {plan : Plan} {base : Data μ}
  {written : List Writing}

theorem Reflects.forget {data : Data (μ × List Call)} (reflects : Reflects base.recording written data) :
    Reflects base written data.forget :=
  ⟨fun attended => reflects.shows ⟨attended.kind, attended.live⟩,
    fun attended => reflects.stands ⟨attended.kind, attended.live⟩, reflects.remains, reflects.spawns⟩

/-- What the calls of a run read and do to the slots, and what the run leaves, in terms of what the calls
wrote. -/
theorem run_follows {live : Live (Data μ)} (based : Data.SoundOver registry live.core)
    (accepted : Plan.make registry reads writes = .ok plan) (callback : Callback μ) :
    (∀ index call, (calls plan callback live)[index]? = some call →
      Follows plan live.core (writings live.core plan ((calls plan callback live).take index))
        (slotsBefore registry plan ((calls plan callback live).take index)) call) ∧
    Ends (run plan callback) live fun outcome after =>
      Flowed live.core (writings live.core plan ((calls plan callback live).filter Call.goesOn)) outcome
        after.core := by
  obtain ⟨fits, sound⟩ := recording_fits based accepted
  have flows : Ends (run plan callback) live _ := run_ends_of_recorded (fun made outcome after =>
    (∀ index call, made[index]? = some call →
      Follows plan live.core (writings live.core plan (made.take index))
        (slotsBefore registry plan (made.take index)) call) ∧
    Flowed live.core (writings live.core plan (made.filter Call.goesOn)) outcome after.core) (by
      rw [← based.registry]
      refine Ends.mono (run_recorded_flows callback fits sound) ?_
      rintro outcome after ⟨made, remembered, follows, flowed⟩
      exact ⟨made, remembered, fun index call found => { follows index call found with },
        flowed.spawns, fun ok => (flowed.reflects ok).forget⟩)
  exact ⟨ends_leaves.mp (flows.mono fun _ _ both => both.1), flows.mono fun _ _ both => both.2⟩

/-- What the calls of a run read and what the run leaves, in terms of what the calls wrote. -/
theorem run_flows {live : Live (Data μ)} (based : Data.SoundOver registry live.core)
    (accepted : Plan.make registry reads writes = .ok plan) (callback : Callback μ) :
    (∀ index call, (calls plan callback live)[index]? = some call →
      Reads plan live.core (writings live.core plan ((calls plan callback live).take index)) call.inputs) ∧
    Ends (run plan callback) live fun outcome after =>
      Flowed live.core (writings live.core plan ((calls plan callback live).filter Call.goesOn)) outcome
        after.core := by
  obtain ⟨follows, flows⟩ := run_follows based accepted callback
  exact ⟨fun index call found => (follows index call found).reads, flows⟩

end Plain

/-- Each call of a run reads, at the spots of its match, what the last call before it wrote there, or else
what was there before the run. If the run ends without a fault, the same holds afterwards of every scene
component and of every component of a live identity, where only calls that went on count: what another
call wrote is neither in the storages nor in the queue. -/
theorem last_writing_shows {registry : Registry} {scene : Live (Scene μ)} {reads writes : List ResourceId}
    {plan : Plan} (reachable : Scene.Reachable registry scene)
    (accepted : Plan.make registry reads writes = .ok plan) (callback : Callback μ) :
    let before := scene.core.data
    let made := calls plan callback ⟨scene.journal, before⟩
    (∀ index call, made[index]? = some call →
      Reads plan before (writings before plan (made.take index)) call.inputs) ∧
      ∀ completed after, run plan callback ⟨scene.journal, before⟩ = .ok completed after →
        Reflects before (writings before plan (made.filter Call.goesOn)) after.core := by
  have based : Data.SoundOver registry (Live.core ⟨scene.journal, scene.core.data⟩) := reachable.soundOver
  obtain ⟨reads, flows⟩ := run_flows based accepted callback
  refine ⟨reads, fun completed after ended => ?_⟩
  exact ((ends_of_ok ended).mp flows).reflects rfl

/-- Resizes a viewport and asks for an entity for each event, until the first viewport comes up for the
second event. -/
def sampleFlow : Callback Unit := fun inputs => do
  (Request.set 0 (.uint32 7)).send
  (Request.set 1 (.spawnList [[]])).send
  pure (inputs.place != ⟨some 1, some ⟨0, 0⟩, none⟩)

def flowPlan : Plan :=
  ⟨[(4, .viewportComponent), (6, .event)], [(4, .viewportComponent), (2, .entitySpawnList)], some 6, true,
    false⟩

theorem last_writing_shows_sample :
    let live : Live (Data Unit) := ⟨Sample.scene.journal, Sample.scene.core.data⟩
    let made := calls flowPlan sampleFlow live
    Scene.Reachable Sample.registry Sample.scene ∧ Plan.make Sample.registry [4, 6] [4, 2] = .ok flowPlan ∧
      (run flowPlan sampleFlow).answer? live = some false ∧
      made.length = 3 ∧ (made.filter Call.goesOn).length = 2 ∧
      (writings live.core flowPlan (made.filter Call.goesOn)).length = 4 ∧
      (∀ index call, made[index]? = some call →
        Reads flowPlan live.core (writings live.core flowPlan (made.take index)) call.inputs) ∧
      Reflects live.core (writings live.core flowPlan (made.filter Call.goesOn))
        ((run flowPlan sampleFlow).leaves live).core := by
  have accepted : Plan.make Sample.registry [4, 6] [4, 2] = .ok flowPlan := rfl
  have stops : (run flowPlan sampleFlow).answer? ⟨Sample.scene.journal, Sample.scene.core.data⟩ =
      some false := by decide +kernel
  obtain ⟨reads, reflects⟩ := last_writing_shows Sample.scene_reachable accepted sampleFlow
  exact ⟨Sample.scene_reachable, accepted, stops, by decide +kernel, by decide +kernel, by decide +kernel,
    reads, reflects false _ (eq_ok_of_answer? stops)⟩

end EntityScene.Join
