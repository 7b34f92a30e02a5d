import EntityScene.Proofs.Blind
import EntityScene.Proofs.Joinings

/-!
Building a scene. The configuration and then the jobs are checked before anything runs, the setup jobs run
once, and the plans that are made for the update jobs stay good: in every later state a tick comes to the
same as one that plans the joins of its jobs anew.
-/

namespace EntityScene

open Act

variable {σ μ α : Type}

namespace Act

/-- What an act comes to: its outcome, the state that it leaves and the ledger. -/
def effect (act : Act σ α) (live : Live σ) : Except Fault α × σ × List LedgerEntry :=
  match act live with
  | .ok answer after => (.ok answer, after.core, after.journal.ledger)
  | .error cause after => (.error cause, after.core, after.journal.ledger)

theorem ends_effect (act : Act σ α) (live : Live σ) :
    Ends act live fun outcome _ => outcome = (act.effect live).1 := by
  unfold Ends effect
  cases act live <;> rfl

/-- The states and the ledgers are the same. -/
abbrev Tallied (first second : Live σ) : Prop := Even (fun journal journal' => journal.ledger = journal'.ledger)
  first second

theorem tallied_link : Journal.Link fun first second => first.ledger = second.ledger :=
  ⟨fun entry same => congrArg (entry :: ·) same, fun _ same => same⟩

theorem Alike.effect_eq {first second : Act σ α} {live live' : Live σ}
    (alike : Alike Tallied Tallied (first live) (second live')) : first.effect live = second.effect live' := by
  unfold effect
  generalize first live = result at alike
  generalize second live' = result' at alike
  cases alike with
  | ok same => simp only [same.1, same.2]
  | error same => simp only [same.1, same.2]

/-- A span around the first act does not matter. -/
theorem Alike.span_left {name : String} {arguments : List (String × Trace.Argument)} {act : Act σ α}
    {live : Live σ} {result : EStateM.Result Fault (Live σ) α}
    (alike : Alike Tallied Tallied (act (live.within name)) result) :
    Alike Tallied Tallied (Act.span name arguments act live) result := by
  change Alike Tallied Tallied (match act (live.within name) with | .ok _ _ => _ | .error _ _ => _) result
  generalize act (live.within name) = inside at alike
  cases alike with
  | ok same => exact .ok same
  | error same => exact .error same

end Act

/-- Makes the joins of the jobs one after the other, each planned anew. It does not matter whether a
callback stopped its join; a join that cannot be planned is reported and ends the series. -/
def Data.iterateAll : List (Job μ) → Act (Data μ) (Except PlanError Unit)
  | [] => pure (.ok ())
  | job :: rest => do
    match ← Data.iterate job.inputs job.outputs job.callback with
    | .ok _ => Data.iterateAll rest
    | .error cause => pure (.error cause)

/-- A join that can be planned is the run of its plan. -/
theorem Data.iterate_eq {inputs outputs : List ResourceId} {plan : Plan} {live : Live (Data μ)}
    (planned : Plan.make live.core.registry inputs outputs = .ok plan) (callback : Callback μ)
    (next : Except PlanError Bool → Act (Data μ) α) :
    (Data.iterate inputs outputs callback >>= next) live =
      (Join.run plan callback >>= fun completed => next (.ok completed)) live := by
  unfold Data.iterate
  simp only [bind, EStateM.bind, Act.core, planned]
  cases Join.run plan callback live <;> rfl

namespace Schedule

/-- The joins of planned jobs, without spans and notes. -/
def joinAll : List (PlannedJob μ) → Act (Data μ) Unit
  | [] => pure ()
  | planned :: rest => do
    let _ ← Join.run planned.plan planned.job.callback
    joinAll rest

theorem runJob_tallied (kind : JobKind) (planned : PlannedJob μ) {live live' : Live (Data μ)}
    (same : Tallied live live') :
    Alike Tallied Tallied (runJob kind planned live)
      ((Join.run planned.plan planned.job.callback >>= fun _ => pure ()) live') := by
  unfold runJob
  apply Alike.span_left
  apply Alike.bind (Join.run_even tallied_link (fun _ _ same => same) planned.plan planned.job.callback
    (live.within planned.job.name) live' same)
  intro completed after after' _ same
  cases completed <;> exact .ok same

/-- Running jobs is making their joins. -/
theorem runJobs_tallied (kind : JobKind) (jobs : List (PlannedJob μ)) :
    Similar Tallied Tallied (runJobs kind jobs) (joinAll jobs) := by
  induction jobs with
  | nil => exact Similar.pure ()
  | cons planned rest ih =>
      intro live live' same
      have again : joinAll (planned :: rest) =
          ((Join.run planned.plan planned.job.callback >>= fun _ => pure ()) >>= fun _ => joinAll rest) := by
        simp only [joinAll, bind_assoc, pure_bind]
      rw [again]
      exact (runJob_tallied kind planned same).bind fun _ after after' _ same => ih after after' same

/-- Joins that are planned anew are those of the plans that were made. -/
theorem iterateAll_eq {registry : Registry} {jobs : List (PlannedJob μ)}
    (accepted : ∀ planned ∈ jobs, planned.Accepted registry) {live : Live (Data μ)}
    (based : Data.SoundOver registry live.core) :
    Data.iterateAll (jobs.map PlannedJob.job) live = (joinAll jobs >>= fun _ => pure (.ok ())) live := by
  induction jobs generalizing live with
  | nil => rfl
  | cons planned rest ih =>
      have plans : Plan.make live.core.registry planned.job.inputs planned.job.outputs = .ok planned.plan := by
        rw [based.registry]
        exact accepted planned List.mem_cons_self
      simp only [List.map_cons, Data.iterateAll, joinAll, bind_assoc]
      rw [Data.iterate_eq plans]
      apply bind_congr_ok
      intro completed after ended
      apply ih fun other member => accepted other (List.mem_cons_of_mem _ member)
      exact (ends_of_ok ended).mp (Scene.run_soundOver planned.plan planned.job.callback live based)

end Schedule

/-- The resources of the job can be joined. -/
def Job.Plannable (registry : Registry) (job : Job μ) : Prop :=
  ∃ plan, Plan.make registry job.inputs job.outputs = .ok plan

/-- The tables of the pools are small enough to be addressed. -/
def Config.Reservable (config : Config) : Prop :=
  Pool.slotBytes * config.entityCapacity < 0x8000000000000000 ∧
    Pool.slotBytes * config.viewportCapacity < 0x8000000000000000

instance (config : Config) : Decidable config.Reservable := inferInstanceAs (Decidable (_ ∧ _))

section Partitions

variable {registry : Registry}

theorem Job.Plannable.planned {job : Job μ} (plannable : job.Plannable registry) :
    ∃ plan, job.planned registry = .ok ⟨job, plan⟩ := by
  obtain ⟨plan, made⟩ := plannable
  exact ⟨plan, by rw [Job.planned, made]⟩

/-- The first job that cannot be planned is reported. -/
theorem Schedule.partition_refused {earlier later : List (Job μ)} {job : Job μ} {cause : PlanError}
    (plannable : ∀ other ∈ earlier, other.Plannable registry)
    (refused : Plan.make registry job.inputs job.outputs = .error cause) :
    Schedule.partition registry (earlier ++ job :: later) = .error (.invalidJob job.name cause) := by
  have planned : (earlier ++ job :: later).mapM (Job.planned registry) = .error (.invalidJob job.name cause) := by
    induction earlier with
    | nil => simp [Job.planned, refused, bind, Except.bind]
    | cons first rest ih =>
        obtain ⟨plan, made⟩ := (plannable first List.mem_cons_self).planned
        have others := ih fun other member => plannable other (List.mem_cons_of_mem _ member)
        rw [List.cons_append, List.mapM_cons, made, others]
        rfl
  rw [partition, planned]
  rfl

/-- Jobs that can be planned are parted by their kinds and keep their order. -/
theorem Schedule.partition_planned {jobs : List (Job μ)} (plannable : ∀ job ∈ jobs, job.Plannable registry) :
    ∃ setup updates, Schedule.partition registry jobs = .ok (setup, updates) ∧
      setup.jobs.map PlannedJob.job = jobs.filter (fun job => job.kind = .setup) ∧
      updates.jobs.map PlannedJob.job = jobs.filter (fun job => job.kind = .update) := by
  have planned : ∃ list, jobs.mapM (Job.planned registry) = .ok list ∧ list.map PlannedJob.job = jobs := by
    induction jobs with
    | nil => exact ⟨[], rfl, rfl⟩
    | cons job rest ih =>
        obtain ⟨plan, made⟩ := (plannable job List.mem_cons_self).planned
        obtain ⟨list, others, same⟩ := ih fun other member => plannable other (List.mem_cons_of_mem _ member)
        refine ⟨⟨job, plan⟩ :: list, ?_, congrArg (job :: ·) same⟩
        rw [List.mapM_cons, made, others]
        rfl
  obtain ⟨list, made, same⟩ := planned
  rw [partition, made, ← same, List.filter_map, List.filter_map]
  exact ⟨_, _, rfl, rfl, rfl⟩

end Partitions

namespace Scene

/-- A tick that plans the joins of its jobs anew. -/
def tickAnew (jobs : List (Job μ)) (delta : Single) : Act (Scene μ) (Except PlanError Unit) := do
  opening delta
  match ← onData (Data.iterateAll jobs) with
  | .ok _ =>
    onData Data.endTick
    pure (.ok ())
  | .error cause => pure (.error cause)

section Ticks

theorem onData_uniform {act : Act (Data μ) α} (uniform : Uniform act) : Uniform (onData act : Act (Scene μ) α) :=
  Uniform.focus uniform

theorem opening_uniform (delta : Single) : Uniform (opening delta : Act (Scene μ) Unit) := by
  have publishes (resource : ResourceId) (value : Value) :
      Uniform (emplaceScalar resource value : Act (Scene μ) Unit) := by
    apply onData_uniform
    apply Data.onStorage_uniform
    exact Storage.onScalar_uniform fun descriptor => Scalar.emplace_uniform descriptor value
  apply Uniform.bind (Uniform.log _ _)
  intro _
  apply Uniform.bind (onData_uniform Data.applyCommands_uniform)
  intro _
  apply Uniform.bind (Uniform.update _)
  intro _
  apply Uniform.bind (publishes _ _)
  intro _
  exact Uniform.bind_core fun _ => publishes _ _

/-- What comes before the jobs of a tick keeps a scene sturdy and its jobs as they are. -/
theorem opening_sturdy {registry : Registry} {updates : Schedule μ} (delta : Single) :
    Keeps (fun scene : Scene μ => Data.SoundOver registry scene.data ∧ scene.updates = updates)
      (opening delta) := by
  have publishes (resource : ResourceId) (value : Value) :
      Keeps (fun scene : Scene μ => Data.SoundOver registry scene.data ∧ scene.updates = updates)
        (emplaceScalar resource value) := onData_keeps (write_soundOver resource (.emplaceScalar value))
  apply Keeps.bind (.log _ _)
  intro _
  apply Keeps.bind (onData_keeps (Data.applyCommands_soundOver registry))
  intro _
  refine Keeps.bind (.update fun _ kept => kept) fun _ => ?_
  apply Keeps.bind (publishes _ _)
  intro _
  exact .bind_core fun _ _ => publishes _ _

/-- The part of a tick from its jobs on, without spans and notes. -/
def finishing : Act (Scene μ) Unit := do
  onData (Schedule.joinAll (← Act.core).updates.jobs)
  onData Data.endTick

theorem onData_tallied {act other : Act (Data μ) α} (similar : Similar Tallied Tallied act other) :
    Similar Tallied Tallied (onData act) (onData other) := by
  intro live live' same
  have inside := similar ⟨live.journal, live.core.data⟩ ⟨live'.journal, live'.core.data⟩
    ⟨congrArg Scene.data same.1, same.2⟩
  have puts (after after' : Live (Data μ)) (kept : Tallied after after') :
      Tallied (σ := Scene μ) ⟨after.journal, { live.core with data := after.core }⟩
        ⟨after'.journal, { live'.core with data := after'.core }⟩ := ⟨by dsimp only; rw [same.1, kept.1], kept.2⟩
  exact inside.focus puts puts

/-- A tick makes the joins of its jobs between its opening and its end. -/
theorem tick_tallied (delta : Single) (live : Live (Scene μ)) :
    Alike Tallied Tallied (tick delta live) ((opening delta >>= fun _ => finishing) live) := by
  rw [tick_eq]
  apply Alike.span_left
  apply Alike.bind (opening_uniform delta _ tallied_link (live.within "Scene::tick") live ⟨rfl, rfl⟩)
  intro _ after after' _ same
  apply Similar.bind_core ?_ after after' same
  intro now now' same
  rw [← same.1]
  apply Similar.bind (onData_tallied (Schedule.runJobs_tallied _ _)) ?_ now now' same
  exact fun _ => onData_tallied (Data.endTick_uniform _ tallied_link)

/-- Planning the joins of a tick anew changes nothing. -/
theorem tickAnew_eq {registry : Registry} {live : Live (Scene μ)} (sturdy : Sturdy registry live.core)
    (delta : Single) :
    tickAnew (live.core.updates.jobs.map PlannedJob.job) delta live =
      ((opening delta >>= fun _ => finishing) >>= fun _ => pure (.ok ())) live := by
  rw [bind_assoc]
  apply bind_congr_ok
  intro _ after opened
  obtain ⟨based, updates⟩ := (ends_of_ok opened).mp (opening_sturdy delta live ⟨sturdy.based, rfl⟩)
  have joins : onData (Data.iterateAll (live.core.updates.jobs.map PlannedJob.job)) after =
      (onData (Schedule.joinAll after.core.updates.jobs) >>= fun _ => pure (.ok ())) after := by
    rw [updates]
    exact focus_answer (Schedule.iterateAll_eq sturdy.accepted based)
  rw [bind_congr_left joins]
  simp only [finishing, bind_assoc, pure_bind]
  rfl

/-- A tick comes to the same as one that plans the joins of its jobs anew. -/
theorem tick_effect {registry : Registry} {live : Live (Scene μ)} (sturdy : Sturdy registry live.core)
    (delta : Single) :
    (tick delta >>= fun _ => pure (.ok ())).effect live =
      (tickAnew (live.core.updates.jobs.map PlannedJob.job) delta).effect live := by
  apply Alike.effect_eq
  rw [tickAnew_eq sturdy]
  exact (tick_tallied delta live).bind fun _ _ _ _ same => .ok same

end Ticks

section Building

variable {registry : Registry} {jobs : List (Job μ)} {config : Config} {start : Live μ}

/-- New data over the registry. -/
def blankData (registry : Registry) (memory : μ) : Data μ :=
  ⟨registry, registry.descriptors.map Storage.ofDescriptor, .empty, .empty, .empty, memory⟩

theorem create_data (registry : Registry) (config : Config) (memory : μ) :
    Data.create registry config.entityCapacity config.viewportCapacity memory =
      if config.Reservable then .ok (blankData registry memory) else .error .capacityOverflow := by
  unfold Data.create Pool.withCapacity Config.Reservable
  by_cases entities : Pool.slotBytes * config.entityCapacity < 0x8000000000000000 <;>
    by_cases viewports : Pool.slotBytes * config.viewportCapacity < 0x8000000000000000 <;>
    simp [entities, viewports, blankData, bind, Except.bind, pure, Except.pure]

theorem create_invalid {cause : ConfigError} (invalid : config.validate = .error cause) :
    create registry jobs config start = .ok (.error (.config cause)) start := by
  unfold create
  rw [invalid]
  rfl

theorem create_refused {cause : SceneError} (valid : config.validate = .ok ())
    (refused : Schedule.partition registry jobs = .error cause) :
    create registry jobs config start = .ok (.error cause) start := by
  unfold create
  rw [valid, refused]
  rfl

theorem create_overflows {setup updates : Schedule μ} (valid : config.validate = .ok ())
    (parted : Schedule.partition registry jobs = .ok (setup, updates)) (large : ¬config.Reservable) :
    create registry jobs config start = .error .capacityOverflow start := by
  have data := create_data registry config start.core
  rw [if_neg large] at data
  unfold create
  rw [valid, parted]
  change EStateM.bind (Act.ofExcept _) _ start = _
  rw [data]
  rfl

/-- After the checks the setup jobs run on new data, and nothing has been written to the ledger. -/
theorem create_sets_up (start : Live μ) {setup updates : Schedule μ} (valid : config.validate = .ok ())
    (parted : Schedule.partition registry jobs = .ok (setup, updates)) (fits : config.Reservable) :
    ∃ journal, create registry jobs config start =
        (setUp setup (blankData registry start.core) >>= fun data =>
          pure (.ok ⟨data, updates, config, .zero⟩)) ⟨journal, start.core⟩ ∧
      journal.ledger = start.journal.ledger := by
  have data := create_data registry config start.core
  rw [if_pos fits] at data
  unfold create
  rw [valid, parted]
  change ∃ journal, EStateM.bind (Act.ofExcept _) _ start = _ ∧ _
  rw [data]
  exact ⟨_, rfl, rfl⟩

theorem setUp_of_ok {setup : Schedule μ} {journal : Journal} {data : Data μ} {memory : μ} {after : Live (Data μ)}
    (ran : setup.run ⟨journal, data⟩ = .ok () after) :
    setUp setup data ⟨journal, memory⟩ = .ok after.core ⟨after.journal, after.core.memory⟩ := by
  have attempted : Act.attempt setup.run ⟨journal, data⟩ = .ok (.ok ()) after := by rw [Act.attempt, ran]
  apply focus_of_ok
  rw [bind_of_ok attempted]
  rfl

theorem setUp_of_error {setup : Schedule μ} {journal : Journal} {data : Data μ} {memory : μ} {cause : Fault}
    {after : Live (Data μ)} (ran : setup.run ⟨journal, data⟩ = .error cause after) :
    ∃ left, setUp setup data ⟨journal, memory⟩ =
      .error (interrupted cause (Data.release.effect after).1) left := by
  have ends : Ends (setUp setup data) ⟨journal, memory⟩ fun outcome _ =>
      outcome = .error (interrupted cause (Data.release.effect after).1) := by
    unfold setUp
    rw [ends_focus, ends_bind, ends_attempt, ends_of_error ran, continues_ok, ends_fault_ensuring]
    exact (ends_effect _ _).mono fun _ _ same => by rw [same]
  unfold Ends at ends
  cases ended : setUp setup data ⟨journal, memory⟩ with
  | ok answer left =>
      rw [ended] at ends
      cases ends
  | error other left =>
      rw [ended] at ends
      cases ends
      exact ⟨left, rfl⟩

/-- Setting up comes to the same as making the joins of the setup jobs, each planned anew. -/
theorem create_set_up (start : Live μ) {setup updates : Schedule μ} (valid : config.validate = .ok ())
    (parted : Schedule.partition registry jobs = .ok (setup, updates)) (fits : config.Reservable) :
    match Data.iterateAll (setup.jobs.map PlannedJob.job) ⟨start.journal, blankData registry start.core⟩ with
    | .ok answer ran => answer = .ok () ∧ ∃ journal, journal.ledger = ran.journal.ledger ∧
        create registry jobs config start =
          .ok (.ok ⟨ran.core, updates, config, .zero⟩) ⟨journal, ran.core.memory⟩
    | .error cause ran => ∃ left, create registry jobs config start =
        .error (interrupted cause (Data.release.effect ran).1) left := by
  have made := create_data registry config start.core
  rw [if_pos fits] at made
  have based : Data.SoundOver registry (blankData registry start.core) := ⟨(Data.create_sound made).2, rfl⟩
  rw [Schedule.iterateAll_eq (Schedule.partition_accepted parted).1 based]
  obtain ⟨journal, created, ledger⟩ := create_sets_up start valid parted fits
  have alike : Alike Tallied Tallied (setup.run ⟨journal, blankData registry start.core⟩)
      (Schedule.joinAll setup.jobs ⟨start.journal, blankData registry start.core⟩) :=
    Schedule.runJobs_tallied setup.kind setup.jobs _ _ ⟨rfl, ledger⟩
  rw [created]
  generalize runs : setup.run ⟨journal, blankData registry start.core⟩ = result at alike
  generalize joins : Schedule.joinAll setup.jobs ⟨start.journal, blankData registry start.core⟩ = result' at alike
  cases alike with
  | @ok _ after ran same =>
      rw [bind_of_ok joins, bind_of_ok (setUp_of_ok runs), same.1]
      exact ⟨rfl, after.journal, same.2, rfl⟩
  | error same =>
      obtain ⟨left, ended⟩ := setUp_of_error runs
      rw [(Data.release_uniform _ tallied_link _ _ same).effect_eq] at ended
      rw [bind_of_error joins, bind_of_error ended]
      exact ⟨left, rfl⟩

end Building

/-- The jobs stay as they are, whatever the operations. -/
theorem runAll_updates {registry : Registry} (operations : List (Operation μ)) (live : Live (Scene μ))
    (based : Data.SoundOver registry live.core.data) :
    (runAll operations live).core.updates = live.core.updates := by
  induction operations generalizing live with
  | nil => rfl
  | cons operation rest ih =>
      obtain ⟨based, same⟩ := ends_leaves.mp (perform_soundOver operation live ⟨based, rfl⟩)
      exact (ih _ based).trans same

/-- In all later states the jobs are as they were, and planning their joins anew changes nothing. -/
theorem create_ticks_anew {registry : Registry} {jobs : List (Job μ)} {config : Config} {start built : Live μ}
    {scene : Scene μ} (created : create registry jobs config start = .ok (.ok scene) built)
    (operations : List (Operation μ)) :
    let live := runAll operations ⟨built.journal, scene⟩
    live.core.updates = scene.updates ∧ ∀ delta, (tick delta >>= fun _ => pure (.ok ())).effect live =
      (tickAnew (scene.updates.jobs.map PlannedJob.job) delta).effect live := by
  have sturdy := create_sturdy created
  have same := runAll_updates operations ⟨built.journal, scene⟩ sturdy.based
  have later : Sturdy registry (runAll operations ⟨built.journal, scene⟩).core := runAll_sturdy sturdy
  refine ⟨same, fun delta => ?_⟩
  have effects := tick_effect later delta
  rw [same] at effects
  exact effects

/-- Building a scene comes to one of five ends. A time scale that is not finite or not positive is refused;
otherwise the first job that cannot be planned is reported; in both cases the state is as before. Otherwise
pools that are too large are a fault, and so is a fault of a setup job, which turns into an abort if the new
data are not released after it. Otherwise there is a scene, whose data are what the setup jobs leave of new
data when each is a join of its own. In all its later states the scene has the update jobs in their order,
and a tick comes to the same as one in which each of them is a join of its own; no such join is refused. -/
theorem create_checks_and_ticks_as_planned_anew (registry : Registry) (jobs : List (Job μ)) (config : Config)
    (start : Live μ) :
    let setups := jobs.filter fun job => job.kind = .setup
    let updates := jobs.filter fun job => job.kind = .update
    let valid := config.timeScale.isFinite = true ∧ Single.zero.lt config.timeScale = true
    (¬valid → create registry jobs config start =
        .ok (.error (.config (.invalidTimeScale config.timeScale))) start) ∧
      (valid → ∀ earlier job later cause, jobs = earlier ++ job :: later →
        (∀ other ∈ earlier, other.Plannable registry) →
        Plan.make registry job.inputs job.outputs = .error cause →
          create registry jobs config start = .ok (.error (.invalidJob job.name cause)) start) ∧
      (valid → (∀ job ∈ jobs, job.Plannable registry) → ¬config.Reservable →
        create registry jobs config start = .error .capacityOverflow start) ∧
      (valid → (∀ job ∈ jobs, job.Plannable registry) → config.Reservable →
        let result := Data.iterateAll setups ⟨start.journal, blankData registry start.core⟩
        (∀ cause ran, result = .error cause ran → ∃ left, create registry jobs config start =
          .error (interrupted cause (Data.release.effect ran).1) left) ∧
          ∀ answer ran, result = .ok answer ran → answer = .ok () ∧ ∃ scene built,
            create registry jobs config start = .ok (.ok scene) built ∧ scene.data = ran.core ∧
              built.core = ran.core.memory ∧ built.journal.ledger = ran.journal.ledger ∧
              scene.config = config ∧ scene.gameTime = .zero ∧
              ∀ operations, let live := runAll operations ⟨built.journal, scene⟩
                live.core.updates.jobs.map PlannedJob.job = updates ∧
                  ∀ delta, (tick delta >>= fun _ => pure (.ok ())).effect live =
                    (tickAnew updates delta).effect live) := by
  have validated (valid : config.timeScale.isFinite = true ∧ Single.zero.lt config.timeScale = true) :
      config.validate = .ok () := by simp [Config.validate, valid]
  refine ⟨?_, ?_, ?_, ?_⟩
  · intro invalid
    apply create_invalid
    simpa [Config.validate] using invalid
  · rintro valid earlier job later cause rfl plannable refused
    exact create_refused (validated valid) (Schedule.partition_refused plannable refused)
  · intro valid plannable large
    obtain ⟨setup, updates, parted, _⟩ := Schedule.partition_planned plannable
    exact create_overflows (validated valid) parted large
  · intro valid plannable fits
    obtain ⟨setup, updates, parted, setups, rest⟩ := Schedule.partition_planned plannable
    have ended := create_set_up start (validated valid) parted fits
    rw [setups] at ended
    constructor
    · intro cause ran joined
      rw [joined] at ended
      exact ended
    · intro answer ran joined
      rw [joined] at ended
      obtain ⟨answered, journal, ledger, created⟩ := ended
      refine ⟨answered, _, _, created, rfl, rfl, ledger, rfl, rfl, fun operations => ?_⟩
      obtain ⟨same, effects⟩ := create_ticks_anew created operations
      rw [← rest]
      exact ⟨by rw [same], effects⟩

def sampleGreeting : Job Unit where
  name := "greet"
  kind := .setup
  inputs := []
  outputs := [0]
  callback _ := do
    (Request.set 0 (.single ⟨0x3f800000⟩)).send
    pure true

def sampleEcho : Job Unit where
  name := "echo"
  kind := .update
  inputs := [0]
  outputs := [1]
  callback _ := do
    (Request.set 0 (.single ⟨0x40000000⟩)).send
    pure true

theorem create_checks_and_ticks_as_planned_anew_sample :
    Config.default.timeScale.isFinite = true ∧ Single.zero.lt Config.default.timeScale = true ∧
      (∀ job ∈ [sampleEcho, sampleGreeting], job.Plannable .builtin) ∧ Config.default.Reservable ∧
      ∃ scene built, create .builtin [sampleEcho, sampleGreeting] .default ⟨{}, ()⟩ = .ok (.ok scene) built ∧
        ∀ delta, (tick delta >>= fun _ => pure (.ok ())).effect ⟨built.journal, scene⟩ =
          (tickAnew [sampleEcho] delta).effect ⟨built.journal, scene⟩ := by
  have valid : Config.default.timeScale.isFinite = true ∧ Single.zero.lt Config.default.timeScale = true := by
    decide +kernel
  have plannable : ∀ job ∈ [sampleEcho, sampleGreeting], job.Plannable .builtin := by
    simp only [List.mem_cons, List.not_mem_nil, or_false]
    rintro job (rfl | rfl)
    · exact ⟨⟨[(0, .sceneComponent)], [(1, .sceneComponent)], none, false, false⟩, rfl⟩
    · exact ⟨⟨[], [(0, .sceneComponent)], none, false, false⟩, rfl⟩
  have fits : Config.default.Reservable := by decide
  have runs : (Data.iterateAll [sampleGreeting]).fault? ⟨{}, blankData .builtin ()⟩ = none := by decide +kernel
  obtain ⟨answer, ran⟩ := exists_ok_of_fault? runs
  obtain ⟨_, scene, built, created, _, _, _, _, _, later⟩ := ((create_checks_and_ticks_as_planned_anew .builtin
    [sampleEcho, sampleGreeting] .default ⟨{}, ()⟩).2.2.2 valid plannable fits).2 answer _ ran
  exact ⟨valid.1, valid.2, plannable, fits, scene, built, created, (later []).2⟩

/-- Pools that cannot be reserved are a fault, although the configuration is valid and there is no job. -/
theorem create_faults_beyond_capacity :
    let config : Config := { Config.default with entityCapacity := 768614336404564651 }
    config.timeScale.isFinite = true ∧ Single.zero.lt config.timeScale = true ∧
      (create .builtin ([] : List (Job Unit)) config).fault? ⟨{}, ()⟩ = some .capacityOverflow := by
  decide +kernel

end Scene

end EntityScene
