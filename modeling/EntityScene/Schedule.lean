import EntityScene.Config
import EntityScene.Join

/-!
Jobs and their schedules. A schedule holds the jobs of one kind with their plans, which are made when
the jobs are added, and runs them in order.
-/

namespace EntityScene

structure Job (μ : Type) where
  name : String
  kind : JobKind
  inputs : List ResourceId
  outputs : List ResourceId
  callback : Callback μ

/-- Why a scene cannot be built or a join cannot be made. -/
inductive SceneError where
  | config (cause : ConfigError)
  | registry (cause : RegistryError)
  | plan (cause : PlanError)
  | invalidJob (job : String) (cause : PlanError)

/-- The part that an error comes from, and the name of its cause. -/
def SceneError.name : SceneError → String
  | .config cause => "Config." ++ cause.name
  | .registry cause => "Registry." ++ cause.name
  | .plan cause => "Query." ++ cause.name
  | .invalidJob _ cause => "InvalidJob." ++ cause.name

def SceneError.message? : SceneError → Option String
  | .config cause => cause.message?
  | .registry cause => some cause.message
  | .plan cause => some cause.message
  | .invalidJob job cause => some (s!"job `{job}` has an invalid declaration: " ++ cause.message)

/-- A job with its plan. -/
structure PlannedJob (μ : Type) where
  job : Job μ
  plan : Plan

structure Schedule (μ : Type) where
  kind : JobKind
  jobs : List (PlannedJob μ)

variable {μ : Type}

def Job.planned (registry : Registry) (job : Job μ) : Except SceneError (PlannedJob μ) :=
  match Plan.make registry job.inputs job.outputs with
  | .ok plan => .ok ⟨job, plan⟩
  | .error cause => .error (.invalidJob job.name cause)

namespace Schedule

def empty (kind : JobKind) : Schedule μ := ⟨kind, []⟩

/-- Adds a job at the end. A job of the other kind is a fault. -/
def add (schedule : Schedule μ) (registry : Registry) (job : Job μ) :
    Except Fault (Except SceneError (Schedule μ)) :=
  if job.kind = schedule.kind then
    .ok do
      let planned ← job.planned registry
      pure { schedule with jobs := schedule.jobs ++ [planned] }
  else .error (.wrongSchedule job.name job.kind schedule.kind)

/-- Adds the jobs one after the other. A job that is refused is left out, and the answers say how each
one fared. -/
def addAll (schedule : Schedule μ) (registry : Registry) :
    List (Job μ) → List (Except Fault (Except SceneError Unit)) × Schedule μ
  | [] => ([], schedule)
  | job :: rest =>
    match schedule.add registry job with
    | .ok (.ok schedule) =>
      let (answers, schedule) := schedule.addAll registry rest
      (.ok (.ok ()) :: answers, schedule)
    | .ok (.error cause) =>
      let (answers, schedule) := schedule.addAll registry rest
      (.ok (.error cause) :: answers, schedule)
    | .error cause =>
      let (answers, schedule) := schedule.addAll registry rest
      (.error cause :: answers, schedule)

/-- The setup jobs and the update jobs, each in their order. The first job of the list that cannot be
planned is reported, whatever its kind. -/
def partition (registry : Registry) (jobs : List (Job μ)) :
    Except SceneError (Schedule μ × Schedule μ) := do
  let planned ← jobs.mapM (Job.planned registry)
  pure
    (⟨.setup, planned.filter fun planned => planned.job.kind = .setup⟩,
     ⟨.update, planned.filter fun planned => planned.job.kind = .update⟩)

def size (schedule : Schedule μ) : Nat := schedule.jobs.length

def isEmpty (schedule : Schedule μ) : Bool := schedule.jobs.isEmpty

def jobNames (schedule : Schedule μ) : List String := schedule.jobs.map fun planned => planned.job.name

/-- Runs one job. -/
def runJob (kind : JobKind) (planned : PlannedJob μ) : Act (Data μ) Unit :=
  Act.span planned.job.name [] do
    let completed ← Join.run planned.plan planned.job.callback
    unless completed do
      let job := planned.job.name
      Act.log .debug (kind.text ++ s!" job `{job}` aborted")

def runJobs (kind : JobKind) : List (PlannedJob μ) → Act (Data μ) Unit
  | [] => pure ()
  | planned :: rest => do
    runJob kind planned
    runJobs kind rest

/-- Runs every job once, in order. -/
def run (schedule : Schedule μ) : Act (Data μ) Unit := runJobs schedule.kind schedule.jobs

/-- Runs the schedule again and again, past faults, and says how each run ended. -/
def runTimes (schedule : Schedule μ) : Nat → Act (Data μ) (List (Except Fault Unit))
  | 0 => pure []
  | count + 1 => do
    let outcome ← Act.attempt schedule.run
    let outcomes ← schedule.runTimes count
    pure (outcome :: outcomes)

end Schedule

end EntityScene
