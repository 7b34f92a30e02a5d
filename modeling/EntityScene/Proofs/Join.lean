import EntityScene.Proofs.Data
import EntityScene.Proofs.Lockstep
import EntityScene.Proofs.Transcript

/-!
The loops of a join. What each visit keeps, the whole walk keeps; a run whose calls are recorded does
what the plain run does; and a sweep whose guards are known in advance visits a list of matches in turn.
-/

namespace EntityScene.Join

open Act

variable {μ σ τ π : Type}

section Sweeps

variable {lets body : π → Act σ Bool} {passes : List π}

theorem sweep_keeps {invariant : σ → Prop} (guards : ∀ pass ∈ passes, Keeps invariant (lets pass))
    (bodies : ∀ pass ∈ passes, Keeps invariant (body pass)) : Keeps invariant (sweep lets body passes) := by
  induction passes with
  | nil => exact .pure true
  | cons pass rest ih =>
      have others : Keeps invariant (sweep lets body rest) :=
        ih (fun other member => guards other (List.mem_cons_of_mem _ member))
          fun other member => bodies other (List.mem_cons_of_mem _ member)
      unfold sweep
      refine .bind (guards pass List.mem_cons_self) fun admitted => ?_
      split
      · refine .bind (bodies pass List.mem_cons_self) fun going => ?_
        split
        · exact others
        · exact .pure false
      · exact others

end Sweeps

section Turns

variable {visit : Match → Act σ Bool} {invariant : σ → Prop}

/-- Visits the matches in turn, as long as the visits go on. -/
def visitAll (visit : Match → Act σ Bool) : List Match → Act σ Bool
  | [] => pure true
  | place :: rest => do
    if ← visit place then visitAll visit rest else pure false

/-- The act keeps the invariant if it goes on. -/
def Advances (invariant : σ → Prop) (act : Act σ Bool) : Prop :=
  ∀ live, invariant live.core → Ends act live fun outcome after =>
    outcome = .ok true → invariant after.core

theorem visitAll_append (visit : Match → Act σ Bool) (first second : List Match) :
    visitAll visit (first ++ second) =
      (visitAll visit first >>= fun going => if going then visitAll visit second else pure false) := by
  induction first with
  | nil => rfl
  | cons place rest ih =>
      simp only [List.cons_append, visitAll, bind_assoc]
      congr 1
      funext going
      cases going with
      | true => exact ih
      | false => rfl

theorem visitAll_singleton (visit : Match → Act σ Bool) (place : Match) :
    visitAll visit [place] = visit place := by
  refine Eq.trans ?_ (bind_pure (visit place))
  unfold visitAll
  congr 1
  funext going
  cases going <;> rfl

theorem visitAll_advances {places : List Match}
    (visits : ∀ place ∈ places, Advances invariant (visit place)) :
    Advances invariant (visitAll visit places) := by
  induction places with
  | nil => exact fun live holds _ => holds
  | cons place rest ih =>
      intro live holds
      unfold visitAll
      rw [ends_bind]
      refine (visits place List.mem_cons_self live holds).mono ?_
      intro outcome after kept
      cases outcome with
      | error cause => exact fun never => nomatch never
      | ok going =>
          cases going with
          | true =>
              exact ih (fun other member => visits other (List.mem_cons_of_mem _ member)) after (kept rfl)
          | false => exact fun never => nomatch never

/-- A sweep whose guards are known in advance visits the matches of the passes that are let in. -/
theorem sweep_eq_visitAll {lets body : π → Act σ Bool} {passes : List π} {admitted : π → Bool}
    {places : π → List Match}
    (guards : ∀ pass ∈ passes, ∀ live, invariant live.core → lets pass live = .ok (admitted pass) live)
    (bodies : ∀ pass ∈ passes, admitted pass = true → ∀ live, invariant live.core →
      body pass live = visitAll visit (places pass) live)
    (visits : ∀ pass ∈ passes, admitted pass = true → ∀ place ∈ places pass,
      Advances invariant (visit place))
    (live : Live σ) (holds : invariant live.core) :
    sweep lets body passes live = visitAll visit ((passes.filter admitted).flatMap places) live := by
  induction passes generalizing live with
  | nil => rfl
  | cons pass rest ih =>
      have others := ih (fun other member => guards other (List.mem_cons_of_mem _ member))
        (fun other member => bodies other (List.mem_cons_of_mem _ member))
        (fun other member => visits other (List.mem_cons_of_mem _ member))
      have guarded := guards pass List.mem_cons_self live holds
      unfold sweep
      cases shown : admitted pass with
      | false =>
          rw [shown] at guarded
          simp only [bind, EStateM.bind, guarded, shown, Bool.false_eq_true, not_false_eq_true,
            List.filter_cons_of_neg, if_false]
          exact others live holds
      | true =>
          -- The guards of later passes are asked in the state that the visits of this pass leave.
          rw [shown] at guarded
          have advances := visitAll_advances (visits pass List.mem_cons_self shown) live holds
          have same := bodies pass List.mem_cons_self shown live holds
          simp only [List.filter_cons_of_pos shown, List.flatMap_cons, visitAll_append]
          simp only [bind, EStateM.bind, guarded, if_true, same]
          unfold Ends at advances
          cases ended : visitAll visit (places pass) live with
          | error cause after => rfl
          | ok going after =>
              rw [ended] at advances
              cases going with
              | false => rfl
              | true => exact others after (advances rfl)

end Turns

theorem ends_onData {α : Type} {act : Act (Data μ) α} {live : Live (Frame μ)}
    {post : Except Fault α → Live (Frame μ) → Prop} :
    Ends (onData act) live post ↔
      Ends act ⟨live.journal, live.core.data⟩ fun outcome after =>
        post outcome ⟨after.journal, ⟨after.core, live.core.outputs⟩⟩ := ends_focus

theorem ends_onOutputs {α : Type} {act : Act Outputs α} {live : Live (Frame μ)}
    {post : Except Fault α → Live (Frame μ) → Prop} :
    Ends (onOutputs act) live post ↔
      Ends act ⟨live.journal, live.core.outputs⟩ fun outcome after =>
        post outcome ⟨after.journal, ⟨live.core.data, after.core⟩⟩ := ends_focus

section Spawns

variable {live : Live (Frame μ)} {position : Nat}

/-- Requests move to the queue, and an empty list stays in the buffer. -/
theorem commitSpawns_found {slot : OutputSlot} (found : live.core.outputs.slot position = .ok slot)
    (requests : SpawnList) :
    ∃ journal, commitSpawns position requests live =
        .ok () ⟨journal,
          ⟨{ live.core.data with commands := (live.core.data.commands.appendSpawns requests).2.1 },
            List.set live.core.outputs position { slot with buffer := some (.spawnList []) }⟩⟩ ∧
      journal.ledger = live.journal.ledger := by
  unfold commitSpawns
  simp only [bind, EStateM.bind, Act.core, found]
  cases requests with
  | nil => exact ⟨_, rfl, rfl⟩
  | cons request rest => exact ⟨_, rfl, rfl⟩

theorem commitSpawns_missing {cause : Fault} (missing : live.core.outputs.slot position = .error cause)
    (requests : SpawnList) : commitSpawns position requests live = .error cause live := by
  unfold commitSpawns
  simp only [bind, EStateM.bind, Act.core, missing]
  rfl

end Spawns

section Recording

theorem onOutputs_projects {α : Type} (act : Act Outputs α) :
    Projects Frame.forget (onOutputs act : Act (Frame (μ × List Call)) α) (onOutputs act) :=
  Projects.focus (Projects.refl act) (fun _ => rfl) fun _ _ => rfl

theorem onStorageAt_projects {α : Type} (resource : ResourceId) (act : Act Storage α) :
    Projects Data.forget (Data.onStorageAt resource act : Act (Data (μ × List Call)) α)
      (Data.onStorageAt resource act) := by
  unfold Data.onStorageAt
  refine .bind_core fun data => ?_
  change Projects _ _ (Act.ofExcept (data.storageAt resource) >>= _)
  refine (Projects.ofExcept _).bind fun storage => ?_
  exact Projects.focus (Projects.refl act) (fun _ => rfl) fun _ _ => rfl

theorem onData_projects {α : Type} {first : Act (Data (μ × List Call)) α} {second : Act (Data μ) α}
    (projects : Projects Data.forget first second) : Projects Frame.forget (onData first) (onData second) :=
  Projects.focus projects (fun _ => rfl) fun _ _ => rfl

theorem commitSpawns_projects (position : Nat) (requests : SpawnList) :
    Projects Frame.forget (commitSpawns position requests : Act (Frame (μ × List Call)) Unit)
      (commitSpawns position requests) := by
  unfold commitSpawns
  refine .bind_core fun frame => ?_
  refine .bind_core fun frame' => ?_
  change Projects _ _ (Act.ofExcept (frame'.outputs.slot position) >>= _)
  refine (Projects.ofExcept _).bind fun slot => ?_
  refine (onOutputs_projects _).bind fun _ => ?_
  refine Similar.bind (?_ : Projects Frame.forget _ _) fun _ => ?_
  · exact .update fun _ => rfl
  cases requests with
  | nil => exact Similar.pure ()
  | cons request rest => exact Projects.log _ _

theorem projects_commits (declared : List (ResourceId × Kind)) :
    AlikeCommits declared (Image (Frame.forget : Frame (μ × List Call) → Frame μ)) where
  takes position := onOutputs_projects (Outputs.takeWritten position)
  spawns position requests _ := commitSpawns_projects position requests
  scalar _ _ := onData_projects (onStorageAt_projects _ _)
  indexed _ _ _ _ := onData_projects (onStorageAt_projects _ _)

theorem projects_lockstep (plan : Plan) :
    Lockstep plan (Image (Data.forget : Data (μ × List Call) → Data μ)) (Image Frame.forget) where
  reads := by
    rintro live _ rfl
    exact ⟨rfl, rfl, rfl, fun _ _ => rfl, fun _ _ => rfl⟩
  enters := by
    rintro live _ outputs rfl
    rfl
  exits := by
    rintro live _ rfl
    rfl
  spans := Projects.span
  releases := Projects.bind_core fun frame => onOutputs_projects (Outputs.release frame.outputs)

theorem visit_projects (plan : Plan) (callback : Callback μ) (place : Match) :
    Projects Frame.forget (visit plan callback.recorded place) (visit plan callback place) :=
  (projects_lockstep plan).visit (call_recorded callback) (projects_commits plan.outputs) place

/-- Visits that differ in the recorded calls only make runs that do. -/
theorem traverse_projects (plan : Plan) {visit : Match → Act (Frame (μ × List Call)) Bool}
    {visit' : Match → Act (Frame μ) Bool}
    (visits : ∀ place, Projects Frame.forget (visit place) (visit' place)) :
    Projects Data.forget (traverse plan visit) (traverse plan visit') :=
  (projects_lockstep plan).traverse visits

theorem run_recorded (plan : Plan) (callback : Callback μ) :
    Projects Data.forget (run plan callback.recorded) (run plan callback) :=
  traverse_projects plan (visit_projects plan callback)

/-- The calls that a run of the plan makes. -/
def calls (plan : Plan) (callback : Callback μ) (live : Live (Data μ)) : List Call :=
  ((run plan callback.recorded).leaves ⟨live.journal, live.core.recording⟩).core.memory.2

end Recording

section Invariants

variable {α : Type} {plan : Plan} {known : Kind → Identity → Prop} {invariant : Data μ → Prop}

/-- The identity of a match that a kind is attached to. -/
def identity? (place : Match) : Kind → Option Identity
  | .viewportComponent => place.viewport
  | .entityComponent => place.entity
  | _ => none

/-- What a commit of the plan may do to the data keeps the invariant. Components are written for known
identities only. -/
structure Commits (plan : Plan) (known : Kind → Identity → Prop) (invariant : Data μ → Prop) : Prop where
  spawns {data : Data μ} {resource : ResourceId} (requests : SpawnList) :
    (resource, .entitySpawnList) ∈ plan.outputs → invariant data →
      invariant { data with commands := (data.commands.appendSpawns requests).2.1 }
  scalar {resource : ResourceId} (value : Value) : (resource, .sceneComponent) ∈ plan.outputs →
    Keeps invariant (Data.onStorageAt resource (Storage.onScalar fun descriptor =>
      Scalar.emplace descriptor value))
  indexed {resource : ResourceId} {kind : Kind} {identity : Identity} (value : Value) :
    (resource, kind) ∈ plan.outputs → known kind identity →
    Keeps invariant (Data.onStorageAt resource (Storage.onIndexed fun descriptor =>
      Indexed.emplace descriptor identity value))

/-- The identities that are live under the invariant are known. -/
structure Meets (known : Kind → Identity → Prop) (invariant : Data μ → Prop) : Prop where
  viewports {data : Data μ} {identity : Identity} :
    invariant data → identity ∈ data.viewports.live → known .viewportComponent identity
  entities {data : Data μ} {identity : Identity} :
    invariant data → identity ∈ data.entities.live → known .entityComponent identity

/-- What a run of the plan may do to the data keeps the invariant. -/
structure Tolerates (plan : Plan) (known : Kind → Identity → Prop) (invariant : Data μ → Prop) : Prop
    extends Commits plan known invariant, Meets known invariant where
  memory {data : Data μ} (memory : μ) : invariant data → invariant { data with memory }

/-- The identities of the match are known. -/
def Known (known : Kind → Identity → Prop) (place : Match) : Prop :=
  ∀ kind identity, identity? place kind = some identity → known kind identity

theorem onOutputs_keeps (act : Act Outputs α) :
    Keeps (fun frame : Frame μ => invariant frame.data) (onOutputs act) := by
  intro live holds
  rw [ends_onOutputs]
  exact ends_leaves.mpr holds

theorem onData_keeps {act : Act (Data μ) α} (keeps : Keeps invariant act) :
    Keeps (fun frame : Frame μ => invariant frame.data) (onData act) := by
  intro live holds
  rw [ends_onData]
  exact keeps ⟨live.journal, live.core.data⟩ holds

namespace Commits

variable (commits : Commits plan known invariant)

include commits

theorem commitSpawns {resource : ResourceId} (declared : (resource, .entitySpawnList) ∈ plan.outputs)
    (position : Nat) (requests : SpawnList) :
    Keeps (fun frame : Frame μ => invariant frame.data) (commitSpawns position requests) := by
  intro live holds
  cases found : live.core.outputs.slot position with
  | error cause => exact (ends_of_error (commitSpawns_missing found requests)).mpr holds
  | ok slot =>
      obtain ⟨journal, ended, _⟩ := commitSpawns_found found requests
      exact (ends_of_ok ended).mpr (commits.spawns requests declared holds)

theorem commitValue {place : Match} (met : Known known place) (position : Nat) {resource : ResourceId}
    {kind : Kind} (declared : (resource, kind) ∈ plan.outputs) (value : Value) :
    Keeps (fun frame : Frame μ => invariant frame.data)
      (commitValue place position resource kind value) := by
  obtain ⟨event, viewport, entity⟩ := place
  cases kind with
  | sceneComponent => exact onData_keeps (commits.scalar value declared)
  | viewportComponent =>
      cases viewport with
      | some identity => exact onData_keeps (commits.indexed value declared (met .viewportComponent _ rfl))
      | none => exact .fault _
  | entityComponent =>
      cases entity with
      | some identity => exact onData_keeps (commits.indexed value declared (met .entityComponent _ rfl))
      | none => exact .fault _
  | entitySpawnList =>
      unfold Join.commitValue
      dsimp only
      split
      · exact commits.commitSpawns declared position _
      · exact .fault _
  | event | entityDespawnList => exact .fault _

theorem commitSlot {place : Match} (met : Known known place) (position : Nat) {output : ResourceId × Kind}
    (declared : output ∈ plan.outputs) :
    Keeps (fun frame : Frame μ => invariant frame.data) (commitSlot place position output) := by
  unfold Join.commitSlot
  split
  · exact .fault _
  · refine .bind (onOutputs_keeps _) fun written => ?_
    cases written with
    | none => exact .pure ()
    | some value => exact commits.commitValue met position declared value

theorem commit {place : Match} (met : Known known place) (position : Nat)
    {outputs : List (ResourceId × Kind)} (declared : ∀ output ∈ outputs, output ∈ plan.outputs) :
    Keeps (fun frame : Frame μ => invariant frame.data) (commit place position outputs) := by
  induction outputs generalizing position with
  | nil => exact .pure ()
  | cons output rest ih =>
      rw [commit_cons]
      refine .bind (commits.commitSlot met position (declared output List.mem_cons_self)) fun _ => ?_
      exact ih _ fun other member => declared other (List.mem_cons_of_mem _ member)

end Commits

/-- A commit does not touch what the callbacks remember. -/
theorem commit_memory (plan : Plan) (place : Match) (remembered : μ → Prop) :
    Keeps (fun frame : Frame μ => remembered frame.data.memory) (commit place 0 plan.outputs) := by
  have keeps (resource : ResourceId) (act : Act Storage Unit) :
      Keeps (fun data : Data μ => remembered data.memory) (Data.onStorageAt resource act) := by
    intro live holds
    refine (Data.onStorageAt_frame resource act live).mono ?_
    intro _ after same
    rw [same]
    exact holds
  have commits : Commits plan (fun _ _ => True) (fun data : Data μ => remembered data.memory) :=
    ⟨fun _ _ kept => kept, fun _ _ => keeps _ _, fun _ _ _ => keeps _ _⟩
  exact commits.commit (fun _ _ _ => trivial) 0 fun _ member => member

namespace Tolerates

variable (tolerates : Tolerates plan known invariant)

include tolerates

theorem call (callback : Callback μ) (inputs : Inputs) :
    Keeps (fun frame : Frame μ => invariant frame.data) (call callback inputs) := by
  unfold Join.call
  refine .bind_core fun frame _ => .bind (onOutputs_keeps _) fun answer => ?_
  exact .bind (.update fun other kept => tolerates.memory answer.2 kept) fun _ => .ofExcept _

theorem visit (callback : Callback μ) {place : Match} (met : Known known place) :
    Keeps (fun frame : Frame μ => invariant frame.data) (visit plan callback place) := by
  unfold Join.visit
  refine .bind_core fun frame _ => .bind (.ofExcept _) fun inputs => ?_
  refine .bind (tolerates.call callback inputs) fun going => ?_
  split
  · exact .bind (tolerates.commit met 0 fun _ member => member) fun _ => .pure true
  · exact .pure false

end Tolerates

theorem mem_identityPasses {involved : Bool} {pool : Pool} {identity : Identity}
    (member : some identity ∈ identityPasses involved pool) : identity ∈ pool.live := by
  unfold identityPasses at member
  split at member
  · simpa using member
  · simp at member

theorem letsIn_keeps {invariant : Frame μ → Prop} (plan : Plan) (kind : Kind) (pass : Option Identity) :
    Keeps invariant (letsIn plan kind pass) := .bind_core fun _ _ => .ofExcept _

/-- What the visits of known matches keep, a walk keeps. -/
theorem walk_keeps {visit : Match → Act (Frame μ) Bool} (meets : Meets known invariant)
    (visits : ∀ place, Known known place → Keeps (fun frame : Frame μ => invariant frame.data) (visit place)) :
    Keeps (fun frame : Frame μ => invariant frame.data) (walk plan visit) := by
  unfold walk
  refine .bind_core fun frame holds => .bind (.ofExcept _) fun events => ?_
  refine sweep_keeps (fun _ _ => .pure true) fun event _ => ?_
  refine sweep_keeps (fun _ _ => letsIn_keeps plan _ _) fun viewport viewportMember => ?_
  refine sweep_keeps (fun _ _ => letsIn_keeps plan _ _) fun entity entityMember => visits _ ?_
  intro kind identity here
  cases kind with
  | viewportComponent =>
      rw [show viewport = some identity from here] at viewportMember
      exact meets.viewports holds (mem_identityPasses viewportMember)
  | entityComponent =>
      rw [show entity = some identity from here] at entityMember
      exact meets.entities holds (mem_identityPasses entityMember)
  | sceneComponent | event | entitySpawnList | entityDespawnList => cases here

/-- What the visits of known matches keep, a traversal keeps, however it ends. -/
theorem traverse_keeps {visit : Match → Act (Frame μ) Bool} (meets : Meets known invariant)
    (visits : ∀ place, Known known place → Keeps (fun frame : Frame μ => invariant frame.data) (visit place)) :
    Keeps invariant (traverse plan visit) := by
  unfold traverse
  refine .span (.bind_core fun data _ => .bind (.ofExcept _) fun lacking => ?_)
  split
  · exact .pure true
  · refine .bind (.ofExcept _) fun outputs => ?_
    refine .focus (fun _ frame => invariant frame.data) (fun _ holds => holds) (fun _ _ => ?_)
      fun _ _ _ kept => kept
    exact .ensuring (walk_keeps meets visits) (.bind_core fun _ _ => onOutputs_keeps _)

theorem run_keeps (tolerates : Tolerates plan known invariant) (callback : Callback μ) :
    Keeps invariant (run plan callback) :=
  traverse_keeps tolerates.toMeets fun _ met => tolerates.visit callback met

end Invariants

end EntityScene.Join
