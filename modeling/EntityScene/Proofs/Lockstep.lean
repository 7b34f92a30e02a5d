import EntityScene.Join
import EntityScene.Proofs.Simulation

/-!
Joins in lockstep. Two runs of a plan find the same matches and read the same inputs as long as the
storages that the plan reads are the same. If their calls and the steps of their commits run alike too,
then so do the whole runs.
-/

namespace EntityScene.Join

open Act

variable {μ ν σ τ π : Type}

theorem sweep_similar {related faulted : Live σ → Live τ → Prop} {lets body : π → Act σ Bool}
    {lets' body' : π → Act τ Bool} {passes : List π}
    (guards : ∀ pass, Similar related faulted (lets pass) (lets' pass))
    (bodies : ∀ pass, Similar related faulted (body pass) (body' pass)) :
    Similar related faulted (sweep lets body passes) (sweep lets' body' passes) := by
  induction passes with
  | nil => exact .pure true
  | cons pass rest ih =>
      unfold sweep
      refine (guards pass).bind fun admitted => ?_
      split
      · refine (bodies pass).bind fun going => ?_
        split
        · exact ih
        · exact .pure false
      · exact ih

/-- The commit of one output: one that cannot be written stops it, any other one is committed if it was
written. -/
def commitSlot (place : Match) (position : Nat) (output : ResourceId × Kind) : Act (Frame μ) Unit :=
  if output.2 = .event ∨ output.2 = .entityDespawnList then
    Act.fault (.outputUnsupported output.1 output.2)
  else
    onOutputs (Outputs.takeWritten position) >>= fun written =>
      match written with
      | some value => commitValue place position output.1 output.2 value
      | none => pure ()

/-- A commit is made output by output. -/
theorem commit_cons (place : Match) (position : Nat) (output : ResourceId × Kind)
    (rest : List (ResourceId × Kind)) :
    (commit place position (output :: rest) : Act (Frame μ) Unit) =
      commitSlot place position output >>= fun _ => commit place (position + 1) rest := by
  conv => lhs; unfold commit
  unfold commitSlot
  have decided : (decide (output.2 = .event) || decide (output.2 = .entityDespawnList)) = true ↔
      output.2 = .event ∨ output.2 = .entityDespawnList := by
    rw [Bool.or_eq_true, decide_eq_true_eq, decide_eq_true_eq]
  by_cases refused : output.2 = .event ∨ output.2 = .entityDespawnList
  · rewrite [if_pos refused, if_pos (decided.mpr refused)]
    rfl
  · rewrite [if_neg refused, if_neg (mt decided.mp refused), bind_assoc]
    refine bind_congr fun written => ?_
    cases written <;> rfl

section Reads

variable {plan : Plan} {first : Data μ} {second : Data ν}

theorem holdsAll_congr (kind : Kind) (identity : Identity) {inputs : List (ResourceId × Kind)}
    (same : ∀ input ∈ inputs, second.storageAt input.1 = first.storageAt input.1) :
    holdsAll second kind identity inputs = holdsAll first kind identity inputs := by
  induction inputs with
  | nil => rfl
  | cons input rest ih =>
      unfold holdsAll
      rw [same input List.mem_cons_self, ih fun other member => same other (List.mem_cons_of_mem _ member)]

theorem lacksScalar_congr {inputs : List (ResourceId × Kind)}
    (same : ∀ input ∈ inputs, second.storageAt input.1 = first.storageAt input.1) :
    lacksScalar second inputs = lacksScalar first inputs := by
  induction inputs with
  | nil => rfl
  | cons input rest ih =>
      unfold lacksScalar
      rw [same input List.mem_cons_self, ih fun other member => same other (List.mem_cons_of_mem _ member)]

theorem resolveInput_congr (place : Match) {input : ResourceId × Kind}
    (same : second.storageAt input.1 = first.storageAt input.1) :
    resolveInput second place input = resolveInput first place input := by
  obtain ⟨resource, kind⟩ := input
  unfold resolveInput lookUp
  dsimp only at same ⊢
  rw [same]

theorem resolveInputs_congr (place : Match) {inputs : List (ResourceId × Kind)}
    (same : ∀ input ∈ inputs, second.storageAt input.1 = first.storageAt input.1) :
    inputs.mapM (resolveInput second place) = inputs.mapM (resolveInput first place) := by
  induction inputs with
  | nil => rfl
  | cons input rest ih =>
      rw [List.mapM_cons, List.mapM_cons, resolveInput_congr place (same input List.mem_cons_self),
        ih fun other member => same other (List.mem_cons_of_mem _ member)]

/-- The data are the same to a run of the plan: the registry, the pools and the storages that it reads. -/
structure SameReads (plan : Plan) (first : Data μ) (second : Data ν) : Prop where
  registry : second.registry = first.registry
  entities : second.entities = first.entities
  viewports : second.viewports = first.viewports
  inputs : ∀ input ∈ plan.inputs, second.storageAt input.1 = first.storageAt input.1
  event : ∀ resource, plan.event = some resource → second.storageAt resource = first.storageAt resource

namespace SameReads

theorem admits (same : SameReads plan first second) (kind : Kind) (pass : Option Identity) :
    admits second plan kind pass = admits first plan kind pass := by
  cases pass with
  | none => rfl
  | some identity => exact holdsAll_congr kind identity same.inputs

theorem resolve (same : SameReads plan first second) (place : Match) :
    resolve second plan place = resolve first plan place := by
  unfold Join.resolve
  rw [resolveInputs_congr place same.inputs]

theorem eventPasses (same : SameReads plan first second) : eventPasses second plan = eventPasses first plan := by
  unfold Join.eventPasses
  cases event : plan.event with
  | none => rfl
  | some resource =>
      dsimp only
      rw [same.event resource event]

end SameReads

end Reads

/-- The steps by which declared outputs are committed run alike. -/
structure AlikeCommits (declared : List (ResourceId × Kind)) (near : Live (Frame μ) → Live (Frame ν) → Prop) :
    Prop where
  takes (position : Nat) : Similar near near (onOutputs (Outputs.takeWritten position))
    (onOutputs (Outputs.takeWritten position))
  spawns {resource : ResourceId} (position : Nat) (requests : SpawnList) :
    (resource, .entitySpawnList) ∈ declared →
      Similar near near (commitSpawns position requests) (commitSpawns position requests)
  scalar {resource : ResourceId} (value : Value) : (resource, .sceneComponent) ∈ declared →
    Similar near near
      (onData (Data.onStorageAt resource (Storage.onScalar fun descriptor => Scalar.emplace descriptor value)))
      (onData (Data.onStorageAt resource (Storage.onScalar fun descriptor => Scalar.emplace descriptor value)))
  indexed {resource : ResourceId} {kind : Kind} (identity : Identity) (value : Value) :
    (resource, kind) ∈ declared → kind.isIndexed = true →
      Similar near near
        (onData (Data.onStorageAt resource (Storage.onIndexed fun descriptor =>
          Indexed.emplace descriptor identity value)))
        (onData (Data.onStorageAt resource (Storage.onIndexed fun descriptor =>
          Indexed.emplace descriptor identity value)))

namespace AlikeCommits

variable {declared : List (ResourceId × Kind)} {near : Live (Frame μ) → Live (Frame ν) → Prop}

theorem commitValue (alike : AlikeCommits declared near) (place : Match) (position : Nat)
    {resource : ResourceId} {kind : Kind} (member : (resource, kind) ∈ declared) (value : Value) :
    Similar near near (commitValue place position resource kind value)
      (commitValue place position resource kind value) := by
  have refused (cause : Fault) : Similar near near (Act.fault cause : Act (Frame μ) Unit)
      (Act.fault cause) := Similar.fault cause fun _ _ kept => kept
  obtain ⟨event, viewport, entity⟩ := place
  cases kind with
  | sceneComponent => exact alike.scalar value member
  | viewportComponent =>
      cases viewport with
      | some identity => exact alike.indexed identity value member rfl
      | none => exact refused _
  | entityComponent =>
      cases entity with
      | some identity => exact alike.indexed identity value member rfl
      | none => exact refused _
  | entitySpawnList =>
      unfold Join.commitValue
      dsimp only
      split
      · exact alike.spawns position _ member
      · exact refused _
  | event | entityDespawnList => exact refused _

theorem commitSlot (alike : AlikeCommits declared near) (place : Match) (position : Nat)
    {output : ResourceId × Kind} (member : output ∈ declared) :
    Similar near near (commitSlot place position output) (commitSlot place position output) := by
  unfold Join.commitSlot
  split
  · exact Similar.fault _ fun _ _ kept => kept
  · refine (alike.takes position).bind fun written => ?_
    cases written with
    | none => exact Similar.pure ()
    | some value => exact alike.commitValue place position member value

theorem commit (alike : AlikeCommits declared near) (place : Match) (position : Nat)
    {outputs : List (ResourceId × Kind)} (member : ∀ output ∈ outputs, output ∈ declared) :
    Similar near near (commit place position outputs) (commit place position outputs) := by
  induction outputs generalizing position with
  | nil => exact Similar.pure ()
  | cons output rest ih =>
      rw [commit_cons, commit_cons]
      refine (alike.commitSlot place position (member output List.mem_cons_self)).bind fun _ => ?_
      exact ih _ fun other later => member other (List.mem_cons_of_mem _ later)

end AlikeCommits

/-- What relates the data and the frames of two runs of the plan in lockstep. -/
structure Lockstep (plan : Plan) (level : Live (Data μ) → Live (Data ν) → Prop)
    (near : Live (Frame μ) → Live (Frame ν) → Prop) : Prop where
  reads {live : Live (Data μ)} {live' : Live (Data ν)} :
    level live live' → SameReads plan live.core live'.core
  enters {live : Live (Data μ)} {live' : Live (Data ν)} (outputs : Outputs) :
    level live live' → near ⟨live.journal, ⟨live.core, outputs⟩⟩ ⟨live'.journal, ⟨live'.core, outputs⟩⟩
  exits {live : Live (Frame μ)} {live' : Live (Frame ν)} :
    near live live' → level ⟨live.journal, live.core.data⟩ ⟨live'.journal, live'.core.data⟩
  spans {first : Act (Data μ) Bool} {second : Act (Data ν) Bool} : Similar level level first second →
    Similar level level (Act.span "iterate" [] first) (Act.span "iterate" [] second)
  releases : Similar near near releaseOutputs releaseOutputs

namespace Lockstep

variable {plan : Plan} {level : Live (Data μ) → Live (Data ν) → Prop}
  {near : Live (Frame μ) → Live (Frame ν) → Prop}

theorem letsIn (lockstep : Lockstep plan level near) (kind : Kind) (pass : Option Identity) :
    Similar near near (letsIn plan kind pass) (letsIn plan kind pass) := by
  refine Similar.bind_core fun live live' kept => ?_
  have same : SameReads plan live.core.data live'.core.data := lockstep.reads (lockstep.exits kept)
  rw [same.admits]
  exact Similar.ofExcept _ (fun _ _ kept => kept) live live' kept

/-- Visits that run alike make walks that do. -/
theorem walk (lockstep : Lockstep plan level near) {visit : Match → Act (Frame μ) Bool}
    {visit' : Match → Act (Frame ν) Bool} (visits : ∀ place, Similar near near (visit place) (visit' place)) :
    Similar near near (walk plan visit) (walk plan visit') := by
  unfold Join.walk
  refine Similar.bind_core fun live live' kept => ?_
  have same : SameReads plan live.core.data live'.core.data := lockstep.reads (lockstep.exits kept)
  rw [same.eventPasses, same.viewports, same.entities]
  refine Similar.bind (Similar.ofExcept _ fun _ _ kept => kept) (fun events => ?_) live live' kept
  exact sweep_similar (fun _ => Similar.pure true) fun event =>
    sweep_similar (lockstep.letsIn _) fun viewport =>
      sweep_similar (lockstep.letsIn _) fun entity => visits ⟨event, viewport, entity⟩

/-- Visits that run alike make traversals that do. -/
theorem traverse (lockstep : Lockstep plan level near) {visit : Match → Act (Frame μ) Bool}
    {visit' : Match → Act (Frame ν) Bool} (visits : ∀ place, Similar near near (visit place) (visit' place)) :
    Similar level level (traverse plan visit) (traverse plan visit') := by
  unfold Join.traverse
  refine lockstep.spans (Similar.bind_core fun live live' kept => ?_)
  have same := lockstep.reads kept
  rw [lacksScalar_congr same.inputs, same.registry]
  refine Similar.bind (Similar.ofExcept _ fun _ _ kept => kept) (fun lacking => ?_) live live' kept
  split
  · exact Similar.pure true
  · refine Similar.bind (Similar.ofExcept _ fun _ _ kept => kept) fun outputs live live' kept => ?_
    have inside := (lockstep.walk visits).ensuring lockstep.releases _ _ (lockstep.enters outputs kept)
    exact inside.focus (fun _ _ kept => lockstep.exits kept) fun _ _ kept => lockstep.exits kept

theorem visit (lockstep : Lockstep plan level near) {callback : Callback μ} {callback' : Callback ν}
    (calls : ∀ inputs, Similar near near (call callback inputs) (call callback' inputs))
    (commits : AlikeCommits plan.outputs near) (place : Match) :
    Similar near near (visit plan callback place) (visit plan callback' place) := by
  unfold Join.visit
  refine Similar.bind_core fun live live' kept => ?_
  have same : SameReads plan live.core.data live'.core.data := lockstep.reads (lockstep.exits kept)
  rw [same.resolve]
  refine Similar.bind (Similar.ofExcept _ fun _ _ kept => kept) (fun inputs => ?_) live live' kept
  refine (calls inputs).bind fun going => ?_
  split
  · exact (commits.commit place 0 fun _ member => member).bind fun _ => Similar.pure true
  · exact Similar.pure false

end Lockstep

end EntityScene.Join
