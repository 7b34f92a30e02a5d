import EntityScene.Proofs.Join

/-!
Acts that do not look at the journal. Two acts run alike on states that are related, whatever happened
to them before; in particular output slots answer the requests of a callback the same with any journal.
What such an act adds to the journal does not depend on the journal either.
-/

namespace EntityScene

open Act

variable {σ τ μ α β : Type}

/-- The states are related, and the journals are any. -/
def Act.Level (related : σ → τ → Prop) (first : Live σ) (second : Live τ) : Prop :=
  related first.core second.core

/-- A span does not matter to states that stay related whatever the recorders hold. -/
theorem Act.Similar.span {related : Live σ → Live τ → Prop} {first : Act σ α} {second : Act τ α}
    (similar : Similar related related first second)
    (records : ∀ {live live'} recorder recorder', related live live' →
      related { live with journal.recorder := recorder } { live' with journal.recorder := recorder' })
    (name : String) (arguments : List (String × Trace.Argument)) :
    Similar related related (Act.span name arguments first) (Act.span name arguments second) := by
  intro live live' kept
  have alike := similar _ _ (records (live.journal.recorder.enter live.journal.thread name).2
    (live'.journal.recorder.enter live'.journal.thread name).2 kept)
  unfold Act.span
  dsimp only
  revert alike
  generalize first _ = result
  generalize second _ = result'
  intro alike
  cases alike with
  | ok kept => exact .ok (records _ _ kept)
  | error kept => exact .error (records _ _ kept)

theorem Act.Similar.attempt {related : Live σ → Live τ → Prop} {first : Act σ α} {second : Act τ α}
    (similar : Similar related related first second) :
    Similar related related (Act.attempt first) (Act.attempt second) := by
  intro live live' kept
  have alike := similar live live' kept
  unfold Act.attempt
  generalize first live = result at alike
  generalize second live' = result' at alike
  cases alike with
  | ok kept => exact .ok kept
  | error kept => exact .ok kept

/-- The act does the same with any journal. -/
abbrev Act.Blind (act : Act σ α) : Prop := Similar (Level Eq) (Level Eq) act act

/-- Journals that are linked stay so when the same is noted in both. -/
structure Journal.Link (linked : Journal → Journal → Prop) : Prop where
  enter {first second : Journal} (entry : LedgerEntry) : linked first second →
    linked { first with ledger := entry :: first.ledger } { second with ledger := entry :: second.ledger }
  log {first second : Journal} (line : LogLine) : linked first second →
    linked { first with logs := line :: first.logs } { second with logs := line :: second.logs }

/-- The states are the same, and the journals are linked. -/
def Act.Even (linked : Journal → Journal → Prop) (first second : Live σ) : Prop :=
  first.core = second.core ∧ linked first.journal second.journal

/-- The act does the same with any journal, and notes the same in it. -/
def Act.Uniform (act : Act σ α) : Prop :=
  ∀ linked : Journal → Journal → Prop, Journal.Link linked → Similar (Even linked) (Even linked) act act

namespace Act.Uniform

theorem blind {act : Act σ α} (uniform : Uniform act) : Blind act := by
  intro live live' same
  have link : Journal.Link fun _ _ => True := ⟨fun _ _ => trivial, fun _ _ => trivial⟩
  exact (uniform _ link live live' ⟨same, trivial⟩).mono (fun _ _ kept => kept.1) fun _ _ kept => kept.1

theorem pure (answer : α) : Uniform (Pure.pure answer : Act σ α) := fun _ _ => Similar.pure answer

theorem bind {act : Act σ α} {next : α → Act σ β} (first : Uniform act)
    (rest : ∀ answer, Uniform (next answer)) : Uniform (act >>= next) :=
  fun linked link => (first linked link).bind fun answer => rest answer linked link

theorem bind_core {next : σ → Act σ β} (goes : ∀ state, Uniform (next state)) : Uniform (core >>= next) := by
  refine fun linked link => Similar.bind_core fun live live' even => ?_
  rw [← even.1]
  exact goes live.core linked link live live' even

theorem fault (cause : Fault) : Uniform (Act.fault cause : Act σ α) :=
  fun _ _ => Similar.fault cause fun _ _ even => even

theorem ofExcept (outcome : Except Fault α) : Uniform (Act.ofExcept outcome : Act σ α) :=
  fun _ _ => Similar.ofExcept outcome fun _ _ even => even

theorem update (change : σ → σ) : Uniform (Act.update change) :=
  fun _ _ => Similar.update fun _ _ even => ⟨congrArg change even.1, even.2⟩

theorem setCore (state : σ) : Uniform (Act.setCore state) := fun _ _ _ _ even => .ok ⟨rfl, even.2⟩

theorem enter (resource : ResourceId) (event : Lifecycle) : Uniform (Act.enter resource event : Act σ Unit) :=
  fun _ link _ _ even => .ok ⟨even.1, link.enter ⟨resource, event⟩ even.2⟩

theorem log (level : LogLevel) (text : String) : Uniform (Act.log level text : Act σ Unit) :=
  fun _ link _ _ even => .ok ⟨even.1, link.log ⟨level, text⟩ even.2⟩

theorem attempt {act : Act σ α} (uniform : Uniform act) : Uniform (Act.attempt act) :=
  fun linked link => (uniform linked link).attempt

theorem ensuring {act : Act σ α} {clean : Act σ Unit} (uniform : Uniform act) (cleans : Uniform clean) :
    Uniform (Act.ensuring act clean) := by
  intro linked link live live' even
  have first := uniform linked link live live' even
  unfold Act.ensuring
  generalize act live = result at first
  generalize act live' = result' at first
  cases first with
  | @ok _ after after' kept =>
      have second := cleans linked link after after' kept
      dsimp only
      generalize clean after = ending at second
      generalize clean after' = ending' at second
      cases second with
      | ok kept => exact .ok kept
      | error kept => exact .error kept
  | @error _ after after' kept =>
      have second := cleans linked link after after' kept
      dsimp only
      generalize clean after = ending at second
      generalize clean after' = ending' at second
      cases second with
      | ok kept => exact .error kept
      | error kept => exact .error kept

theorem focus {part : σ → τ} {put : τ → σ → σ} {act : Act τ α} (uniform : Uniform act) :
    Uniform (Act.focus part put act) := by
  intro linked link live live' even
  have inner := uniform linked link ⟨live.journal, part live.core⟩ ⟨live'.journal, part live'.core⟩
    ⟨congrArg part even.1, even.2⟩
  have puts (after after' : Live τ) (kept : Even linked after after') :
      Even linked ⟨after.journal, put after.core live.core⟩ ⟨after'.journal, put after'.core live'.core⟩ :=
    ⟨by dsimp only; rw [even.1, kept.1], kept.2⟩
  exact inner.focus puts puts

end Act.Uniform

namespace Descriptor

theorem fresh_uniform (descriptor : Descriptor) : Uniform (descriptor.fresh : Act σ Value) :=
  Uniform.bind (Uniform.enter _ _) fun _ => Uniform.pure _

theorem check_uniform (descriptor : Descriptor) (value : Value) :
    Uniform (descriptor.check value : Act σ Unit) := by
  unfold check
  split
  · exact Uniform.pure ()
  · exact Uniform.fault _

theorem copy_uniform (descriptor : Descriptor) (value : Value) : Uniform (descriptor.copy value : Act σ Value) := by
  unfold copy
  split
  · split
    · exact Uniform.bind (Uniform.enter _ _) fun _ => Uniform.fault _
    · exact Uniform.bind (Uniform.enter _ _) fun _ => Uniform.pure _
  · exact Uniform.fault _

theorem destroy_uniform (descriptor : Descriptor) (value : Value) :
    Uniform (descriptor.destroy value : Act σ Unit) := by
  unfold destroy
  split
  · split
    · exact Uniform.bind (Uniform.enter _ _) fun _ => Uniform.fault _
    · exact Uniform.enter _ _
  · exact Uniform.fault _

theorem destroyAll_uniform (descriptor : Descriptor) (values : List Value) :
    Uniform (descriptor.destroyAll values : Act σ Unit) := by
  induction values with
  | nil => exact Uniform.pure ()
  | cons value rest ih =>
      unfold destroyAll
      exact Uniform.bind (descriptor.destroy_uniform value) fun _ => ih

end Descriptor

namespace Outputs

theorem set_uniform (position : Nat) (value : Value) : Uniform (Outputs.set position value) := by
  unfold Outputs.set
  refine Uniform.bind_core fun outputs => Uniform.bind (Uniform.ofExcept _) fun slot => ?_
  dsimp only
  split
  · exact Uniform.update _
  · exact Uniform.fault _

theorem getOrInit_uniform (position : Nat) (type : ElementType) : Uniform (Outputs.getOrInit position type) := by
  unfold Outputs.getOrInit
  refine Uniform.bind_core fun outputs => Uniform.bind (Uniform.ofExcept _) fun slot => ?_
  have settles (stale : Bool) (value : Value) : Uniform (do
      putSlot position { slot with buffer := some value, written := true }
      if value.type = type then
        if stale then
          putSlot position { slot with buffer := some type.default, written := true }
          pure type.default
        else pure value
      else Act.fault (.initMismatch position slot.descriptor.element.name type)) := by
    refine Uniform.bind (Uniform.update _) fun _ => ?_
    split
    · split
      · exact Uniform.bind (Uniform.update _) fun _ => Uniform.pure _
      · exact Uniform.pure _
    · exact Uniform.fault _
  refine Uniform.bind (Uniform.update _) fun _ => ?_
  dsimp only
  split
  · exact Uniform.bind (Uniform.pure _) (settles _)
  · exact Uniform.bind slot.descriptor.fresh_uniform (settles _)

theorem takeWritten_uniform (position : Nat) : Uniform (Outputs.takeWritten position) := by
  unfold Outputs.takeWritten
  refine Uniform.bind_core fun outputs => Uniform.bind (Uniform.ofExcept _) fun slot => ?_
  split
  · exact Uniform.bind (Uniform.update _) fun _ => Uniform.pure _
  · exact Uniform.pure _

theorem release_uniform (outputs : Outputs) : Uniform outputs.release := by
  induction outputs with
  | nil => exact Uniform.setCore _
  | cons slot rest ih =>
      unfold Outputs.release
      exact Uniform.bind (slot.descriptor.destroyAll_uniform _) fun _ => ih

end Outputs

theorem Request.perform_uniform (request : Request) : Uniform request.perform := by
  cases request with
  | set position value => exact Outputs.set_uniform position value
  | getOrInit position type => exact Outputs.getOrInit_uniform position type
  | get position type => exact Uniform.bind_core fun _ => Uniform.ofExcept _
  | describe position =>
      exact Uniform.bind_core fun _ => Uniform.bind (Uniform.ofExcept _) fun _ => Uniform.pure _
  | count => exact Uniform.bind_core fun _ => Uniform.pure _

/-- A dialogue goes the same with any journal. -/
theorem Dialogue.run_uniform (dialogue : Dialogue α) : Uniform dialogue.run := by
  induction dialogue with
  | done result => exact Uniform.pure result
  | ask request next ih => exact Uniform.bind request.perform_uniform.attempt fun answer => ih answer

theorem Indexed.emplace_uniform (descriptor : Descriptor) (identity : Identity) (value : Value) :
    Uniform (Indexed.emplace descriptor identity value) := by
  have stores : Uniform (do
      let copy ← descriptor.copy value
      Act.update fun table : Indexed => table.putSlot identity.index.toNat (some (identity, copy))) :=
    Uniform.bind (descriptor.copy_uniform value) fun _ => Uniform.update _
  unfold Indexed.emplace
  refine Uniform.bind (descriptor.check_uniform value) fun _ => Uniform.bind (Uniform.update _) fun _ => ?_
  refine Uniform.bind_core fun table => ?_
  split
  · exact Uniform.bind (Uniform.update _) fun _ => Uniform.bind (descriptor.destroy_uniform _) fun _ => stores
  · exact Uniform.bind (Uniform.update _) fun _ => stores

theorem Scalar.emplace_uniform (descriptor : Descriptor) (value : Value) :
    Uniform (Scalar.emplace descriptor value) := by
  have stores : Uniform (do let copy ← descriptor.copy value; Act.setCore (some copy) : Act Scalar Unit) :=
    Uniform.bind (descriptor.copy_uniform value) fun _ => Uniform.setCore _
  unfold Scalar.emplace
  refine Uniform.bind (descriptor.check_uniform value) fun _ => Uniform.bind_core fun scalar => ?_
  cases scalar with
  | none => exact stores
  | some previous =>
      exact Uniform.bind (Uniform.setCore _) fun _ => Uniform.bind (descriptor.destroy_uniform _) fun _ => stores

theorem Events.clear_uniform (descriptor : Descriptor) : Uniform (Events.clear descriptor) :=
  Uniform.bind_core fun _ => Uniform.bind (Uniform.setCore _) fun _ => descriptor.destroyAll_uniform _

theorem Storage.onScalar_uniform {act : Descriptor → Act Scalar α}
    (uniform : ∀ descriptor, Uniform (act descriptor)) : Uniform (Storage.onScalar act) := by
  unfold Storage.onScalar
  refine Uniform.bind_core fun storage => ?_
  split
  · exact Uniform.focus (uniform _)
  · exact Uniform.fault _

theorem Storage.onIndexed_uniform {act : Descriptor → Act Indexed α}
    (uniform : ∀ descriptor, Uniform (act descriptor)) : Uniform (Storage.onIndexed act) := by
  unfold Storage.onIndexed
  refine Uniform.bind_core fun storage => ?_
  split
  · exact Uniform.focus (uniform _)
  · exact Uniform.fault _

theorem Storage.endTick_uniform : Uniform Storage.endTick := by
  unfold Storage.endTick
  refine Uniform.bind_core fun storage => ?_
  split
  · exact Uniform.focus (Events.clear_uniform _)
  · exact Uniform.pure ()

theorem Storage.release_uniform : Uniform Storage.release := by
  unfold Storage.release
  refine Uniform.bind_core fun storage => ?_
  split
  · exact Uniform.focus (Uniform.bind_core fun _ => Uniform.bind (Uniform.setCore _) fun _ =>
      storage.descriptor.destroyAll_uniform _)
  · exact Uniform.focus (Uniform.bind_core fun _ => Uniform.bind (Uniform.setCore _) fun _ =>
      storage.descriptor.destroyAll_uniform _)
  · exact Uniform.focus (Events.clear_uniform _)
  · exact Uniform.pure ()

namespace Data

theorem onStorageAt_uniform (resource : ResourceId) {act : Act Storage α} (uniform : Uniform act) :
    Uniform (onStorageAt resource act : Act (Data μ) α) :=
  Uniform.bind_core fun _ => Uniform.bind (Uniform.ofExcept _) fun _ => Uniform.focus uniform

theorem onStorage_uniform (resource : ResourceId) {act : Act Storage α} (uniform : Uniform act) :
    Uniform (onStorage resource act : Act (Data μ) α) :=
  Uniform.bind_core fun _ => Uniform.bind (Uniform.ofExcept _) fun _ => Uniform.focus uniform

theorem endTick_uniform : Uniform (endTick : Act (Data μ) Unit) := by
  have each (resources : List ResourceId) : Uniform (onStorages Storage.endTick resources : Act (Data μ) Unit) := by
    induction resources with
    | nil => exact Uniform.pure ()
    | cons resource rest ih =>
        unfold onStorages
        exact Uniform.bind (onStorageAt_uniform resource Storage.endTick_uniform) fun _ => ih
  exact Uniform.bind_core fun data => each _

/-- The data are released the same with any journal. -/
theorem release_uniform : Uniform (release : Act (Data μ) Unit) := by
  have each (resources : List ResourceId) : Uniform (releaseEach resources : Act (Data μ) Unit) := by
    induction resources with
    | nil => exact Uniform.pure ()
    | cons resource rest ih => exact Uniform.ensuring (onStorageAt_uniform resource Storage.release_uniform) ih
  exact Uniform.bind_core fun data => each _

theorem despawnAll_uniform (targets : List Identity) : Uniform (despawnAll targets : Act (Data μ) Nat) := by
  induction targets with
  | nil => exact Uniform.pure 0
  | cons entity rest ih =>
      unfold despawnAll
      refine Uniform.bind_core fun data => Uniform.bind (Uniform.update _) fun _ => ?_
      exact Uniform.bind ih fun _ => Uniform.pure _

theorem furnish_uniform (entity : Identity) (blueprint : Blueprint) :
    Uniform (furnish entity blueprint : Act (Data μ) Unit) := by
  induction blueprint with
  | nil => exact Uniform.pure ()
  | cons component rest ih =>
      unfold furnish
      refine Uniform.bind_core fun data => Uniform.bind (Uniform.ofExcept _) fun descriptor => ?_
      split
      · refine Uniform.bind (onStorageAt_uniform _ ?_) fun _ => ih
        exact Storage.onIndexed_uniform fun _ => Indexed.emplace_uniform _ _ _
      · exact Uniform.fault _

theorem spawnAll_uniform (blueprints : List Blueprint) : Uniform (spawnAll blueprints : Act (Data μ) Unit) := by
  induction blueprints with
  | nil => exact Uniform.pure ()
  | cons blueprint rest ih =>
      unfold spawnAll
      refine Uniform.bind ?_ fun entity => Uniform.bind (furnish_uniform entity blueprint) fun _ => ih
      exact Uniform.bind_core fun _ => Uniform.bind (Uniform.ofExcept _) fun _ =>
        Uniform.bind (Uniform.update _) fun _ => Uniform.pure _

/-- The waiting requests are applied the same with any journal. -/
theorem applyCommands_uniform : Uniform (applyCommands : Act (Data μ) Unit) := by
  unfold applyCommands
  refine Uniform.bind_core fun data => Uniform.bind (Uniform.update _) fun _ => ?_
  refine Uniform.bind (despawnAll_uniform _) fun count => Uniform.bind (spawnAll_uniform _) fun _ => ?_
  dsimp only
  split
  · exact Uniform.bind_core fun _ => Uniform.log _ _
  · exact Uniform.pure ()

end Data

namespace Join

theorem call_uniform (callback : Callback μ) (inputs : Inputs) : Uniform (call callback inputs) := by
  unfold call
  refine Uniform.bind_core fun frame => Uniform.bind (Uniform.focus (Dialogue.run_uniform _)) fun answer => ?_
  exact Uniform.bind (Uniform.update _) fun _ => Uniform.ofExcept _

theorem commitSpawns_uniform (position : Nat) (requests : SpawnList) :
    Uniform (commitSpawns position requests : Act (Frame μ) Unit) := by
  unfold commitSpawns
  refine Uniform.bind_core fun frame => Uniform.bind_core fun frame => ?_
  refine Uniform.bind (Uniform.ofExcept _) fun slot => Uniform.bind (Uniform.focus (Uniform.update _)) fun _ => ?_
  refine Uniform.bind (Uniform.update _) fun _ => ?_
  split
  · exact Uniform.log _ _
  · exact Uniform.pure ()

theorem releaseOutputs_uniform : Uniform (releaseOutputs : Act (Frame μ) Unit) :=
  Uniform.bind_core fun _ => Uniform.focus (Outputs.release_uniform _)

section Links

variable {linked : Journal → Journal → Prop} (link : Journal.Link linked)

include link

theorem even_commits (declared : List (ResourceId × Kind)) :
    AlikeCommits declared (Even linked : Live (Frame μ) → Live (Frame μ) → Prop) where
  takes position := Uniform.focus (Outputs.takeWritten_uniform position) linked link
  spawns position requests _ := commitSpawns_uniform position requests linked link
  scalar value _ := Uniform.focus (Data.onStorageAt_uniform _ (Storage.onScalar_uniform fun descriptor =>
    Scalar.emplace_uniform descriptor value)) linked link
  indexed identity value _ _ := Uniform.focus (Data.onStorageAt_uniform _ (Storage.onIndexed_uniform fun descriptor =>
    Indexed.emplace_uniform descriptor identity value)) linked link

variable (records : ∀ {first second : Journal} recorder recorder', linked first second →
  linked { first with recorder } { second with recorder := recorder' })

include records

theorem even_lockstep (plan : Plan) :
    Lockstep plan (Even linked : Live (Data μ) → Live (Data μ) → Prop) (Even linked) where
  reads {live _} even := by
    rw [← even.1]
    exact ⟨rfl, rfl, rfl, fun _ _ => rfl, fun _ _ => rfl⟩
  enters outputs even := ⟨congrArg (Frame.mk · outputs) even.1, even.2⟩
  exits even := ⟨congrArg Frame.data even.1, even.2⟩
  spans similar := similar.span (fun _ _ even => ⟨even.1, records _ _ even.2⟩) _ _
  releases := releaseOutputs_uniform linked link

/-- A join does the same with any journal and notes the same in it, spans aside. -/
theorem run_even (plan : Plan) (callback : Callback μ) :
    Similar (Even linked) (Even linked) (run plan callback) (run plan callback) :=
  (even_lockstep link records plan).traverse
    ((even_lockstep link records plan).visit (fun inputs => call_uniform callback inputs linked link)
      (even_commits link plan.outputs))

end Links

end Join

end EntityScene
