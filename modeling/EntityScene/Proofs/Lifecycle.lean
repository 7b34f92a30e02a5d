import EntityScene.Proofs.Buffers
import EntityScene.Proofs.Joinings

/-!
The lifecycle of values over the runs of a scene. Between two operations a storage holds the copies that
have not been destroyed; each output slot that received a buffer in a join destroys one value more, and
initializes at most one; and when the scene is released every copy has been destroyed.
-/

namespace EntityScene

open Act

variable {μ α : Type}

namespace Joining

/-- The requests of the calls with their answers. -/
def exchanges (joining : Joining μ) : List Exchange := joining.calls.flatMap Join.Call.exchanges

/-- The output slots of the resource that received a buffer in the join. -/
def buffered (joining : Joining μ) (resource : ResourceId) : Finset Nat :=
  Join.openings (fun _ => true) (joining.plan.outputs.map Prod.fst) resource joining.exchanges

/-- The output slots of the resource that received their buffer because a value was asked for. -/
def asked (joining : Joining μ) (resource : ResourceId) : Finset Nat :=
  Join.openings Exchange.asks (joining.plan.outputs.map Prod.fst) resource joining.exchanges

theorem asked_subset (joining : Joining μ) (resource : ResourceId) :
    joining.asked resource ⊆ joining.buffered resource := by
  apply Finset.monotone_filter_right
  rintro position - ⟨own, asks⟩
  cases first : Join.opening? joining.exchanges position with
  | none =>
      rw [first] at asks
      cases asks
  | some exchange => exact ⟨own, rfl⟩

/-- The state that the join leaves. -/
def finish (joining : Joining μ) : Live (Data μ) :=
  (Join.run joining.plan joining.callback).leaves joining.start

/-- The entries of the join initialize one value for each slot that received its buffer by asking. -/
def Initializes (joining : Joining μ) (resource : ResourceId) : Prop :=
  ∃ entries, joining.finish.journal.ledger = entries ++ joining.start.journal.ledger ∧
    (Ledger.initialized resource entries).card = (joining.asked resource).card

end Joining

/-- What the joins have in all. -/
def Joining.total (size : Joining μ → Nat) (made : List (Joining μ)) : Nat :=
  made.foldl (fun count joining => count + size joining) 0

theorem Joining.total_concat (size : Joining μ → Nat) (made : List (Joining μ)) (joining : Joining μ) :
    total size (made ++ [joining]) = total size made + size joining := by
  unfold total
  rw [List.foldl_concat]

/-- The number of output slots that received a buffer. -/
def slotsBuffered (made : List (Joining μ)) (resource : ResourceId) : Nat :=
  Joining.total (fun joining => (joining.buffered resource).card) made

/-- The number of output slots that received their buffer by asking. -/
def slotsAsked (made : List (Joining μ)) (resource : ResourceId) : Nat :=
  Joining.total (fun joining => (joining.asked resource).card) made

/-- The entries since the base: the copies of the resource are those that were destroyed and those that are
held, and beside the copies one value was destroyed for each slot of the joins that received a buffer. -/
def Kept (resource : ResourceId) (base : List LedgerEntry) (made : List (Joining μ)) (ledger : List LedgerEntry)
    (held : Multiset Value) : Prop :=
  ∃ (entries : List LedgerEntry) (ended discarded : Multiset Value), ledger = entries ++ base ∧
    Ledger.copied resource entries = ended + held ∧ Ledger.destroyed resource entries = ended + discarded ∧
    discarded.card = slotsBuffered made resource ∧
    (Ledger.initialized resource entries).card = slotsAsked made resource

/-- The entries since the base: all copies of the resource were destroyed, and beside them one value for each
slot of the joins that received a buffer. -/
def Drained (resource : ResourceId) (base : List LedgerEntry) (made : List (Joining μ))
    (ledger : List LedgerEntry) : Prop :=
  ∃ (entries : List LedgerEntry) (discarded : Multiset Value), ledger = entries ++ base ∧
    Ledger.destroyed resource entries = Ledger.copied resource entries + discarded ∧
    discarded.card = slotsBuffered made resource ∧
    (Ledger.initialized resource entries).card = slotsAsked made resource

/-- The data are sound, and the ledger since the base is balanced with them and with the slots of the
joins. -/
structure Accounts (registry : Registry) (resource : ResourceId) (base : List LedgerEntry)
    (made : List (Joining μ)) (ledger : List LedgerEntry) (data : Data μ) : Prop where
  audited : ∃ discarded, discarded.card = slotsBuffered made resource ∧
    data.Audited registry ⟨resource, base, 0, discarded, slotsAsked made resource⟩ ledger
  initializes : ∀ joining ∈ made, joining.Initializes resource

namespace Accounts

variable {registry : Registry} {resource : ResourceId} {base ledger : List LedgerEntry}
  {made : List (Joining μ)} {data : Data μ}

theorem kept (accounts : Accounts registry resource base made ledger data) :
    Kept resource base made ledger (data.held resource) := by
  obtain ⟨discarded, counted, _, _, entries, ended, same, copied, destroyed, initialized⟩ := accounts.audited
  exact ⟨entries, ended, discarded, same, (add_zero _).symm.trans copied, destroyed, counted, initialized⟩

/-- Releasing the data destroys what is held. -/
theorem release (numbered : registry.Numbered) {live : Live (Data μ)}
    (accounts : Accounts registry resource base made live.journal.ledger live.core) :
    Ends Data.release live fun outcome after =>
      outcome = .ok () ∧ Drained resource base made after.journal.ledger := by
  obtain ⟨discarded, counted, audited⟩ := accounts.audited
  refine (Data.release_balanced numbered audited).mono ?_
  rintro _ after ⟨rfl, entries, ended, same, copied, destroyed, initialized⟩
  refine ⟨rfl, entries, discarded, same, ?_, counted, initialized⟩
  rw [add_zero, add_zero] at copied
  rw [destroyed, copied]

/-- New data have nothing in their accounts. -/
theorem create (releasing : registry.Releasing) (resource : ResourceId) (base : List LedgerEntry)
    {entityCapacity viewportCapacity : Nat} {memory : μ}
    (made : Data.create registry entityCapacity viewportCapacity memory = .ok data) :
    Accounts registry resource base [] base data := by
  obtain ⟨same, sound⟩ := Data.create_sound made
  refine ⟨⟨0, rfl, ⟨sound, by rw [same]⟩, releasing, ?_⟩, by rintro _ ⟨⟩⟩
  rw [Data.held_create made]
  exact Audit.begun_balanced resource base 0

/-- What keeps the ledger balanced keeps the accounts. -/
theorem carries {act : Act (Data μ) α} (kept : ∀ audit, Carries (Data.Audited registry audit) act) :
    Carries (Accounts registry resource base made) act := by
  rintro live ⟨⟨discarded, counted, audited⟩, initializes⟩
  exact (kept _ live audited).mono fun _ _ audited' => ⟨⟨discarded, counted, audited'⟩, initializes⟩

/-- A join adds its slots to the accounts, however it ends. -/
theorem carried (numbered : registry.Numbered) (resource : ResourceId) (base : List LedgerEntry) :
    Story.Carried registry (Accounts registry resource base : Story μ) where
  run {reads writes plan} callback {made live} accepted accounts := by
    obtain ⟨⟨discarded, counted, audited⟩, initializes⟩ := accounts
    have begun : live.core.Audited registry (.begun resource live.journal.ledger (live.core.held resource))
        live.journal.ledger := ⟨audited.based, audited.releasing, Audit.begun_balanced _ _ _⟩
    have own : Joining.Initializes ⟨plan, callback, live⟩ resource := by
      obtain ⟨_, _, _, _, entries, _, same, _, _, initialized⟩ :=
        ends_leaves.mp (Join.run_audited numbered accepted callback begun)
      refine ⟨entries, same, initialized.trans ?_⟩
      exact Nat.zero_add _
    refine (Join.run_audited numbered accepted callback audited).mono ?_
    rintro _ after ⟨others, slots, audited'⟩
    refine ⟨⟨others + discarded, ?_, ?_⟩, ?_⟩
    · rw [slotsBuffered, Joining.total_concat, Multiset.card_add, counted, add_comm]
      exact congrArg (slotsBuffered made resource + ·) slots
    · rw [slotsAsked, Joining.total_concat]
      exact audited'
    · intro joining member
      rcases List.mem_append.mp member with earlier | last
      · exact initializes joining earlier
      · cases List.mem_singleton.mp last
        exact own

/-- The accounts speak of the storages only. -/
theorem spare (accounts : Accounts registry resource base made ledger data) {after : Data μ}
    (based : after.SoundOver registry) (same : after.storages = data.storages) :
    Accounts registry resource base made ledger after := by
  obtain ⟨⟨discarded, counted, audited⟩, initializes⟩ := accounts
  refine ⟨⟨discarded, counted, based, audited.releasing, ?_⟩, initializes⟩
  unfold Data.held Data.cells
  rw [same]
  exact audited.balanced

end Accounts

namespace Scene

section Steps

variable {registry : Registry} {resource : ResourceId} {base : List LedgerEntry} {made : List (Joining μ)}

theorem write_accounts (numbered : registry.Numbered) {live : Live (Scene μ)}
    (accounts : Accounts registry resource base made live.journal.ledger live.core.data)
    (target : ResourceId) (change : Storage.Write) :
    Ends (onData (Data.onStorage target change.perform)) live fun _ after =>
      Accounts registry resource base made after.journal.ledger after.core.data := by
  rw [ends_onData]
  exact Accounts.carries (fun audit => Data.onStorage_carries numbered fun rest descriptor =>
    Storage.write_carries audit rest descriptor change) ⟨live.journal, live.core.data⟩ accounts

theorem emplaceIndexed_accounts (numbered : registry.Numbered) {live : Live (Scene μ)}
    (accounts : Accounts registry resource base made live.journal.ledger live.core.data)
    (kind : Kind) (target : ResourceId) (identity : Identity) (value : Value) :
    Ends (emplaceIndexed kind target identity value) live fun _ after =>
      Accounts registry resource base made after.journal.ledger after.core.data := by
  rcases emplaceIndexed_or kind target identity value live with ⟨cause, refused⟩ | written
  · exact (ends_of_error refused).mpr accounts
  · rw [ends_congr written]
    exact write_accounts numbered accounts target _

theorem tick_accounts (numbered : registry.Numbered) {live : Live (Scene μ)}
    (sturdy : Sturdy registry live.core)
    (accounts : Accounts registry resource base made live.journal.ledger live.core.data) (delta : Single) :
    Ends (tick delta) live fun _ after =>
      Accounts registry resource base (made ++ tickJoinings delta live) after.journal.ledger
        after.core.data := by
  have tells : Tells registry live (fun later => Accounts registry resource base (made ++ later))
      (fun _ later => Accounts registry resource base (made ++ later)) :=
    { carried := (Accounts.carried numbered resource base).shift made
      applies := fun journal same => by
        rw [List.append_nil]
        refine (Accounts.carries (fun audit => Data.applyCommands_carries numbered) ⟨journal, live.core.data⟩
          (by rw [same]; exact accounts)).mono ?_
        intro outcome _ kept
        cases outcome <;> exact kept
      scalars := fun target value {live} accounts =>
        Accounts.carries (fun audit => Data.onStorage_carries numbered fun rest descriptor =>
          Storage.emplaceScalar_carries audit rest descriptor value) live accounts
      breaks := fun _ accounts => accounts
      closes := fun {later live} accounts =>
        Accounts.carries (fun audit => Data.endTick_carries numbered) live accounts }
  exact (tells.tick sturdy.accepted delta).mono fun _ _ ended => ended.2

/-- An operation adds its joins to the accounts, however it ends. -/
theorem perform_accounts (numbered : registry.Numbered) {live : Live (Scene μ)}
    (sturdy : Sturdy registry live.core)
    (accounts : Accounts registry resource base made live.journal.ledger live.core.data)
    (operation : Operation μ) :
    Ends operation.perform live fun _ after =>
      Accounts registry resource base (made ++ operation.joinings live) after.journal.ledger
        after.core.data := by
  have alone {act : Act (Scene μ) Unit} (none : operation.joinings live = [])
      (ends : Ends act live fun _ after =>
        Accounts registry resource base made after.journal.ledger after.core.data) :
      Ends act live fun _ after =>
        Accounts registry resource base (made ++ operation.joinings live) after.journal.ledger
          after.core.data := by
    rw [none, List.append_nil]
    exact ends
  cases operation with
  | tick delta => exact tick_accounts numbered sturdy accounts delta
  | iterate inputs outputs callback =>
      exact (iterate_tells (Accounts.carried numbered resource base) sturdy.based.registry accounts).mono
        fun _ _ ended => ended.2
  | emplaceScalar | sendEvent | clearEvents | write =>
      refine alone rfl ?_
      rw [perform_change rfl]
      exact write_accounts numbered accounts _ _
  | emplaceEntityComponent target identity value =>
      exact alone rfl (emplaceIndexed_accounts numbered accounts _ target identity value)
  | emplaceViewportComponent target identity value =>
      exact alone rfl (emplaceIndexed_accounts numbered accounts _ target identity value)
  | applyCommands =>
      refine alone rfl (ends_onData.mpr ?_)
      exact Accounts.carries (fun audit => Data.applyCommands_carries numbered) ⟨live.journal, live.core.data⟩
        accounts
  | queueSpawn | queueDespawn | addViewport | removeViewport | remember =>
      refine alone rfl ?_
      refine ((perform_spares rfl live).and (Sturdy.perform _ live sturdy)).mono ?_
      rintro _ after ⟨⟨storages, ledger⟩, sturdy'⟩
      rw [ledger]
      exact accounts.spare sturdy'.based storages

/-- The accounts of a run: those of the setup jobs, with the joins of every step added. -/
theorem runAll_accounts (numbered : registry.Numbered) (releasing : registry.Releasing) {jobs : List (Job μ)}
    {config : Config} {start built : Live μ} {scene : Scene μ}
    (created : create registry jobs config start = .ok (.ok scene) built) (operations : List (Operation μ))
    (resource : ResourceId) :
    Accounts registry resource start.journal.ledger
      (setupJoinings registry jobs config start ++
        (stepsOf operations ⟨built.journal, scene⟩).flatMap Step.joinings)
      (runAll operations ⟨built.journal, scene⟩).journal.ledger
      (runAll operations ⟨built.journal, scene⟩).core.data := by
  have sturdy := create_steps_sturdy created operations
  refine runAll_induct (fun done live =>
    Accounts registry resource start.journal.ledger
      (setupJoinings registry jobs config start ++ done.flatMap Step.joinings)
      live.journal.ledger live.core.data) ?_ ?_
  · rw [List.flatMap_nil, List.append_nil]
    exact (create_tells (Accounts.carried numbered resource start.journal.ledger)
      (fun _ made => Accounts.create releasing resource start.journal.ledger made) created).1
  · intro done step member accounts
    rw [List.flatMap_append, List.flatMap_singleton, ← List.append_assoc]
    exact ends_leaves.mp (perform_accounts numbered (sturdy step member) accounts step.operation)

/-- Where no value refuses to be destroyed: at every point of a run the storage of a resource holds the
copies that were made of its values and not yet destroyed. Releasing the scene then destroys the rest
without a fault, so that every copy has been destroyed once; beside the copies one value was destroyed for
each output slot that received a buffer in a join, and a join initialized at most one value for each of
these slots. If a fault in a setup job keeps the scene from being built, all copies have been destroyed as
well. -/
theorem copies_destroyed_exactly_once {resources : List (String × Kind × Element)} {registry : Registry}
    (declared : Registry.builtin.declare resources = .ok registry) (releasing : registry.Releasing)
    (jobs : List (Job μ)) (config : Config) (start : Live μ) (resource : ResourceId) :
    (∀ scene built, create registry jobs config start = .ok (.ok scene) built →
      ∀ operations : List (Operation μ),
        let joinings := setupJoinings registry jobs config start ++
          (stepsOf operations ⟨built.journal, scene⟩).flatMap Step.joinings
        let final := runAll operations ⟨built.journal, scene⟩
        Kept resource start.journal.ledger joinings final.journal.ledger (final.core.data.held resource) ∧
        (∀ joining ∈ joinings,
          joining.Initializes resource ∧ joining.asked resource ⊆ joining.buffered resource) ∧
        ∃ dropped, release final = .ok () dropped ∧
          Drained resource start.journal.ledger joinings dropped.journal.ledger) ∧
    ∀ cause left, create registry jobs config start = .error cause left →
      Drained resource start.journal.ledger (setupJoinings registry jobs config start)
        left.journal.ledger := by
  have numbered : registry.Numbered := Registry.declare_numbered Registry.builtin_numbered declared
  refine ⟨fun scene built created operations => ?_, fun cause left faulted => ?_⟩
  · intro joinings final
    have accounts : Accounts registry resource start.journal.ledger joinings final.journal.ledger
        final.core.data := runAll_accounts numbered releasing created operations resource
    refine ⟨accounts.kept, fun joining member => ?_, ?_⟩
    · exact ⟨accounts.initializes joining member, joining.asked_subset resource⟩
    · apply eq_ok_of_ends
      unfold release
      rw [ends_onData]
      exact @Accounts.release μ registry resource start.journal.ledger joinings numbered
        ⟨final.journal, final.core.data⟩ accounts
  · refine create_faults (Drained resource start.journal.ledger)
      (Accounts.carried numbered resource start.journal.ledger)
      (fun _ made => Accounts.create releasing resource start.journal.ledger made) ?_ ?_ faulted
    · exact ⟨[], 0, rfl, rfl, rfl, rfl⟩
    · intro made live accounts
      exact (accounts.release numbered).mono fun _ _ ended => ended.2

/-- Clicks, and a mood that cannot be 13. -/
def sampleResources : List (String × Kind × Element) :=
  [("click", .event, .plain .uint32), ("mood", .sceneComponent, .fragile 13)]

def sampleRegistry : Registry where
  descriptors := Registry.builtin.descriptors ++
    [⟨4, "click", .event, .plain .uint32⟩, ⟨5, "mood", .sceneComponent, .fragile 13⟩]

/-- Asks for a mood and answers with another; the answer to a second click cannot be copied. -/
def sampleAnswers : Callback Unit := fun inputs => do
  let _ ← (Request.getOrInit 0 .uint32).send
  (Request.set 0 (.uint32 (if inputs.place.event = some 1 then 13 else 7))).send
  pure true

def sampleAnswering : PlannedJob Unit where
  job := ⟨"answer", .update, [4], [5], sampleAnswers⟩
  plan := ⟨[(4, .event)], [(5, .sceneComponent)], some 4, false, false⟩

/-- A new scene whose ticks answer clicks. -/
def sampleParlor : Scene Unit :=
  ⟨⟨sampleRegistry, sampleRegistry.descriptors.map Storage.ofDescriptor, .empty, .empty, .empty, ()⟩,
    ⟨.update, [sampleAnswering]⟩, .default, .zero⟩

/-- Sets a mood that cannot be copied. -/
def sampleHasty : Job Unit where
  name := "hasty"
  kind := .setup
  inputs := []
  outputs := [5]
  callback _ := do
    (Request.set 0 (.uint32 13)).send
    pure true

/-- A tick that completes, one that ends in a fault, a write that is declined and one that is not. -/
def sampleMoods : List (Operation Unit) :=
  [.sendEvent 4 (.uint32 1), .tick .zero, .sendEvent 4 (.uint32 1), .sendEvent 4 (.uint32 2), .tick .zero,
   .emplaceScalar 5 (.uint32 13), .emplaceScalar 5 (.uint32 3)]

theorem sampleParlor_declared : Registry.builtin.declare sampleResources = .ok sampleRegistry := rfl

theorem sampleParlor_releasing : sampleRegistry.Releasing := by
  have each : ∀ descriptor ∈ sampleRegistry.descriptors, descriptor.element.Releasing := by
    simp [sampleRegistry, Registry.builtin, Element.Releasing, Element.plain, Element.fragile]
  exact fun resource descriptor found => each descriptor (List.mem_of_getElem? found)

theorem sampleParlor_created : create sampleRegistry [sampleAnswering.job] .default ⟨{}, ()⟩ =
    .ok (.ok sampleParlor) ((create sampleRegistry [sampleAnswering.job] .default).leaves ⟨{}, ()⟩) := rfl

theorem copies_destroyed_exactly_once_sample :
    let built := (create sampleRegistry [sampleAnswering.job] .default).leaves ⟨{}, ()⟩
    let steps := stepsOf sampleMoods ⟨built.journal, sampleParlor⟩
    let joinings := setupJoinings sampleRegistry [sampleAnswering.job] .default ⟨{}, ()⟩ ++
      steps.flatMap Step.joinings
    let final := runAll sampleMoods ⟨built.journal, sampleParlor⟩
    let left := (create sampleRegistry [sampleHasty] .default).leaves ⟨{}, ()⟩
    Registry.builtin.declare sampleResources = .ok sampleRegistry ∧ sampleRegistry.Releasing ∧
      create sampleRegistry [sampleAnswering.job] .default ⟨{}, ()⟩ = .ok (.ok sampleParlor) built ∧
      steps.map Step.completes = [true, true, true, true, false, false, true] ∧
      slotsBuffered joinings 5 = 2 ∧ (final.core.data.held 5).card = 1 ∧
      Kept 5 [] joinings final.journal.ledger (final.core.data.held 5) ∧
      (∃ dropped, release final = .ok () dropped ∧ Drained 5 [] joinings dropped.journal.ledger) ∧
      slotsBuffered (setupJoinings sampleRegistry [sampleHasty] .default ⟨{}, ()⟩) 5 = 1 ∧
      Drained 5 [] (setupJoinings sampleRegistry [sampleHasty] .default ⟨{}, ()⟩) left.journal.ledger := by
  have faults : (create sampleRegistry [sampleHasty] .default).fault? ⟨{}, ()⟩ =
      some (.copyRefused "fragile value 13") := by decide +kernel
  obtain ⟨kept, _, dropped⟩ := (copies_destroyed_exactly_once sampleParlor_declared sampleParlor_releasing
    [sampleAnswering.job] .default ⟨{}, ()⟩ 5).1 _ _ sampleParlor_created sampleMoods
  have drained := (copies_destroyed_exactly_once sampleParlor_declared sampleParlor_releasing [sampleHasty]
    .default ⟨{}, ()⟩ 5).2 _ _ (eq_error_of_fault? faults)
  exact ⟨sampleParlor_declared, sampleParlor_releasing, sampleParlor_created, by decide +kernel,
    by decide +kernel, by decide +kernel, kept, dropped, by decide +kernel, drained⟩

end Steps

end Scene

end EntityScene
