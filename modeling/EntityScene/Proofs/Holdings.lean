import EntityScene.Proofs.Ledger
import EntityScene.Proofs.Registration
import EntityScene.Proofs.Run

/-!
What the data hold, against the ledger. Every act on the data keeps the ledger balanced with the storage of
a resource, also where it stops halfway, and releasing the data leaves nothing held.
-/

namespace EntityScene

open Act

variable {α : Type}

namespace Data

variable {μ : Type}

/-- The values in the storage of the resource. -/
def held (data : Data μ) (resource : ResourceId) : Multiset Value := (data.cells resource).held

/-- The data are sound over the registry, whose values are all destroyed when they are to be, and the ledger
is balanced with what the storage of the audited resource holds. -/
structure Audited (registry : Registry) (audit : Audit) (ledger : List LedgerEntry) (data : Data μ) : Prop where
  based : SoundOver registry data
  releasing : registry.Releasing
  balanced : audit.Balanced ledger (data.held audit.resource)

/-- New data hold nothing. -/
theorem held_create {registry : Registry} {entityCapacity viewportCapacity : Nat} {memory : μ} {data : Data μ}
    (made : create registry entityCapacity viewportCapacity memory = .ok data) (resource : ResourceId) :
    data.held resource = 0 := by
  obtain ⟨shape, empty⟩ := create_cells made resource
  rw [held, empty]
  cases shape <;> rfl

/-- Releasing storages one after the other, where none of them fails. -/
theorem releaseEach_tells (told : List ResourceId → Live (Data μ) → Prop) (done : List ResourceId)
    {resources : List ResourceId} {live : Live (Data μ)} (begun : told done live)
    (each : ∀ resource ∈ resources, ∀ {done : List ResourceId} {live : Live (Data μ)}, told done live →
      Ends (onStorageAt resource Storage.release) live fun outcome after =>
        outcome = .ok () ∧ told (done ++ [resource]) after) :
    Ends (releaseEach resources) live fun outcome after =>
      outcome = .ok () ∧ told (done ++ resources) after := by
  induction resources generalizing done live with
  | nil =>
      rw [List.append_nil]
      exact ⟨rfl, begun⟩
  | cons resource rest ih =>
      unfold releaseEach
      rw [ends_ensuring, List.append_cons]
      refine (each resource List.mem_cons_self begun).mono ?_
      rintro _ after ⟨rfl, goes⟩
      refine (ih _ goes fun other member => each other (List.mem_cons_of_mem _ member)).mono ?_
      rintro _ final ⟨rfl, goes'⟩
      exact ⟨rfl, goes'⟩

section Storages

variable {registry : Registry} (numbered : registry.Numbered) {audit : Audit} {resource : ResourceId}
  {act : Act Storage α}

include numbered

/-- What is held for the audited resource is the share of the storage acted on, and the rest. -/
theorem held_set {data : Data μ} {storage : Storage} {descriptor : Descriptor}
    (registered : registry.get? resource = some descriptor)
    (found : data.storages[resource]? = some storage) (audit : Audit) :
    ∃ rest, data.held audit.resource = audit.share descriptor storage.cells.held + rest ∧
      ∀ changed : Storage, held { data with storages := data.storages.set resource changed } audit.resource =
        audit.share descriptor changed.cells.held + rest := by
  have own := numbered resource descriptor registered
  have changes (changed : Storage) :
      cells { data with storages := data.storages.set resource changed } audit.resource =
        if audit.resource = resource then changed.cells else data.cells audit.resource :=
    cells_set found audit.resource
  unfold Audit.share held
  by_cases here : resource = audit.resource
  · refine ⟨0, ?_, fun changed => ?_⟩
    · unfold cells
      rw [if_pos (own.trans here), ← here, found, add_zero]
    · rw [changes, if_pos here.symm, if_pos (own.trans here), add_zero]
  · have apart : descriptor.id ≠ audit.resource := fun same => here (own.symm.trans same)
    refine ⟨(data.cells audit.resource).held, ?_, fun changed => ?_⟩
    · rw [if_neg apart, zero_add]
    · rw [changes, if_neg (Ne.symm here), if_neg apart, zero_add]

/-- An act on a storage that keeps the ledger balanced with that storage keeps it balanced with the data. -/
theorem onStorageAt_audited (post : Except Fault α → Storage → Prop) {live : Live (Data μ)} {storage : Storage}
    (found : live.core.storages[resource]? = some storage)
    (audited : Audited registry audit live.journal.ledger live.core)
    (each : ∀ {rest descriptor}, Storage.Audited audit rest descriptor live.journal.ledger storage →
      Ends act ⟨live.journal, storage⟩ fun outcome after =>
        Storage.Audited audit rest descriptor after.journal.ledger after.core ∧ post outcome after.core) :
    Ends (onStorageAt resource act) live fun outcome after =>
      Audited registry audit after.journal.ledger after.core ∧ ∃ changed, post outcome changed ∧
        after.core = { live.core with storages := live.core.storages.set resource changed } := by
  obtain ⟨descriptor, registered, serves⟩ := audited.based.exists_serves found
  obtain ⟨rest, before, changes⟩ := held_set numbered registered found audit
  have balanced := audited.balanced
  rw [before] at balanced
  rw [ends_onStorageAt found]
  refine (each ⟨serves, audited.releasing _ _ registered, balanced⟩).mono ?_
  rintro outcome after ⟨audited', ended⟩
  refine ⟨⟨⟨?_, audited.based.registry⟩, audited.releasing, ?_⟩, after.core, ended, rfl⟩
  · refine audited.based.sound.set fun own same => ?_
    rw [audited.based.registry, registered] at same
    cases same
    exact audited'.serves
  · rw [changes]
    exact audited'.balanced

theorem onStorageAt_carries (each : ∀ rest descriptor, Carries (Storage.Audited audit rest descriptor) act) :
    Carries (Audited registry audit : _ → Data μ → Prop) (onStorageAt resource act) := by
  intro live audited
  cases found : live.core.storages[resource]? with
  | none =>
      rw [ends_onStorageAt_missing found]
      exact audited
  | some storage =>
      refine (onStorageAt_audited numbered (fun _ _ => True) found audited fun audited => ?_).mono ?_
      · exact (each _ _ ⟨live.journal, storage⟩ audited).mono fun _ _ kept => ⟨kept, trivial⟩
      · exact fun _ _ ended => ended.1

theorem onStorage_carries (each : ∀ rest descriptor, Carries (Storage.Audited audit rest descriptor) act) :
    Carries (Audited registry audit : _ → Data μ → Prop) (onStorage resource act) := by
  intro live audited
  exact onStorage_ends (fun _ _ => audited) (onStorageAt_carries numbered each live audited)

omit numbered in
theorem despawnAll_carries (targets : List Identity) :
    Carries (Audited registry audit : _ → Data μ → Prop) (despawnAll targets) := by
  induction targets with
  | nil => exact .pure 0
  | cons entity rest ih =>
      intro live audited
      unfold despawnAll
      rw [ends_bind, ends_core, continues_ok]
      dsimp only
      rw [ends_bind, ends_update, continues_ok, ends_bind]
      refine Ends.mono (ih ⟨live.journal, _⟩
        ⟨(soundOver_despawns registry).remove entity audited.based, audited.releasing, audited.balanced⟩) ?_
      intro outcome after kept
      cases outcome <;> exact kept

theorem furnish_carries (entity : Identity) (blueprint : Blueprint) :
    Carries (Audited registry audit : _ → Data μ → Prop) (furnish entity blueprint) := by
  induction blueprint with
  | nil => exact .pure ()
  | cons component rest ih =>
      unfold furnish
      refine .bind_core fun data => .bind (.ofExcept _) fun descriptor => ?_
      split
      · exact .bind (onStorageAt_carries numbered fun rest descriptor =>
          Storage.emplaceIndexed_carries audit rest descriptor entity _) fun _ => ih
      · exact .fault _

theorem spawnAll_carries (blueprints : List Blueprint) :
    Carries (Audited registry audit : _ → Data μ → Prop) (spawnAll blueprints) := by
  induction blueprints with
  | nil => exact .pure ()
  | cons blueprint rest ih =>
      intro live audited
      unfold spawnAll newEntity
      rw [ends_bind, ends_bind, ends_core, continues_ok, ends_bind, ends_ofExcept]
      cases made : live.core.entities.emplace with
      | error cause => exact audited
      | ok answer =>
          obtain ⟨entity, entities⟩ := answer
          have grown := ((soundOver_spawns registry).emplace audited.based made).1
          rw [continues_ok, ends_bind, ends_update, continues_ok, ends_pure, continues_ok]
          exact Carries.bind (furnish_carries numbered entity blueprint) (fun _ => ih) ⟨live.journal, _⟩
            ⟨grown, audited.releasing, audited.balanced⟩

/-- Applying the waiting requests keeps the ledger balanced, also if it stops halfway. -/
theorem applyCommands_carries : Carries (Audited registry audit : _ → Data μ → Prop) applyCommands := by
  unfold applyCommands
  refine .bind_core fun data => .bind (.update fun _ _ kept => ?_) fun _ => ?_
  · exact ⟨(soundOver_despawns registry).commands .empty kept.based, kept.releasing, kept.balanced⟩
  · refine .bind (despawnAll_carries _) fun despawned => .bind (spawnAll_carries numbered _) fun _ => ?_
    dsimp only
    split
    · exact .bind_core fun _ => .log _ _
    · exact .pure ()

theorem endTick_carries : Carries (Audited registry audit : _ → Data μ → Prop) endTick := by
  unfold endTick
  refine .bind_core fun data => ?_
  generalize List.range data.storages.length = resources
  induction resources with
  | nil => exact .pure ()
  | cons resource rest ih =>
      exact .bind (onStorageAt_carries numbered (Storage.endTick_carries audit)) fun _ => ih

theorem onStorageAt_release {live : Live (Data μ)} (inside : resource < live.core.storages.length)
    (audited : Audited registry audit live.journal.ledger live.core) :
    Ends (onStorageAt resource Storage.release) live fun outcome after =>
      outcome = .ok () ∧ after.core.storages.length = live.core.storages.length ∧
        Audited registry audit after.journal.ledger after.core ∧ ∀ other, after.core.held other =
          if other = resource then 0 else live.core.held other := by
  have found := List.getElem?_eq_getElem inside
  refine (onStorageAt_audited numbered (fun outcome storage => outcome = .ok () ∧ storage.cells.held = 0)
    found audited fun audited => ?_).mono ?_
  · refine Ends.mono (@Storage.release_balanced audit _ _ ⟨live.journal, _⟩ audited) ?_
    rintro _ after ⟨rfl, emptied, audited'⟩
    exact ⟨audited', rfl, emptied⟩
  · rintro _ after ⟨audited', changed, ⟨rfl, emptied⟩, same⟩
    rw [same] at audited' ⊢
    refine ⟨rfl, List.length_set, audited', fun other => ?_⟩
    unfold held
    rw [cells_set found]
    split
    · exact emptied
    · rfl

/-- Releasing the data does not fault, and no storage holds anything afterwards. -/
theorem release_balanced {live : Live (Data μ)} (audited : Audited registry audit live.journal.ledger live.core) :
    Ends release live fun outcome after =>
      outcome = .ok () ∧ audit.Balanced after.journal.ledger 0 := by
  unfold release
  rw [ends_bind, ends_core, continues_ok]
  refine (releaseEach_tells (fun done now =>
    now.core.storages.length = live.core.storages.length ∧
      Audited registry audit now.journal.ledger now.core ∧ ∀ other ∈ done, now.core.held other = 0)
    [] ⟨rfl, audited, by rintro _ ⟨⟩⟩ ?_).mono ?_
  · rintro resource member done now ⟨same, audited, emptied⟩
    refine (onStorageAt_release numbered (by rw [same]; exact List.mem_range.mp member) audited).mono ?_
    rintro _ after ⟨rfl, same', audited', held⟩
    refine ⟨rfl, same'.trans same, audited', fun other among => ?_⟩
    rw [held]
    split
    · rfl
    · rename_i apart
      simp only [List.mem_append, List.mem_singleton, apart, or_false] at among
      exact emptied other among
  · rintro _ after ⟨rfl, same, audited', emptied⟩
    refine ⟨rfl, ?_⟩
    have nothing : after.core.held audit.resource = 0 := by
      by_cases inside : audit.resource < live.core.storages.length
      · exact emptied _ (List.mem_range.mpr inside)
      · have missing : after.core.storages[audit.resource]? = none :=
          List.getElem?_eq_none (by rw [same]; exact Nat.not_lt.mp inside)
        unfold held cells
        rw [missing]
        rfl
    rw [← nothing]
    exact audited'.balanced

end Storages

end Data

end EntityScene
