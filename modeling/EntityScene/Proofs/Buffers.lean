import EntityScene.Proofs.Holdings
import EntityScene.Proofs.Lockstep
import EntityScene.Proofs.Traversal
import EntityScene.Proofs.Writings

/-!
The output buffers of a join in the ledger. A slot receives a buffer from the first exchange that fills it
and keeps one until the join ends; the join initializes at most one value for it and destroys one.
-/

namespace EntityScene

open Act

variable {μ : Type}

/-- The exchange asks for a first value. -/
def Exchange.asks : Exchange → Bool
  | ⟨.getOrInit _ _, _⟩ => true
  | _ => false

namespace Join

/-- The exchange that first fills the output. -/
def opening? (told : List Exchange) (position : Nat) : Option Exchange :=
  told.find? fun exchange => exchange.target? = some position

/-- The outputs of the resource whose first filling is of the sort. -/
def openings (sort : Exchange → Bool) (resources : List ResourceId) (resource : ResourceId)
    (told : List Exchange) : Finset Nat :=
  {position ∈ Finset.range resources.length |
    resources[position]? = some resource ∧ (opening? told position).any sort = true}

section Openings

variable {told : List Exchange} {exchange : Exchange} {position : Nat} {sort : Exchange → Bool}
  {resources : List ResourceId} {resource : ResourceId}

theorem openings_nil (sort : Exchange → Bool) (resources : List ResourceId) (resource : ResourceId) :
    openings sort resources resource [] = ∅ := by
  simp [openings, opening?]

theorem opening?_concat (told : List Exchange) (exchange : Exchange) (position : Nat) :
    opening? (told ++ [exchange]) position =
      (opening? told position).or (if exchange.target? = some position then some exchange else none) := by
  unfold opening?
  rw [List.find?_append]
  by_cases aims : exchange.target? = some position <;> simp [aims]

/-- An exchange that fills nothing, fills what is filled already or is not of the sort opens nothing. -/
theorem openings_concat_same (nothing : ∀ position, exchange.target? = some position →
      (opening? told position).isSome = true ∨ resources[position]? ≠ some resource ∨ sort exchange = false) :
    openings sort resources resource (told ++ [exchange]) = openings sort resources resource told := by
  unfold openings
  apply Finset.filter_congr
  intro position _
  rw [opening?_concat]
  by_cases aims : exchange.target? = some position
  · rcases nothing position aims with filled | outside | other
    · obtain ⟨first, opened⟩ := Option.isSome_iff_exists.mp filled
      simp [opened]
    · simp only [outside, false_and]
    · cases opening? told position <;> simp [aims, other]
  · simp [aims]

/-- The first exchange that fills an output opens it. -/
theorem card_openings_concat (aims : exchange.target? = some position)
    (unopened : opening? told position = none) (own : resources[position]? = some resource)
    (sorted : sort exchange = true) :
    (openings sort resources resource (told ++ [exchange])).card =
      (openings sort resources resource told).card + 1 := by
  obtain ⟨inside, same⟩ := List.getElem?_eq_some_iff.mp own
  have grown : openings sort resources resource (told ++ [exchange]) =
      insert position (openings sort resources resource told) := by
    unfold openings
    ext other
    rw [Finset.mem_insert, Finset.mem_filter, Finset.mem_filter, opening?_concat]
    by_cases here : other = position
    · simp [here, inside, same, unopened, aims, sorted]
    · have apart : ¬exchange.target? = some other := by
        rw [aims, Option.some.injEq]
        exact fun same => here same.symm
      simp [here, apart]
  rw [grown, Finset.card_insert_of_notMem]
  simp [openings, unopened]

end Openings

section Described

variable {outputs : Outputs} {resources : List ResourceId} {position : Nat} {slot changed : OutputSlot}
  (described : outputs.map (fun slot => slot.descriptor.id) = resources)
  (found : outputs[position]? = some slot)

include described found

theorem described_own : resources[position]? = some slot.descriptor.id := by
  rw [← described, List.getElem?_map, found]
  rfl

/-- A slot may be put in place of one with its descriptor. -/
theorem described_set (same : changed.descriptor = slot.descriptor) :
    (List.set outputs position changed).map (fun slot => slot.descriptor.id) = resources := by
  obtain ⟨inside, own⟩ := List.getElem?_eq_some_iff.mp (described_own described found)
  rw [List.map_set, described, same, ← own, List.set_getElem_self]

end Described

/-- The slots after the exchanges of a join so far: each has a buffer if it was filled, and the ledger is
balanced with one initialization for each slot that was first filled by asking. -/
structure Filled (audit : Audit) (held : Multiset Value) (resources : List ResourceId) (told : List Exchange)
    (ledger : List LedgerEntry) (outputs : Outputs) : Prop where
  described : outputs.map (fun slot => slot.descriptor.id) = resources
  opened {position : Nat} {slot : OutputSlot} : outputs[position]? = some slot →
    slot.buffer.isSome = (opening? told position).isSome
  balanced : (audit.provide (openings Exchange.asks resources audit.resource told).card).Balanced ledger held

namespace Filled

variable {audit : Audit} {held : Multiset Value} {resources : List ResourceId} {told : List Exchange}
  {ledger : List LedgerEntry} {outputs : Outputs} {exchange : Exchange} {position : Nat} {slot changed : OutputSlot}

/-- An exchange that fills no slot. -/
theorem idle (filled : Filled audit held resources told ledger outputs)
    (aimless : ∀ position, exchange.target? = some position → outputs[position]? = none) :
    Filled audit held resources (told ++ [exchange]) ledger outputs where
  described := filled.described
  opened {place slot} found := by
    rw [filled.opened found, opening?_concat, if_neg, Option.or_none]
    intro aims
    rw [aimless place aims] at found
    cases found
  balanced := by
    rw [openings_concat_same]
    · exact filled.balanced
    · intro place aims
      rw [← filled.described, List.getElem?_map, aimless place aims]
      exact .inr (.inl nofun)

/-- The slots with a filled one at the position. -/
theorem put (filled : Filled audit held resources told ledger outputs) (changed : OutputSlot)
    (aims : exchange.target? = some position) (found : outputs[position]? = some slot)
    (same : changed.descriptor = slot.descriptor) (buffered : changed.buffer.isSome = true)
    {ledger' : List LedgerEntry}
    (balanced : (audit.provide
      (openings Exchange.asks resources audit.resource (told ++ [exchange])).card).Balanced ledger' held) :
    Filled audit held resources (told ++ [exchange]) ledger' (List.set outputs position changed) where
  described := described_set filled.described found same
  opened {place other} here := by
    rw [opening?_concat]
    by_cases at_ : place = position
    · rw [at_, List.getElem?_set_self (List.getElem?_eq_some_iff.mp found).1] at here
      cases here
      rw [at_, buffered, if_pos aims, Option.isSome_or, Option.isSome_some, Bool.or_true]
    · rw [List.getElem?_set_ne (Ne.symm at_)] at here
      rw [filled.opened here, if_neg, Option.or_none]
      rw [aims, Option.some.injEq]
      exact fun same => at_ same.symm
  balanced := balanced

/-- Asking for a first value initializes a slot that has no buffer. -/
theorem asked (filled : Filled audit held resources told ledger outputs) (exchange : Exchange)
    (found : outputs[position]? = some slot) (aims : exchange.target? = some position)
    (asks : exchange.asks = true) {journal : Journal} (same : journal.ledger = ledger) :
    (audit.provide (openings Exchange.asks resources audit.resource (told ++ [exchange])).card).Balanced
      (Outputs.opened slot journal).ledger held := by
  have opened := filled.opened found
  unfold Outputs.opened
  cases buffer : slot.buffer with
  | some value =>
      rw [buffer, Option.isSome_some] at opened
      rw [openings_concat_same, same]
      · exact filled.balanced
      · intro place aims'
        rw [aims] at aims'
        cases aims'
        exact .inl opened.symm
  | none =>
      rw [buffer, Option.isSome_none, eq_comm, Option.isSome_eq_false_iff, Option.isNone_iff_eq_none] at opened
      have provided := filled.balanced.provide slot.descriptor slot.descriptor.element.initial
      rw [Audit.provide_provide] at provided
      have counted : (openings Exchange.asks resources audit.resource (told ++ [exchange])).card =
          (openings Exchange.asks resources audit.resource told).card +
            (audit.share slot.descriptor {slot.descriptor.element.initial}).card := by
        unfold Audit.share
        split
        · rename_i here
          rw [card_openings_concat aims opened (by rw [described_own filled.described found, here]) asks]
          rfl
        · rename_i apart
          rw [openings_concat_same]
          · rfl
          · intro place aims'
            rw [aims] at aims'
            cases aims'
            rw [described_own filled.described found, ne_eq, Option.some.injEq]
            exact .inr (.inl apart)
      rw [counted]
      dsimp only
      rw [same]
      exact provided

end Filled

/-- A request and what it does to the slots and the ledger. -/
theorem perform_filled {audit : Audit} {held : Multiset Value} {resources : List ResourceId}
    {told : List Exchange} (request : Request) {live : Live Outputs}
    (filled : Filled audit held resources told live.journal.ledger live.core) :
    Ends request.perform live fun answer after =>
      Filled audit held resources (told ++ [⟨request, answer⟩]) after.journal.ledger after.core := by
  cases request with
  | set position value =>
      unfold Request.perform
      cases found : live.core[position]? with
      | none =>
          unfold Outputs.set
          rw [Outputs.ends_slot_missing found]
          exact filled.idle (by rintro _ ⟨⟩)
      | some slot =>
          rw [Outputs.ends_set found]
          split
          · refine filled.put { slot with buffer := some value, written := true } rfl found rfl rfl ?_
            rw [openings_concat_same fun _ _ => .inr (.inr rfl)]
            exact filled.balanced
          · exact filled.idle (by rintro _ ⟨⟩)
  | getOrInit position type =>
      unfold Request.perform
      cases found : live.core[position]? with
      | none =>
          unfold Outputs.getOrInit
          rw [Outputs.ends_slot_missing found]
          refine filled.idle ?_
          rintro _ ⟨⟩
          exact found
      | some slot =>
          have opens {answer : Except Fault Value} {changed : OutputSlot}
              (same : changed.descriptor = slot.descriptor) (buffered : changed.buffer.isSome = true) :
              Filled audit held resources (told ++ [⟨.getOrInit position type, answer⟩])
                (Outputs.opened slot live.journal).ledger (List.set live.core position changed) := by
            exact filled.put changed rfl found same buffered
              (filled.asked ⟨.getOrInit position type, answer⟩ found rfl rfl rfl)
          rw [Outputs.ends_getOrInit found]
          split
          · exact opens rfl rfl
          · exact opens rfl rfl
  | get position type =>
      unfold Request.perform
      rw [ends_bind, ends_core, continues_ok, ends_ofExcept]
      exact filled.idle (by rintro _ ⟨⟩)
  | describe position =>
      unfold Request.perform
      rw [ends_bind, ends_core, continues_ok, ends_bind, ends_ofExcept]
      cases live.core.slot position <;> exact filled.idle (by rintro _ ⟨⟩)
  | count => exact filled.idle (by rintro _ ⟨⟩)

/-- The exchanges of a dialogue and what they do to the slots and the ledger. -/
theorem transcribed_filled {α : Type} {audit : Audit} {held : Multiset Value} {resources : List ResourceId}
    {told : List Exchange} (dialogue : Dialogue α) (live : Live Outputs)
    (filled : Filled audit held resources told live.journal.ledger live.core) :
    Ends dialogue.transcribed.run live fun outcome after => ∃ result exchanges,
      outcome = .ok (result, exchanges) ∧
        Filled audit held resources (told ++ exchanges) after.journal.ledger after.core := by
  induction dialogue generalizing live told with
  | done result => exact ⟨result, [], rfl, by rw [List.append_nil]; exact filled⟩
  | ask request next ih =>
      unfold Dialogue.transcribed
      rw [Dialogue.ends_ask]
      refine (perform_filled request filled).mono ?_
      intro answer middle filled'
      rw [Dialogue.run_bind, ends_bind]
      refine (ih answer middle filled').mono ?_
      rintro _ after ⟨result, rest, rfl, filled''⟩
      refine ⟨result, ⟨request, answer⟩ :: rest, rfl, ?_⟩
      rw [List.append_cons]
      exact filled''

/-- The frame of a join after its exchanges so far: the data are sound, all values are destroyed when they
are to be, and the ledger is balanced with the storages and the slots. -/
structure Tracked (registry : Registry) (audit : Audit) (resources : List ResourceId) (told : List Exchange)
    (ledger : List LedgerEntry) (frame : Frame μ) : Prop where
  based : Data.SoundOver registry frame.data
  releasing : registry.Releasing
  filled : Filled audit (frame.data.held audit.resource) resources told ledger frame.outputs

section Visits

variable {registry : Registry} {audit : Audit} {resources : List ResourceId} {told : List Exchange}

theorem call_tracked (callback : Callback μ) (inputs : Inputs) {live : Live (Frame (μ × List Call))}
    (tracked : Tracked registry audit resources told live.journal.ledger live.core) :
    Ends (call callback.recorded inputs) live fun outcome after => ∃ exchanges,
      after.core.data.memory.2 = live.core.data.memory.2 ++ [⟨inputs, exchanges, outcome⟩] ∧
        Tracked registry audit resources (told ++ exchanges) after.journal.ledger after.core := by
  rw [ends_congr (call_recorded_eq callback inputs live)]
  unfold onOutputs
  rw [ends_bind, ends_focus]
  refine Ends.mono (transcribed_filled _ ⟨live.journal, live.core.outputs⟩ tracked.filled) ?_
  rintro _ after ⟨⟨outcome, memory⟩, exchanges, rfl, filled⟩
  rw [continues_ok, ends_bind, ends_update, continues_ok, ends_ofExcept]
  exact ⟨exchanges, rfl, ⟨{ tracked.based.sound with }, tracked.based.registry⟩, tracked.releasing, filled⟩

theorem onData_tracked {α : Type} {act : Act (Data μ) α}
    (carries : ∀ audit, Carries (Data.Audited registry audit) act) :
    Carries (Tracked registry audit resources told) (onData act) := by
  intro live tracked
  rw [ends_onData]
  refine Ends.mono (carries _ ⟨live.journal, live.core.data⟩ ⟨tracked.based, tracked.releasing,
    tracked.filled.balanced⟩) ?_
  intro _ after audited
  exact ⟨audited.based, tracked.releasing, tracked.filled.described, tracked.filled.opened, audited.balanced⟩

/-- A slot that has a buffer may be put back with another one. -/
theorem Tracked.put {ledger : List LedgerEntry} {frame : Frame μ}
    (tracked : Tracked registry audit resources told ledger frame) {position : Nat} {slot : OutputSlot}
    (changed : OutputSlot) (found : frame.outputs[position]? = some slot)
    (same : changed.descriptor = slot.descriptor) (buffered : changed.buffer.isSome = slot.buffer.isSome) :
    Tracked registry audit resources told ledger
      { frame with outputs := List.set frame.outputs position changed } := by
  refine ⟨tracked.based, tracked.releasing, described_set tracked.filled.described found same, ?_,
    tracked.filled.balanced⟩
  intro place other here
  by_cases at_ : place = position
  · rw [at_, List.getElem?_set_self (List.getElem?_eq_some_iff.mp found).1] at here
    cases here
    rw [at_, buffered, tracked.filled.opened found]
  · rw [List.getElem?_set_ne (Ne.symm at_)] at here
    exact tracked.filled.opened here

theorem commitValue_tracked (numbered : registry.Numbered) (place : Match) {position : Nat}
    (resource : ResourceId) (kind : Kind) (value : Value) (live : Live (Frame μ)) {slot : OutputSlot}
    (found : live.core.outputs[position]? = some slot) (buffered : slot.buffer.isSome = true)
    (tracked : Tracked registry audit resources told live.journal.ledger live.core) :
    Ends (commitValue place position resource kind value) live fun _ after =>
      Tracked registry audit resources told after.journal.ledger after.core := by
  have scalar : Carries (Tracked registry audit resources told : _ → Frame μ → Prop)
      (onData (Data.onStorageAt resource (Storage.onScalar fun descriptor => Scalar.emplace descriptor value))) :=
    onData_tracked fun audit => Data.onStorageAt_carries numbered fun rest descriptor =>
      Storage.emplaceScalar_carries audit rest descriptor value
  have component (identity : Identity) : Carries (Tracked registry audit resources told : _ → Frame μ → Prop)
      (onData (Data.onStorageAt resource
        (Storage.onIndexed fun descriptor => Indexed.emplace descriptor identity value))) :=
    onData_tracked fun audit => Data.onStorageAt_carries numbered fun rest descriptor =>
      Storage.emplaceIndexed_carries audit rest descriptor identity value
  obtain ⟨event, viewport, entity⟩ := place
  cases kind with
  | sceneComponent => exact scalar live tracked
  | viewportComponent =>
      cases viewport with
      | some identity => exact component identity live tracked
      | none => exact tracked
  | entityComponent =>
      cases entity with
      | some identity => exact component identity live tracked
      | none => exact tracked
  | entitySpawnList =>
      cases value with
      | spawnList list =>
          obtain ⟨journal, ended, same⟩ := commitSpawns_found (Outputs.slot_found found) list
          have put := tracked.put { slot with buffer := some (.spawnList []) } found rfl buffered.symm
          refine (ends_of_ok ended).mpr ⟨⟨{ put.based.sound with }, put.based.registry⟩, put.releasing, ?_⟩
          rw [same]
          exact put.filled
      | _ => exact tracked
  | event | entityDespawnList => exact tracked

theorem commitSlot_tracked (numbered : registry.Numbered) (place : Match) (position : Nat)
    (output : ResourceId × Kind) :
    Carries (Tracked registry audit resources told : _ → Frame μ → Prop) (commitSlot place position output) := by
  unfold commitSlot
  split
  · exact .fault _
  · intro live tracked
    rw [ends_bind, ends_onOutputs]
    cases found : live.core.outputs[position]? with
    | none =>
        unfold Outputs.takeWritten
        rw [Outputs.ends_slot_missing found]
        exact tracked
    | some slot =>
        rw [Outputs.ends_takeWritten found]
        split
        · have put := tracked.put { slot with written := false } found rfl rfl
          have here := List.getElem?_set_self (a := { slot with written := false })
            (List.getElem?_eq_some_iff.mp found).1
          obtain ⟨descriptor, buffer, written⟩ := slot
          cases buffer with
          | none => exact put
          | some value =>
              exact commitValue_tracked numbered place output.1 output.2 value ⟨live.journal, _⟩ here rfl put
        · exact tracked

theorem commit_tracked (numbered : registry.Numbered) (place : Match) (position : Nat)
    (outputs : List (ResourceId × Kind)) :
    Carries (Tracked registry audit resources told : _ → Frame μ → Prop) (commit place position outputs) := by
  induction outputs generalizing position with
  | nil => exact .pure ()
  | cons output rest ih =>
      rw [commit_cons]
      exact .bind (commitSlot_tracked numbered place position output) fun _ => ih (position + 1)

variable {reads writes : List ResourceId} {plan : Plan} {descriptors : List Descriptor}
  {base : Data (μ × List Call)}

/-- One visit keeps the ledger balanced with the slots that its call has filled, however it ends. -/
theorem visit_tracked (numbered : registry.Numbered) (callback : Callback μ)
    (fits : plan.Fits base.registry reads writes) {place : Match} (placed : Placed plan base place)
    {live : Live (Frame (μ × List Call))} (steady : Steady plan base live.core.data)
    (tracked : Tracked registry audit resources told live.journal.ledger live.core) :
    Ends (visit plan callback.recorded place) live fun _ after => ∃ call : Call,
      after.core.data.memory.2 = live.core.data.memory.2 ++ [call] ∧
        Tracked registry audit resources (told ++ call.exchanges) after.journal.ledger after.core := by
  obtain ⟨inputs, read, _⟩ := resolve_ok fits steady placed
  unfold visit
  rw [ends_bind, ends_core, continues_ok, read, ends_bind, ends_ofExcept, continues_ok, ends_bind]
  refine (call_tracked callback inputs tracked).mono ?_
  rintro outcome after ⟨exchanges, remembered, tracked'⟩
  cases outcome with
  | error cause => exact ⟨⟨inputs, exchanges, .error cause⟩, remembered, tracked'⟩
  | ok going =>
      rw [continues_ok]
      cases going with
      | false => exact ⟨⟨inputs, exchanges, .ok false⟩, remembered, tracked'⟩
      | true =>
          change Ends (commit place 0 plan.outputs >>= fun _ => pure true) _ _
          rw [ends_bind]
          refine ((commit_tracked numbered place 0 plan.outputs after tracked').and
            (commit_memory plan place (· = after.core.data.memory) after rfl)).mono ?_
          rintro ended final ⟨tracked'', kept⟩
          rw [← kept] at remembered
          cases ended <;> exact ⟨⟨inputs, exchanges, .ok true⟩, remembered, tracked''⟩

/-- The visits of matches in turn. -/
theorem visitAll_tracked (numbered : registry.Numbered) (callback : Callback μ)
    (fits : plan.Fits base.registry reads writes) (describes : Describes base.registry plan descriptors)
    {places : List Match} (placed : ∀ place ∈ places, Placed plan base place)
    {live : Live (Frame (μ × List Call))} (ready : Ready plan base descriptors live.core)
    (tracked : Tracked registry audit resources told live.journal.ledger live.core) :
    Ends (visitAll (visit plan callback.recorded) places) live fun _ after => ∃ calls : List Call,
      after.core.data.memory.2 = live.core.data.memory.2 ++ calls ∧
        Tracked registry audit resources (told ++ calls.flatMap Call.exchanges) after.journal.ledger
          after.core := by
  induction places generalizing live told with
  | nil =>
      refine ⟨[], (List.append_nil _).symm, ?_⟩
      rw [List.flatMap_nil, List.append_nil]
      exact tracked
  | cons place rest ih =>
      have here := placed place List.mem_cons_self
      unfold visitAll
      rw [ends_bind]
      refine ((visit_tracked numbered callback fits here ready.steady tracked).and
        (visit_advances callback fits describes here live ready)).mono ?_
      rintro outcome after ⟨⟨call, remembered, tracked'⟩, advances⟩
      have alone : Tracked registry audit resources (told ++ [call].flatMap Call.exchanges)
          after.journal.ledger after.core := by
        rw [List.flatMap_singleton]
        exact tracked'
      cases outcome with
      | error cause => exact ⟨[call], remembered, alone⟩
      | ok going =>
          rw [continues_ok]
          cases going with
          | false => exact ⟨[call], remembered, alone⟩
          | true =>
              refine (ih (fun other member => placed other (List.mem_cons_of_mem _ member)) (advances rfl)
                tracked').mono ?_
              rintro _ final ⟨others, remembered', tracked''⟩
              refine ⟨call :: others, ?_, ?_⟩
              · rw [remembered', remembered, List.append_assoc]
                rfl
              · rw [List.flatMap_cons, ← List.append_assoc]
                exact tracked''

end Visits

section Releases

variable {audit : Audit} {held : Multiset Value}

/-- The values in the buffers of the resource. -/
def buffers (resource : ResourceId) (outputs : Outputs) : Multiset Value :=
  outputs.filterMap fun slot => if slot.descriptor.id = resource then slot.buffer else none

/-- Releasing the slots discards what is in their buffers. -/
theorem release_discards {outputs : Outputs} {live : Live Outputs} (typed : ∀ slot ∈ outputs, slot.Sound)
    (releasing : ∀ slot ∈ outputs, slot.descriptor.element.Releasing)
    (balanced : audit.Balanced live.journal.ledger held) :
    Ends (Outputs.release outputs) live fun _ after =>
      { audit with discarded := buffers audit.resource outputs + audit.discarded }.Balanced
        after.journal.ledger held := by
  induction outputs generalizing live audit with
  | nil =>
      have nothing : buffers audit.resource [] + audit.discarded = audit.discarded := Multiset.zero_add _
      rw [nothing]
      exact balanced
  | cons slot rest ih =>
      have others := fun other member => typed other (List.mem_cons_of_mem slot member)
      have releasing' := fun other member => releasing other (List.mem_cons_of_mem slot member)
      have first : buffers audit.resource (slot :: rest) =
          audit.share slot.descriptor slot.buffer.toList + buffers audit.resource rest := by
        unfold buffers Audit.share
        rw [List.filterMap_cons]
        by_cases here : slot.descriptor.id = audit.resource <;> cases buffer : slot.buffer <;> simp [here]
      unfold Outputs.release
      rw [ends_bind, first]
      cases buffer : slot.buffer with
      | none =>
          rw [Option.toList_none, Multiset.coe_nil, Audit.share_zero, Multiset.zero_add]
          exact ih others releasing' balanced
      | some value =>
          have discarded := balanced.discard slot.descriptor value
          rw [Option.toList_some, Multiset.coe_singleton]
          unfold Descriptor.destroyAll Descriptor.destroyAll
          rw [ends_bind, Descriptor.ends_destroy_released (typed slot List.mem_cons_self value buffer)
            (releasing slot List.mem_cons_self value), continues_ok, ends_pure, continues_ok]
          refine Ends.mono (ih others releasing' discarded) ?_
          intro _ after balanced'
          rw [add_comm (audit.share _ _), add_assoc]
          exact balanced'

/-- There is a buffer for each slot that was filled. -/
theorem Filled.card_buffers {resources : List ResourceId} {told : List Exchange} {ledger : List LedgerEntry}
    {outputs : Outputs} (filled : Filled audit held resources told ledger outputs) (resource : ResourceId) :
    (buffers resource outputs).card = (openings (fun _ => true) resources resource told).card := by
  unfold buffers openings
  rw [Multiset.coe_card, length_filterMap_eq_card, ← filled.described, List.length_map]
  congr 1
  apply Finset.filter_congr
  intro position inside
  obtain ⟨slot, found⟩ : ∃ slot, outputs[position]? = some slot :=
    ⟨_, List.getElem?_eq_getElem (Finset.mem_range.mp inside)⟩
  have opened := filled.opened found
  rw [List.getElem?_map, found]
  by_cases own : slot.descriptor.id = resource
  · cases first : opening? told position <;> simp_all
  · simp [own]

theorem ids_of_registered {registry : Registry} (numbered : registry.Numbered) {resources : List ResourceId}
    {descriptors : List Descriptor} (registered : resources.map registry.get? = descriptors.map some) :
    descriptors.map Descriptor.id = resources := by
  induction descriptors generalizing resources with
  | nil => exact (List.map_eq_nil_iff.mp registered).symm
  | cons descriptor others ih =>
      cases resources with
      | nil => cases registered
      | cons resource rest =>
          rw [List.map_cons, List.map_cons, List.cons.injEq] at registered
          rw [List.map_cons, ih registered.2, numbered resource descriptor registered.1]

/-- New slots have no buffers. -/
theorem blank_filled {registry : Registry} (numbered : registry.Numbered) {plan : Plan}
    {descriptors : List Descriptor} (describes : Describes registry plan descriptors)
    {ledger : List LedgerEntry} (balanced : audit.Balanced ledger held) :
    Filled audit held (plan.outputs.map Prod.fst) [] ledger (Outputs.blank descriptors) where
  described := by
    rw [← ids_of_registered numbered describes]
    simp [Outputs.blank]
  opened {position slot} found := by
    obtain ⟨descriptor, _, rfl⟩ := List.mem_map.mp (List.mem_of_getElem? found)
    rfl
  balanced := by
    rw [openings_nil]
    exact balanced

end Releases

section Runs

variable {registry : Registry} {audit : Audit} {reads writes : List ResourceId} {plan : Plan}

/-- The audit after a join with these exchanges that discarded the values. -/
def closed (audit : Audit) (resources : List ResourceId) (told : List Exchange) (discarded : Multiset Value) :
    Audit :=
  { audit with
    discarded := discarded + audit.discarded
    initialized := audit.initialized + (openings Exchange.asks resources audit.resource told).card }

theorem closed_nil (audit : Audit) (resources : List ResourceId) : closed audit resources [] 0 = audit := by
  unfold closed
  rw [openings_nil, zero_add]
  rfl

theorem run_recorded_audited (numbered : registry.Numbered) (callback : Callback μ)
    {live : Live (Data (μ × List Call))} (fits : plan.Fits live.core.registry reads writes)
    (audited : Data.Audited registry audit live.journal.ledger live.core) :
    Ends (run plan callback.recorded) live fun _ after => ∃ calls discarded,
      after.core.memory.2 = live.core.memory.2 ++ calls ∧
        discarded.card = (openings (fun _ => true) (plan.outputs.map Prod.fst) audit.resource
          (calls.flatMap Call.exchanges)).card ∧
        Data.Audited registry
          (closed audit (plan.outputs.map Prod.fst) (calls.flatMap Call.exchanges) discarded)
          after.journal.ledger after.core := by
  obtain ⟨descriptors, describes⟩ := exists_describes fits
  refine (traverse_releases (fun _ ledger data => ∃ calls discarded,
    data.memory.2 = live.core.memory.2 ++ calls ∧
      discarded.card = (openings (fun _ => true) (plan.outputs.map Prod.fst) audit.resource
        (calls.flatMap Call.exchanges)).card ∧
      Data.Audited registry
        (closed audit (plan.outputs.map Prod.fst) (calls.flatMap Call.exchanges) discarded) ledger data)
    fits describes audited.based.sound (fun _ => ?_) fun set journal same => ?_).mono
      fun _ _ ⟨_, _, kept⟩ => kept
  · refine ⟨[], 0, (List.append_nil _).symm, ?_, ?_⟩
    · simp [openings_nil]
    · rw [List.flatMap_nil, closed_nil]
      exact audited
  · have ready : Ready plan live.core descriptors ⟨live.core, Outputs.blank descriptors⟩ :=
      .blank audited.based.sound descriptors
    have placed : ∀ place ∈ live.core.staticJoin reads writes, Placed plan live.core place :=
      fun _ member => mem_staticJoin fits set member
    have tracked : Tracked registry audit (plan.outputs.map Prod.fst) [] journal.ledger
        ⟨live.core, Outputs.blank descriptors⟩ := by
      refine ⟨audited.based, audited.releasing, blank_filled numbered ?_ ?_⟩
      · rw [← audited.based.registry]
        exact describes
      · rw [same]
        exact audited.balanced
    rw [ends_congr (walk_recorded_eq callback fits describes audited.based.sound set journal)]
    refine ((visitAll_ends callback fits describes placed ready).and
      (visitAll_tracked numbered callback fits describes placed ready tracked)).mono ?_
    rintro _ after ⟨⟨sound, _⟩, calls, remembered, tracked'⟩
    rw [List.nil_append] at tracked'
    have releasing : ∀ slot ∈ after.core.outputs, slot.descriptor.element.Releasing := by
      intro slot member
      obtain ⟨output, _, registered⟩ := exists_output describes sound member
      rw [audited.based.registry] at registered
      exact audited.releasing _ _ registered
    refine ⟨sound, (release_discards sound.typed releasing tracked'.filled.balanced).mono
      fun _ final balanced => ?_⟩
    exact ⟨calls, buffers audit.resource after.core.outputs, remembered,
      tracked'.filled.card_buffers audit.resource, tracked'.based, tracked'.releasing, balanced⟩

/-- A join keeps the ledger balanced, however it ends: it discards one value for each slot that received a
buffer and initializes one for each slot that was first filled by asking. -/
theorem run_audited (numbered : registry.Numbered) {live : Live (Data μ)}
    (accepted : Plan.make registry reads writes = .ok plan) (callback : Callback μ)
    (audited : Data.Audited registry audit live.journal.ledger live.core) :
    Ends (run plan callback) live fun _ after => ∃ discarded,
      discarded.card = (openings (fun _ => true) (plan.outputs.map Prod.fst) audit.resource
        ((calls plan callback live).flatMap Call.exchanges)).card ∧
      Data.Audited registry (closed audit (plan.outputs.map Prod.fst)
        ((calls plan callback live).flatMap Call.exchanges) discarded) after.journal.ledger after.core := by
  obtain ⟨fits, sound⟩ := recording_fits audited.based accepted
  have recording : Data.Audited registry audit live.journal.ledger live.core.recording :=
    ⟨⟨sound, audited.based.registry⟩, audited.releasing, audited.balanced⟩
  have ends : Ends (run plan callback.recorded) ⟨live.journal, live.core.recording⟩ _ :=
    run_recorded_audited numbered callback fits recording
  refine run_ends_of_recorded (fun made _ after => ∃ discarded,
    discarded.card = (openings (fun _ => true) (plan.outputs.map Prod.fst) audit.resource
      (made.flatMap Call.exchanges)).card ∧
    Data.Audited registry (closed audit (plan.outputs.map Prod.fst) (made.flatMap Call.exchanges) discarded)
      after.journal.ledger after.core) (ends.mono ?_)
  rintro _ _ ⟨made, discarded, remembered, counted, kept⟩
  exact ⟨made, remembered, discarded, counted, ⟨{ kept.based.sound with }, kept.based.registry⟩,
    kept.releasing, kept.balanced⟩

end Runs

end Join

end EntityScene
