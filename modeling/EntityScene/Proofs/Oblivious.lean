import EntityScene.Proofs.Blind

/-!
Acts that do not look at what differs between two states. The journals may differ in the values that
were initialized and destroyed, and output slots in the buffers that do not count as written; a commit
then does the same.
-/

namespace EntityScene

open Act

variable {σ τ ρ π μ α β : Type}

/-- A copy was made or declined. -/
def Lifecycle.isCopy : Lifecycle → Bool
  | .copied _ | .declined _ => true
  | .initialized _ | .destroyed _ | .retained _ => false

/-- The journal without the values that were initialized or destroyed. -/
def Journal.copies (journal : Journal) : Journal :=
  { journal with ledger := journal.ledger.filter fun entry => entry.event.isCopy }

theorem Journal.copies_enter {first second : Journal} (same : second.copies = first.copies)
    (entry : LedgerEntry) :
    Journal.copies { second with ledger := entry :: second.ledger } =
      Journal.copies { first with ledger := entry :: first.ledger } := by
  simp only [copies, Journal.mk.injEq] at same ⊢
  obtain ⟨ledger, logs, recorder, thread⟩ := same
  refine ⟨?_, logs, recorder, thread⟩
  rw [List.filter_cons, List.filter_cons, ledger]

theorem Journal.copies_log {first second : Journal} (same : second.copies = first.copies) (line : LogLine) :
    Journal.copies { second with logs := line :: second.logs } =
      Journal.copies { first with logs := line :: first.logs } := by
  simp only [copies, Journal.mk.injEq] at same ⊢
  obtain ⟨ledger, logs, recorder, thread⟩ := same
  exact ⟨ledger, by rw [logs], recorder, thread⟩

theorem Journal.copies_leave {first second : Journal} (same : second.copies = first.copies)
    (guard : Trace.Guard) :
    Journal.copies { second with recorder := second.recorder.leave guard } =
      Journal.copies { first with recorder := first.recorder.leave guard } := by
  simp only [copies, Journal.mk.injEq] at same ⊢
  obtain ⟨ledger, logs, recorder, thread⟩ := same
  exact ⟨ledger, logs, by rw [recorder], thread⟩

theorem Journal.copies_skip (journal : Journal) {entry : LedgerEntry} (lifetime : entry.event.isCopy = false) :
    Journal.copies { journal with ledger := entry :: journal.ledger } = journal.copies := by
  simp only [copies, List.filter_cons, lifetime, Bool.false_eq_true, if_false]

/-- The states look the same, and so do the journals up to initialized and destroyed values. -/
def Act.Same (view : σ → τ) (first second : Live σ) : Prop :=
  view second.core = view first.core ∧ second.journal.copies = first.journal.copies

/-- The act does the same in states that look the same. -/
abbrev Act.Oblivious (view : σ → τ) (act : Act σ α) : Prop := Similar (Same view) (Same view) act act

/-- An act that does not look at the journal is oblivious of what is not copied. -/
theorem Act.Uniform.oblivious {act : Act σ α} (uniform : Uniform act) : Oblivious id act := by
  intro live live' same
  have link : Journal.Link fun first second => second.copies = first.copies :=
    ⟨fun entry same => Journal.copies_enter same entry, fun line same => Journal.copies_log same line⟩
  exact (uniform _ link live live' ⟨same.1.symm, same.2⟩).mono (fun _ _ even => ⟨even.1.symm, even.2⟩)
    fun _ _ even => ⟨even.1.symm, even.2⟩

namespace Act.Oblivious

variable {view : σ → τ}

theorem ofExcept (outcome : Except Fault α) : Oblivious view (Act.ofExcept outcome : Act σ α) :=
  Similar.ofExcept outcome fun _ _ same => same

theorem update {change : σ → σ} (kept : ∀ state state', view state' = view state →
    view (change state') = view (change state)) : Oblivious view (Act.update change) :=
  Similar.update fun _ _ same => ⟨kept _ _ same.1, same.2⟩

theorem log (level : LogLevel) (text : String) : Oblivious view (Act.log level text : Act σ Unit) :=
  fun _ _ same => .ok ⟨same.1, Journal.copies_log same.2 _⟩

theorem focus {part : σ → ρ} {put : ρ → σ → σ} {act : Act ρ α} {inner : ρ → π}
    (oblivious : Oblivious inner act)
    (parts : ∀ state state', view state' = view state → inner (part state') = inner (part state))
    (puts : ∀ state state' piece piece', view state' = view state → inner piece' = inner piece →
      view (put piece' state') = view (put piece state)) : Oblivious view (Act.focus part put act) :=
  fun live live' same => (oblivious ⟨live.journal, part live.core⟩ ⟨live'.journal, part live'.core⟩
    ⟨parts _ _ same.1, same.2⟩).focus
      (fun _ _ kept => ⟨puts _ _ _ _ same.1 kept.1, kept.2⟩)
      fun _ _ kept => ⟨puts _ _ _ _ same.1 kept.1, kept.2⟩

end Act.Oblivious

theorem Act.Parallel.span {spoilt : σ → Prop} {view : σ → τ} {name : String}
    {arguments : List (String × Trace.Argument)} {first second : Act σ α} {live : Live σ}
    (inside : ∀ journal, Parallel (fun _ after => spoilt after.core) (Same view) (Same view) first second
      ⟨journal, live.core⟩ ⟨journal, live.core⟩) :
    Parallel (fun _ after => spoilt after.core) (Same view) (Same view) (Act.span name arguments first)
      (Act.span name arguments second) live live := by
  rcases inside { live.journal with
    recorder := (live.journal.recorder.enter live.journal.thread name).2 } with ends | alike
  · exact Or.inl (ends_span.mpr ends)
  · refine Or.inr ?_
    unfold Act.span
    dsimp only
    revert alike
    generalize first _ = result
    generalize second _ = result'
    intro alike
    cases alike with
    | ok same => exact .ok ⟨same.1, Journal.copies_leave same.2 _⟩
    | error same => exact .error ⟨same.1, Journal.copies_leave same.2 _⟩

section Slots

/-- What a slot shows: its buffer counts only if it is written. -/
def OutputSlot.shown (slot : OutputSlot) : OutputSlot :=
  { slot with buffer := if slot.written then slot.buffer else none }

def Outputs.shown (outputs : Outputs) : Outputs := outputs.map OutputSlot.shown

def Frame.shown (frame : Frame μ) : Frame μ := ⟨frame.data, frame.outputs.shown⟩

theorem OutputSlot.shown_eq {slot slot' : OutputSlot} :
    slot'.shown = slot.shown ↔ slot'.descriptor = slot.descriptor ∧ slot'.written = slot.written ∧
      (slot.written = true → slot'.buffer = slot.buffer) := by
  obtain ⟨descriptor, buffer, written⟩ := slot
  obtain ⟨descriptor', buffer', written'⟩ := slot'
  simp only [shown, OutputSlot.mk.injEq]
  constructor
  · rintro ⟨rfl, held, rfl⟩
    exact ⟨rfl, rfl, fun isWritten => by simpa only [isWritten, if_true] using held⟩
  · rintro ⟨rfl, rfl, held⟩
    refine ⟨rfl, ?_, rfl⟩
    split
    · rename_i isWritten
      exact held isWritten
    · rfl

/-- A slot that is written in both outputs may be put in place. -/
theorem Outputs.shown_set {outputs outputs' : Outputs} (same : outputs'.shown = outputs.shown) (position : Nat)
    {slot slot' : OutputSlot} (equal : slot'.shown = slot.shown) :
    Outputs.shown (List.set outputs' position slot') = Outputs.shown (List.set outputs position slot) := by
  unfold Outputs.shown at same ⊢
  rw [List.map_set, List.map_set, same, equal]

/-- Outputs that show the same have slots at the same positions. -/
theorem Outputs.slot_shown {outputs outputs' : Outputs} (same : outputs'.shown = outputs.shown)
    (position : Nat) :
    (∃ slot slot', outputs[position]? = some slot ∧ outputs'[position]? = some slot' ∧
        slot'.shown = slot.shown) ∨
      outputs[position]? = none ∧ outputs'[position]? = none := by
  have entry := congrArg (fun list : Outputs => list[position]?) same
  simp only [Outputs.shown, List.getElem?_map] at entry
  cases found : outputs[position]? with
  | none =>
      cases found' : outputs'[position]? with
      | none => exact Or.inr ⟨rfl, rfl⟩
      | some => simp [found, found'] at entry
  | some slot =>
      cases found' : outputs'[position]? with
      | none => simp [found, found'] at entry
      | some slot' =>
          rw [found, found'] at entry
          exact Or.inl ⟨slot, slot', rfl, rfl, Option.some.inj entry⟩

theorem Outputs.length_shown {outputs outputs' : Outputs} (same : outputs'.shown = outputs.shown) :
    outputs'.length = outputs.length := by
  have lengths := congrArg List.length same
  simpa only [Outputs.shown, List.length_map] using lengths

/-- The rest of two acts may depend on slots that show the same. -/
theorem Outputs.alike_slot {view : σ → τ} {live live' : Live σ} {outputs outputs' : Outputs}
    {next : OutputSlot → Act σ α} (shown : outputs'.shown = outputs.shown) (position : Nat)
    (same : Same view live live')
    (goes : ∀ slot slot', slot'.shown = slot.shown →
      Alike (Same view) (Same view) (next slot live) (next slot' live')) :
    Alike (Same view) (Same view) ((Act.ofExcept (outputs.slot position) >>= next) live)
      ((Act.ofExcept (outputs'.slot position) >>= next) live') := by
  rcases Outputs.slot_shown shown position with ⟨slot, slot', found, found', equal⟩ | ⟨missing, missing'⟩
  · rw [Outputs.slot_found found, Outputs.slot_found found']
    exact goes slot slot' equal
  · rw [Outputs.slot_missing missing, Outputs.slot_missing missing', Outputs.length_shown shown]
    exact .error same

theorem Outputs.takeWritten_oblivious (position : Nat) :
    Oblivious Outputs.shown (Outputs.takeWritten position) := by
  unfold Outputs.takeWritten
  refine Similar.bind_core fun live live' same => Outputs.alike_slot same.1 position same ?_
  intro slot slot' equal
  obtain ⟨described, marked, held⟩ := OutputSlot.shown_eq.mp equal
  rw [marked]
  split
  · rename_i written
    rw [held written]
    refine .ok ⟨Outputs.shown_set same.1 position ?_, same.2⟩
    exact OutputSlot.shown_eq.mpr ⟨described, rfl, fun never => nomatch never⟩
  · exact .ok same

end Slots

namespace Join

theorem shown_eq {frame frame' : Frame μ} :
    frame'.shown = frame.shown ↔ frame'.data = frame.data ∧ frame'.outputs.shown = frame.outputs.shown := by
  unfold Frame.shown
  rw [Frame.mk.injEq]

theorem onData_oblivious {act : Act (Data μ) α} (oblivious : Oblivious id act) :
    Oblivious Frame.shown (onData act) :=
  Oblivious.focus oblivious (fun _ _ same => (shown_eq.mp same).1)
    fun _ _ _ _ same kept => shown_eq.mpr ⟨kept, (shown_eq.mp same).2⟩

theorem onOutputs_oblivious {act : Act Outputs α} (oblivious : Oblivious Outputs.shown act) :
    Oblivious Frame.shown (onOutputs act : Act (Frame μ) α) :=
  Oblivious.focus oblivious (fun _ _ same => (shown_eq.mp same).2)
    fun _ _ _ _ same kept => shown_eq.mpr ⟨(shown_eq.mp same).1, kept⟩

theorem commitSpawns_oblivious (position : Nat) (requests : SpawnList) :
    Oblivious Frame.shown (commitSpawns position requests : Act (Frame μ) Unit) := by
  unfold commitSpawns
  refine Similar.bind_core fun live live' same => ?_
  obtain ⟨data, outputs⟩ := shown_eq.mp same.1
  rw [data]
  refine Outputs.alike_slot outputs position same fun slot slot' equal => ?_
  obtain ⟨described, marked, _⟩ := OutputSlot.shown_eq.mp equal
  have stays : Similar (Same Frame.shown) (Same Frame.shown)
      (onOutputs (Outputs.putSlot position { slot with buffer := some (.spawnList []) }))
      (onOutputs (Outputs.putSlot position { slot' with buffer := some (.spawnList []) }) :
        Act (Frame μ) Unit) := by
    intro live live' same
    obtain ⟨data, outputs⟩ := shown_eq.mp same.1
    refine .ok ⟨shown_eq.mpr ⟨data, Outputs.shown_set outputs position ?_⟩, same.2⟩
    exact OutputSlot.shown_eq.mpr ⟨described, marked, fun _ => rfl⟩
  refine (stays live live' same).bind fun _ after after' _ same => ?_
  refine Similar.bind (Oblivious.update fun frame frame' equal => ?_) (fun _ => ?_) after after' same
  · obtain ⟨data, outputs⟩ := shown_eq.mp equal
    exact shown_eq.mpr ⟨by rw [data], outputs⟩
  · split
    · exact Oblivious.log _ _
    · exact Similar.pure ()

theorem oblivious_commits (declared : List (ResourceId × Kind)) :
    AlikeCommits declared (Same (Frame.shown : Frame μ → Frame μ)) where
  takes position := onOutputs_oblivious (Outputs.takeWritten_oblivious position)
  spawns position requests _ := commitSpawns_oblivious position requests
  scalar value _ := onData_oblivious (Data.onStorageAt_uniform _ (Storage.onScalar_uniform fun descriptor =>
    Scalar.emplace_uniform descriptor value)).oblivious
  indexed identity value _ _ :=
    onData_oblivious (Data.onStorageAt_uniform _ (Storage.onIndexed_uniform fun descriptor =>
      Indexed.emplace_uniform descriptor identity value)).oblivious

/-- A commit does not look at buffers that do not count as written. -/
theorem commit_oblivious (place : Match) (position : Nat) (outputs : List (ResourceId × Kind)) :
    Oblivious Frame.shown (commit place position outputs : Act (Frame μ) Unit) :=
  (oblivious_commits outputs).commit place position fun _ member => member

end Join

end EntityScene
