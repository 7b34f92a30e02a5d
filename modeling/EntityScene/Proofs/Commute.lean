import EntityScene.Proofs.Blind
import EntityScene.Proofs.Footprint

/-!
Independent runs commute. A run depends on the storages that its plan reads or writes, on the pools and
on the memory of its own callback, and it changes no others than those it writes. Two runs that do not
write what the other one uses therefore come to the same end in either order.
-/

namespace EntityScene

open Act

variable {μ ν κ ρ α β γ : Type}

namespace Dialogue

theorem bind_assoc (dialogue : Dialogue α) (first : α → Dialogue β) (second : β → Dialogue γ) :
    (dialogue.bind first).bind second = dialogue.bind fun result => (first result).bind second := by
  induction dialogue with
  | done result => rfl
  | ask request next ih =>
      simp only [Dialogue.bind]
      congr 1
      funext answer
      exact ih answer

/-- What becomes of the result of a dialogue is no exchange of it. -/
theorem transcribed_bind_done (dialogue : Dialogue α) (change : α → β) :
    (dialogue.bind fun result => .done (change result)).transcribed =
      dialogue.transcribed.bind fun (result, exchanges) => .done (change result, exchanges) := by
  induction dialogue with
  | done result => rfl
  | ask request next ih =>
      simp only [Dialogue.bind, transcribed]
      congr 1
      funext answer
      rw [ih answer, bind_assoc, bind_assoc]
      rfl

end Dialogue

namespace Callback

/-- A memory has a part, which can be replaced, and a rest, which stays then. -/
structure Apart (part : κ → μ) (put : μ → κ → κ) (rest : κ → ρ) : Prop where
  gets : ∀ own memory, part (put own memory) = own
  spares : ∀ own memory, rest (put own memory) = rest memory

theorem fst_apart : Apart (Prod.fst : μ × ν → μ) (fun own memory => (own, memory.2)) Prod.snd :=
  ⟨fun _ _ => rfl, fun _ _ => rfl⟩

theorem snd_apart : Apart (Prod.snd : μ × ν → ν) (fun own memory => (memory.1, own)) Prod.fst :=
  ⟨fun _ _ => rfl, fun _ _ => rfl⟩

/-- The callback keeps its own memory in a part of a larger one. -/
def within (part : κ → μ) (put : μ → κ → κ) (callback : Callback μ) : Callback κ := fun inputs =>
  ExceptT.mk fun memory =>
    ((callback inputs).run.run (part memory)).bind fun (outcome, own) => .done (outcome, put own memory)

/-- The callback has the first of two memories for itself. -/
def first (callback : Callback μ) : Callback (μ × ν) :=
  callback.within Prod.fst fun own memory => (own, memory.2)

/-- The callback has the second of two memories for itself. -/
def second (callback : Callback ν) : Callback (μ × ν) :=
  callback.within Prod.snd fun own memory => (memory.1, own)

theorem within_recorded (part : κ → μ) (put : μ → κ → κ) (callback : Callback μ) (inputs : Inputs)
    (memory : κ × List Join.Call) :
    ((callback.within part put).recorded inputs).run.run memory =
      ((callback inputs).run.run (part memory.1)).transcribed.bind fun result =>
        .done (result.1.1, put result.1.2 memory.1, memory.2 ++ [⟨inputs, result.2, result.1.1⟩]) := by
  let change (result : Except Fault Bool × μ) := (result.1, put result.2 memory.1)
  have erased := Dialogue.transcribed_bind_done ((callback inputs).run.run (part memory.1)) change
  change ((Dialogue.bind _ fun result => .done (change result)).transcribed).bind _ = _
  rw [erased, Dialogue.bind_assoc]
  rfl

/-- From related memories the callback leads the same dialogue, comes to the same end and leaves related
memories. -/
def Respects (related : μ → μ → Prop) (callback : Callback μ) : Prop :=
  ∀ inputs memory memory', related memory memory' →
    ∃ (result : Type) (dialogue : Dialogue result) (finish finish' : result → Except Fault Bool × μ),
      (callback inputs).run.run memory = dialogue.bind (fun answer => .done (finish answer)) ∧
      (callback inputs).run.run memory' = dialogue.bind (fun answer => .done (finish' answer)) ∧
      ∀ answer, (finish' answer).1 = (finish answer).1 ∧ related (finish answer).2 (finish' answer).2

/-- The memories have the same own part; the rest of each stays as it was. -/
def Owns (part : κ → μ) (rest : κ → ρ) (left right : ρ) (memory memory' : κ) : Prop :=
  part memory' = part memory ∧ rest memory = left ∧ rest memory' = right

/-- A recorded callback with a memory of its own looks at nothing but that. -/
theorem within_respects (callback : Callback μ) {part : κ → μ} {put : μ → κ → κ} {rest : κ → ρ}
    (apart : Apart part put rest) (left right : ρ) :
    (callback.within part put).recorded.Respects fun memory memory' =>
      Owns part rest left right memory.1 memory'.1 ∧ memory'.2 = memory.2 := by
  rintro inputs memory memory' ⟨⟨own, before, before'⟩, calls⟩
  have talks := within_recorded part put callback inputs memory
  have talks' := within_recorded part put callback inputs memory'
  rw [own] at talks'
  refine ⟨_, _, _, _, talks, talks', fun answer => ⟨rfl, ⟨?_, ?_, ?_⟩, ?_⟩⟩
  · exact (apart.gets _ _).trans (apart.gets _ _).symm
  · exact (apart.spares _ _).trans before
  · exact (apart.spares _ _).trans before'
  · rw [calls]

end Callback

namespace Join

/-- Two data are the same to a run of the plan, up to a relation of the memories and up to the requests
that were waiting before it. -/
structure Agree (registry : Registry) (plan : Plan) (related : μ → μ → Prop) (queued queued' : SpawnList)
    (first second : Data μ) : Prop where
  based : first.SoundOver registry
  registry : second.registry = first.registry
  entities : second.entities = first.entities
  viewports : second.viewports = first.viewports
  length : second.storages.length = first.storages.length
  storages : ∀ entry ∈ plan.inputs ++ plan.outputs, second.storages[entry.1]? = first.storages[entry.1]?
  spawns : ∃ added, first.commands.spawns = queued ++ added ∧ second.commands.spawns = queued' ++ added
  memory : related first.memory second.memory

variable {registry : Registry} {plan : Plan} {reads writes : List ResourceId} {related : μ → μ → Prop}
  {queued queued' : SpawnList} {first second : Data μ}

namespace Agree

theorem refl {base : Data μ} (based : base.SoundOver registry) (same : related base.memory base.memory) :
    Agree registry plan related base.commands.spawns base.commands.spawns base base where
  based := based
  registry := rfl
  entities := rfl
  viewports := rfl
  length := rfl
  storages _ _ := rfl
  spawns := ⟨[], (List.append_nil _).symm, (List.append_nil _).symm⟩
  memory := same

theorem symm
    (agree : Agree registry plan (fun memory memory' => related memory' memory) queued queued' first second)
    (based : second.SoundOver registry) : Agree registry plan related queued' queued second first where
  based := based
  registry := agree.registry.symm
  entities := agree.entities.symm
  viewports := agree.viewports.symm
  length := agree.length.symm
  storages entry used := (agree.storages entry used).symm
  spawns := by
    obtain ⟨added, one, two⟩ := agree.spawns
    exact ⟨added, two, one⟩
  memory := agree.memory

theorem withMemory {related' : κ → κ → Prop} {memory memory' : κ}
    (agree : Agree registry plan related queued queued' first second) (same : related' memory memory') :
    Agree registry plan related' queued queued' (first.withMemory memory) (second.withMemory memory') where
  based := ⟨{ agree.based.sound with }, agree.based.registry⟩
  registry := agree.registry
  entities := agree.entities
  viewports := agree.viewports
  length := agree.length
  storages := agree.storages
  spawns := agree.spawns
  memory := same

theorem appendSpawns (agree : Agree registry plan related queued queued' first second)
    (requests : SpawnList) :
    Agree registry plan related queued queued'
      { first with commands := (first.commands.appendSpawns requests).2.1 }
      { second with commands := (second.commands.appendSpawns requests).2.1 } where
  based := ⟨{ agree.based.sound with }, agree.based.registry⟩
  registry := agree.registry
  entities := agree.entities
  viewports := agree.viewports
  length := agree.length
  storages := agree.storages
  spawns := by
    obtain ⟨added, one, two⟩ := agree.spawns
    refine ⟨added ++ requests, ?_, ?_⟩
    · rw [← List.append_assoc, ← one]
      rfl
    · rw [← List.append_assoc, ← two]
      rfl
  memory := agree.memory

theorem withCells (agree : Agree registry plan related queued queued' first second)
    {resource : ResourceId} {descriptor : Descriptor} {cells : Cells}
    (based : (first.withCells resource descriptor cells).SoundOver registry) :
    Agree registry plan related queued queued' (first.withCells resource descriptor cells)
      (second.withCells resource descriptor cells) where
  based := based
  registry := agree.registry
  entities := agree.entities
  viewports := agree.viewports
  length := by
    unfold Data.withCells
    rw [List.length_set, List.length_set, agree.length]
  storages entry used := by
    unfold Data.withCells
    rw [List.getElem?_set, List.getElem?_set, agree.length, agree.storages entry used]
  spawns := agree.spawns
  memory := agree.memory

theorem storageAt (agree : Agree registry plan related queued queued' first second)
    {entry : ResourceId × Kind} (used : entry ∈ plan.inputs ++ plan.outputs) :
    second.storageAt entry.1 = first.storageAt entry.1 := by
  unfold Data.storageAt
  rw [agree.storages entry used, agree.length]

theorem sameReads (fits : plan.Fits registry reads writes)
    (agree : Agree registry plan related queued queued' first second) : SameReads plan first second where
  registry := agree.registry
  entities := agree.entities
  viewports := agree.viewports
  inputs _ read := agree.storageAt (List.mem_append_left _ read)
  event resource event := by
    have read := (fits.event_iff resource).mp event
    exact agree.storageAt (List.mem_append_left _ read)

end Agree

/-- The data agree, and the output slots are the same. -/
def Beside (registry : Registry) (plan : Plan) (related : μ → μ → Prop) (queued queued' : SpawnList)
    (first second : Frame μ) : Prop :=
  Agree registry plan related queued queued' first.data second.data ∧ first.outputs = second.outputs

section Steps

variable {live live' : Live (Frame μ)}

theorem onOutputs_beside {act : Act Outputs α} (blind : Blind act) :
    Similar (Level (Beside registry plan related queued queued'))
      (Level (Beside registry plan related queued queued')) (onOutputs act) (onOutputs act) := by
  intro live live' kept
  have alike := blind ⟨live.journal, live.core.outputs⟩ ⟨live'.journal, live'.core.outputs⟩ kept.2
  exact alike.focus (fun _ _ same => ⟨kept.1, same⟩) fun _ _ same => ⟨kept.1, same⟩

theorem releaseOutputs_beside :
    Similar (Level (Beside registry plan related queued queued'))
      (Level (Beside registry plan related queued queued')) releaseOutputs releaseOutputs := by
  refine Similar.bind_core fun live live' kept => ?_
  rw [← kept.2]
  exact onOutputs_beside (Outputs.release_uniform _).blind live live' kept

theorem commitSpawns_beside (position : Nat) (requests : SpawnList) :
    Similar (Level (Beside registry plan related queued queued'))
      (Level (Beside registry plan related queued queued')) (commitSpawns position requests)
      (commitSpawns position requests) := by
  intro live live' kept
  have slots := congrArg (fun outputs : Outputs => outputs.slot position) kept.2
  cases found : live.core.outputs.slot position with
  | error cause =>
      rw [commitSpawns_missing found, commitSpawns_missing (slots.symm.trans found)]
      exact .error kept
  | ok slot =>
      obtain ⟨journal, ended, _⟩ := commitSpawns_found found requests
      obtain ⟨journal', ended', _⟩ := commitSpawns_found (slots.symm.trans found) requests
      rw [ended, ended']
      refine .ok ⟨kept.1.appendSpawns requests, ?_⟩
      rw [kept.2]

/-- What is written to the same storage in the same way ends alike. -/
theorem onData_beside {act : Act (Data μ) Unit} {resource : ResourceId} {descriptor : Descriptor}
    {held : List Value} {value : Value} {before vacated stored : γ} {wrap : γ → Cells}
    (kept : Beside registry plan related queued queued' live.core live'.core)
    (ends : Ends act ⟨live.journal, live.core.data⟩ fun outcome after => ∃ changed,
      Written descriptor held value before vacated stored outcome changed ∧
        after.core = live.core.data.withCells resource descriptor (wrap changed))
    (ends' : Ends act ⟨live'.journal, live'.core.data⟩ fun outcome after => ∃ changed,
      Written descriptor held value before vacated stored outcome changed ∧
        after.core = live'.core.data.withCells resource descriptor (wrap changed))
    (sound : Ends act ⟨live.journal, live.core.data⟩ fun _ after => after.core.SoundOver registry) :
    Alike (Level (Beside registry plan related queued queued'))
      (Level (Beside registry plan related queued queued')) (onData act live) (onData act live') := by
  have alike : Alike (Level (Agree registry plan related queued queued'))
      (Level (Agree registry plan related queued queued')) (act ⟨live.journal, live.core.data⟩)
      (act ⟨live'.journal, live'.core.data⟩) := by
    refine .of_ends ((ends.and sound).mono ?_)
    rintro outcome after ⟨⟨changed, written, same⟩, based⟩
    refine ends'.mono ?_
    rintro outcome' after' ⟨changed', written', same'⟩
    obtain ⟨rfl, rfl⟩ := written.unique written'
    have agree : Level (Agree registry plan related queued queued') after after' := by
      unfold Level
      rw [same] at based ⊢
      rw [same']
      exact kept.1.withCells based
    exact ⟨rfl, fun _ => agree, fun _ => agree⟩
  exact alike.focus (fun _ _ agree => ⟨agree, kept.2⟩) fun _ _ agree => ⟨agree, kept.2⟩

theorem beside_commits (fits : plan.Fits registry reads writes) :
    AlikeCommits plan.outputs (Level (Beside registry plan related queued queued')) where
  takes position := onOutputs_beside (Outputs.takeWritten_uniform position).blind
  spawns position requests _ := commitSpawns_beside position requests
  scalar {resource} value declared := by
    intro live live' kept
    obtain ⟨descriptor, described, sort⟩ := Registry.kind?_eq_some.mp (fits.output_kind _ declared)
    rw [← kept.1.based.registry] at described
    obtain ⟨before, found, typed⟩ := kept.1.based.sound.scalar described sort
    have found' := (kept.1.storages _ (List.mem_append_right _ declared)).trans found
    exact onData_beside kept (Data.emplaceScalar_ends found typed value)
      (Data.emplaceScalar_ends found' typed value)
      (Data.keeps_onStorageAt (fun _ => Storage.keeps_emplaceScalar value) _ kept.1.based)
  indexed {resource kind} identity value declared indexed := by
    intro live live' kept
    obtain ⟨descriptor, described, sort⟩ := Registry.kind?_eq_some.mp (fits.output_kind _ declared)
    rw [← kept.1.based.registry] at described
    obtain ⟨table, found, typed⟩ := kept.1.based.sound.indexed described (by rw [sort]; exact indexed)
    have found' := (kept.1.storages _ (List.mem_append_right _ declared)).trans found
    exact onData_beside kept (Data.emplaceIndexed_ends found typed identity value)
      (Data.emplaceIndexed_ends found' typed identity value)
      (Data.keeps_onStorageAt (fun _ => Storage.keeps_emplaceIndexed identity value) _ kept.1.based)

theorem beside_lockstep (fits : plan.Fits registry reads writes) :
    Lockstep plan (Level (Agree registry plan related queued queued'))
      (Level (Beside registry plan related queued queued')) where
  reads agree := agree.sameReads fits
  enters _ agree := ⟨agree, rfl⟩
  exits kept := kept.1
  spans similar := similar.span (fun _ _ kept => kept) _ _
  releases := releaseOutputs_beside

theorem call_beside {callback : Callback μ} (respects : callback.Respects related) (inputs : Inputs) :
    Similar (Level (Beside registry plan related queued queued'))
      (Level (Beside registry plan related queued queued')) (call callback inputs) (call callback inputs) := by
  intro live live' kept
  obtain ⟨result, dialogue, finish, finish', talks, talks', alike⟩ := respects inputs _ _ kept.1.memory
  rw [call_eq talks, call_eq talks']
  refine (onOutputs_beside dialogue.run_uniform.blind live live' kept).bind fun answer after after' _ kept' => ?_
  obtain ⟨outcome, remembered⟩ := alike answer
  rw [outcome]
  refine Similar.bind (Similar.update fun live live' kept => ?_)
    (fun _ => Similar.ofExcept _ fun _ _ kept => kept) after after' kept'
  exact ⟨kept.1.withMemory remembered, kept.2⟩

/-- Runs on data that agree run alike. -/
theorem run_agree (fits : plan.Fits registry reads writes) {callback : Callback μ}
    (respects : callback.Respects related) :
    Similar (Level (Agree registry plan related queued queued'))
      (Level (Agree registry plan related queued queued')) (run plan callback) (run plan callback) :=
  (beside_lockstep fits).traverse
    ((beside_lockstep fits).visit (call_beside respects) (beside_commits fits))

end Steps

section Runs

variable {callback : Callback μ} {part : κ → μ} {put : μ → κ → κ} {rest : κ → ρ} {left right : ρ}
  {live live' after : Live (Data κ)} {completed : Bool}

/-- A plain run ends as the recorded one does, without the calls. -/
theorem run_of_recorded {callback : Callback κ} {final : Live (Data (κ × List Call))}
    (ended : run plan callback.recorded ⟨live.journal, live.core.recording⟩ = .ok completed final) :
    run plan callback live = .ok completed ⟨final.journal, final.core.forget⟩ ∧
      calls plan callback live = final.core.memory.2 := by
  refine ⟨?_, by rw [calls, leaves_of_ok ended]⟩
  have alike := run_recorded plan callback ⟨live.journal, live.core.recording⟩ _ rfl
  rw [ended] at alike
  obtain ⟨after, plain, rfl⟩ := alike.exists_ok
  exact plain

/-- The run of a callback with a memory of its own, on data that agree about that memory. -/
theorem run_within (fits : plan.Fits registry reads writes)
    (apart : Callback.Apart part put rest)
    (agree : Agree registry plan (Callback.Owns part rest left right) queued queued' live.core live'.core)
    (ended : run plan (callback.within part put) live = .ok completed after) :
    ∃ after', run plan (callback.within part put) live' = .ok completed after' ∧
      Agree registry plan (Callback.Owns part rest left right) queued queued' after.core after'.core ∧
      calls plan (callback.within part put) live' = calls plan (callback.within part put) live := by
  have similar : Similar (Level (Agree registry plan _ queued queued')) _ _ _ :=
    run_agree fits (callback.within_respects apart left right)
  have alike := similar ⟨live.journal, live.core.recording⟩ ⟨live'.journal, live'.core.recording⟩
    (agree.withMemory ⟨agree.memory, rfl⟩)
  rw [run_recorded_ok ended] at alike
  obtain ⟨final, ended', kept⟩ := alike.exists_ok
  obtain ⟨plain, made⟩ := run_of_recorded ended'
  obtain ⟨owns, same⟩ := Agree.memory kept
  exact ⟨_, plain, Agree.withMemory kept owns, made.trans same⟩

/-- The run of a callback with a memory of its own leaves the rest of the memory alone. -/
theorem run_spares (fits : plan.Fits registry reads writes)
    (apart : Callback.Apart part put rest) (based : live.core.SoundOver registry)
    (ended : run plan (callback.within part put) live = .ok completed after) :
    rest after.core.memory = rest live.core.memory := by
  have agree : Agree registry plan (Callback.Owns part rest (rest live.core.memory) (rest live.core.memory))
      _ _ live.core live.core := .refl based ⟨rfl, rfl, rfl⟩
  obtain ⟨_, _, kept, _⟩ := run_within fits apart agree ended
  exact kept.memory.2.1

end Runs

section Orders

attribute [ext] CommandQueue Data

variable {plan' : Plan} {reads' writes' : List ResourceId}

/-- Neither join writes what the other one reads or writes, and at most one of them has an output for
requests to spawn. -/
structure Independent (registry : Registry) (reads writes reads' writes' : List ResourceId) : Prop where
  first : ∀ resource ∈ writes, resource ∉ reads' ∧ resource ∉ writes'
  second : ∀ resource ∈ writes', resource ∉ reads
  spawns : registry.ofKind .entitySpawnList writes = [] ∨ registry.ofKind .entitySpawnList writes' = []

theorem Independent.symm (independent : Independent registry reads writes reads' writes') :
    Independent registry reads' writes' reads writes where
  first resource written :=
    ⟨independent.second resource written, fun both => (independent.first resource both).2 written⟩
  second resource written := (independent.first resource written).1
  spawns := independent.spawns.symm

/-- What the one join writes is not used by the other. -/
theorem Independent.unused (independent : Independent registry reads writes reads' writes')
    (fits : plan.Fits registry reads writes) (fits' : plan'.Fits registry reads' writes')
    {entry : ResourceId × Kind} (used : entry ∈ plan'.inputs ++ plan'.outputs) : ¬plan.Stores entry.1 := by
  rintro ⟨kind, declared, _⟩
  have written : entry.1 ∈ writes := by
    rw [← fits.writes_eq]
    exact List.mem_map.mpr ⟨_, declared, rfl⟩
  obtain ⟨unread, unwritten⟩ := independent.first _ written
  rcases List.mem_append.mp used with read | output
  · rw [← fits'.reads_eq] at unread
    exact unread (List.mem_map_of_mem read)
  · rw [← fits'.writes_eq] at unwritten
    exact unwritten (List.mem_map_of_mem output)

/-- To a run of the one plan the data before and after a run of the other are the same. -/
theorem Footprint.agree {touched : Kind → Identity → Prop} {base data : Data μ}
    (footprint : Footprint plan touched base data)
    (independent : Independent registry reads writes reads' writes')
    (fits : plan.Fits registry reads writes) (fits' : plan'.Fits registry reads' writes')
    (based : base.SoundOver registry) (same : related base.memory data.memory) :
    Agree registry plan' related base.commands.spawns data.commands.spawns base data where
  based := based
  registry := footprint.registry
  entities := footprint.entities
  viewports := footprint.viewports
  length := footprint.length_eq based.sound
  storages _ used := footprint.storages (independent.unused fits fits' used)
  spawns := ⟨[], (List.append_nil _).symm, (List.append_nil _).symm⟩
  memory := same

/-- The data of two orders: the one plan leads from the base to `one` and from `two` to `both'`, the other
plan from the base to `two` and from `one` to `both`. -/
structure Diamond (registry : Registry) (plan plan' : Plan) (related related' : μ → μ → Prop)
    (base one two both both' : Data μ) : Prop where
  first : Footprint plan (fun _ _ => True) base one
  second : Footprint plan' (fun _ _ => True) one both
  first' : Footprint plan' (fun _ _ => True) base two
  second' : Footprint plan (fun _ _ => True) two both'
  agree : Agree registry plan related base.commands.spawns two.commands.spawns one both'
  agree' : Agree registry plan' related' one.commands.spawns base.commands.spawns both two

namespace Diamond

variable {related' : μ → μ → Prop} {base one two both both' : Data μ}

theorem storages (diamond : Diamond registry plan plan' related related' base one two both both')
    (independent : Independent registry reads writes reads' writes')
    (fits : plan.Fits registry reads writes) (fits' : plan'.Fits registry reads' writes') :
    both'.storages = both.storages := by
  apply List.ext_getElem?
  intro resource
  by_cases stored : plan.Stores resource
  · obtain ⟨kind, declared, _⟩ := stored
    have used : (resource, kind) ∈ plan.inputs ++ plan.outputs := List.mem_append_right _ declared
    have last := diamond.second.storages (independent.symm.unused fits' fits used)
    exact (diamond.agree.storages _ used).trans last.symm
  · rw [diamond.second'.storages stored]
    by_cases stored' : plan'.Stores resource
    · obtain ⟨kind, declared, _⟩ := stored'
      exact diamond.agree'.storages _ (List.mem_append_right _ declared)
    · rw [diamond.first'.storages stored', diamond.second.storages stored', diamond.first.storages stored]

/-- One of the runs asks for nothing, so the requests of the other wait behind the same ones in either
order. -/
theorem commands (diamond : Diamond registry plan plan' related related' base one two both both')
    (independent : Independent registry reads writes reads' writes')
    (fits : plan.Fits registry reads writes) (fits' : plan'.Fits registry reads' writes') :
    both'.commands = both.commands := by
  apply CommandQueue.ext
  · obtain ⟨added, asked, asks⟩ := diamond.agree.spawns
    obtain ⟨added', asks', asked'⟩ := diamond.agree'.spawns
    rcases independent.spawns with nothing | nothing
    · rw [diamond.second'.spawns_eq fits nothing, asked', asks', diamond.first.spawns_eq fits nothing]
    · rw [diamond.second.spawns_eq fits' nothing, asked, asks, diamond.first'.spawns_eq fits' nothing]
  · rw [diamond.second'.despawns_eq, diamond.first'.despawns_eq, diamond.second.despawns_eq,
      diamond.first.despawns_eq]

theorem closes (diamond : Diamond registry plan plan' related related' base one two both both')
    (independent : Independent registry reads writes reads' writes')
    (fits : plan.Fits registry reads writes) (fits' : plan'.Fits registry reads' writes')
    (memory : both'.memory = both.memory) : both' = both := by
  have storages := diamond.storages independent fits fits'
  have commands := diamond.commands independent fits fits'
  have registries : both'.registry = both.registry := by
    rw [diamond.second'.registry, diamond.first'.registry, diamond.second.registry, diamond.first.registry]
  have entities : both'.entities = both.entities := by
    rw [diamond.second'.entities, diamond.first'.entities, diamond.second.entities, diamond.first.entities]
  have viewports : both'.viewports = both.viewports := by
    rw [diamond.second'.viewports, diamond.first'.viewports, diamond.second.viewports, diamond.first.viewports]
  exact Data.ext registries storages entities viewports commands memory

end Diamond

/-- What a run that ended leaves keeps the footprint of its plan. -/
theorem run_stays_of_ok {callback : Callback μ} {live after : Live (Data μ)} {completed : Bool}
    (fits : plan.Fits registry reads writes) (based : live.core.SoundOver registry)
    (ended : run plan callback live = .ok completed after) :
    Footprint plan (fun _ _ => True) live.core after.core := by
  have fits' : plan.Fits live.core.registry reads writes := by
    rw [based.registry]
    exact fits
  have stays := run_stays fits' based.sound callback live.journal
  rw [leaves_of_ok ended] at stays
  exact stays.mono fun _ _ _ => trivial

/-- Independent runs commute. If neither run faults when the one comes first, neither faults when the other
comes first. Each of them then comes to the same result through the same calls, and the data that they
leave are the same: storages, pools, waiting requests and both memories. -/
theorem independent_runs_commute {scene : Live (Scene (μ × ν))} (reachable : Scene.Reachable registry scene)
    (accepted : Plan.make registry reads writes = .ok plan)
    (accepted' : Plan.make registry reads' writes' = .ok plan')
    (independent : Independent registry reads writes reads' writes')
    {callback : Callback μ} {callback' : Callback ν} {between after : Live (Data (μ × ν))}
    {completed completed' : Bool}
    (ran : run plan callback.first ⟨scene.journal, scene.core.data⟩ = .ok completed between)
    (ran' : run plan' callback'.second between = .ok completed' after) :
    ∃ between' after',
      run plan' callback'.second ⟨scene.journal, scene.core.data⟩ = .ok completed' between' ∧
      run plan callback.first between' = .ok completed after' ∧
      after'.core = after.core ∧
      calls plan' callback'.second ⟨scene.journal, scene.core.data⟩ =
        calls plan' callback'.second between ∧
      calls plan callback.first between' =
        calls plan callback.first ⟨scene.journal, scene.core.data⟩ := by
  have fits := Plan.make_fits accepted
  have fits' := Plan.make_fits accepted'
  have based : (⟨scene.journal, scene.core.data⟩ : Live (Data (μ × ν))).core.SoundOver registry :=
    reachable.soundOver
  generalize (⟨scene.journal, scene.core.data⟩ : Live (Data (μ × ν))) = start at based ran ⊢
  have first := run_stays_of_ok fits based ran
  have betweenBased := first.soundOver based
  have second := run_stays_of_ok fits' betweenBased ran'
  -- The run that came second meets the same data when it comes first.
  have spared := run_spares fits Callback.fst_apart based ran
  have before : Agree registry plan' (Callback.Owns Prod.snd Prod.fst _ _) _ _ between.core start.core :=
    (first.agree independent fits fits' based ⟨spared.symm, rfl, rfl⟩).symm betweenBased
  obtain ⟨between', ended', agree', same'⟩ := run_within fits' Callback.snd_apart before ran'
  have first' := run_stays_of_ok fits' based ended'
  have betweenBased' := first'.soundOver based
  obtain ⟨own', untouched, untouched'⟩ := agree'.memory
  -- So does the run that came first when it comes second.
  have behind : Agree registry plan (Callback.Owns Prod.fst Prod.snd _ _) _ _ start.core between'.core :=
    first'.agree independent.symm fits' fits based ⟨untouched', rfl, rfl⟩
  obtain ⟨after', ended, agree, same⟩ := run_within fits Callback.fst_apart behind ran
  have second' := run_stays_of_ok fits betweenBased' ended
  obtain ⟨own, _, spared'⟩ := agree.memory
  have diamond : Diamond registry plan plan' _ _ start.core between.core between'.core after.core
      after'.core := ⟨first, second, first', second', agree, agree'⟩
  have memory : after'.core.memory = after.core.memory :=
    Prod.ext (own.trans untouched.symm) (spared'.trans own')
  exact ⟨between', after', ended', ended, diamond.closes independent fits fits' memory, same', same⟩

/-- A new scene without jobs, and a counter for each of two callbacks. -/
def sampleStart : Scene (Nat × Nat) :=
  ⟨⟨Sample.registry, Sample.registry.descriptors.map Storage.ofDescriptor, .empty, .empty, .empty, (0, 0)⟩,
    .empty .update, .default, .zero⟩

def sampleJournal : Journal :=
  ((Scene.create Sample.registry ([] : List (Job (Nat × Nat))) .default).leaves ⟨{}, (0, 0)⟩).journal

/-- Two viewports, one of them with a size, and three events. -/
def samplePair : Live (Scene (Nat × Nat)) :=
  Scene.runAll [.addViewport, .addViewport, .emplaceViewportComponent 4 ⟨1, 0⟩ (.uint32 3),
    .sendEvent 6 (.uint32 1), .sendEvent 6 (.uint32 2), .sendEvent 6 (.uint32 3)] ⟨sampleJournal, sampleStart⟩

def sightPlan : Plan :=
  ⟨[(4, .viewportComponent), (6, .event)], [(5, .viewportComponent)], some 6, true, false⟩

def requestPlan : Plan := ⟨[(6, .event)], [(2, .entitySpawnList)], some 6, false, false⟩

/-- Counts the viewports with a size, and stops at the second event. -/
def sampleSight : Callback Nat := fun inputs => do
  modify fun seen => seen + 1
  (Request.set 0 (.uint32 1)).send
  pure (inputs.place.event != some 1)

/-- Asks for an entity at every event. -/
def sampleRequest : Callback Nat := fun _ => do
  modify fun asked => asked + 1
  (Request.set 0 (.spawnList [[(8, .uint32 5)]])).send
  pure true

def sampleBetween : Live (Data (Nat × Nat)) :=
  (run sightPlan sampleSight.first).leaves ⟨samplePair.journal, samplePair.core.data⟩

/-- The one job stops at the second event and the other asks three times, in either order. -/
theorem independent_runs_commute_sample :
    Scene.Reachable Sample.registry samplePair ∧ Plan.make Sample.registry [4, 6] [5] = .ok sightPlan ∧
      Plan.make Sample.registry [6] [2] = .ok requestPlan ∧
      Independent Sample.registry [4, 6] [5] [6] [2] ∧
      (run sightPlan sampleSight.first).answer? ⟨samplePair.journal, samplePair.core.data⟩ = some false ∧
      (run requestPlan sampleRequest.second).answer? sampleBetween = some true ∧
      ((run requestPlan sampleRequest.second).leaves sampleBetween).core.memory = (2, 3) ∧
      ((run requestPlan sampleRequest.second).leaves sampleBetween).core.commands.spawns.length = 3 ∧
      ∃ between' after',
        run requestPlan sampleRequest.second ⟨samplePair.journal, samplePair.core.data⟩ = .ok true between' ∧
        run sightPlan sampleSight.first between' = .ok false after' ∧
        after'.core = ((run requestPlan sampleRequest.second).leaves sampleBetween).core := by
  have created : Scene.create Sample.registry [] .default ⟨{}, (0, 0)⟩ =
      .ok (.ok sampleStart) ((Scene.create Sample.registry [] .default).leaves ⟨{}, (0, 0)⟩) := rfl
  have reachable : Scene.Reachable Sample.registry samplePair :=
    ⟨[], .default, ⟨{}, (0, 0)⟩, sampleStart, _, _, created, rfl⟩
  have accepted : Plan.make Sample.registry [4, 6] [5] = .ok sightPlan := rfl
  have accepted' : Plan.make Sample.registry [6] [2] = .ok requestPlan := rfl
  have independent : Independent Sample.registry [4, 6] [5] [6] [2] :=
    ⟨by decide, by decide, Or.inl rfl⟩
  have ran : (run sightPlan sampleSight.first).answer? ⟨samplePair.journal, samplePair.core.data⟩ =
    some false := by decide +kernel
  have ran' : (run requestPlan sampleRequest.second).answer? sampleBetween = some true := by decide +kernel
  obtain ⟨between', after', ended', ended, same, _, _⟩ := independent_runs_commute reachable accepted
    accepted' independent (eq_ok_of_answer? ran) (eq_ok_of_answer? ran')
  exact ⟨reachable, accepted, accepted', independent, ran, ran', by decide +kernel, by decide +kernel,
    between', after', ended', ended, same⟩

end Orders

end Join

end EntityScene
