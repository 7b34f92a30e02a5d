import EntityScene.Trace.Host

/-!
Trace files and shutting down. The first shutdown of a recorder writes all events that it recorded. It
leaves none of them behind, but it does not forget the path; so another shutdown, which has nothing to
write, overwrites the file with an empty trace.
-/

namespace EntityScene.Trace

/-- What is removed under a key is not found there. -/
theorem lookup_removed {α β : Type} [BEq α] [LawfulBEq α] (key : α) (entries : List (α × β)) :
    (entries.filter fun entry => entry.1 != key).lookup key = none := by
  rw [List.lookup_eq_none_iff]
  intro entry member
  have apart := (List.mem_filter.mp member).2
  simpa [bne_comm] using apart

namespace Disk

variable {disk : Disk} {path : String} {directory : Place} {name : String} {file : File}

/-- A file can be written at the path: its directory is there, and so is no directory of its name. -/
structure Takes (disk : Disk) (path : String) (directory : Place) (name : String) : Prop where
  usable : usable path = true
  named : namesFile path = true
  walk : disk.walk (origin path) (names path).dropLast = some directory
  last : (names path).getLast? = some name
  free : disk.isDirectory (directory.child name) = false
  admissible : admissible name = true

/-- The disk with another file at the place. -/
def withFile (disk : Disk) (place : Place) (file : File) : Disk :=
  { disk with files := disk.files.filter (fun entry => entry.1 != place) ++ [(place, file)] }

theorem walk_withFile (place : Place) (start : Place) (route : List String) :
    (disk.withFile place file).walk start route = disk.walk start route := by
  induction route generalizing start with
  | nil => rfl
  | cons name rest ih =>
      simp only [walk, ih]
      rfl

/-- A way along directories that are there needs no new ones. -/
theorem makeDirectories_of_walk {start place : Place} {route : List String}
    (found : disk.walk start route = some place) : disk.makeDirectories start route = (some place, disk) := by
  induction route generalizing start with
  | nil =>
      cases found
      rfl
  | cons name rest ih =>
      unfold walk at found
      unfold makeDirectories
      split at found
      · rename_i up
        simp only [up, if_true]
        exact ih found
      · rename_i down
        split at found
        · rename_i there
          simp only [down, there, if_true]
          exact ih found
        · cases found

namespace Takes

variable (takes : disk.Takes path directory name)

include takes

theorem write (file : File) : disk.write path file = (true, disk.withFile (directory.child name) file) := by
  simp [Disk.write, takes.usable, takes.named, takes.walk, takes.last, put, takes.free, takes.admissible, withFile]

theorem save (file : File) : disk.save path file = (true, disk.withFile (directory.child name) file) := by
  simp only [Disk.save, takes.usable, makeDirectories_of_walk takes.walk, takes.write file, if_true]

/-- Another file can be written afterwards. -/
theorem again (file : File) : (disk.withFile (directory.child name) file).Takes path directory name :=
  { takes with walk := (walk_withFile _ _ _).trans takes.walk, free := takes.free }

theorem read (file : File) : (disk.withFile (directory.child name) file).read path = some file := by
  simp only [Disk.read, takes.usable, takes.named, Bool.and_self, if_true, walk_withFile, takes.walk, takes.last]
  simp [withFile, List.lookup_append, lookup_removed]

end Takes

theorem takes_of_write (written : (disk.write path file).1 = true) :
    ∃ directory name, disk.Takes path directory name := by
  unfold write at written
  split at written
  · rename_i directory name usable walk last
    unfold put at written
    dsimp only at written
    split at written
    · cases written
    · rename_i fits
      simp only [Bool.or_eq_true, Bool.not_eq_true', not_or, Bool.not_eq_true, Bool.not_eq_false] at fits
      obtain ⟨usable, named⟩ := Bool.and_eq_true_iff.mp usable
      exact ⟨directory, name, usable, named, walk, last, fits.1, fits.2⟩
  · cases written

/-- A file that was saved can be read and overwritten. -/
theorem takes_of_save (saved : (disk.save path file).1 = true) :
    ∃ directory name, (disk.save path file).2.Takes path directory name ∧
      (disk.save path file).2.read path = some file := by
  unfold save at saved ⊢
  split at saved
  · rename_i usable
    simp only [usable, if_true]
    split at saved
    · cases saved
    · rename_i place made route
      obtain ⟨directory, name, takes⟩ := takes_of_write saved
      rw [takes.write file]
      exact ⟨directory, name, takes.again file, takes.read file⟩
  · cases saved

end Disk

@[simp] theorem Recorder.session_enter (recorder : Recorder) (thread : Nat) (name : String) :
    (recorder.enter thread name).2.session = recorder.session := by
  unfold enter enlist
  split
  · dsimp only
    split <;> rfl
  · rfl

namespace Host

/-- What a program does with the recorder on its main thread. -/
inductive Operation where
  | start (path : String)
  | openSpan (name : String) (arguments : List (String × Argument))
  | attach (number : Nat) (key : String) (value : Argument)
  | closeSpan (number : Nat)
  | stop
  deriving DecidableEq

def Operation.perform : Operation → Host → Host
  | .start path, host => host.start path
  | .openSpan name arguments, host => (host.openSpan name arguments).2
  | .attach number key value, host => host.attach number key value
  | .closeSpan number, host => host.closeSpan number
  | .stop, host => host.stop.2

/-- The program after the operations. -/
def runAll (operations : List Operation) (host : Host) : Host :=
  operations.foldl (fun host operation => operation.perform host) host

@[simp] theorem runAll_append (first second : List Operation) (host : Host) :
    runAll (first ++ second) host = runAll second (runAll first host) := List.foldl_append

@[simp] theorem runAll_cons (operation : Operation) (rest : List Operation) (host : Host) :
    runAll (operation :: rest) host = runAll rest (operation.perform host) := rfl

@[simp] theorem runAll_nil (host : Host) : runAll [] host = host := rfl

/-- The operation starts the recorder, at whatever path. -/
def Operation.starts : Operation → Bool
  | .start _ => true
  | _ => false

/-- The recorder has been started at the path, records, and has recorded the events. -/
def Records (path : String) (events : List Event) (host : Host) : Prop :=
  host.recorder.session = some ⟨path, true, events⟩

/-- The recorder has been turned off, and the file that it wrote lists the events. -/
structure Wrote (path : String) (directory : Place) (name : String) (events : List Event) (host : Host) : Prop where
  session : host.recorder.session = some ⟨path, false, []⟩
  takes : host.disk.Takes path directory name
  read : host.disk.read path = some (.trace (events.map Event.entry))

section Steps

variable {path : String} {events : List Event} {host : Host} {operation : Operation}

theorem perform_unstarted (idle : host.recorder.session = none) (other : operation.starts = false) :
    (operation.perform host).recorder.session = none := by
  cases operation with
  | start => cases other
  | openSpan | attach | closeSpan | stop =>
      simp [Operation.perform, openSpan, attach, closeSpan, stop, Recorder.enter, Recorder.isOn, Recorder.leave,
        Recorder.shutdown, idle]

theorem runAll_unstarted {operations : List Operation} (idle : host.recorder.session = none)
    (others : ∀ operation ∈ operations, operation.starts = false) :
    (runAll operations host).recorder.session = none := by
  induction operations generalizing host with
  | nil => exact idle
  | cons operation rest ih =>
      obtain ⟨first, later⟩ := List.forall_mem_cons.mp others
      exact ih (perform_unstarted idle first) later

theorem start_records (idle : host.recorder.session = none) (path : String) :
    (host.start path).Records path [] := by
  simp [Records, start, Recorder.init, idle]

/-- The events that the operation leaves if the recorder is on. -/
def released (host : Host) : Operation → List Event
  | .closeSpan number => (host.spans[number]?).join.toList
  | _ => []

/-- Once it has been started, the recorder goes on until it is shut down. -/
theorem perform_records (records : host.Records path events) (other : operation ≠ .stop) :
    (operation.perform host).Records path (events ++ host.released operation) := by
  unfold Records at records ⊢
  cases operation with
  | stop => exact absurd rfl other
  | start again => simp [Operation.perform, start, Recorder.init, records, released]
  | attach => simp [Operation.perform, attach, records, released]
  | openSpan => simp [Operation.perform, openSpan, records, released]
  | closeSpan number =>
      cases held : (host.spans[number]?).join <;>
        simp [Operation.perform, closeSpan, Recorder.leave, records, released, held]

theorem runAll_records {operations : List Operation} (records : host.Records path events)
    (others : .stop ∉ operations) : ∃ more, (runAll operations host).Records path (events ++ more) := by
  induction operations generalizing host events with
  | nil => exact ⟨[], by simpa using records⟩
  | cons operation rest ih =>
      simp only [List.mem_cons, not_or] at others
      obtain ⟨more, recorded⟩ := ih (perform_records records (Ne.symm others.1)) others.2
      exact ⟨_, by simpa [List.append_assoc] using recorded⟩

/-- The first start of the recorder decides where it writes. -/
theorem runAll_started {disk : Disk} {before during : List Operation}
    (unstarted : ∀ operation ∈ before, operation.starts = false) (running : .stop ∉ during) :
    ∃ events, (runAll (before ++ .start path :: during) { disk }).Records path events := by
  rw [runAll_append, runAll_cons]
  have idle : (runAll before { disk }).recorder.session = none := runAll_unstarted rfl unstarted
  obtain ⟨events, records⟩ := runAll_records (start_records idle path) running
  exact ⟨_, records⟩

/-- A shutdown that can write its file lists what was recorded there. -/
theorem stop_wrote (records : host.Records path events) (written : host.stop.1 = none) :
    ∃ directory name, host.stop.2.Wrote path directory name events := by
  unfold Records at records
  simp only [stop, Recorder.shutdown, records] at written ⊢
  have saved : (host.disk.save path (.trace (events.map Event.entry))).1 = true := by
    split at written
    · assumption
    · cases written
  obtain ⟨directory, name, takes, read⟩ := Disk.takes_of_save saved
  exact ⟨directory, name, rfl, takes, read⟩

variable {directory : Place} {name : String}

/-- After that, only another shutdown touches the file. -/
theorem Wrote.perform (wrote : host.Wrote path directory name events) (other : operation ≠ .stop) :
    (operation.perform host).Wrote path directory name events := by
  obtain ⟨session, takes, read⟩ := wrote
  refine ⟨?_, ?_, ?_⟩
  · cases operation with
    | stop => exact absurd rfl other
    | attach => exact session
    | start | openSpan => simp [Operation.perform, start, openSpan, Recorder.init, session]
    | closeSpan number =>
        cases held : (host.spans[number]?).join <;>
          simp [Operation.perform, closeSpan, Recorder.leave, session, held]
  · cases operation with
    | stop => exact absurd rfl other
    | start | openSpan | attach | closeSpan => exact takes
  · cases operation with
    | stop => exact absurd rfl other
    | start | openSpan | attach | closeSpan => exact read

/-- Another shutdown has nothing to list. -/
theorem Wrote.stop (wrote : host.Wrote path directory name events) :
    (Operation.stop.perform host).Wrote path directory name [] := by
  simp only [Operation.perform, Host.stop, Recorder.shutdown, wrote.session, wrote.takes.save]
  exact ⟨rfl, wrote.takes.again _, wrote.takes.read _⟩

theorem Wrote.runAll (wrote : host.Wrote path directory name events) (operations : List Operation) :
    (Host.runAll operations host).Wrote path directory name (if .stop ∈ operations then [] else events) := by
  induction operations generalizing host events with
  | nil => exact wrote
  | cons operation rest ih =>
      by_cases stops : operation = .stop
      · have later := ih (stops ▸ wrote.stop)
        simpa [stops] using later
      · have later := ih (wrote.perform stops)
        simpa [Ne.symm stops] using later

end Steps

/-- The first shutdown after the recorder was started writes what was recorded. Whatever the program does
then, the file keeps this list as long as the recorder is not shut down again, and lists nothing any more
once it is. So all is as after the first shutdown exactly if there is no other or nothing was recorded. -/
theorem later_stop_empties_trace (disk : Disk) (path : String) (before during later : List Operation)
    (unstarted : ∀ operation ∈ before, operation.starts = false) (running : .stop ∉ during)
    (written : (runAll (before ++ .start path :: during) { disk }).stop.1 = none) :
    ∃ events, (runAll (before ++ .start path :: during) { disk }).Records path events ∧
      let first := runAll (before ++ .start path :: during ++ [.stop]) { disk }
      let last := runAll (before ++ .start path :: during ++ .stop :: later) { disk }
      first.disk.read path = some (.trace (events.map Event.entry)) ∧
        last.disk.read path = some (.trace (if .stop ∈ later then [] else events.map Event.entry)) ∧
        (last.disk.read path = first.disk.read path ↔ .stop ∉ later ∨ events = []) := by
  obtain ⟨events, records⟩ := runAll_started unstarted running
  obtain ⟨directory, name, wrote⟩ := stop_wrote records written
  have first := wrote.read
  have last := (wrote.runAll later).read
  refine ⟨events, records, ?_⟩
  simp only [runAll_append _ [.stop], runAll_append _ (.stop :: later), runAll_cons, runAll_nil, Operation.perform]
  rw [first, last]
  by_cases again : Operation.stop ∈ later
  · simp [again, eq_comm]
  · simp [again]

/-- A span is recorded and written, and then the recorder is shut down twice more. -/
theorem later_stop_empties_trace_sample :
    let before : List Operation := [.openSpan "early" [], .stop]
    let during : List Operation := [.openSpan "load" [], .start "other.json", .closeSpan 1, .closeSpan 0]
    let later : List Operation := [.stop, .openSpan "late" [], .start "t.json", .closeSpan 2, .stop]
    (∀ operation ∈ before, operation.starts = false) ∧ .stop ∉ during ∧
      (runAll (before ++ .start "a/t.json" :: during) {}).stop.1 = none ∧
      (runAll (before ++ .start "a/t.json" :: during) {}).Records "a/t.json" [⟨"load", 1, []⟩] ∧
      (runAll (before ++ .start "a/t.json" :: during ++ .stop :: later) {}).disk.read "a/t.json" =
        some (.trace []) := by
  have unstarted : ∀ operation ∈ [Operation.openSpan "early" [], .stop], operation.starts = false := by decide
  have running : Operation.stop ∉
      [Operation.openSpan "load" [], .start "other.json", .closeSpan 1, .closeSpan 0] := by decide
  have written : (runAll ([.openSpan "early" [], .stop] ++ .start "a/t.json" ::
      [.openSpan "load" [], .start "other.json", .closeSpan 1, .closeSpan 0]) {}).stop.1 = none := by decide +kernel
  obtain ⟨events, _, _, last, _⟩ := later_stop_empties_trace {} "a/t.json" _ _
    [.stop, .openSpan "late" [], .start "t.json", .closeSpan 2, .stop] unstarted running written
  rw [if_pos (by decide)] at last
  exact ⟨unstarted, running, written, by unfold Records; decide +kernel, last⟩

/-- The event of a span is in the file after the first shutdown and gone after the second. -/
theorem second_stop_loses_event :
    let operations : List Operation := [.start "t.json", .openSpan "load" [], .closeSpan 0, .stop]
    (runAll operations {}).disk.read "t.json" = some (.trace [Event.entry ⟨"load", 1, []⟩]) ∧
      (runAll (operations ++ [.stop]) {}).disk.read "t.json" = some (.trace []) := by
  decide +kernel

end Host

end EntityScene.Trace
