import EntityScene.Proofs.TickSpans
import EntityScene.Proofs.TraceFiles
import Mathlib.Data.List.Forall2

/-!
What a trace file lists. A span may be opened before the recorder is started or closed after it was shut
down; it leaves an event exactly if both happen in between. The events are listed in the order in which the
spans were closed, and each has the last value that was attached for each key.
-/

namespace EntityScene

namespace Trace

section Arguments

end Arguments

/-- A span that was closed: its name and all that was attached to it, in order. -/
structure Closing where
  name : String
  given : List (String × Argument)
  deriving DecidableEq

/-- The event as the recorder makes it. -/
def Closing.event (closing : Closing) : Event := ⟨closing.name, 1, attached [] closing.given⟩

namespace Host

/-- The operation opens a span. -/
def Operation.opens : Operation → Bool
  | .openSpan _ _ => true
  | _ => false

/-- What the operation attaches to the span with the number. -/
def Operation.gives? (number : Nat) : Operation → Option (String × Argument)
  | .attach other key value => if other = number then some (key, value) else none
  | _ => none

/-- Spans are numbered in the order in which they are opened; `count` were opened before. What was said when
the span with the number was opened, and the operations since. -/
def sinceOpening (number count : Nat) :
    List Operation → Option (String × List (String × Argument) × List Operation)
  | [] => none
  | .openSpan name arguments :: rest =>
    if count = number then some (name, arguments, rest) else sinceOpening number (count + 1) rest
  | _ :: rest => sinceOpening number count rest

/-- The span with the number, if it has been opened and not been closed since. -/
def open? (number count : Nat) (operations : List Operation) : Option Closing := do
  let (name, arguments, since) ← sinceOpening number count operations
  if .closeSpan number ∈ since then none
  else some ⟨name, arguments ++ since.filterMap (Operation.gives? number)⟩

/-- The span that the operation closes, after others. -/
def closing? (count : Nat) (done : List Operation) : Operation → Option Closing
  | .closeSpan number => open? number count done
  | _ => none

/-- The spans that the operations close, in order, after others. -/
def closings (count : Nat) (done : List Operation) : List Operation → List Closing
  | [] => []
  | operation :: rest => (closing? count done operation).toList ++ closings count (done ++ [operation]) rest

section Opened

variable {number count : Nat} {done : List Operation}

theorem sinceOpening_concat (number count : Nat) (done : List Operation) (operation : Operation) :
    sinceOpening number count (done ++ [operation]) =
      match sinceOpening number count done with
      | some (name, arguments, since) => some (name, arguments, since ++ [operation])
      | none => sinceOpening number (count + done.countP Operation.opens) [operation] := by
  induction done generalizing count with
  | nil => rfl
  | cons first rest ih =>
      cases first with
      | openSpan name arguments =>
          by_cases here : count = number
          · simp [sinceOpening, here]
          · simp [sinceOpening, here, ih, Operation.opens, List.countP_cons, Nat.add_assoc, Nat.add_comm 1]
      | start | attach | closeSpan | stop => simp [sinceOpening, ih, Operation.opens]

theorem sinceOpening_lt {found : String × List (String × Argument) × List Operation}
    (opened : sinceOpening number count done = some found) : number < count + done.countP Operation.opens := by
  induction done generalizing count with
  | nil => cases opened
  | cons first rest ih =>
      cases first with
      | openSpan name arguments =>
          simp only [List.countP_cons, Operation.opens, if_true]
          by_cases here : count = number
          · omega
          · rw [sinceOpening, if_neg here] at opened
            have later := ih opened
            omega
      | start | attach | closeSpan | stop => simpa [Operation.opens] using ih opened

theorem open?_openSpan (name : String) (arguments : List (String × Argument)) :
    open? number count (done ++ [.openSpan name arguments]) =
      if number = count + done.countP Operation.opens then some ⟨name, arguments⟩ else open? number count done := by
  unfold open?
  rw [sinceOpening_concat]
  cases opened : sinceOpening number count done with
  | none =>
      by_cases here : number = count + done.countP Operation.opens
      · simp [sinceOpening, here]
      · simp [sinceOpening, here, Ne.symm here]
  | some found =>
      have earlier := sinceOpening_lt opened
      simp [show number ≠ count + done.countP Operation.opens by omega, List.filterMap_cons, Operation.gives?]

/-- An operation that opens no span closes the span or adds what it attaches to it. -/
theorem open?_concat {operation : Operation} (quiet : operation.opens = false) :
    open? number count (done ++ [operation]) =
      if operation = .closeSpan number then none
      else (open? number count done).map fun closing =>
        ⟨closing.name, closing.given ++ (operation.gives? number).toList⟩ := by
  unfold open?
  rw [sinceOpening_concat]
  cases sinceOpening number count done with
  | none =>
      cases operation with
      | openSpan => cases quiet
      | start | attach | closeSpan | stop => simp [sinceOpening]
  | some found =>
      have given : [operation].filterMap (Operation.gives? number) = (operation.gives? number).toList := by
        cases gives : operation.gives? number <;> simp [gives]
      by_cases closes : operation = .closeSpan number
      · simp [closes]
      · by_cases closed : Operation.closeSpan number ∈ found.2.2 <;> simp [closes, Ne.symm closes, closed, given]

end Opened

/-- The operations `done` since the recorder was started, `count` spans being opened by then, left the events;
the spans that are open are those of the operations. -/
structure Tracks (path : String) (count : Nat) (done : List Operation) (events : List Event) (host : Host) : Prop where
  records : host.Records path events
  threads : host.recorder.threads = [] ∨ host.recorder.threads = [0]
  length : host.spans.length = count + done.countP Operation.opens
  spans (number : Nat) : (host.spans[number]?).join = (open? number count done).map Closing.event

section Tracking

variable {path : String} {count : Nat} {done : List Operation} {events : List Event} {host : Host}

/-- The recorder knows no other thread than the main thread. -/
theorem enter_main {recorder : Recorder} (on : recorder.isOn = true)
    (threads : recorder.threads = [] ∨ recorder.threads = [0]) (name : String) :
    (recorder.enter 0 name).1 = some ⟨name, 1, []⟩ ∧ (recorder.enter 0 name).2.threads = [0] := by
  rcases threads with none | main
  · simp [Recorder.enter, on, Recorder.enlist, Recorder.number, none]
  · simp [Recorder.enter, on, Recorder.enlist, Recorder.number, main]

/-- The recorder is started once and for all. -/
theorem start_started (started : host.recorder.session.isSome = true) (path : String) :
    host.start path = host := by
  obtain ⟨session, found⟩ := Option.isSome_iff_exists.mp started
  simp [Host.start, Recorder.init, found]

theorem Records.started (records : host.Records path events) : host.recorder.session.isSome = true := by
  unfold Records at records
  simp [records]

theorem Records.isOn (records : host.Records path events) : host.recorder.isOn = true := by
  unfold Records at records
  simp [Recorder.isOn, records]

theorem Tracks.openSpan (tracks : host.Tracks path count done events) (name : String)
    (arguments : List (String × Argument)) :
    (host.openSpan name arguments).2.Tracks path count (done ++ [.openSpan name arguments]) events := by
  obtain ⟨guard, threads⟩ := enter_main tracks.records.isOn tracks.threads name
  constructor
  · have kept : ((Operation.openSpan name arguments).perform host).Records path _ :=
      perform_records tracks.records (by simp)
    simpa [released, Operation.perform] using kept
  · exact .inr threads
  · simp [Host.openSpan, tracks.length, Operation.opens, Nat.add_assoc]
  · intro number
    rw [open?_openSpan, ← tracks.length]
    simp only [Host.openSpan, guard, Guard.withArgs_some]
    by_cases here : number = host.spans.length
    · simp [here, Closing.event]
    · rw [if_neg here, ← tracks.spans]
      rcases Nat.lt_or_gt_of_ne here with inside | outside
      · rw [List.getElem?_append_left inside]
      · rw [List.getElem?_eq_none (by simp; omega), List.getElem?_eq_none (by omega)]

theorem Tracks.attach (tracks : host.Tracks path count done events) (other : Nat) (key : String)
    (value : Argument) :
    (host.attach other key value).Tracks path count (done ++ [.attach other key value]) events := by
  constructor
  · exact tracks.records
  · exact tracks.threads
  · simpa [Host.attach, Operation.opens] using tracks.length
  · intro number
    have held := tracks.spans number
    rw [open?_concat rfl, if_neg (by simp)]
    simp only [Host.attach, List.getElem?_modify, Operation.gives?]
    by_cases same : other = number
    · simp only [same, if_true]
      have moved : ((fun guard => guard.withArg key value) <$> host.spans[number]?).join =
          Guard.withArg (host.spans[number]?).join key value := by
        cases host.spans[number]? <;> rfl
      rw [moved, held]
      cases open? number count done with
      | none => rfl
      | some closing => simp [Guard.withArg, Closing.event, attached]
    · simpa [same] using held

theorem Tracks.closeSpan (tracks : host.Tracks path count done events) (other : Nat) :
    (host.closeSpan other).Tracks path count (done ++ [.closeSpan other])
      (events ++ ((open? other count done).map Closing.event).toList) := by
  constructor
  · rw [← tracks.spans]
    exact (perform_records tracks.records (by simp) : ((Operation.closeSpan other).perform host).Records path _)
  · have same : (host.closeSpan other).recorder.threads = host.recorder.threads := by
      unfold Host.closeSpan Recorder.leave
      dsimp only
      split
      · split <;> rfl
      · rfl
    rw [same]
    exact tracks.threads
  · simpa [Host.closeSpan, Operation.opens] using tracks.length
  · intro number
    rw [open?_concat rfl]
    simp only [Host.closeSpan, List.getElem?_set, Operation.closeSpan.injEq, Operation.gives?]
    by_cases same : other = number
    · simp only [same, if_true]
      split <;> rfl
    · simpa [same] using tracks.spans number

theorem Tracks.start (tracks : host.Tracks path count done events) (other : String) :
    (host.start other).Tracks path count (done ++ [.start other]) events := by
  rw [start_started tracks.records.started]
  refine { tracks with length := ?_, spans := ?_ }
  · simpa [Operation.opens] using tracks.length
  · intro number
    rw [open?_concat rfl]
    simpa [Operation.gives?] using tracks.spans number

/-- Of the operations, only those that close an open span leave an event. -/
theorem Tracks.perform (tracks : host.Tracks path count done events) {operation : Operation}
    (other : operation ≠ .stop) :
    (operation.perform host).Tracks path count (done ++ [operation])
      (events ++ (closing? count done operation).toList.map Closing.event) := by
  cases operation with
  | stop => exact absurd rfl other
  | start again => simpa [closing?, Operation.perform] using tracks.start again
  | openSpan name arguments => simpa [closing?, Operation.perform] using tracks.openSpan name arguments
  | attach number key value => simpa [closing?, Operation.perform] using tracks.attach number key value
  | closeSpan number => simpa [closing?, Operation.perform, Option.toList_map] using tracks.closeSpan number

theorem Tracks.runAll (tracks : host.Tracks path count done events) {operations : List Operation}
    (running : .stop ∉ operations) :
    (Host.runAll operations host).Tracks path count (done ++ operations)
      (events ++ (closings count done operations).map Closing.event) := by
  induction operations generalizing host done events with
  | nil => simpa [closings] using tracks
  | cons operation rest ih =>
      simp only [List.mem_cons, not_or] at running
      have later := ih (tracks.perform (Ne.symm running.1)) running.2
      simpa [closings, List.append_assoc] using later

/-- The recorder was not started yet, so no span can leave an event. -/
structure Idle (done : List Operation) (host : Host) : Prop where
  session : host.recorder.session = none
  threads : host.recorder.threads = []
  spans : host.spans = List.replicate (done.countP Operation.opens) none

theorem withArgs_none (arguments : List (String × Argument)) : Guard.withArgs none arguments = none := by
  induction arguments with
  | nil => rfl
  | cons entry rest ih => exact ih

theorem Idle.perform (idle : host.Idle done) {operation : Operation} (other : operation.starts = false) :
    (operation.perform host).Idle (done ++ [operation]) := by
  have session := perform_unstarted idle.session other
  have off : host.recorder.isOn = false := by simp [Recorder.isOn, idle.session]
  cases operation with
  | start => cases other
  | stop =>
      have unchanged : Operation.stop.perform host = host := by
        simp [Operation.perform, Host.stop, Recorder.shutdown, idle.session]
      rw [unchanged]
      exact ⟨idle.session, idle.threads, by simpa [Operation.opens] using idle.spans⟩
  | openSpan name arguments =>
      have unchanged : host.recorder.enter 0 name = (none, host.recorder) := by simp [Recorder.enter, off]
      refine ⟨session, ?_, ?_⟩
      · simp [Operation.perform, Host.openSpan, unchanged, idle.threads]
      · simp [Operation.perform, Host.openSpan, unchanged, withArgs_none, idle.spans, Operation.opens,
          List.replicate_succ']
  | attach number key value =>
      refine ⟨session, idle.threads, ?_⟩
      apply List.ext_getElem?
      intro position
      simp only [Operation.perform, Host.attach, idle.spans, List.getElem?_modify, List.getElem?_replicate]
      split <;> simp_all [Operation.opens, Guard.withArg]
  | closeSpan number =>
      have unchanged (guard : Guard) : host.recorder.leave guard = host.recorder := by
        simp [Recorder.leave, idle.session]
      refine ⟨session, ?_, ?_⟩
      · simp [Operation.perform, Host.closeSpan, unchanged, idle.threads]
      · simp [Operation.perform, Host.closeSpan, idle.spans, Operation.opens]

theorem Idle.runAll (idle : host.Idle done) {operations : List Operation}
    (unstarted : ∀ operation ∈ operations, operation.starts = false) :
    (Host.runAll operations host).Idle (done ++ operations) := by
  induction operations generalizing host done with
  | nil => simpa using idle
  | cons operation rest ih =>
      obtain ⟨first, later⟩ := List.forall_mem_cons.mp unstarted
      simpa using ih (idle.perform first) later

/-- Spans that were opened before the recorder was started are counted and not tracked. -/
theorem Idle.start (idle : host.Idle done) (path : String) :
    (host.start path).Tracks path (done.countP Operation.opens) [] [] where
  records := start_records idle.session path
  threads := .inl (by simp [Host.start, Recorder.init, idle.session, idle.threads])
  length := by simp [Host.start, idle.spans]
  spans number := by
    show (host.spans[number]?).join = none
    rw [idle.spans, List.getElem?_replicate]
    split <;> rfl

end Tracking

end Host

open Host

end Trace

end EntityScene
