import EntityScene.Trace.Disk

/-!
The span recorder. It is started once, with the path of its trace file. A span leaves an event when the
recorder is on both when the span opens and when it closes; shutting down writes the events recorded
since the last writing and turns the recorder off for good.
-/

namespace EntityScene.Trace

/-- The recorder in use: where it writes, whether it is on, and what it has recorded. -/
structure Session where
  path : String
  recording : Bool
  events : List Event
  deriving DecidableEq, Repr, Inhabited

/-- A thread is numbered at its first active span, from one on. -/
structure Recorder where
  session : Option Session := none
  threads : List Nat := []
  deriving DecidableEq, Repr, Inhabited

/-- An open span. A span that was opened while the recorder was off is `none` and leaves no event. -/
abbrev Guard := Option Event

/-- Gives the argument a value, in place of the one it had under the same key. -/
def Guard.withArg (guard : Guard) (key : String) (value : Argument) : Guard :=
  guard.map fun event =>
    { event with
      arguments := event.arguments.filter (fun entry => entry.1 != key) ++ [(key, value)] }

def Guard.withArgs (guard : Guard) (arguments : List (String × Argument)) : Guard :=
  arguments.foldl (fun guard (key, value) => guard.withArg key value) guard

namespace Recorder

/-- Starts the recorder; it starts only once. -/
def init (recorder : Recorder) (path : String) : Recorder :=
  match recorder.session with
  | some _ => recorder
  | none => { recorder with session := some ⟨path, true, []⟩ }

def isOn (recorder : Recorder) : Bool :=
  match recorder.session with
  | some session => session.recording
  | none => false

/-- The recorder knows the thread afterwards. -/
def enlist (recorder : Recorder) (thread : Nat) : Recorder :=
  if recorder.threads.contains thread then recorder
  else { recorder with threads := recorder.threads ++ [thread] }

/-- The number under which the trace lists a thread. -/
def number (recorder : Recorder) (thread : Nat) : Nat := recorder.threads.idxOf thread + 1

/-- Opens a span on a thread. -/
def enter (recorder : Recorder) (thread : Nat) (name : String) : Guard × Recorder :=
  if recorder.isOn then
    let recorder := recorder.enlist thread
    (some ⟨name, recorder.number thread, []⟩, recorder)
  else (none, recorder)

/-- Closes a span. -/
def leave (recorder : Recorder) (guard : Guard) : Recorder :=
  match guard, recorder.session with
  | some event, some session =>
    if session.recording then
      { recorder with session := some { session with events := session.events ++ [event] } }
    else recorder
  | _, _ => recorder

/-- What is logged when the trace file cannot be written. -/
def failureText (path : String) : String := "failed to write trace to " ++ path

/-- Turns the recorder off and writes its events. The answer is the path of a file that could not be
written; the events are gone then. -/
def shutdown (recorder : Recorder) (disk : Disk) : Option String × Recorder × Disk :=
  match recorder.session with
  | none => (none, recorder, disk)
  | some session =>
    let (written, disk) := disk.save session.path (.trace (session.events.map Event.entry))
    (if written then none else some session.path,
      { recorder with session := some { session with recording := false, events := [] } }, disk)

end Recorder

end EntityScene.Trace
