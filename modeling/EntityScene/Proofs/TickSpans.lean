import EntityScene.Proofs.Construction

/-!
The spans of a tick. An act that does not look at the journal opens no spans, so the recorder sees of a tick
only the tick itself, its jobs and their joins. Each of these spans closes however it ends: a join closes
inside of its job, and the jobs that were started close before the tick does.
-/

namespace EntityScene

open Act

variable {σ μ α : Type}

namespace Trace

/-- The arguments after others were attached: each key has the value that it was given last. -/
def attached (arguments more : List (String × Argument)) : List (String × Argument) :=
  more.foldl (fun arguments entry => arguments.filter (fun other => other.1 != entry.1) ++ [entry]) arguments

theorem Guard.withArgs_some (event : Event) (arguments : List (String × Argument)) :
    Guard.withArgs (some event) arguments = some { event with arguments := attached event.arguments arguments } := by
  induction arguments generalizing event with
  | nil => rfl
  | cons entry rest ih => exact ih _

/-- The threads that the recorder knows after a span of the thread. -/
def enlisted (threads : List Nat) (thread : Nat) : List Nat :=
  if threads.contains thread then threads else threads ++ [thread]

end Trace

/-- The recorder is on, writes to the path, knows the threads and has recorded the events; the acts run on the
thread. -/
structure Journal.Notes (path : String) (threads : List Nat) (thread : Nat) (events : List Trace.Event)
    (journal : Journal) : Prop where
  recorder : journal.recorder = ⟨some ⟨path, true, events⟩, threads⟩
  thread : journal.thread = thread

section Spans

variable {path : String} {threads : List Nat} {thread : Nat} {events new : List Trace.Event} {act : Act σ α}
  {live : Live σ}

/-- An act that does not look at the journal leaves the recorder alone. -/
theorem Act.Uniform.notes (uniform : Uniform act) (notes : live.journal.Notes path threads thread events) :
    Ends act live fun _ after => after.journal.Notes path threads thread events := by
  have link : Journal.Link fun journal _ => journal.Notes path threads thread events :=
    ⟨fun _ kept => ⟨kept.recorder, kept.thread⟩, fun _ kept => ⟨kept.recorder, kept.thread⟩⟩
  have alike := uniform _ link live live ⟨rfl, notes⟩
  unfold Ends
  generalize act live = result at alike
  cases alike with
  | ok kept => exact kept.2
  | error kept => exact kept.2

theorem Journal.Notes.within (notes : live.journal.Notes path threads thread events) (name : String) :
    (live.within name).journal.Notes path (Trace.enlisted threads thread) thread events := by
  constructor
  · simp only [Live.within, Trace.Recorder.enter, Trace.Recorder.isOn, Trace.Recorder.enlist, notes.recorder,
      notes.thread, Trace.enlisted, if_true]
    split <;> rfl
  · exact notes.thread

end Spans

namespace Join

variable {path : String} {threads : List Nat} {thread : Nat} {events : List Trace.Event}

end Join

namespace Schedule

variable {path : String} {threads : List Nat} {thread : Nat} {events : List Trace.Event}

/-- The jobs that are started when jobs run in turn: those up to the first one that ends in a fault. -/
def started (kind : JobKind) : List (PlannedJob μ) → Live (Data μ) → List (PlannedJob μ)
  | [], _ => []
  | planned :: rest, live =>
    planned ::
      match runJob kind planned live with
      | .ok _ after => started kind rest after
      | .error _ _ => []

end Schedule

namespace Scene

variable {path : String} {threads : List Nat} {thread : Nat} {events : List Trace.Event}

end Scene

end EntityScene
