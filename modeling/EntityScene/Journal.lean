import EntityScene.Trace.Recorder
import EntityScene.Value

/-!
What operations leave behind besides their state: the ledger of values that came and went, log lines,
and the spans of the recorder.
-/

namespace EntityScene

/-- An event in the life of a resource's values. -/
inductive Lifecycle where
  | initialized (value : Value)
  | copied (value : Value)
  /-- A copy was asked for and declined. -/
  | declined (value : Value)
  | destroyed (value : Value)
  /-- The destruction of a value was asked for and failed. -/
  | retained (value : Value)

structure LedgerEntry where
  resource : ResourceId
  event : Lifecycle

inductive LogLevel where
  | warn | info | debug | trace
  deriving DecidableEq, Repr, Inhabited

def LogLevel.name : LogLevel → String
  | .warn => "WARN"
  | .info => "INFO"
  | .debug => "DEBUG"
  | .trace => "TRACE"

structure LogLine where
  level : LogLevel
  text : String
  deriving DecidableEq, Repr, Inhabited

/-- The journal. The ledger and the log lines have the newest entry first. Spans run on the thread
`thread`. -/
structure Journal where
  ledger : List LedgerEntry := []
  logs : List LogLine := []
  recorder : Trace.Recorder := {}
  thread : Nat := 0

end EntityScene
