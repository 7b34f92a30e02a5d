import EntityScene.Trace.Recorder

/-!
A program that uses the recorder: its disk, the spans it has opened, by number, and its threads. The
main thread is thread zero.
-/

namespace EntityScene.Trace

structure Host where
  recorder : Recorder := {}
  disk : Disk := {}
  spans : List Guard := []
  threads : Nat := 1
  deriving DecidableEq, Repr, Inhabited

namespace Host

/-- Starts the recorder. -/
def start (host : Host) (path : String) : Host :=
  { host with recorder := host.recorder.init path }

/-- Shuts the recorder down; the answer is the path of a file that could not be written. -/
def stop (host : Host) : Option String × Host :=
  let (failed, recorder, disk) := host.recorder.shutdown host.disk
  (failed, { host with recorder, disk })

/-- Opens a span on the main thread and gives its number. -/
def openSpan (host : Host) (name : String) (arguments : List (String × Argument)) : Nat × Host :=
  let (guard, recorder) := host.recorder.enter 0 name
  (host.spans.length, { host with recorder, spans := host.spans ++ [guard.withArgs arguments] })

/-- Gives an argument of an open span a value. -/
def attach (host : Host) (number : Nat) (key : String) (value : Argument) : Host :=
  { host with spans := host.spans.modify number fun guard => guard.withArg key value }

/-- Closes a span. A span is closed only once. -/
def closeSpan (host : Host) (number : Nat) : Host :=
  { host with
    recorder := host.recorder.leave (host.spans[number]?).join
    spans := host.spans.set number none }

/-- A new thread opens and closes one span. -/
def runThread (host : Host) (name : String) (arguments : List (String × Argument)) : Host :=
  let (guard, recorder) := host.recorder.enter host.threads name
  { host with
    recorder := recorder.leave (guard.withArgs arguments)
    threads := host.threads + 1 }

/-- Writes a text file of its own. -/
def writeFile (host : Host) (path content : String) : Host :=
  { host with disk := (host.disk.write path (.text content)).2 }

end Host

end EntityScene.Trace
