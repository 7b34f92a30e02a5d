/-!
Readers of text. A reader takes characters from the front of its input or refuses it.
-/

namespace EntityScene.Toml

abbrev Reader := StateT (List Char) Option

namespace Reader

variable {α β : Type}

def peek? : Reader (Option Char) := do pure (← get).head?

/-- The next character, if it is one of the wanted ones. -/
def satisfy (wanted : Char → Bool) : Reader Char := fun input =>
  match input with
  | c :: rest => if wanted c then some (c, rest) else none
  | [] => none

def char (c : Char) : Reader Unit := do
  let _ ← satisfy fun d => d == c

/-- Exactly these characters. -/
def literal (text : String) : Reader Unit := fun input =>
  if text.toList.isPrefixOf input then some ((), input.drop text.length) else none

/-- All wanted characters at the front. -/
def takeWhile (wanted : Char → Bool) : Reader (List Char) := fun input =>
  some (input.takeWhile wanted, input.dropWhile wanted)

/-- All wanted characters at the front, at least one. -/
def takeWhile1 (wanted : Char → Bool) : Reader (List Char) := do
  let taken ← takeWhile wanted
  if taken.isEmpty then failure
  pure taken

/-- A number of wanted characters. -/
def exactly (count : Nat) (wanted : Char → Bool) : Reader (List Char) := fun input =>
  let taken := input.take count
  if taken.length = count && taken.all wanted then some (taken, input.drop count) else none

/-- Repeats a reader until it refuses, at most once for each entry of a list. -/
def repeated (reader : Reader α) : List Char → Reader (List α)
  | [] => pure []
  | _ :: fuel => fun input =>
    match reader input with
    | some (found, rest) =>
      (repeated reader fuel rest).map fun (more, rest) => (found :: more, rest)
    | none => some ([], input)

/-- Repeats a reader that takes something each time until it refuses. Each time takes a character, so
the input itself bounds the repetitions. -/
def many (reader : Reader α) : Reader (List α) := do
  repeated reader (← get)

/-- One or more, with a separator between each two. A separator that nothing follows stays unread. -/
def separated (reader : Reader α) (separator : Reader β) : Reader (List α) := do
  let first ← reader
  let more ← many (separator *> reader)
  pure (first :: more)

/-- The end of the input. -/
def finished : Reader Unit := fun input => if input.isEmpty then some ((), input) else none

end Reader

end EntityScene.Toml
