import EntityScene.Toml.Number

/-!
TOML documents. The lines of a document build a table of tables; each table and each value may be
defined once only.
-/

namespace EntityScene.Toml

open Reader

/-- How a table came about: by a header or braces of its own, on the way of a header to a deeper table,
or on the way of a dotted key. -/
inductive Origin where
  | explicit | passing | dotted
  deriving DecidableEq, Repr, Inhabited

/-- What a key of a document stands for. -/
inductive Node where
  | leaf (value : Value)
  | table (origin : Origin) (entries : List (String × Node))
  /-- The tables of a repeated header, in order. -/
  | tables (rows : List (List (String × Node)))
  deriving Inhabited

/-- The entries of a table in the order in which they appeared. -/
abbrev Entries := List (String × Node)

/-- Gives a present key another node. -/
def Entries.replace (entries : Entries) (key : String) (node : Node) : Entries :=
  entries.map fun entry => if entry.1 == key then (key, node) else entry

def Entries.erase (entries : Entries) (key : String) : Entries :=
  entries.filter fun entry => entry.1 != key

/-- Changes the table at the end of a path. Missing tables on the way come about; `dotted` says whether
the way is a dotted key, which must not enter tables with a definition of their own. -/
def Entries.alter (dotted : Bool) (change : Origin → Entries → Option Entries) :
    List String → Origin → Entries → Option Entries
  | [], origin, entries => change origin entries
  | key :: path, _, entries =>
    match entries.lookup key with
    | none => do
      let origin := if dotted then .dotted else .passing
      let inner ← Entries.alter dotted change path origin []
      pure (entries ++ [(key, .table origin inner)])
    | some (.leaf _) => none
    | some (.tables rows) => do
      let last ← rows.getLast?
      let inner ← Entries.alter dotted change path .explicit last
      pure (entries.replace key (.tables (rows.dropLast ++ [inner])))
    | some (.table origin inner) => do
      if dotted && origin == .explicit then none
      let inner ← Entries.alter dotted change path origin inner
      pure (entries.replace key (.table origin inner))

/-- The table at the end of a path; of a repeated header it is the last table. -/
def Entries.find? : List String → Entries → Option Entries
  | [], entries => some entries
  | key :: path, entries =>
    match entries.lookup key with
    | some (.table _ inner) => Entries.find? path inner
    | some (.tables rows) => do Entries.find? path (← rows.getLast?)
    | _ => none

/-- Adds a value under a dotted key. All tables on the way must have come about by dotted keys. -/
def Entries.define (path : List String) (key : String) (node : Node) (entries : Entries) :
    Option Entries :=
  entries.alter true (fun origin entries =>
    if (origin == .dotted) == path.isEmpty then none
    else if (entries.lookup key).isSome then none
    else some (entries ++ [(key, node)])) path .explicit

/-- Splits a dotted key into its way and its last key. -/
def splitKey? (keys : List String) : Option (List String × String) := do
  if depthLimit ≤ keys.length then none
  pure (keys.dropLast, ← keys.getLast?)

/-- A dotted key that does not go too deep. -/
def dottedKey : Reader (List String × String) := do
  let some split := splitKey? (← key) | failure
  pure split

mutual

/-- The plain value of a node. -/
def Node.toValue : Node → Value
  | .leaf value => value
  | .table _ entries => .table (Node.toEntries entries)
  | .tables rows => .array (Node.toRows rows)

def Node.toEntries : List (String × Node) → List (String × Value)
  | [] => []
  | entry :: rest => (entry.1, entry.2.toValue) :: Node.toEntries rest

def Node.toRows : List (List (String × Node)) → List Value
  | [] => []
  | row :: rest => .table (Node.toEntries row) :: Node.toRows rest

end

/-- Items between brackets, with commas between them and perhaps one at the end. -/
def array (item : Reader Value) : Reader Value := do
  char '['
  let items ← optional do
    let items ← separated (padding *> item <* padding) (char ',')
    let _ ← optional (char ',')
    pure items
  padding
  char ']'
  pure (.array (items.getD []))

def keyValue (value : Reader Value) : Reader ((List String × String) × Value) := do
  let key ← dottedKey
  char '='
  blanks
  pure (key, ← value)

/-- Keys and values between braces on one line. -/
def inlineTable (value : Reader Value) : Reader Value := do
  char '\x7b'
  let pairs ← optional (separated (keyValue value <* blanks) (char ','))
  blanks
  char '\x7d'
  let define (entries : Entries) (pair : (List String × String) × Value) : Option Entries :=
    entries.define pair.1.1 pair.1.2 (.leaf pair.2)
  let some entries := (pairs.getD []).foldlM define [] | failure
  pure (Node.table .explicit entries).toValue

/-- A value with arrays and inline tables nested to a depth. -/
def value : Nat → Reader Value
  | 0 => scalar
  | depth + 1 => array (value depth) <|> inlineTable (value depth) <|> scalar

/-- What a line of a document says. -/
inductive Line where
  | blank
  | pair (path : List String) (key : String) (value : Value)
  | header (path : List String) (key : String)
  | repeatedHeader (path : List String) (key : String)

def pairLine : Reader Line := do
  let ((path, key), value) ← keyValue (value (depthLimit - 1))
  lineEnd
  pure (.pair path key value)

def headerLine : Reader Line := do
  if (← get).take 2 == ['[', '['] then
    literal "[["
    let (path, key) ← dottedKey
    literal "]]"
    lineEnd
    pure (.repeatedHeader path key)
  else
    char '['
    let (path, key) ← dottedKey
    char ']'
    lineEnd
    pure (.header path key)

def line : Reader Line := do
  let found ←
    match ← peek? with
    | some '#' => (do comment; newline <|> finished; pure .blank)
    | some '[' => headerLine
    | some '\n' | some '\r' => (do newline; pure .blank)
    | some _ => pairLine
    | none => failure
  blanks
  pure found

/-- All lines of the text; a byte order mark at its start does not count. -/
def lines : Reader (List Line) := do
  let _ ← optional (char '\ufeff')
  blanks
  let found ← many line
  finished
  pure found

/-- The table to which the lines belong. -/
inductive Section where
  | top
  | single (path : List String) (key : String)
  | row (path : List String) (key : String)

/-- A document being built: the finished part, and the table that the lines belong to now. -/
structure Builder where
  root : Entries
  current : Section
  entries : Entries

namespace Builder

def start : Builder := ⟨[], .top, []⟩

/-- Puts the current table where it belongs. -/
def close (builder : Builder) : Option Entries :=
  match builder.current with
  | .top => some builder.entries
  | .single path key =>
    builder.root.alter false (fun _ parent =>
      if (parent.lookup key).isSome then none
      else some (parent ++ [(key, .table .explicit builder.entries)])) path .explicit
  | .row path key =>
    builder.root.alter false (fun _ parent =>
      match parent.lookup key with
      | some (.tables rows) => some (parent.replace key (.tables (rows ++ [builder.entries])))
      | _ => none) path .explicit

/-- The root with the tables on a path, made if they are missing, and the table at its end. -/
def parent? (root : Entries) (path : List String) : Option (Entries × Entries) := do
  let root ← root.alter false (fun _ entries => some entries) path .explicit
  pure (root, ← Entries.find? path root)

/-- Begins the table of a header. A table that so far lay on the way of deeper headers is continued,
at the end of its parent. -/
def openSingle (root : Entries) (path : List String) (key : String) : Option Builder := do
  let (root, parent) ← parent? root path
  match parent.lookup key with
  | none => pure ⟨root, .single path key, []⟩
  | some (.table .passing entries) =>
    let root ← root.alter false (fun _ parent => some (parent.erase key)) path .explicit
    pure ⟨root, .single path key, entries⟩
  | some _ => none

/-- Begins a further table of a repeated header. -/
def openRow (root : Entries) (path : List String) (key : String) : Option Builder := do
  let (root, parent) ← parent? root path
  match parent.lookup key with
  | none =>
    let root ← root.alter false (fun _ parent => some (parent ++ [(key, .tables [])])) path .explicit
    pure ⟨root, .row path key, []⟩
  | some (.tables _) => pure ⟨root, .row path key, []⟩
  | some _ => none

def add (builder : Builder) : Line → Option Builder
  | .blank => some builder
  | .pair path key value => do
    pure { builder with entries := ← builder.entries.define path key (.leaf value) }
  | .header path key => do openSingle (← builder.close) path key
  | .repeatedHeader path key => do openRow (← builder.close) path key

end Builder

/-- Reads a document. -/
def read? (text : String) : Option Entries := do
  let (found, _) ← lines text.toList
  let builder ← found.foldlM Builder.add Builder.start
  builder.close

end EntityScene.Toml
