import EntityScene.Number.Decimal

/-!
Events of a trace: closed spans with their arguments, and the form that they have in a trace file.
-/

namespace EntityScene.Trace

/-- The value of a span's argument. -/
inductive Argument where
  | text (value : String)
  | unsigned (value : UInt64)
  | signed (value : Int64)
  | real (value : Double)
  | flag (value : Bool)
  deriving DecidableEq, Repr, Inhabited

/-- A plain value in a trace file. Of the floating-point numbers only the finite ones can be written. -/
inductive Scalar where
  | text (value : String)
  | whole (value : Int)
  | real (value : Double) (finite : value.isFinite = true)
  | flag (value : Bool)
  deriving DecidableEq, Repr, Inhabited

/-- What is written for an argument. A number that is not finite is written as a text. -/
def Argument.scalar : Argument → Scalar
  | .text value => .text value
  | .unsigned value => .whole value.toNat
  | .signed value => .whole value.toInt
  | .real value => if finite : value.isFinite = true then .real value finite else .text value.text
  | .flag value => .flag value

/-- A complete span as the trace lists it. -/
structure Event where
  name : String
  thread : Nat
  arguments : List (String × Argument)
  deriving DecidableEq, Repr, Inhabited

/-- What an event's entry in a trace file holds under a key. The times are read from a clock. -/
inductive Field where
  | scalar (value : Scalar)
  | time
  | group (values : List (String × Scalar))
  deriving DecidableEq, Repr, Inhabited

abbrev Entry := List (String × Field)

/-- The entry of an event: a complete span, always of the one process and in the one category. Arguments are
listed only if there are any. -/
def Event.entry (event : Event) : Entry :=
  [("name", .scalar (.text event.name)), ("cat", .scalar (.text "scene")), ("ph", .scalar (.text "X")),
   ("ts", .time), ("dur", .time), ("pid", .scalar (.whole 1)),
   ("tid", .scalar (.whole event.thread.toUInt64.toNat))] ++
  if event.arguments.isEmpty then []
  else [("args", .group (event.arguments.map fun (key, value) => (key, value.scalar)))]

end EntityScene.Trace
