import EntityScene.Join
import EntityScene.Value.Arithmetic

/-!
Scripts: callbacks written as lists of actions. A script notes what it sees, and each call leaves a
record of its match, its inputs and its notes.
-/

namespace EntityScene.Script

inductive Expression where
  | const (value : Value)
  /-- The value of an input. -/
  | input (position : Nat)
  /-- How often the callback has been called, this call included. -/
  | calls
  /-- The position of the event, or the largest word. -/
  | event
  /-- The index of the viewport, or the largest word. -/
  | viewport
  /-- The index of the entity, or the largest word. -/
  | entity
  | add (first second : Expression)
  | mul (first second : Expression)

inductive Condition where
  | same (first second : Expression)
  | less (first second : Expression)

inductive Action where
  | set (output : Nat) (value : Expression)
  /-- Notes the value that the output starts from, then overwrites it if the new value has the type. -/
  | init (output : Nat) (type : ElementType) (value : Option Expression)
  /-- Adds requests to a spawn list. -/
  | spawn (output : Nat) (requests : List Blueprint)
  | get (input : Nat) (type : ElementType)
  | tryGet (input : Nat) (type : ElementType)
  | inputInfo (input : Nat)
  | outputGet (output : Nat) (type : ElementType)
  | outputInfo (output : Nat)
  /-- Notes the numbers of inputs and outputs. -/
  | sizes
  | branch (condition : Condition) (yes no : List Action)
  | finish (goOn : Bool)
  | raise (message : String)
  /-- Goes on after a fault of the body, which it notes. -/
  | guarded (body : List Action)

inductive Note where
  | value (value : Option Value)
  | input (resource : ResourceId) (spot : Spot)
  | output (info : OutputInfo)
  | sizes (inputs outputs : Nat)
  | caught (fault : Fault)

/-- The record of one call. -/
structure Call where
  job : String
  number : Nat
  inputs : Inputs
  notes : List Note

/-- What scripts remember: how often each one was called, and the records of all calls, the newest
first. -/
structure Memory where
  counts : List (Nat × Nat) := []
  calls : List Call := []

def Memory.count (memory : Memory) (key : Nat) : Nat := (memory.counts.lookup key).getD 0

def Memory.setCount (memory : Memory) (key count : Nat) : Memory :=
  { memory with counts := (key, count) :: memory.counts.filter fun entry => entry.1 != key }

/-- What a script sees of its call. -/
structure Context where
  number : Nat
  inputs : Inputs

/-- The index of an identity, or the largest word without one. -/
def indexOrTop (identity : Option Identity) : UInt32 :=
  match identity with
  | some identity => identity.index
  | none => 0xffffffff

def combine (operation : Value → Value → Option Value) (first second : Value) :
    Except Fault Value :=
  match operation first second with
  | some value => .ok value
  | none => .error (.raised "operands do not fit")

def Expression.eval (context : Context) : Expression → Except Fault Value
  | .const value => .ok value
  | .input position => do pure (← context.inputs.input position).value
  | .calls => .ok (.uint32 context.number.toUInt32)
  | .event =>
    .ok (.uint32 (match context.inputs.place.event with
      | some position => position.toUInt32
      | none => 0xffffffff))
  | .viewport => .ok (.uint32 (indexOrTop context.inputs.place.viewport))
  | .entity => .ok (.uint32 (indexOrTop context.inputs.place.entity))
  | .add first second => do combine Value.add? (← first.eval context) (← second.eval context)
  | .mul first second => do combine Value.mul? (← first.eval context) (← second.eval context)

def Condition.eval (context : Context) : Condition → Except Fault Bool
  | .same first second => do pure ((← first.eval context).same (← second.eval context))
  | .less first second => do
    match (← first.eval context).lt? (← second.eval context) with
    | some answer => .ok answer
    | none => .error (.raised "operands do not fit")

/-- A script at work keeps its notes. -/
abbrev Work := Routine (List Note)

def note (entry : Note) : Work Unit := modify fun notes => notes ++ [entry]

def lift {α : Type} : Except Fault α → Work α
  | .ok answer => pure answer
  | .error cause => throw cause

mutual

/-- Carries out one action. The answer is there once the script is finished. -/
def Action.run (context : Context) : Action → Work (Option Bool)
  | .set output value => do
    (Request.set output (← lift (value.eval context))).send
    pure none
  | .init output type value => do
    let found ← (Request.getOrInit output type).send
    note (.value (some found))
    match value with
    | some value =>
      let value ← lift (value.eval context)
      if value.type = type then (Request.set output value).send
    | none => pure ()
    pure none
  | .spawn output requests => do
    match ← (Request.getOrInit output .spawnList).send with
    | .spawnList present => (Request.set output (.spawnList (present ++ requests))).send
    | _ => pure ()
    pure none
  | .get input type => do
    note (.value (some (← lift (context.inputs.get input type))))
    pure none
  | .tryGet input type => do
    note (.value (← lift (context.inputs.get? input type)))
    pure none
  | .inputInfo input => do
    let found ← lift (context.inputs.input input)
    note (.input found.resource found.spot)
    pure none
  | .outputGet output type => do
    note (.value (← (Request.get output type).send))
    pure none
  | .outputInfo output => do
    note (.output (← (Request.describe output).send))
    pure none
  | .sizes => do
    note (.sizes context.inputs.values.length (← Request.count.send))
    pure none
  | .branch condition yes no => do
    if ← lift (condition.eval context) then Action.runAll context yes
    else Action.runAll context no
  | .finish goOn => pure (some goOn)
  | .raise message => throw (.raised message)
  | .guarded body =>
    tryCatch (Action.runAll context body) fun cause => do
      note (.caught cause)
      pure none

/-- Carries out actions until one finishes the script. -/
def Action.runAll (context : Context) : List Action → Work (Option Bool)
  | [] => pure none
  | action :: rest => do
    match ← Action.run context action with
    | some goOn => pure (some goOn)
    | none => Action.runAll context rest

end

/-- The callback of a script. Calls are counted by key; a script that does not finish by itself goes
on. -/
def callback (key : Nat) (job : String) (actions : List Action) : Callback Memory :=
  fun inputs => ExceptT.mk fun memory => do
    let number := memory.count key + 1
    let memory := memory.setCount key number
    let (outcome, notes) ← (Action.runAll ⟨number, inputs⟩ actions).run.run []
    let memory := { memory with calls := ⟨job, number, inputs, notes⟩ :: memory.calls }
    pure (outcome.map fun answer => answer.getD true, memory)

end EntityScene.Script
