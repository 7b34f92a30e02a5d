import EntityScene.Outputs

/-!
Dialogues of a callback with its output slots. A callback sees and changes the slots only by requests;
it is told the answer of each request or the fault it ran into, and goes on as it likes.
-/

namespace EntityScene

inductive Request where
  /-- Writes an output. -/
  | set (position : Nat) (value : Value)
  /-- Asks for the value written so far or a first one, which then counts as written. -/
  | getOrInit (position : Nat) (type : ElementType)
  /-- Asks for the value written so far. -/
  | get (position : Nat) (type : ElementType)
  /-- Asks for the resource and kind of an output and whether it is written. -/
  | describe (position : Nat)
  /-- Asks for the number of outputs. -/
  | count

structure OutputInfo where
  resource : ResourceId
  kind : Kind
  written : Bool
  deriving DecidableEq, Repr, Inhabited

/-- What the slots answer to a request. -/
abbrev Request.Answer : Request → Type
  | .set _ _ => Unit
  | .getOrInit _ _ => Value
  | .get _ _ => Option Value
  | .describe _ => OutputInfo
  | .count => Nat

def Request.perform : (request : Request) → Act Outputs request.Answer
  | .set position value => Outputs.set position value
  | .getOrInit position type => Outputs.getOrInit position type
  | .get position type => do Act.ofExcept ((← Act.core).get position type)
  | .describe position => do
    let slot ← Act.ofExcept ((← Act.core).slot position)
    pure ⟨slot.descriptor.id, slot.descriptor.kind, slot.written⟩
  | .count => do pure (← Act.core).length

/-- A finite exchange of requests and answers that ends in a result. -/
inductive Dialogue (α : Type) where
  | done (result : α)
  | ask (request : Request) (next : Except Fault request.Answer → Dialogue α)

namespace Dialogue

variable {α β : Type}

def bind : Dialogue α → (α → Dialogue β) → Dialogue β
  | .done result, next => next result
  | .ask request answered, next => .ask request fun answer => (answered answer).bind next

instance : Monad Dialogue where
  pure := .done
  bind := .bind

/-- Carries a dialogue out on the output slots. -/
def run : Dialogue α → Act Outputs α
  | .done result => pure result
  | .ask request next => do
    let answer ← Act.attempt request.perform
    (next answer).run

end Dialogue

/-- A routine talks to the output slots, keeps a memory and may end in a fault, which leaves the memory
as it is then. -/
abbrev Routine (μ : Type) := ExceptT Fault (StateT μ Dialogue)

/-- Makes a request inside a routine; the request's fault becomes the routine's own. -/
def Request.send {μ : Type} (request : Request) : Routine μ request.Answer :=
  ExceptT.mk fun memory => .ask request fun answer => .done (answer, memory)

end EntityScene
