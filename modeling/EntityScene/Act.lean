import EntityScene.Fault
import EntityScene.Journal
import EntityScene.Resource.Descriptor

/-!
Acts: operations on a state that write the journal. An act ends with an answer or with a fault, and in
both cases with the state and the journal that it left.
-/

namespace EntityScene

/-- A state with the journal of what happened to it. -/
structure Live (σ : Type) where
  journal : Journal
  core : σ

abbrev Act (σ α : Type) := EStateM Fault (Live σ) α

namespace Act

variable {σ τ α : Type}

def core : Act σ σ := fun live => .ok live.core live

def setCore (core : σ) : Act σ Unit := fun live => .ok () { live with core }

def update (change : σ → σ) : Act σ Unit := fun live => .ok () { live with core := change live.core }

def fault (cause : Fault) : Act σ α := fun live => .error cause live

def ofExcept : Except Fault α → Act σ α
  | .ok answer => pure answer
  | .error cause => fault cause

def log (level : LogLevel) (text : String) : Act σ Unit := fun live =>
  .ok () { live with journal.logs := ⟨level, text⟩ :: live.journal.logs }

def enter (resource : ResourceId) (event : Lifecycle) : Act σ Unit := fun live =>
  .ok () { live with journal.ledger := ⟨resource, event⟩ :: live.journal.ledger }

/-- A fault becomes an answer. -/
def attempt (act : Act σ α) : Act σ (Except Fault α) := fun live =>
  match act live with
  | .ok answer live => .ok (.ok answer) live
  | .error cause live => .ok (.error cause) live

/-- Acts on a part of the state and puts the part back, also after a fault. -/
def focus (part : σ → τ) (put : τ → σ → σ) (act : Act τ α) : Act σ α := fun live =>
  match act ⟨live.journal, part live.core⟩ with
  | .ok answer inner => .ok answer ⟨inner.journal, put inner.core live.core⟩
  | .error cause inner => .error cause ⟨inner.journal, put inner.core live.core⟩

/-- Cleans up however the act ends. A fault of the cleaning after a fault of the act aborts. -/
def ensuring (act : Act σ α) (clean : Act σ Unit) : Act σ α := fun live =>
  match act live with
  | .ok answer live =>
    match clean live with
    | .ok _ live => .ok answer live
    | .error cause live => .error cause live
  | .error cause live =>
    match clean live with
    | .ok _ live => .error cause live
    | .error _ live => .error .aborted live

/-- Acts inside a span of the recorder. The span closes however the act ends. -/
def span (name : String) (arguments : List (String × Trace.Argument)) (act : Act σ α) : Act σ α :=
  fun live =>
    let (guard, recorder) := live.journal.recorder.enter live.journal.thread name
    let guard := guard.withArgs arguments
    let close (live : Live σ) : Live σ :=
      { live with journal.recorder := live.journal.recorder.leave guard }
    match act { live with journal.recorder := recorder } with
    | .ok answer live => .ok answer (close live)
    | .error cause live => .error cause (close live)

end Act

namespace Descriptor

variable {σ : Type}

/-- A fresh value of the element. -/
def fresh (descriptor : Descriptor) : Act σ Value := do
  Act.enter descriptor.id (.initialized descriptor.element.initial)
  pure descriptor.element.initial

/-- A copy of a value of the element. -/
def copy (descriptor : Descriptor) (value : Value) : Act σ Value := do
  if value.type = descriptor.element.type then
    match descriptor.element.declines value with
    | some message =>
      Act.enter descriptor.id (.declined value)
      Act.fault (.copyRefused message)
    | none =>
      Act.enter descriptor.id (.copied value)
      pure value
  else Act.fault (.copyMismatch descriptor.element.name)

/-- Destroys a value of the element. -/
def destroy (descriptor : Descriptor) (value : Value) : Act σ Unit := do
  if value.type = descriptor.element.type then
    match descriptor.element.retains value with
    | some message =>
      Act.enter descriptor.id (.retained value)
      Act.fault (.destroyRefused message)
    | none => Act.enter descriptor.id (.destroyed value)
  else Act.fault (.destroyMismatch descriptor.element.name)

/-- Destroys the values in order, up to the first that is not destroyed. -/
def destroyAll (descriptor : Descriptor) : List Value → Act σ Unit
  | [] => pure ()
  | value :: rest => do
    descriptor.destroy value
    descriptor.destroyAll rest

/-- Only values of the element may be written. -/
def check (descriptor : Descriptor) (value : Value) : Act σ Unit :=
  if value.type = descriptor.element.type then pure ()
  else Act.fault (.wrongElement descriptor.label)

end Descriptor

end EntityScene
