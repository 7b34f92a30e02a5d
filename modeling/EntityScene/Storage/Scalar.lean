import EntityScene.Act

/-!
The storage of a scene component: at most one value.
-/

namespace EntityScene

abbrev Scalar := Option Value

/-- Overwrites the value by a copy of another one. The old value goes before the copy is made. -/
def Scalar.emplace (descriptor : Descriptor) (value : Value) : Act Scalar Unit := do
  descriptor.check value
  match ← Act.core with
  | some previous =>
    Act.setCore none
    descriptor.destroy previous
  | none => pure ()
  let copy ← descriptor.copy value
  Act.setCore (some copy)

/-- Destroys the value. -/
def Scalar.release (descriptor : Descriptor) : Act Scalar Unit := do
  let held ← Act.core
  Act.setCore none
  descriptor.destroyAll held.toList

end EntityScene
