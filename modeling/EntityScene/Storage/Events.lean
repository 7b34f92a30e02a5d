import EntityScene.Act

/-!
The storage of an event resource: the events since the last clearing, in order of arrival.
-/

namespace EntityScene

abbrev Events := List Value

/-- Adds a copy of the value at the end. -/
def Events.push (descriptor : Descriptor) (value : Value) : Act Events Unit := do
  descriptor.check value
  let copy ← descriptor.copy value
  Act.update fun events => events ++ [copy]

/-- Destroys the events in order. -/
def Events.clear (descriptor : Descriptor) : Act Events Unit := do
  let held ← Act.core
  Act.setCore []
  descriptor.destroyAll held

end EntityScene
