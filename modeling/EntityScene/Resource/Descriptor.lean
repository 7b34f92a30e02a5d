import EntityScene.Fault
import EntityScene.Text.Quoted

/-!
Descriptors of resources. The element of a resource says what its values are and how they come and go:
the value a new place starts with, which values it declines to copy, and which it refuses to destroy.
-/

namespace EntityScene

/-- What is known of the values of a resource. An embedder's own element is taken to be steady:
initialization always gives the same value, whether a value is copied or destroyed depends on that value
alone, and values are plain data that change only by being written. -/
structure Element where
  type : ElementType
  name : String
  size : Nat
  align : Nat
  /-- The value that initialization gives. -/
  initial : Value
  initial_type : initial.type = type
  /-- A value whose copying fails, with the message of the failure. Any other value is copied
  faithfully. -/
  declines : Value → Option String
  /-- A value whose destruction fails, with the message of the failure. The value is gone all the
  same. -/
  retains : Value → Option String

/-- No destruction of a value fails. -/
def Element.Releasing (element : Element) : Prop := ∀ value, element.retains value = none

/-- The element of a plain type: it starts with the type's default and copies and destroys every value. -/
def Element.plain (type : ElementType) : Element where
  type
  name := type.name
  size := type.size
  align := type.align
  initial := type.default
  initial_type := type.type_default
  declines _ := none
  retains _ := none

/-- An element of 32-bit words that cannot copy one particular word. -/
def Element.fragile (word : UInt32) : Element :=
  { Element.plain .uint32 with
    declines := fun value =>
      match value with
      | .uint32 n => if n = word then some s!"fragile value {n.toNat}" else none
      | _ => none }

def Element.layoutText (element : Element) : String :=
  EntityScene.layoutText element.name element.size element.align

structure Descriptor where
  id : ResourceId
  name : String
  kind : Kind
  element : Element

def Descriptor.label (descriptor : Descriptor) : Label where
  id := descriptor.id
  name := descriptor.name
  kind := descriptor.kind
  typeName := descriptor.element.name
  size := descriptor.element.size
  align := descriptor.element.align

def Descriptor.text (descriptor : Descriptor) : String := descriptor.label.text

/-- The descriptor field by field, with names quoted. -/
def Descriptor.detail (descriptor : Descriptor) : String :=
  s!"ResourceDescriptor \x7b id: {descriptor.id}, name: " ++ Text.quoted descriptor.name ++
    ", kind: " ++ descriptor.kind.name ++ ", type: " ++ Text.quoted descriptor.element.name ++ " \x7d"

end EntityScene
