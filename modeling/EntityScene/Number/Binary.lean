/-!
Binary floating-point numbers held as their bits. Two numbers are equal here when their bits are, so
that zero and negative zero stay apart. Arithmetic rounds as the binary formats prescribe.
-/

namespace EntityScene

/-- A single-precision number. -/
structure Single where
  bits : UInt32
  deriving DecidableEq, Repr, Inhabited

/-- A double-precision number. -/
structure Double where
  bits : UInt64
  deriving DecidableEq, Repr, Inhabited

def Single.toFloat32 (x : Single) : Float32 := Float32.ofBits x.bits

def Single.ofFloat32 (x : Float32) : Single := ⟨x.toBits⟩

def Single.zero : Single := ⟨0⟩

def Single.add (x y : Single) : Single := .ofFloat32 (x.toFloat32 + y.toFloat32)

def Single.mul (x y : Single) : Single := .ofFloat32 (x.toFloat32 * y.toFloat32)

def Single.lt (x y : Single) : Bool := decide (x.toFloat32 < y.toFloat32)

/-- The bits of the magnitude lie above those of infinity. -/
def Single.isNaN (x : Single) : Bool := decide (0x7f800000 < x.bits &&& 0x7fffffff)

def Single.isFinite (x : Single) : Bool := decide (x.bits &&& 0x7fffffff < 0x7f800000)

/-- A whole number rounds once, to the nearest single. -/
def Single.ofInt64 (n : Int64) : Single := .ofFloat32 n.toFloat32

def Double.toFloat (x : Double) : Float := Float.ofBits x.bits

def Double.ofFloat (x : Float) : Double := ⟨x.toBits⟩

def Double.zero : Double := ⟨0⟩

def Double.infinity : Double := ⟨0x7ff0000000000000⟩

def Double.add (x y : Double) : Double := .ofFloat (x.toFloat + y.toFloat)

def Double.mul (x y : Double) : Double := .ofFloat (x.toFloat * y.toFloat)

def Double.neg (x : Double) : Double := ⟨x.bits ^^^ 0x8000000000000000⟩

def Double.isNaN (x : Double) : Bool :=
  decide (0x7ff0000000000000 < x.bits &&& 0x7fffffffffffffff)

def Double.isFinite (x : Double) : Bool :=
  decide (x.bits &&& 0x7fffffffffffffff < 0x7ff0000000000000)

def Double.toSingle (x : Double) : Single := .ofFloat32 x.toFloat.toFloat32

end EntityScene
