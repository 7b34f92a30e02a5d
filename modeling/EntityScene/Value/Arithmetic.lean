import EntityScene.Value

/-!
Arithmetic and comparison of values of one type. Whole numbers wrap at the width of their type.
-/

namespace EntityScene

/-- Sum of two numbers of one type; texts and lists are joined. -/
def Value.add? : Value → Value → Option Value
  | .single x, .single y => some (.single (x.add y))
  | .double x, .double y => some (.double (x.add y))
  | .int32 m, .int32 n => some (.int32 (m + n))
  | .int64 m, .int64 n => some (.int64 (m + n))
  | .uint8 m, .uint8 n => some (.uint8 (m + n))
  | .uint32 m, .uint32 n => some (.uint32 (m + n))
  | .uint64 m, .uint64 n => some (.uint64 (m + n))
  | .string s, .string t => some (.string (s ++ t))
  | .int32List xs, .int32List ys => some (.int32List (xs ++ ys))
  | _, _ => none

/-- Product of two numbers of one type. -/
def Value.mul? : Value → Value → Option Value
  | .single x, .single y => some (.single (x.mul y))
  | .double x, .double y => some (.double (x.mul y))
  | .int32 m, .int32 n => some (.int32 (m * n))
  | .int64 m, .int64 n => some (.int64 (m * n))
  | .uint8 m, .uint8 n => some (.uint8 (m * n))
  | .uint32 m, .uint32 n => some (.uint32 (m * n))
  | .uint64 m, .uint64 n => some (.uint64 (m * n))
  | _, _ => none

def Value.lt? : Value → Value → Option Bool
  | .single x, .single y => some (x.lt y)
  | .int32 m, .int32 n => some (decide (m < n))
  | .uint32 m, .uint32 n => some (decide (m < n))
  | _, _ => none

mutual

/-- The two values are written alike: all NaNs of one width agree, zero and negative zero differ. -/
def Value.same : Value → Value → Bool
  | .single x, .single y => x.isNaN && y.isNaN || x == y
  | .double x, .double y => x.isNaN && y.isNaN || x == y
  | .int32 m, .int32 n => m == n
  | .int64 m, .int64 n => m == n
  | .uint8 m, .uint8 n => m == n
  | .uint32 m, .uint32 n => m == n
  | .uint64 m, .uint64 n => m == n
  | .bool b, .bool c => b == c
  | .string s, .string t => s == t
  | .unit, .unit => true
  | .int32List xs, .int32List ys => xs == ys
  | .spawnList xs, .spawnList ys => Value.sameRequests xs ys
  | .despawnList xs, .despawnList ys => xs == ys
  | _, _ => false

def Value.sameRequests : List Blueprint → List Blueprint → Bool
  | [], [] => true
  | x :: xs, y :: ys => Value.sameComponents x y && Value.sameRequests xs ys
  | _, _ => false

def Value.sameComponents : Blueprint → Blueprint → Bool
  | [], [] => true
  | x :: xs, y :: ys => x.1 == y.1 && Value.same x.2 y.2 && Value.sameComponents xs ys
  | _, _ => false

end

end EntityScene
