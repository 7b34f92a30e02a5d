import EntityScene.Number.Decimal
import EntityScene.Toml.Text
import EntityScene.Toml.Value

/-!
Numbers, truth values, dates and times of TOML text.
-/

namespace EntityScene.Toml

open Reader

/-- Digits, where single underscores may stand between two digits. -/
def digits (wanted : Char → Bool) : Reader (List Char) := do
  let first ← satisfy wanted
  let more ← many (satisfy wanted <|> (char '_' *> satisfy wanted))
  if (← peek?) == some '_' then failure
  pure (first :: more)

def sign : Reader Bool :=
  (do char '-'; pure true) <|> (do char '+'; pure false) <|> pure false

/-- Decimal digits without a needless leading zero. -/
def decimalDigits : Reader (List Char) := do
  if (← peek?) == some '0' then exactly 1 Char.isDigit else digits Char.isDigit

/-- A whole number of 64 bits. -/
def int64? (value : Int) : Option Int64 :=
  if Int64.minValue.toInt ≤ value && value ≤ Int64.maxValue.toInt then some (Int64.ofInt value) else none

def decimalInteger : Reader Value := do
  let negative ← sign
  let magnitude := digitsValue 10 (← decimalDigits)
  let some value := int64? (if negative then -(magnitude : Int) else magnitude) | failure
  pure (.integer value)

/-- Digits of another base after its mark. -/
def basedInteger (mark : String) (base : Nat) (wanted : Char → Bool) : Reader Value := do
  literal mark
  let some value := int64? (digitsValue base (← digits wanted)) | failure
  pure (.integer value)

def integer : Reader Value :=
  basedInteger "0x" 16 isHexDigit <|>
  basedInteger "0o" 8 (fun c => c.isDigit && decide (c ≤ '7')) <|>
  basedInteger "0b" 2 (fun c => c == '0' || c == '1') <|>
  decimalInteger

def exponent : Reader Int := do
  let _ ← satisfy fun c => c == 'e' || c == 'E'
  let negative ← sign
  let magnitude := digitsValue 10 (← digits Char.isDigit)
  pure (if negative then -(magnitude : Int) else magnitude)

def fraction : Reader (List Char) := do
  char '.'
  digits Char.isDigit

/-- Digits with a fraction or an exponent or both. A number above the range of doubles is refused; one
below it is negative infinity. -/
def plainFloat : Reader Value := do
  let negative ← sign
  let whole ← decimalDigits
  let places ← optional fraction
  let scale ← optional exponent
  if places.isNone && scale.isNone then failure
  let places := places.getD []
  let magnitude := Double.ofDecimal (digitsValue 10 (whole ++ places)) (scale.getD 0 - places.length)
  if !negative && magnitude == .infinity then failure
  pure (.float (if negative then magnitude.neg else magnitude))

def specialFloat : Reader Value := do
  let negative ← sign
  let magnitude ←
    (do literal "inf"; pure Double.infinity) <|> (do literal "nan"; pure ⟨0x7ff8000000000000⟩)
  pure (.float (if negative then magnitude.neg else magnitude))

def boolean : Reader Value :=
  (do literal "true"; pure (.boolean true)) <|> (do literal "false"; pure (.boolean false))

/-- Two digits that write a number in the range. -/
def twoDigits (least most : Nat) : Reader Nat := do
  let value := digitsValue 10 (← exactly 2 Char.isDigit)
  if value < least || most < value then failure
  pure value

def isLeapYear (year : Nat) : Bool := year % 4 == 0 && (year % 100 != 0 || year % 400 == 0)

def daysInMonth (year month : Nat) : Nat :=
  if month = 2 then (if isLeapYear year then 29 else 28)
  else if month = 4 || month = 6 || month = 9 || month = 11 then 30
  else 31

def date : Reader Unit := do
  let year := digitsValue 10 (← exactly 4 Char.isDigit)
  char '-'
  let month ← twoDigits 1 12
  char '-'
  let day ← twoDigits 1 31
  if daysInMonth year month < day then failure

/-- The time of a day; a minute may have a leap second. -/
def timeOfDay : Reader Unit := do
  let _ ← twoDigits 0 23
  char ':'
  let _ ← twoDigits 0 59
  char ':'
  let _ ← twoDigits 0 60
  let _ ← optional (char '.' *> takeWhile1 Char.isDigit)

def timeOffset : Reader Unit := do
  (do let _ ← satisfy fun c => c == 'Z' || c == 'z') <|> do
    let _ ← satisfy fun c => c == '+' || c == '-'
    let _ ← twoDigits 0 23
    char ':'
    let _ ← twoDigits 0 59

/-- A date, a time or both. -/
def moment : Reader Value := do
  (do
    date
    let _ ← optional do
      let _ ← satisfy fun c => c == 'T' || c == 't' || c == ' '
      timeOfDay
      optional timeOffset) <|> timeOfDay
  pure .moment

def scalar : Reader Value :=
  (do pure (.text (← string))) <|> boolean <|> moment <|> plainFloat <|> specialFloat <|> integer

end EntityScene.Toml
