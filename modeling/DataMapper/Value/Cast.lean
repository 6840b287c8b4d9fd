import DataMapper.Value.Uuid
import DataMapper.Value.Compare
import DataMapper.Time.Iso

namespace DataMapper

namespace Cast

def intFailure (s : String) : IntReadError → Failure
  | .invalid => .value ("invalid literal for int() with base 10: " ++ String.ofList ((Text.quote s).toList.take 200))
  | .tooManyDigits n =>
    .value ("Exceeds the limit (4300 digits) for integer string conversion: value has " ++
      toString n ++ " digits; use sys.set_int_max_str_digits() to increase the limit")

def intOfText (s : String) : Except Failure Int :=
  match readInteger s 10 with
  | .ok n => .ok n
  | .error e => .error (intFailure s e)

def floatOfText (s : String) : Except Failure Binary64 :=
  match Binary64.ofText? s with
  | some x => .ok x
  | none => .error (.value ("could not convert string to float: " ++ Text.quote s))

def floatToInt (x : Binary64) : Except Failure Int :=
  if x.isNaN then .error (.value "cannot convert float NaN to integer")
  else match x.truncate? with
    | some n => .ok n
    | none => .error (.overflow "cannot convert float infinity to integer")

def decimalToInt : Decimal → Except Failure Int
  | .nan .. => .error (.value "cannot convert NaN to integer")
  | .inf _ => .error (.overflow "cannot convert Infinity to integer")
  | d => match d.toRatio? with
    | some (n, den) => .ok (n.tdiv den)
    | none => .error (.value "cannot convert NaN to integer")

def decimalToFloat : Decimal → Except Failure Binary64
  | .finite neg c e => .ok (Binary64.ofDecimal neg c e)
  | .inf neg => .ok (if neg then Binary64.negInf else Binary64.posInf)
  | .nan neg false _ => .ok (if neg then Binary64.ofFields true 2047 (Nat.pow 2 51) else Binary64.nan)
  | .nan _ true _ => .error (.value "cannot convert signaling NaN to float")

def intToFloat (n : Int) : Except Failure Binary64 :=
  let x := Binary64.ofInt n
  if x.isInf then .error (.overflow "int too large to convert to float") else .ok x

end Cast

open Cast in
/-- The integer a value gives. -/
def Value.toInt : Value → Except Failure Int
  | .int n => .ok n
  | .bool b => .ok (if b then 1 else 0)
  | .float x => floatToInt x
  | .decimal d => decimalToInt d
  | .str s => intOfText s
  | .bytes bs =>
    let refused : Failure := .value ("invalid literal for int() with base 10: " ++ (Value.bytes bs).repr)
    if bs.all (·.toNat < 128) then
      match readInteger (String.ofList (bs.map fun b => Char.ofNat b.toNat)) 10 with
      | .ok n => .ok n
      | .error (.tooManyDigits k) => .error (intFailure "" (.tooManyDigits k))
      | .error .invalid => .error refused
    else .error refused
  | .member _ .integer _ _ v => v.toInt
  | .member _ .text _ _ v => v.toInt
  | v => .error (.type ("int() argument must be a string, a bytes-like object or a real number, not '" ++
      v.qualifiedTypeName ++ "'"))

open Cast in
/-- The double a value gives. -/
def Value.toFloat : Value → Except Failure Binary64
  | .int n => intToFloat n
  | .bool b => .ok (Binary64.ofInt (if b then 1 else 0))
  | .float x => .ok x
  | .decimal d => decimalToFloat d
  | .str s => floatOfText s
  | .member _ .integer _ _ v => v.toFloat
  | .member _ .text _ _ v => v.toFloat
  | v => .error (.type ("float() argument must be a string or a real number, not '" ++
      v.qualifiedTypeName ++ "'"))

def TimeError.failure (text : String) (e : TimeError) : Failure := .value (e.message text)

def readDateTime (s : String) : Except Failure Value :=
  match DateTime.ofIso s with
  | .ok t => .ok (.datetime t)
  | .error e => .error (e.failure s)

def readDate (s : String) : Except Failure Value :=
  match Date.ofIso s with
  | .ok t => .ok (.date t)
  | .error e => .error (e.failure s)

def readTime (s : String) : Except Failure Value :=
  match TimeOfDay.ofIso s with
  | .ok t => .ok (.time t)
  | .error e => .error (e.failure s)

end DataMapper
