import DataMapper.Value.Cast
import DataMapper.Number.DecimalArith

namespace DataMapper

/-- A number as arithmetic sees it. -/
inductive Num
  | int (n : Int)
  | float (x : Binary64)
  | decimal (d : Decimal)

/-- The arithmetic operators on values. -/
inductive ArithOp
  | add
  | sub
  | mul
  | div
  deriving DecidableEq

namespace ArithOp

def symbol : ArithOp → String
  | .add => "+"
  | .sub => "-"
  | .mul => "*"
  | .div => "/"

end ArithOp

namespace Value

def num? : Value → Option Num
  | .bool b => some (.int (if b then 1 else 0))
  | .int n => some (.int n)
  | .float x => some (.float x)
  | .decimal d => some (.decimal d)
  | .member _ .integer _ _ v => num? v
  | _ => Option.none

end Value

namespace Num

def toValue : Num → Value
  | .int n => .int n
  | .float x => .float x
  | .decimal d => .decimal d

def signalFailure : DecimalSignal → Failure
  | .invalidOperation => .invalidOperation
  | .divisionUndefined => .raised "InvalidOperation" "[<class 'decimal.DivisionUndefined'>]"
  | .divisionByZero => .raised "DivisionByZero" "[<class 'decimal.DivisionByZero'>]"

/-- The quotient of two doubles, infinities and zeros included. -/
def floatQuotient (x y : Binary64) : Except Failure Binary64 :=
  match x.shape, y.shape with
  | _, .finite _ 0 _ => .error (.raised "ZeroDivisionError" "float division by zero")
  | .nan, _ | _, .nan => .ok Binary64.nan
  | .inf _, .inf _ => .ok Binary64.nan
  | .inf n1, .finite n2 _ _ => .ok (if n1 != n2 then Binary64.negInf else Binary64.posInf)
  | .finite n1 _ _, .inf n2 => .ok (if n1 != n2 then Binary64.negZero else Binary64.zero)
  | _, _ =>
    match x.div? y with
    | some q => .ok q
    | none => .ok Binary64.nan

def onFloats (op : ArithOp) (x y : Binary64) : Except Failure Binary64 :=
  match op with
  | .add => .ok (x.add y)
  | .sub => .ok (x.sub y)
  | .mul => .ok (x.mul y)
  | .div => floatQuotient x y

def onDecimals (op : ArithOp) (x y : Decimal) : Except Failure Decimal :=
  let r := match op with
    | .add => x.add y
    | .sub => x.sub y
    | .mul => x.mul y
    | .div => x.div y
  match r with
  | .ok d => .ok d
  | .error s => .error (signalFailure s)

/-- An operator on two numbers. -/
def apply (op : ArithOp) : Num → Num → Except Failure Num
  | .int a, .int b =>
    match op with
    | .add => .ok (.int (a + b))
    | .sub => .ok (.int (a - b))
    | .mul => .ok (.int (a * b))
    | .div =>
      if b == 0 then .error (.raised "ZeroDivisionError" "division by zero")
      else
        let q := Binary64.ofRatio ((a < 0) != (b < 0)) a.natAbs b.natAbs
        if q.isInf then .error (.overflow "integer division result too large for a float")
        else .ok (.float q)
  | .int a, .float y => do .ok (.float (← onFloats op (← Cast.intToFloat a) y))
  | .float x, .int b => do .ok (.float (← onFloats op x (← Cast.intToFloat b)))
  | .float x, .float y => do .ok (.float (← onFloats op x y))
  | .int a, .decimal y => do .ok (.decimal (← onDecimals op (Decimal.ofInt a) y))
  | .decimal x, .int b => do .ok (.decimal (← onDecimals op x (Decimal.ofInt b)))
  | .decimal x, .decimal y => do .ok (.decimal (← onDecimals op x y))
  | .float _, .decimal _ =>
    .error (.type ("unsupported operand type(s) for " ++ op.symbol ++ ": 'float' and 'decimal.Decimal'"))
  | .decimal _, .float _ =>
    .error (.type ("unsupported operand type(s) for " ++ op.symbol ++ ": 'decimal.Decimal' and 'float'"))

/-- The least integer not below a number. -/
def ceil : Num → Except Failure Int
  | .int n => .ok n
  | .float x =>
    if x.isNaN then .error (.value "cannot convert float NaN to integer")
    else
      match x.toRatio? with
      | some (n, d) => .ok (-((-n) / (d : Int)))
      | none => .error (.overflow "cannot convert float infinity to integer")
  | .decimal d =>
    match d.ceil? with
    | some n => .ok n
    | none =>
      match d with
      | .nan .. => .error (.value "cannot convert NaN to integer")
      | _ => .error (.overflow "cannot convert Infinity to integer")

end Num

namespace Value

def arith (op : ArithOp) (a b : Value) : Except Failure Value :=
  match a.num?, b.num? with
  | some x, some y => do pure (← Num.apply op x y).toValue
  | _, _ =>
    .error (.type ("unsupported operand type(s) for " ++ op.symbol ++ ": '" ++
      a.qualifiedTypeName ++ "' and '" ++ b.qualifiedTypeName ++ "'"))

def ceil (v : Value) : Except Failure Int :=
  match v.num? with
  | some x => x.ceil
  | Option.none => .error (.type ("must be real number, not " ++ v.qualifiedTypeName))

end Value

theorem Num.apply_int_sub (a b : Int) : Num.apply .sub (.int a) (.int b) = .ok (.int (a - b)) := rfl

end DataMapper
