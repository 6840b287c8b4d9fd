import DataMapper.Number.Decimal

namespace DataMapper

/-- Why a decimal operation has no result. -/
inductive DecimalSignal
  | invalidOperation
  | divisionUndefined
  | divisionByZero
  deriving DecidableEq

namespace Decimal

def precision : Nat := 28

def digitCount (n : Nat) : Nat := (Nat.toDigits 10 n).length

def roundHalfEven (n d : Nat) : Nat :=
  let q := n / d
  let twice := 2 * (n % d)
  if twice > d || (twice == d && q % 2 == 1) then q + 1 else q

def rounded (neg : Bool) (c : Nat) (e : Int) : Decimal :=
  let n := digitCount c
  if n ≤ precision then .finite neg c e
  else
    let drop := n - precision
    let q := roundHalfEven c (Nat.pow 10 drop)
    if digitCount q > precision then .finite neg (q / 10) (e + drop + 1)
    else .finite neg q (e + drop)

def negate : Decimal → Decimal
  | .finite neg c e => .finite (!neg) c e
  | .inf neg => .inf (!neg)
  | .nan neg s p => .nan (!neg) s p

/-- The result of an operation with a NaN operand: a signaling NaN is invalid, else the first
quiet NaN; `none` when neither operand is a NaN. -/
def nanResult (a b : Decimal) : Option (Except DecimalSignal Decimal) :=
  match a, b with
  | .nan _ true _, _ => some (.error .invalidOperation)
  | _, .nan _ true _ => some (.error .invalidOperation)
  | .nan .., _ => some (.ok a)
  | _, .nan .. => some (.ok b)
  | _, _ => none

/-- The sum of two decimals. -/
def add (a b : Decimal) : Except DecimalSignal Decimal :=
  match nanResult a b with
  | some r => r
  | none =>
    match a, b with
    | .inf n1, .inf n2 => if n1 == n2 then .ok a else .error .invalidOperation
    | .inf _, _ => .ok a
    | _, .inf _ => .ok b
    | .finite n1 c1 e1, .finite n2 c2 e2 =>
      let e := min e1 e2
      let x : Int := (if n1 then -1 else 1) * ((c1 * Nat.pow 10 (e1 - e).toNat : Nat) : Int)
      let y : Int := (if n2 then -1 else 1) * ((c2 * Nat.pow 10 (e2 - e).toNat : Nat) : Int)
      let s := x + y
      if s == 0 then .ok (.finite (n1 && n2) 0 e) else .ok (rounded (s < 0) s.natAbs e)
    | _, _ => .error .invalidOperation

def sub (a b : Decimal) : Except DecimalSignal Decimal :=
  match nanResult a b with
  | some r => r
  | none => add a b.negate

/-- The product of two decimals. -/
def mul (a b : Decimal) : Except DecimalSignal Decimal :=
  match nanResult a b with
  | some r => r
  | none =>
    match a, b with
    | .finite n1 c1 e1, .finite n2 c2 e2 => .ok (rounded (n1 != n2) (c1 * c2) (e1 + e2))
    | .inf n1, .finite n2 c _ => if c == 0 then .error .invalidOperation else .ok (.inf (n1 != n2))
    | .finite n1 c _, .inf n2 => if c == 0 then .error .invalidOperation else .ok (.inf (n1 != n2))
    | .inf n1, .inf n2 => .ok (.inf (n1 != n2))
    | _, _ => .error .invalidOperation

def tinyExponent : Int := -1000026

def towardIdeal (c : Nat) (e ideal : Int) : Nat → Nat × Int
  | 0 => (c, e)
  | k + 1 => if e < ideal && c % 10 == 0 && c != 0 then towardIdeal (c / 10) (e + 1) ideal k else (c, e)

/-- The quotient of two decimals. -/
def div (a b : Decimal) : Except DecimalSignal Decimal :=
  match nanResult a b with
  | some r => r
  | none =>
    match a, b with
    | .inf _, .inf _ => .error .invalidOperation
    | .inf n1, .finite n2 _ _ => .ok (.inf (n1 != n2))
    | .finite n1 _ _, .inf n2 => .ok (.finite (n1 != n2) 0 tinyExponent)
    | .finite n1 c1 e1, .finite n2 c2 e2 =>
      let neg := n1 != n2
      if c2 == 0 then
        .error (if c1 == 0 then .divisionUndefined else .divisionByZero)
      else if c1 == 0 then .ok (.finite neg 0 (e1 - e2))
      else
        let shift : Int := (digitCount c2 : Int) - digitCount c1 + precision + 1
        let e := e1 - e2 - shift
        let (q, r) := if 0 ≤ shift then
            ((c1 * Nat.pow 10 shift.toNat) / c2, (c1 * Nat.pow 10 shift.toNat) % c2)
          else (c1 / (c2 * Nat.pow 10 (-shift).toNat), c1 % (c2 * Nat.pow 10 (-shift).toNat))
        if r != 0 then
          .ok (rounded neg (if q % 5 == 0 then q + 1 else q) e)
        else
          let (q, e) := towardIdeal q e (e1 - e2) (digitCount q)
          .ok (rounded neg q e)
    | _, _ => .error .invalidOperation

def ceil? : Decimal → Option Int
  | .finite neg c e =>
    match (Decimal.finite neg c e).toRatio? with
    | some (n, d) => some (-((-n) / (d : Int)))
    | none => none
  | _ => none

theorem add_zero_zero (e : Int) :
    add (.finite false 0 e) (.finite false 0 e) = .ok (.finite false 0 e) := by
  simp [add, nanResult]

end Decimal

end DataMapper
