
namespace DataMapper

/-- A double precision number, kept as its bit pattern. -/
structure Binary64 where
  bits : UInt64
  deriving DecidableEq

namespace Binary64

/-- What a bit pattern stands for: a NaN, an infinity, or `±m·2^e`. -/
inductive Shape
  | nan
  | inf (neg : Bool)
  | finite (neg : Bool) (m : Nat) (e : Int)

def fracBits : Nat := Nat.pow 2 52

def shape (x : Binary64) : Shape :=
  let b := x.bits.toNat
  let neg := b / Nat.pow 2 63 == 1
  let ex : Nat := (b / Nat.pow 2 52) % Nat.pow 2 11
  let fr : Nat := b % Nat.pow 2 52
  if ex = 2047 then (if fr = 0 then .inf neg else .nan)
  else if ex = 0 then .finite neg fr (-1074)
  else .finite neg (fr+fracBits) ((ex : Int)-1075)

def ofFields (neg : Bool) (ex fr : Nat) : Binary64 :=
  ⟨UInt64.ofNat ((if neg then Nat.pow 2 63 else 0) + ex*Nat.pow 2 52 + fr)⟩

def posInf : Binary64 := ofFields false 2047 0
def negInf : Binary64 := ofFields true 2047 0
def nan : Binary64 := ofFields false 2047 (Nat.pow 2 51)
def zero : Binary64 := ofFields false 0 0
def negZero : Binary64 := ofFields true 0 0

def isNaN (x : Binary64) : Bool := match x.shape with | .nan => true | _ => false
def isInf (x : Binary64) : Bool := match x.shape with | .inf _ => true | _ => false
def isNeg (x : Binary64) : Bool := x.bits.toNat / Nat.pow 2 63 == 1

def scaled (a : Nat) (k : Int) : Nat × Nat :=
  if 0 ≤ k then (a * Nat.pow 2 k.toNat, 1) else (a, Nat.pow 2 (-k).toNat)

def floorLog2 (num den : Nat) : Int :=
  let k : Int := (num.log2 : Int) - den.log2
  let (a, b) := scaled 1 k
  if num * b ≥ den * a then k else k-1

def roundHalfEven (num den : Nat) : Nat :=
  let q := num / den
  let r := num % den
  if 2*r > den then q+1
  else if 2*r < den then q
  else if q % 2 = 0 then q else q+1

def pack (neg : Bool) (m : Nat) (e : Int) : Binary64 :=
  if m = 0 then ofFields neg 0 0
  else if m < fracBits then ofFields neg 0 m
  else if e > 971 then ofFields neg 2047 0
  else ofFields neg (e+1075).toNat (m-fracBits)

/-- The nearest double to `num/den` (ties to even), with sign `neg`; `den > 0`. -/
def ofRatio (neg : Bool) (num den : Nat) : Binary64 :=
  if num = 0 ∨ den = 0 then ofFields neg 0 0
  else
    let t := floorLog2 num den
    if t > 1024 then ofFields neg 2047 0
    else
      let e := max (t-52) (-1074)
      let (a, b) := scaled 1 e
      let m := roundHalfEven (num*b) (den*a)
      if m = Nat.pow 2 53 then pack neg (Nat.pow 2 52) (e+1) else pack neg m e

def ofInt (n : Int) : Binary64 := ofRatio (n < 0) n.natAbs 1

def toRatio? (x : Binary64) : Option (Int × Nat) :=
  match x.shape with
  | .finite neg m e =>
    let (a, b) := scaled m e
    some (if neg then -(a : Int) else a, b)
  | _ => none

def truncate? (x : Binary64) : Option Int :=
  match x.toRatio? with
  | some (n, d) => some (n.tdiv d)
  | none => none

/-- The exact product, rounded once. -/
def mul (x y : Binary64) : Binary64 :=
  match x.shape, y.shape with
  | .finite n1 m1 e1, .finite n2 m2 e2 =>
    let (a, b) := scaled (m1*m2) (e1+e2)
    ofRatio (n1 != n2) a b
  | .nan, _ => nan
  | _, .nan => nan
  | .inf n1, .finite n2 m _ => if m = 0 then nan else ofFields (n1 != n2) 2047 0
  | .finite n1 m _, .inf n2 => if m = 0 then nan else ofFields (n1 != n2) 2047 0
  | .inf n1, .inf n2 => ofFields (n1 != n2) 2047 0

/-- Decimal `digits·10^exp` rounded once; huge or tiny exponents go straight to infinity
or zero. -/
def ofDecimal (neg : Bool) (digits : Nat) (exp : Int) : Binary64 :=
  if digits = 0 then ofFields neg 0 0
  else
    let size : Int := (Nat.toDigits 10 digits).length
    if size + exp > 310 then ofFields neg 2047 0
    else if size + exp < -330 then ofFields neg 0 0
    else if 0 ≤ exp then ofRatio neg (digits * Nat.pow 10 exp.toNat) 1
    else ofRatio neg digits (Nat.pow 10 (-exp).toNat)

def negate (x : Binary64) : Binary64 := ⟨x.bits ^^^ ((1 : UInt64) <<< (63 : UInt64))⟩

/-- The exact sum, rounded once. An exact zero sum is negative only when both terms are. -/
def add (x y : Binary64) : Binary64 :=
  match x.shape, y.shape with
  | .nan, _ => nan
  | _, .nan => nan
  | .inf n1, .inf n2 => if n1 == n2 then x else nan
  | .inf _, _ => x
  | _, .inf _ => y
  | .finite n1 m1 e1, .finite n2 m2 e2 =>
    let e := min e1 e2
    let a : Int := (if n1 then -1 else 1) * ((m1 * Nat.pow 2 (e1-e).toNat : Nat) : Int)
    let b : Int := (if n2 then -1 else 1) * ((m2 * Nat.pow 2 (e2-e).toNat : Nat) : Int)
    let s := a + b
    if s = 0 then ofFields (n1 && n2) 0 0
    else
      let (num, den) := scaled s.natAbs e
      ofRatio (s < 0) num den

def sub (x y : Binary64) : Binary64 := add x (negate y)

/-- The exact quotient of finite values with a nonzero divisor, rounded once; `none`
otherwise. -/
def div? (x y : Binary64) : Option Binary64 :=
  match x.shape, y.shape with
  | .finite n1 m1 e1, .finite n2 m2 e2 =>
    if m2 = 0 then none
    else
      let d := e1 - e2
      if 0 ≤ d then some (ofRatio (n1 != n2) (m1 * Nat.pow 2 d.toNat) m2)
      else some (ofRatio (n1 != n2) m1 (m2 * Nat.pow 2 (-d).toNat))
  | _, _ => none

end Binary64

end DataMapper
