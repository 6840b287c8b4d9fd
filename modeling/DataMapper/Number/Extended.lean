import DataMapper.Number.Binary64

namespace DataMapper

/-- A finite number `±m·2^e` with `m < 2^64`. -/
structure Extended where
  neg : Bool
  m : Nat
  e : Int

namespace Extended

def ofRatio (neg : Bool) (num den : Nat) : Extended :=
  if num = 0 ∨ den = 0 then ⟨neg, 0, 0⟩
  else
    let t := Binary64.floorLog2 num den
    let e := t - 63
    let (a, b) := Binary64.scaled 1 e
    let m := Binary64.roundHalfEven (num * b) (den * a)
    if m = Nat.pow 2 64 then ⟨neg, Nat.pow 2 63, e + 1⟩ else ⟨neg, m, e⟩

def toRatio (x : Extended) : Int × Nat :=
  let (a, b) := Binary64.scaled x.m x.e
  (if x.neg then -(a : Int) else a, b)

def ofSigned (n : Int) (d : Nat) : Extended := ofRatio (decide (n < 0)) n.natAbs d

def ofInt (n : Int) : Extended := ofSigned n 1

def ofBinary64? (x : Binary64) : Option Extended :=
  match x.shape with
  | .finite neg m e => some ⟨neg, m, e⟩
  | _ => none

def ofBinary64 (x : Binary64) : Extended := (ofBinary64? x).getD ⟨false, 0, 0⟩

def toBinary64 (x : Extended) : Binary64 :=
  let (a, b) := Binary64.scaled x.m x.e
  Binary64.ofRatio x.neg a b

def negate (x : Extended) : Extended := { x with neg := !x.neg }

def add (x y : Extended) : Extended :=
  let (p, q) := x.toRatio
  let (r, s) := y.toRatio
  ofSigned (p * s + r * q) (q * s)

def sub (x y : Extended) : Extended := add x y.negate

def mul (x y : Extended) : Extended :=
  let (p, q) := x.toRatio
  let (r, s) := y.toRatio
  ofRatio (x.neg != y.neg) (p.natAbs * r.natAbs) (q * s)

def div (x y : Extended) : Extended :=
  let (p, q) := x.toRatio
  let (r, s) := y.toRatio
  ofRatio (x.neg != y.neg) (p.natAbs * s) (q * r.natAbs)

def lt (x y : Extended) : Bool :=
  let (p, q) := x.toRatio
  let (r, s) := y.toRatio
  decide (p * s < r * q)

def truncate (x : Extended) : Int :=
  let (p, q) := x.toRatio
  p.tdiv q

end Extended

end DataMapper
