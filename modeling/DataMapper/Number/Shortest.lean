import DataMapper.Number.Binary64

namespace DataMapper.Binary64

/-- Decimal digits `d₁…dₙ` and a point position: the value `0.d₁…dₙ × 10^point`. -/
structure Digits where
  digits : List Nat
  point : Int

abbrev Ratio := Nat × Nat

def Ratio.le (a b : Ratio) : Bool := a.1*b.2 ≤ b.1*a.2
def Ratio.lt (a b : Ratio) : Bool := a.1*b.2 < b.1*a.2

def tenPow (a : Nat) (p : Int) : Ratio :=
  if 0 ≤ p then (a*Nat.pow 10 p.toNat, 1) else (a, Nat.pow 10 (-p).toNat)

def twoPow (a : Nat) (k : Int) : Ratio := scaled a k

/-- The decimal exponent `t` with `10^t ≤ x < 10^(t+1)`, from an estimate through `log₁₀ 2`
corrected by exact comparison. -/
def floorLog10 (x : Ratio) (guess : Int) : Int :=
  let down (t : Int) : Int := if Ratio.lt x (tenPow 1 t) then t-1 else t
  let up (t : Int) : Int := if Ratio.le (tenPow 1 (t+1)) x then t+1 else t
  up (up (down (down guess)))

def decimalDigits (n : Nat) : List Nat := (Nat.toDigits 10 n).map (fun c => c.toNat-48)

def dropTrailingZeros (ds : List Nat) : List Nat := (ds.reverse.dropWhile (· = 0)).reverse

/-- The shortest decimal that reads back to `m·2^e` (`m > 0`). -/
def shortest (m : Nat) (e : Int) : Digits :=
  let x := twoPow m e
  let lowGap := if m = fracBits ∧ e > -1074 then 1 else 2
  let lo := twoPow (4*m-lowGap) (e-2)
  let hi := twoPow (4*m+2) (e-2)
  let closed := m % 2 = 0
  let inside (d : Ratio) : Bool :=
    if closed then Ratio.le lo d && Ratio.le d hi else Ratio.lt lo d && Ratio.lt d hi
  let t := floorLog10 x (((m.log2 : Int)+e)*30103 / 100000)
  let finish (d : Nat) (p : Int) : Digits :=
    let ds := decimalDigits d
    ⟨dropTrailingZeros ds, p+ds.length⟩
  let rec search : Nat → Nat → Digits
    | 0, _ => finish 0 0
    | fuel+1, n =>
      let p := t-n+1
      let g := tenPow 1 p
      let d0 := (x.1*g.2) / (x.2*g.1)
      let in0 := inside (tenPow d0 p)
      let in1 := inside (tenPow (d0+1) p)
      if in0 && in1 then
        let twice : Ratio := (2*x.1, x.2)
        let mid := tenPow (2*d0+1) p
        if Ratio.lt twice mid then finish d0 p
        else if Ratio.lt mid twice then finish (d0+1) p
        else if d0 % 2 = 0 then finish d0 p else finish (d0+1) p
      else if in0 then finish d0 p
      else if in1 then finish (d0+1) p
      else search fuel (n+1)
  search 17 1

end DataMapper.Binary64
