import DataMapper.Number.Extended

namespace DataMapper.Store

/-- The three styles of writing a double. -/
inductive RealStyle
  | fixed
  | exponent
  | general
  deriving DecidableEq

/-- How a double is to be written: its style, places (six when none is given), the case of
the exponent mark, the flags `#`, `!`, `0` and `-`, the sign shown for non-negative values,
and the width the `0` flag pads to. -/
structure RealSpec where
  style : RealStyle
  precision : Option Nat := none
  upper : Bool := false
  alternate : Bool := false
  altForm2 : Bool := false
  zeroPad : Bool := false
  leftJustify : Bool := false
  signChar : Option Char := none
  width : Nat := 0

def halfUnit (k : Nat) : Binary64 := Binary64.ofDecimal false 5 (-((k : Int) + 1))

def rounderFor (k : Nat) : Binary64 :=
  go (halfUnit (k % 10)) k (k / 10 + 1)
where
  /-- Scales by `10^-10` while ten or more places are left. -/
  go (r : Binary64) (k : Nat) : Nat → Binary64
    | 0 => r
    | f + 1 => if k ≥ 10 then go (r.mul (Binary64.ofDecimal false 1 (-10))) (k - 10) f else r

def ext (digits : Nat) (exp : Int) : Extended :=
  Extended.ofBinary64 (Binary64.ofDecimal false digits exp)

def binaryExponent (x : Binary64) : Int := ((x.bits.toNat / Nat.pow 2 52) % 2048 : Nat) - 1023

/-- Brings a positive value between one and ten: the value and the power of ten taken out;
`none` when the power passes 350 (an infinity). -/
def normalize (v : Extended) : Option (Extended × Int) :=
  let (scale, exp) := grow (Extended.ofInt 1) 0 (ext 1 100) 100 5
  let (scale, exp) := grow scale exp (ext 1 10) 10 40
  let (scale, exp) := grow scale exp (ext 1 1) 1 12
  let v := v.div scale
  let (v, exp) := lift v exp (ext 1 (-8)) (ext 1 8) 8 50
  let (v, exp) := lift v exp (Extended.ofInt 1) (ext 1 1) 1 10
  if exp > 350 then none else some (v, exp)
where
  /-- Multiplies the scale by a step while the value is at least step times the scale. -/
  grow (scale : Extended) (exp : Int) (step : Extended) (k : Nat) : Nat → Extended × Int
    | 0 => (scale, exp)
    | f + 1 =>
      if !(v.lt (step.mul scale)) && exp ≤ 350 then grow (scale.mul step) (exp + k) step k f
      else (scale, exp)
  /-- Multiplies the value by a step while it is below a bound. -/
  lift (v : Extended) (exp : Int) (bound step : Extended) (k : Nat) : Nat → Extended × Int
    | 0 => (v, exp)
    | f + 1 => if v.lt bound then lift (v.mul step) (exp - k) bound step k f else (v, exp)

/-- The next digit of a working value between zero and ten: its integer part, and the
fraction times ten; zero once the significant digits are spent. -/
def nextDigit (v : Extended) (left : Nat) : Char × Extended × Nat :=
  match left with
  | 0 => ('0', v, 0)
  | n + 1 =>
    let d := v.truncate
    (Char.ofNat (48 + d.toNat), (v.sub (Extended.ofInt d)).mul (Extended.ofInt 10), n)

def digitsOf (v : Extended) (left : Nat) : Nat → List Char × Extended × Nat
  | 0 => ([], v, left)
  | k + 1 =>
    let (c, v, left) := nextDigit v left
    let (cs, v, left) := digitsOf v left k
    (c :: cs, v, left)

def exponentSuffix (upper : Bool) (exp : Int) : List Char :=
  let mark := if upper then 'E' else 'e'
  let sign := if exp < 0 then '-' else '+'
  let n := exp.natAbs
  let hundreds := if n ≥ 100 then [Char.ofNat (48 + n / 100)] else []
  let n := n % 100
  mark :: sign :: hundreds ++ [Char.ofNat (48 + n / 10), Char.ofNat (48 + n % 10)]

def trimZeros (keepOne : Bool) (cs : List Char) : List Char :=
  let r := cs.reverse.dropWhile (· == '0')
  match r with
  | '.' :: rest => if keepOne then ('0' :: '.' :: rest).reverse else rest.reverse
  | _ => r.reverse

/-- The digits of a double written by a specification, with the `0` flag's padding but no
other padding. -/
def writeReal (spec : RealSpec) (x : Binary64) : String :=
  match x.shape with
  | .nan => "NaN"
  | .inf neg => String.ofList (signOf neg ++ "Inf".toList)
  | .finite sgn m _ =>
    let neg := sgn && m != 0
    let precision := spec.precision.getD 6
    let magnitude := if neg then x.negate else x
    let precision := if spec.style == .general && precision > 0 then precision - 1 else precision
    let rounder := rounderFor (precision % 4096)
    let value := Extended.ofBinary64 magnitude
    let (rounder, value) :=
      if spec.style == .fixed then
        let rounder :=
          if (precision : Int) + (binaryExponent magnitude).tdiv 3 < 15 then
            ((Extended.ofBinary64 rounder).add (value.mul (ext 3 (-16)))).toBinary64
          else rounder
        (rounder, value.add (Extended.ofBinary64 rounder))
      else (rounder, value)
    let normal := if Extended.lt (Extended.ofInt 0) value then normalize value else some (value, 0)
    match normal with
    | none => String.ofList (signOf neg ++ "Inf".toList)
    | some (value, exp) =>
      let (value, exp) :=
        if spec.style != .fixed then
          let v := value.add (Extended.ofBinary64 rounder)
          if v.lt (Extended.ofInt 10) then (v, exp) else (v.mul (ext 1 (-1)), exp + 1)
        else (value, exp)
      let (style, precision, trim) :=
        if spec.style == .general then
          if exp < -4 || exp > (precision : Int) then (RealStyle.exponent, precision, !spec.alternate)
          else (RealStyle.fixed, (precision - exp).toNat, !spec.alternate)
        else (spec.style, precision, spec.altForm2)
      let e2 : Int := if style == .exponent then 0 else exp
      let significant := if spec.altForm2 then 26 else 16
      let point := precision > 0 || spec.alternate || spec.altForm2
      let (whole, value, left) :=
        if e2 < 0 then (['0'], value, significant) else digitsOf value significant (e2.toNat + 1)
      let leading := if e2 < 0 then min (e2.natAbs - 1) precision else 0
      let zeros := List.replicate leading '0'
      let (frac, _, _) := digitsOf value left (precision - leading)
      let body := whole ++ (if point then '.' :: zeros ++ frac else [])
      let body := if trim && point then trimZeros spec.altForm2 body else body
      let body := if style == .exponent then body ++ exponentSuffix spec.upper exp else body
      let sign := signOf neg
      let body :=
        if spec.zeroPad && !spec.leftJustify && sign.length + body.length < spec.width then
          List.replicate (spec.width - sign.length - body.length) '0' ++ body
        else body
      String.ofList (sign ++ body)
where
  /-- The sign shown: `-` for negative values, else the requested one. -/
  signOf (neg : Bool) : List Char :=
    if neg then ['-'] else match spec.signChar with
      | some c => [c]
      | none => []

/-- The text of a double in a store: fifteen significant digits in the general style, with a
point and at least one digit after it. -/
def realText (x : Binary64) : String :=
  writeReal { style := .general, precision := some 15, altForm2 := true } x

end DataMapper.Store
