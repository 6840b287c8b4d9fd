import DataMapper.Text.Blank
import DataMapper.Text.Letter

namespace DataMapper

/-- A decimal number: finite `±coeff·10^exp`, an infinity, or a NaN. -/
inductive Decimal
  | finite (neg : Bool) (coeff : Nat) (exp : Int)
  | inf (neg : Bool)
  | nan (neg : Bool) (signaling : Bool) (payload : Nat)
  deriving DecidableEq

namespace Decimal

def readDigits? (cs : List Char) : Option Nat :=
  if cs.isEmpty then none
  else cs.foldlM (fun acc c => if c.isDigit then some (acc*10+(c.toNat-48)) else none) 0

def splitAt? (p : Char → Bool) (cs : List Char) : List Char × List Char :=
  (cs.takeWhile (fun c => !p c), cs.dropWhile (fun c => !p c))

def maxExponent : Int := 999999999999999999

/-- The smallest exponent a number may have: that of the least subnormal at the largest
precision, `1 - 2·maxExponent`. -/
def tinyLimit : Int := 1 - 2 * maxExponent

/-- Whether `coeff·10^exp` is held exactly: its adjusted exponent at most `maxExponent` and
its exponent at least `tinyLimit` (the adjusted exponent of zero is its exponent). -/
def inRange (coeff : Nat) (exp : Int) : Bool :=
  let adjusted := exp + (Nat.toDigits 10 coeff).length - 1
  adjusted ≤ maxExponent && tinyLimit ≤ exp

/-- Reads the body of a finite number: `digits[.digits][e[±]digits]`; a number beyond the
exponents that can be held exactly is not read. -/
def readFinite? (neg : Bool) (cs : List Char) : Option Decimal :=
  let (mant, rest) := splitAt? (fun c => c == 'e' || c == 'E') cs
  let exp? : Option Int :=
    match rest with
    | [] => some 0
    | _ :: es =>
      match es with
      | '+' :: ds => (readDigits? ds).map Int.ofNat
      | '-' :: ds => (readDigits? ds).map (fun n => -(n : Int))
      | ds => (readDigits? ds).map Int.ofNat
  let (ip, fp) := splitAt? (· == '.') mant
  let frac := fp.drop 1
  if ip.isEmpty && frac.isEmpty then none
  else if !(ip.all Char.isDigit && frac.all Char.isDigit) then none
  else match exp? with
    | none => none
    | some e =>
      let coeff := (ip ++ frac).foldl (fun acc c => acc*10+(c.toNat-48)) 0
      if inRange coeff (e - frac.length) then some (.finite neg coeff (e - frac.length)) else none

def asciiLower (cs : List Char) : List Char := cs.map Char.toLower

def readSpecial? (neg : Bool) (cs : List Char) : Option Decimal :=
  let low := asciiLower cs
  if low = "inf".toList ∨ low = "infinity".toList then some (.inf neg)
  else match low with
    | 'n' :: 'a' :: 'n' :: ds =>
      if ds.isEmpty then some (.nan neg false 0) else (readDigits? ds).map (.nan neg false)
    | 's' :: 'n' :: 'a' :: 'n' :: ds =>
      if ds.isEmpty then some (.nan neg true 0) else (readDigits? ds).map (.nan neg true)
    | _ => none

/-- Maps blanks to a space and digits of any script to ASCII digits; another character
outside ASCII makes the text unreadable. -/
def asciiForm? (cs : List Char) : Option (List Char) :=
  cs.mapM fun c =>
    if c.toNat < 128 then some c
    else if Text.isBlank c then some ' '
    else (Text.decimalValue? c).map (fun d => Char.ofNat (48+d))

/-- Reads a decimal number from text. -/
def ofText? (s : String) : Option Decimal :=
  match asciiForm? ((Text.trimList s.toList).filter (· != '_')) with
  | none => none
  | some cs =>
    let (neg, body) := match cs with
      | '-' :: r => (true, r)
      | '+' :: r => (false, r)
      | r => (false, r)
    match readSpecial? neg body with
    | some d => some d
    | none => readFinite? neg body

def digitText (n : Nat) : List Char := Nat.toDigits 10 n

/-- The scientific string of a finite number. -/
def finiteText (coeff : Nat) (exp : Int) : String :=
  let ds := digitText coeff
  let left : Int := exp + ds.length
  let dot : Int := if exp ≤ 0 ∧ left > -6 then left else 1
  let body : List Char :=
    if dot ≤ 0 then '0' :: '.' :: (List.replicate (-dot).toNat '0' ++ ds)
    else if dot ≥ ds.length then ds ++ List.replicate (dot.toNat-ds.length) '0'
    else ds.take dot.toNat ++ '.' :: ds.drop dot.toNat
  let expPart : String :=
    if left = dot then ""
    else
      let k := left-dot
      "E" ++ (if k < 0 then "-" else "+") ++ toString k.natAbs
  String.ofList body ++ expPart

def toText : Decimal → String
  | .finite neg c e => (if neg then "-" else "") ++ finiteText c e
  | .inf neg => (if neg then "-" else "") ++ "Infinity"
  | .nan neg sig p =>
    (if neg then "-" else "") ++ (if sig then "sNaN" else "NaN") ++ (if p = 0 then "" else toString p)

def toRatio? : Decimal → Option (Int × Nat)
  | .finite neg c e =>
    if 0 ≤ e then some ((if neg then -((c*Nat.pow 10 e.toNat : Nat) : Int) else (c*Nat.pow 10 e.toNat : Nat)), 1)
    else some ((if neg then -(c : Int) else c), Nat.pow 10 (-e).toNat)
  | _ => none

def isNaN : Decimal → Bool
  | .nan .. => true
  | _ => false

def isZero : Decimal → Bool
  | .finite _ c _ => c == 0
  | _ => false

def ofInt (n : Int) : Decimal := .finite (n < 0) n.natAbs 0

end Decimal

end DataMapper
