import DataMapper.Number.Binary64
import DataMapper.Text.Blank
import DataMapper.Text.Letter

namespace DataMapper

/-- Why a text is not an integer. -/
inductive IntReadError
  | invalid
  | tooManyDigits (count : Nat)
  deriving DecidableEq

def maxIntDigits : Nat := 4300

/-- Maps blanks to spaces and digits of any script to ASCII digits; other characters outside
ASCII become `?`, which no reader accepts. -/
def asciiDigitsAndSpaces (cs : List Char) : List Char :=
  cs.map fun c =>
    if c.toNat < 128 then c
    else if Text.isBlank c then ' '
    else match Text.decimalValue? c with
      | some d => Char.ofNat (48+d)
      | none => '?'

def isAsciiSpace (c : Char) : Bool :=
  c == ' ' || c == '\t' || c == '\n' || c == '\r' || c == '\x0b' || c == '\x0c'

def trimAscii (cs : List Char) : List Char :=
  ((cs.dropWhile isAsciiSpace).reverse.dropWhile isAsciiSpace).reverse

def digitIn (base : Nat) (c : Char) : Option Nat :=
  let v :=
    if c.isDigit then some (c.toNat-48)
    else if 'a' ≤ c ∧ c ≤ 'z' then some (c.toNat-87)
    else if 'A' ≤ c ∧ c ≤ 'Z' then some (c.toNat-55)
    else none
  match v with
  | some d => if d < base then some d else none
  | none => none

/-- Reads digits where single underscores may stand between two digits; returns the value and
the digit count. -/
def readGrouped (base : Nat) : List Char → Option (Nat × Nat)
  | [] => none
  | c :: cs =>
    match digitIn base c with
    | none => none
    | some d =>
      let rec go (acc n : Nat) : List Char → Option (Nat × Nat)
        | [] => some (acc, n)
        | '_' :: c :: cs =>
          match digitIn base c with
          | some d => go (acc*base+d) (n+1) cs
          | none => none
        | c :: cs =>
          match digitIn base c with
          | some d => go (acc*base+d) (n+1) cs
          | none => none
      go d 1 cs

/-- Reads an integer in `base` (2 to 36). Base sixteen also takes a `0x` prefix. -/
def readInteger (s : String) (base : Nat) : Except IntReadError Int :=
  let cs := trimAscii (asciiDigitsAndSpaces s.toList)
  let (neg, body) := match cs with
    | '-' :: r => (true, r)
    | '+' :: r => (false, r)
    | r => (false, r)
  let body := match base, body with
    | 16, '0' :: x :: '_' :: r => if x == 'x' || x == 'X' then r else body
    | 16, '0' :: x :: r => if x == 'x' || x == 'X' then r else body
    | _, _ => body
  match readGrouped base body with
  | none => .error .invalid
  | some (v, n) =>
    if base = 10 ∧ n > maxIntDigits then .error (.tooManyDigits n)
    else .ok (if neg then -(v : Int) else v)

def underscoresBetweenDigits : List Char → Bool
  | [] => true
  | [c] => c != '_'
  | a :: '_' :: b :: r => a.isDigit && b.isDigit && underscoresBetweenDigits (b :: r)
  | a :: b :: r => a != '_' && underscoresBetweenDigits (b :: r)

def readPlainDigits (cs : List Char) : Nat × Nat :=
  cs.foldl (fun (v, n) c => (v*10+(c.toNat-48), n+1)) (0, 0)

/-- Reads a double from the body of a decimal: `digits[.digits][e[±]digits]`. -/
def readDecimalDouble? (neg : Bool) (cs : List Char) : Option Binary64 :=
  let mant := cs.takeWhile (fun c => c != 'e' && c != 'E')
  let rest := cs.dropWhile (fun c => c != 'e' && c != 'E')
  let ip := mant.takeWhile Char.isDigit
  let afterInt := mant.dropWhile Char.isDigit
  let frac := match afterInt with
    | '.' :: r => some r
    | [] => some []
    | _ => none
  match frac with
  | none => none
  | some fr =>
    if ip.isEmpty && fr.isEmpty then none
    else if !fr.all Char.isDigit then none
    else
      let exp? : Option Int := match rest with
        | [] => some 0
        | _ :: es =>
          let (sgn, ds) : Int × List Char := match es with
            | '+' :: d => (1, d)
            | '-' :: d => (-1, d)
            | d => (1, d)
          if ds.isEmpty || !ds.all Char.isDigit then none
          else some (sgn * (readPlainDigits ds).1)
      match exp? with
      | none => none
      | some e =>
        let (v, _) := readPlainDigits (ip ++ fr)
        some (Binary64.ofDecimal neg v (e-fr.length))

/-- Reads a double the way numeric text is read. -/
def Binary64.ofText? (s : String) : Option Binary64 :=
  let raw := asciiDigitsAndSpaces s.toList
  if !underscoresBetweenDigits raw then none
  else
    let cs := trimAscii (raw.filter (· != '_'))
    let (neg, body) := match cs with
      | '-' :: r => (true, r)
      | '+' :: r => (false, r)
      | r => (false, r)
    let low := body.map Char.toLower
    if low = "inf".toList ∨ low = "infinity".toList then
      some (if neg then Binary64.negInf else Binary64.posInf)
    else if low = "nan".toList then
      some (if neg then Binary64.ofFields true 2047 (Nat.pow 2 51) else Binary64.nan)
    else readDecimalDouble? neg body

end DataMapper
