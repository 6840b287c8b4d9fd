import DataMapper.Store.RealText

namespace DataMapper.Store

/-- A stored value. -/
inductive Datum
  | null
  | integer (n : Int)
  | real (x : Binary64)
  | text (s : String)
  | blob (b : List UInt8)
  deriving Inhabited, DecidableEq

/-- The class a column's values lean to. -/
inductive Affinity
  | blob
  | text
  | numeric
  | integer
  | real
  deriving DecidableEq, Inhabited

def int64Min : Int := -Int.pow 2 63
def int64Max : Int := Int.pow 2 63 - 1

def fitsInt64 (n : Int) : Bool := decide (int64Min ≤ n) && decide (n ≤ int64Max)

namespace Affinity

/-- The affinity a declared type gives, read over the type's last four characters as it is
scanned: `CHAR`, `CLOB` and `TEXT` give texts, `BLOB` gives none unless a text was seen,
`REAL`, `FLOA` and `DOUB` give doubles unless something else was seen, and `INT` gives
integers and ends the scan. Anything else is numeric; no type at all is none. -/
def ofDeclared (declared : String) : Affinity :=
  if declared.isEmpty then .blob else scan (declared.toList.map Char.toLower) [] .numeric
where
  /-- Scans with the characters seen so far, latest first. -/
  scan : List Char → List Char → Affinity → Affinity
    | [], _, aff => aff
    | c :: cs, seen, aff =>
      let w := (c :: seen).take 4
      match w with
      | ['r', 'a', 'h', 'c'] => scan cs w .text
      | ['b', 'o', 'l', 'c'] => scan cs w .text
      | ['t', 'x', 'e', 't'] => scan cs w .text
      | ['b', 'o', 'l', 'b'] =>
        scan cs w (if aff == .numeric || aff == .real then .blob else aff)
      | ['l', 'a', 'e', 'r'] => scan cs w (if aff == .numeric then .real else aff)
      | ['a', 'o', 'l', 'f'] => scan cs w (if aff == .numeric then .real else aff)
      | ['b', 'u', 'o', 'd'] => scan cs w (if aff == .numeric then .real else aff)
      | 't' :: 'n' :: 'i' :: _ => .integer
      | _ => scan cs w aff

/-- The affinity a `CAST` to a type name gives: as for a declared type, except that an empty
name gives the numeric affinity. -/
def ofCast (ty : String) : Affinity := ofDeclared.scan (ty.toList.map Char.toLower) [] .numeric

def isNumeric : Affinity → Bool
  | .numeric | .integer | .real => true
  | _ => false

end Affinity

def isBlank (c : Char) : Bool :=
  c == ' ' || c == '\t' || c == '\n' || c == '\r' || c == '\x0c' || c == '\x0b'

def digitsValue (ds : List Char) : Nat :=
  ds.foldl (fun n c => n * 10 + (c.toNat - 48)) 0

def significandBound : Nat := 922337203685477579

/-- A number read from the front of a text the way the store reads one: its sign, its
leading significant digits as one integer (further digits before the point only raise the
power of ten, further digits after it are dropped), the power of ten that scales them, how
many digits it had, whether it had a point or an exponent mark, whether a mark was followed
by digits, and whether only blanks follow the number. -/
structure Numeral where
  neg : Bool
  digits : Nat
  scale : Int
  count : Nat
  pointed : Bool
  marked : Bool
  exponentOk : Bool
  complete : Bool

/-- Reads a number from the front of a text. An exponent mark without digits adds nothing to
the number. The exponent's digits saturate at ten thousand. -/
def Numeral.read (s : String) : Numeral :=
  let cs := s.toList.dropWhile isBlank
  let (neg, cs) := match cs with
    | '-' :: r => (true, r)
    | '+' :: r => (false, r)
    | r => (false, r)
  let intDs := cs.takeWhile Char.isDigit
  let cs := cs.dropWhile Char.isDigit
  let (sig, shift) := intDs.foldl (fun (acc : Nat × Int) c =>
    if acc.1 ≥ significandBound then (acc.1, acc.2 + 1) else (acc.1 * 10 + (c.toNat - 48), acc.2))
    (0, 0)
  let (fracDs, pointed, cs) := match cs with
    | '.' :: r => (r.takeWhile Char.isDigit, true, r.dropWhile Char.isDigit)
    | r => ([], false, r)
  let (sig, shift) := fracDs.foldl (fun (acc : Nat × Int) c =>
    if acc.1 < significandBound then (acc.1 * 10 + (c.toNat - 48), acc.2 - 1) else acc)
    (sig, shift)
  let (expV, expOk, marked, cs) : Int × Bool × Bool × List Char := match cs with
    | c :: r =>
      if c == 'e' || c == 'E' then
        let (eneg, r) := match r with
          | '-' :: r' => (true, r')
          | '+' :: r' => (false, r')
          | r' => (false, r')
        let eds := r.takeWhile Char.isDigit
        let v : Nat := eds.foldl (fun e c => if e < 10000 then e * 10 + (c.toNat - 48) else 10000) 0
        (if eneg then -(v : Int) else v, !eds.isEmpty, true, r.dropWhile Char.isDigit)
      else (0, true, false, c :: r)
    | [] => (0, true, false, [])
  { neg, digits := sig, scale := expV + shift, count := intDs.length + fracDs.length,
    pointed, marked, exponentOk := expOk, complete := (cs.dropWhile isBlank).isEmpty }

/-- What a whole text is as a number. -/
inductive TextNumber
  /-- an integer: digits with an optional sign, and blanks around -/
  | whole
  /-- a number with a point or an exponent, and blanks around -/
  | decimal
  /-- a number with a point or an exponent, followed by other text -/
  | prefixed
  /-- no number, or an integer followed by other text -/
  | other
  deriving DecidableEq

def Numeral.kind (n : Numeral) : TextNumber :=
  if n.complete && n.count > 0 && n.exponentOk then
    if n.pointed || n.marked then .decimal else .whole
  else if (n.pointed || n.marked) && (n.pointed && n.marked || n.exponentOk) && n.count > 0 then
    .prefixed
  else .other

/-- Multiplies the significand by ten for a positive power while it stays small, or divides
it by ten for a negative power while it is a multiple of ten. -/
def Numeral.reduce (s : Nat) (e : Int) : Nat → Nat × Int
  | 0 => (s, e)
  | f + 1 =>
    if 0 < e then (if s ≥ 922337203685477580 then (s, e) else Numeral.reduce (s * 10) (e - 1) f)
    else if e < 0 then (if s % 10 != 0 then (s, e) else Numeral.reduce (s / 10) (e + 1) f)
    else (s, e)

/-- Ten to a power in extended precision, one factor of ten at a time, then factors of
`10^22`. -/
def Numeral.power (k : Nat) : Extended :=
  let ten := Extended.ofInt 10
  let big := Extended.ofInt (Int.pow 10 22)
  let p := (List.replicate (k % 22) ten).foldl Extended.mul (Extended.ofInt 1)
  (List.replicate (k / 22) big).foldl Extended.mul p

/-- The double of a numeral: the significand scaled by its power of ten in extended
precision, then rounded to a double. Powers beyond 341 give zero or an infinity; powers from
308 on are scaled in two steps, the second on doubles. -/
def Numeral.real (n : Numeral) : Binary64 :=
  if n.digits = 0 then (if n.neg then Binary64.negZero else Binary64.zero)
  else
    let (s, e) := Numeral.reduce n.digits n.scale 40
    let sv := Extended.ofInt (if n.neg then -(s : Int) else s)
    if e = 0 then Binary64.ofInt (if n.neg then -(s : Int) else s)
    else
      let k := e.natAbs
      if k > 307 then
        let e308 := Binary64.ofDecimal false 1 308
        if k < 342 then
          let scale := (List.replicate (k - 308) (Extended.ofInt 10)).foldl Extended.mul
            (Extended.ofInt 1)
          if e < 0 then ((sv.div scale).toBinary64.div? e308).getD Binary64.zero
          else (sv.mul scale).toBinary64.mul e308
        else if e < 0 then (if n.neg then Binary64.negZero else Binary64.zero)
        else (if n.neg then Binary64.negInf else Binary64.posInf)
      else
        let scale := Numeral.power k
        (if e < 0 then sv.div scale else sv.mul scale).toBinary64

/-- How reading a text as a 64-bit integer went. -/
inductive IntOutcome
  /-- digits, with only blanks after them, that fit -/
  | exact
  /-- digits that fit, followed by other text -/
  | trailing
  /-- no digits at all -/
  | noDigits
  /-- digits beyond the 64-bit range -/
  | overflow
  /-- exactly `2^63`, which fits only when negative -/
  | limit
  deriving DecidableEq

/-- Reads a 64-bit integer from the front of a text: blanks, a sign and digits. The value
saturates at the ends of the range. -/
def readInt64 (s : String) : Int × IntOutcome :=
  let cs := s.toList.dropWhile isBlank
  let (neg, cs) := match cs with
    | '-' :: r => (true, r)
    | '+' :: r => (false, r)
    | r => (false, r)
  let ds := cs.takeWhile Char.isDigit
  let after := cs.dropWhile Char.isDigit
  let v : Int := digitsValue ds
  let value := if neg then max (-v) int64Min else min v int64Max
  let base : IntOutcome :=
    if ds.isEmpty then .noDigits else if after.all isBlank then .exact else .trailing
  let limit : Int := Int.pow 2 63
  let outcome :=
    if v < limit then base else if v > limit then .overflow else if neg then base else .limit
  (value, outcome)

def integralOf? (x : Binary64) : Option Int :=
  match x.toRatio? with
  | some (n, d) =>
    if n % (d : Int) == 0 then
      let i := n / d
      if int64Min < i && i < int64Max then some i else none
    else none
  | none => none

def realOrInteger (x : Binary64) : Datum :=
  match integralOf? x with
  | some i => .integer i
  | none => .real x

/-- The number a whole text is (blanks around it allowed): an integer for an integer text in
the 64-bit range, a double for any other number; `none` for a text that is not a number. -/
def textNumber? (s : String) : Option (Sum Int Binary64) :=
  let n := Numeral.read s
  match n.kind with
  | .whole =>
    let (v, outcome) := readInt64 s
    if outcome == .exact then some (.inl v) else some (.inr n.real)
  | .decimal => some (.inr n.real)
  | _ => none

/-- The number a text stores as: a number text becomes that number, and a double that holds a
64-bit integer exactly becomes the integer. -/
def numberOf? (s : String) : Option Datum :=
  match textNumber? s with
  | some (.inl n) => some (.integer n)
  | some (.inr x) => some (realOrInteger x)
  | none => none

namespace Datum

def typeName : Datum → String
  | .null => "null"
  | .integer _ => "integer"
  | .real _ => "real"
  | .text _ => "text"
  | .blob _ => "blob"

def isNull : Datum → Bool
  | .null => true
  | _ => false

def blobText (b : List UInt8) : String :=
  match String.fromUTF8? (ByteArray.mk b.toArray) with
  | some s => s
  | none => String.ofList (b.map fun u => Char.ofNat u.toNat)

def asText? : Datum → Option String
  | .null => none
  | .integer n => some (toString n)
  | .real x => some (realText x)
  | .text s => some s
  | .blob b => some (blobText b)

def toReal : Datum → Binary64
  | .null => Binary64.zero
  | .integer n => Binary64.ofInt n
  | .real x => x
  | .text s => (Numeral.read s).real
  | .blob b => (Numeral.read (blobText b)).real

def realToInt (x : Binary64) : Int :=
  match x.shape with
  | .nan => 0
  | .inf neg => if neg then int64Min else int64Max
  | .finite _ _ _ =>
    match x.truncate? with
    | some i => if i ≤ int64Min then int64Min else if i ≥ int64Max then int64Max else i
    | none => 0

def textToInt (s : String) : Int := (readInt64 s).1

def toInt : Datum → Int
  | .null => 0
  | .integer n => n
  | .real x => realToInt x
  | .text s => textToInt s
  | .blob b => textToInt (blobText b)

/-- A number for arithmetic: an integer or a double. A text (or a byte string, by its text)
is a double when it is a number with a point or an exponent, with or without text after it, or
when its integer leaves the 64-bit range; otherwise it is the integer at its front (zero when
there is none). -/
def arith : Datum → Sum Int Binary64
  | .integer n => .inl n
  | .real x => .inr x
  | .null => .inl 0
  | .text s => ofText s
  | .blob b => ofText (blobText b)
where
  ofText (s : String) : Sum Int Binary64 :=
    let n := Numeral.read s
    let (v, outcome) := readInt64 s
    match n.kind with
    | .other =>
      if outcome == .overflow || outcome == .limit then .inr n.real else .inl v
    | .whole => if outcome == .exact then .inl v else .inr n.real
    | _ => .inr n.real

/-- A value as `CAST ... AS NUMERIC` makes it: numbers stay; a text or byte string becomes the
integer at its front when it is an integer (followed by other text or not) that fits, or when
its double holds a small integer exactly, and that double otherwise. -/
def numerify : Datum → Datum
  | .text s => ofText s
  | .blob b => ofText (blobText b)
  | d => d
where
  ofText (s : String) : Datum :=
    let n := Numeral.read s
    let (v, outcome) := readInt64 s
    let small (x : Binary64) : Option Int :=
      match x.toRatio? with
      | some (p, q) =>
        if p == 0 then some 0
        else if p % (q : Int) == 0 && (p / q).natAbs < Nat.pow 2 51 then some (p / q) else none
      | none => none
    if (n.kind == .other || n.kind == .whole) &&
        (outcome == .exact || outcome == .trailing || outcome == .noDigits) then .integer v
    else
      let x := n.real
      match small x with
      | some i => .integer i
      | none => .real x

/-- The number a value is or, for a text, wholly reads as: `none` for nothing, byte strings
and texts that are not numbers. -/
def numericValue? : Datum → Option (Sum Int Binary64)
  | .integer n => some (.inl n)
  | .real x => some (.inr x)
  | .text s => textNumber? s
  | _ => none

def truth? : Datum → Option Bool
  | .null => none
  | .integer n => some (n != 0)
  | d =>
    match d.toReal.toRatio? with
    | some (n, _) => some (n != 0)
    | none => some true

/-- The value a column of an affinity stores for a given value. -/
def withAffinity : Affinity → Datum → Datum
  | .text, .integer n => .text (toString n)
  | .text, .real x => .text (realText x)
  | .real, .integer n => .real (Binary64.ofInt n)
  | .real, .real x =>
    match integralOf? x with
    | some i => .real (Binary64.ofInt i)
    | none => .real x
  | .real, .text s =>
    match numberOf? s with
    | some (.integer n) => .real (Binary64.ofInt n)
    | some d => d
    | none => .text s
  | .numeric, .text s => (numberOf? s).getD (.text s)
  | .integer, .text s => (numberOf? s).getD (.text s)
  | .numeric, .real x => realOrInteger x
  | .integer, .real x => realOrInteger x
  | _, d => d

def rank : Datum → Nat
  | .null => 0
  | .integer _ => 1
  | .real _ => 1
  | .text _ => 2
  | .blob _ => 3

/-- The exact order of two doubles or integers. -/
def compareNumbers (a b : Sum Int Binary64) : Ordering :=
  let key : Sum Int Binary64 → Option (Int × Nat) ⊕ Bool := fun v =>
    match v with
    | .inl n => .inl (some (n, 1))
    | .inr x =>
      match x.shape with
      | .inf neg => .inr neg
      | _ => .inl x.toRatio?
  match key a, key b with
  | .inr n1, .inr n2 => if n1 == n2 then .eq else if n1 then .lt else .gt
  | .inr n1, _ => if n1 then .lt else .gt
  | _, .inr n2 => if n2 then .gt else .lt
  | .inl (some (p, q)), .inl (some (r, s)) => compare (p * s) (r * q)
  | _, _ => .eq

def compareBytes : List UInt8 → List UInt8 → Ordering
  | [], [] => .eq
  | [], _ :: _ => .lt
  | _ :: _, [] => .gt
  | a :: as, b :: bs => if a < b then .lt else if b < a then .gt else compareBytes as bs

def compare (a b : Datum) : Ordering :=
  match a, b with
  | .integer n, .integer m => Ord.compare n m
  | .integer n, .real y => compareNumbers (.inl n) (.inr y)
  | .real x, .integer m => compareNumbers (.inr x) (.inl m)
  | .real x, .real y => compareNumbers (.inr x) (.inr y)
  | .text s, .text t => Ord.compare s t
  | .blob x, .blob y => compareBytes x y
  | _, _ => Ord.compare a.rank b.rank

def same (a b : Datum) : Bool := a.compare b == .eq

theorem compare_null_integer (n : Int) : compare .null (.integer n) = .lt := rfl

end Datum

end DataMapper.Store
