import DataMapper.Value.Basic
import DataMapper.Number.Shortest
import DataMapper.Text.Quote

namespace DataMapper

/-- How a double is written once its shortest digits are known. -/
structure FloatLayout where
  /-- Positional notation when the point position `p` has `low < p ≤ high`. -/
  low : Int
  high : Int
  /-- Whether an integral positional value keeps a `.0`. -/
  pointZero : Bool
  /-- The least number of exponent digits. -/
  expDigits : Nat
  infText : String
  nanText : String

/-- Doubles in messages and value text: positional from `1e-4` up to below `1e16`, a kept
`.0`, exponents `e+XX` of at least two digits, `inf` and `nan`. -/
def FloatLayout.standard : FloatLayout := ⟨-4, 16, true, 2, "inf", "nan"⟩

def FloatLayout.json : FloatLayout := { FloatLayout.standard with infText := "Infinity", nanText := "NaN" }

namespace Binary64

/-- Writes shortest digits `0.d₁…dₙ × 10^point` in a layout. -/
def layoutDigits (l : FloatLayout) (ds : List Nat) (point : Int) : String :=
  let dc := ds.map (fun d => Char.ofNat (48+d))
  if l.low < point ∧ point ≤ l.high then
    if point ≤ 0 then String.ofList ('0' :: '.' :: List.replicate (-point).toNat '0' ++ dc)
    else if point ≥ dc.length then
      String.ofList (dc ++ List.replicate (point.toNat-dc.length) '0') ++ (if l.pointZero then ".0" else "")
    else String.ofList (dc.take point.toNat ++ '.' :: dc.drop point.toNat)
  else
    let mant := match dc with
      | [] => "0"
      | [d] => String.ofList [d]
      | d :: rest => String.ofList (d :: '.' :: rest)
    let e := point-1
    let eds := toString e.natAbs
    mant ++ "e" ++ (if e < 0 then "-" else "+") ++
      String.ofList (List.replicate (l.expDigits-eds.length) '0') ++ eds

def render (l : FloatLayout) (x : Binary64) : String :=
  match x.shape with
  | .nan => l.nanText
  | .inf neg => (if neg then "-" else "") ++ l.infText
  | .finite neg m e =>
    let sign := if neg then "-" else ""
    if m = 0 then sign ++ layoutDigits l [0] 1
    else let d := shortest m e; sign ++ layoutDigits l d.digits d.point

def toText (x : Binary64) : String := render FloatLayout.standard x

end Binary64

def uuidText (n : Nat) : String :=
  let hs := Text.hexPadded 32 (n % Nat.pow 2 128)
  String.ofList (hs.take 8 ++ '-' :: (hs.drop 8).take 4 ++ '-' :: (hs.drop 12).take 4 ++
    '-' :: (hs.drop 16).take 4 ++ '-' :: hs.drop 20)

def openBrace : String := "\x7b"
def closeBrace : String := "\x7d"

namespace Value

def clockArgs (h m s us : Nat) : List String :=
  if us ≠ 0 then [toString h, toString m, toString s, toString us]
  else if s ≠ 0 then [toString h, toString m, toString s]
  else [toString h, toString m]

def withZone (args : List String) : Option Offset → List String
  | some o => args ++ ["tzinfo=" ++ o.describe]
  | Option.none => args

def call (f : String) (args : List String) : String := f ++ "(" ++ ", ".intercalate args ++ ")"

mutual

/-- The constructor form of a value. -/
def repr : Value → String
  | .none => "None"
  | .bool b => if b then "True" else "False"
  | .int n => toString n
  | .float x => x.toText
  | .decimal d => "Decimal('" ++ d.toText ++ "')"
  | .str s => Text.quote s
  | .bytes b => Text.quoteBytes b
  | .date d => call "datetime.date" [toString d.year, toString d.month, toString d.day]
  | .time t => call "datetime.time" (withZone (clockArgs t.hour t.minute t.second t.micro) t.offset)
  | .datetime dt =>
    call "datetime.datetime" (withZone ([toString dt.date.year, toString dt.date.month,
      toString dt.date.day] ++ clockArgs dt.time.hour dt.time.minute dt.time.second dt.time.micro)
      dt.time.offset)
  | .uuid n => "UUID('" ++ uuidText n ++ "')"
  | .list xs => "[" ++ ", ".intercalate (reprAll xs) ++ "]"
  | .tuple xs =>
    match reprAll xs with
    | [x] => "(" ++ x ++ ",)"
    | rs => "(" ++ ", ".intercalate rs ++ ")"
  | .dict kvs => openBrace ++ ", ".intercalate (reprPairs kvs) ++ closeBrace
  | .member e _ n _ v => "<" ++ e ++ "." ++ n ++ ": " ++ repr v ++ ">"

def reprAll : List Value → List String
  | [] => []
  | x :: xs => repr x :: reprAll xs

def reprPairs : List (Value × Value) → List String
  | [] => []
  | (k, v) :: kvs => (repr k ++ ": " ++ repr v) :: reprPairs kvs

end

/-- The plain form of a value: texts as they are, calendar values in ISO form, members by
qualified name, containers in constructor form. -/
def plain : Value → String
  | .str s => s
  | .date d => d.isoText
  | .time t => t.isoText
  | .datetime dt => dt.isoTextWith " "
  | .uuid n => uuidText n
  | .decimal d => d.toText
  | .member e _ n _ _ => e ++ "." ++ n
  | v => v.repr

end Value

end DataMapper
