import DataMapper.Text.RangeTable
import DataMapper.Text.PrintableTable
import DataMapper.Text.Surrogate

namespace DataMapper.Text

def hiddenTable : Array Span := Span.readTable PrintableTable.hiddenRanges

def isPrintable (c : Char) : Bool := !Span.member hiddenTable c

def hexPadded (width n : Nat) : List Char :=
  let ds := Nat.toDigits 16 n
  List.replicate (width-ds.length) '0' ++ ds

/-- The escaped form of one character between quotes `q`. -/
def escapeChar (q : Char) (c : Char) : List Char :=
  if c == '\\' then ['\\', '\\']
  else if c == q then ['\\', q]
  else if c == '\t' then ['\\', 't']
  else if c == '\n' then ['\\', 'n']
  else if c == '\r' then ['\\', 'r']
  else if c.toNat < 32 || c.toNat == 127 then '\\' :: 'x' :: hexPadded 2 c.toNat
  else if c.toNat < 128 || isPrintable c then [c]
  else if c.toNat < 256 then '\\' :: 'x' :: hexPadded 2 c.toNat
  else if c.toNat < 65536 then '\\' :: 'u' :: hexPadded 4 c.toNat
  else if let some n := surrogateOf? c then '\\' :: 'u' :: hexPadded 4 n
  else '\\' :: 'U' :: hexPadded 8 c.toNat

/-- The quote character for a body: double quotes only when the body holds a single quote
and no double quote. -/
def quoteFor (cs : List Char) : Char :=
  if cs.contains '\'' && !cs.contains '"' then '"' else '\''

def quote (s : String) : String :=
  let cs := s.toList
  let q := quoteFor cs
  String.ofList (q :: cs.flatMap (escapeChar q) ++ [q])

def escapeByte (q : Char) (b : UInt8) : List Char :=
  let c := Char.ofNat b.toNat
  if c == '\\' then ['\\', '\\']
  else if c == q then ['\\', q]
  else if c == '\t' then ['\\', 't']
  else if c == '\n' then ['\\', 'n']
  else if c == '\r' then ['\\', 'r']
  else if b.toNat < 32 || b.toNat ≥ 127 then '\\' :: 'x' :: hexPadded 2 b.toNat
  else [c]

def quoteBytes (bs : List UInt8) : String :=
  let cs := bs.map (fun b => Char.ofNat b.toNat)
  let q := quoteFor cs
  String.ofList ('b' :: q :: bs.flatMap (escapeByte q) ++ [q])

end DataMapper.Text
