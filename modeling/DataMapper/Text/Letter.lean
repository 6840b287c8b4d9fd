import DataMapper.Text.RangeTable
import DataMapper.Text.LetterTable

namespace DataMapper.Text

def alphanumericTable : Array Span := Span.readTable LetterTable.alphanumericRanges

def decimalTable : Array Span :=
  (LetterTable.decimalBlocks.splitOn ";").foldl (fun acc e =>
    match (e.splitOn ",").map readHex? with
    | [some z, some n] => acc.push ⟨z,z+n-1,1,0⟩
    | _ => acc) #[]

/-- A letter or a character with a numeric value. Below 128 these are the ASCII letters and
digits, decided without the table. -/
def isAlphanumeric (c : Char) : Bool :=
  if c.toNat < 128 then c.isAlphanum else Span.member alphanumericTable c

def isWordChar (c : Char) : Bool := c == '_' || isAlphanumeric c

def decimalValue? (c : Char) : Option Nat :=
  match Span.find? decimalTable c.toNat with
  | some sp => if sp.covers c.toNat then some (c.toNat-sp.lo) else none
  | none => none

def isDecimalDigit (c : Char) : Bool := (decimalValue? c).isSome

end DataMapper.Text
