import DataMapper.Text.RangeTable
import DataMapper.Text.CaseTable

namespace DataMapper.Text

def lowerTable : Array Span := Span.readTable CaseTable.lowerSpans
def lowerExpansionTable : List (Nat × List Char) := readExpansions CaseTable.lowerExpansions
def upperTable : Array Span := Span.readTable CaseTable.upperSpans
def upperExpansionTable : List (Nat × List Char) := readExpansions CaseTable.upperExpansions
def simpleLowerTable : Array Span := Span.readTable CaseTable.simpleLowerSpans
def ignorableTable : Array Span := Span.readTable CaseTable.ignorableRanges
def casedTable : Array Span := Span.readTable CaseTable.casedRanges

def isCaseIgnorable (c : Char) : Bool := Span.member ignorableTable c

def isCased (c : Char) : Bool := Span.member casedTable c

def lowerChar (c : Char) : List Char :=
  match lowerExpansionTable.lookup c.toNat with
  | some cs => cs
  | none =>
    if c.toNat = 0x3A3 then ['σ']
    else match Span.image? lowerTable c with
      | some d => [d]
      | none => [c]

/-- The uppercase of one character; some characters become two or three. ASCII characters
change only from `a`–`z` to `A`–`Z`. -/
def upperChar (c : Char) : List Char :=
  if c.toNat < 128 then [c.toUpper]
  else match upperExpansionTable.lookup c.toNat with
    | some cs => cs
    | none =>
      match Span.image? upperTable c with
      | some d => [d]
      | none => [c]

def simpleLower (c : Char) : Char := (Span.image? simpleLowerTable c).getD c

/-- The code points whose one-character lowercase is `k`: `k` itself when it is its own
lowercase, and those that a span of the table maps to `k`. -/
def lowerPreimages (k : Nat) : List Nat :=
  let others := simpleLowerTable.toList.filterMap fun sp =>
    let x := (k : Int) - sp.delta
    if 0 ≤ x && sp.covers x.toNat then some x.toNat else none
  if Span.member simpleLowerTable (Char.ofNat k) then others else k :: others

def casedAhead : List Char → Bool
  | [] => false
  | c :: cs => if isCaseIgnorable c then casedAhead cs else isCased c

def lowerFrom (before : List Char) : List Char → List Char
  | [] => []
  | c :: cs =>
    let here :=
      if c.toNat = 0x3A3 then
        if casedAhead before && !casedAhead cs then ['ς'] else ['σ']
      else lowerChar c
    here ++ lowerFrom (c :: before) cs

def lowerList (cs : List Char) : List Char := lowerFrom [] cs

def upperList (cs : List Char) : List Char := cs.flatMap upperChar

def toLower (s : String) : String := String.ofList (lowerList s.toList)

def toUpper (s : String) : String := String.ofList (upperList s.toList)

theorem upperList_append (a b : List Char) : upperList (a++b) = upperList a ++ upperList b := by
  simp [upperList]

end DataMapper.Text
