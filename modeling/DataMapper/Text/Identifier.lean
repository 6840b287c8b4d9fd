import DataMapper.Text.RangeTable
import DataMapper.Text.IdentifierTable

namespace DataMapper.Text

def letterTable : Array Span := Span.readTable IdentifierTable.letterRanges
def identStartTable : Array Span := Span.readTable IdentifierTable.startRanges
def identContinueTable : Array Span := Span.readTable IdentifierTable.continueRanges

def isLetter (c : Char) : Bool := Span.member letterTable c

def isIdentStart (c : Char) : Bool := c == '_' || Span.member identStartTable c

def isIdentContinue (c : Char) : Bool := Span.member identContinueTable c

def isIdentifier (s : String) : Bool :=
  match s.toList with
  | [] => false
  | c :: cs => isIdentStart c && cs.all isIdentContinue

end DataMapper.Text
