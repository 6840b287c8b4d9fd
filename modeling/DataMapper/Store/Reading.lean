import DataMapper.Store.Token
import DataMapper.Store.Syntax

namespace DataMapper.Store

/-- Why a statement could not be read. -/
inductive SyntaxError
  | near (text : String)
  | incomplete
  | unrecognized (text : String)
  | other (message : String)
  /-- A failure after the head of a `CREATE TABLE` was read: the head's own checks come
  first. -/
  | inTable (start : TableStart) (err : SyntaxError)

def SyntaxError.message : SyntaxError → String
  | .near t => "near \"" ++ t ++ "\": syntax error"
  | .incomplete => "incomplete input"
  | .unrecognized t => "unrecognized token: \"" ++ t ++ "\""
  | .other m => m
  | .inTable _ err => err.message

/-- The state of reading: the tokens left, where the last token taken stops, the names of the
parameters numbered so far, and the statement's characters. -/
structure Reader where
  tokens : List Token
  last : Nat := 0
  params : List (Option String) := []
  chars : List Char

abbrev Reading := StateT Reader (Except SyntaxError)

namespace Reading

def upper (s : String) : String := s.map Char.toUpper

def reserved : List String :=
  ["ADD", "ALL", "ALTER", "AND", "AS", "AUTOINCREMENT", "BETWEEN", "CASE", "CHECK", "COLLATE",
   "COMMIT", "CONSTRAINT", "CREATE", "DEFAULT", "DEFERRABLE", "DELETE", "DISTINCT", "DROP",
   "ELSE", "ESCAPE", "EXCEPT", "EXISTS", "FOREIGN", "FROM", "GROUP", "HAVING", "IN", "INDEX",
   "INDEXED", "INSERT", "INTERSECT", "INTO", "IS", "ISNULL", "JOIN", "LIMIT", "NOT", "NOTHING",
   "NOTNULL", "NULL", "ON", "OR", "ORDER", "PRIMARY", "REFERENCES", "RETURNING", "SELECT", "SET",
   "TABLE", "THEN", "TO", "TRANSACTION", "UNION", "UNIQUE", "UPDATE", "USING", "VALUES", "WHEN",
   "WHERE"]

def joinWords : List String := ["CROSS", "FULL", "INNER", "LEFT", "NATURAL", "OUTER", "RIGHT"]

def isKeyword (t : Token) (k : String) : Bool := t.kind == .word && upper t.text == k

def canName (t : Token) : Bool :=
  match t.kind with
  | .word => !reserved.contains (upper t.text)
  | .quoted | .string => true
  | _ => false

def canIdentify (t : Token) : Bool :=
  match t.kind with
  | .word => !reserved.contains (upper t.text) && !joinWords.contains (upper t.text)
  | .quoted => true
  | _ => false

def canAlias (t : Token) : Bool := canIdentify t || t.kind == .string

def peek : Reading (Option Token) := do return (← get).tokens.head?

def peekSecond : Reading (Option Token) := do return ((← get).tokens.drop 1).head?

def advance : Reading Unit :=
  modify fun r => match r.tokens with
    | t :: ts => { r with tokens := ts, last := t.stop }
    | [] => r

def failHere {α : Type} : Reading α := do
  match ← peek with
  | none => throw .incomplete
  | some t => if t.kind == .illegal then throw (.unrecognized t.text) else throw (.near t.text)

def keyword? (k : String) : Reading Bool := do
  match ← peek with
  | some t => if isKeyword t k then advance; return true else return false
  | none => return false

def keyword (k : String) : Reading Unit := do
  if !(← keyword? k) then failHere

def atKeyword (k : String) : Reading Bool := do
  return match ← peek with
    | some t => isKeyword t k
    | none => false

def symbol? (s : String) : Reading Bool := do
  match ← peek with
  | some t => if t.kind == .symbol && t.value == s then advance; return true else return false
  | none => return false

def symbol (s : String) : Reading Unit := do
  if !(← symbol? s) then failHere

def atSymbol (s : String) : Reading Bool := do
  return match ← peek with
    | some t => t.kind == .symbol && t.value == s
    | none => false

def nameWith (ok : Token → Bool) : Reading String := do
  match ← peek with
  | some t => if ok t then advance; return t.value else failHere
  | none => failHere

def name : Reading String := nameWith canName

def startHere : Reading Nat := do
  match ← peek with
  | some t => return t.start
  | none => return (← get).last

def textBetween (a b : Nat) : Reading String := do
  return String.ofList (((← get).chars.drop a).take (b - a))

/-- The number a parameter gets. -/
def number (text : String) : Reading Nat := do
  let r ← get
  if text == "?" then
    set { r with params := r.params ++ [none] }
    return r.params.length + 1
  else if text.startsWith "?" then
    let n := digitsValue (text.toList.drop 1)
    if n == 0 || n > 32766 then throw (.other "variable number must be between ?1 and ?32766")
    let ps := r.params ++ List.replicate (n - r.params.length) none
    let ps := match ps[n - 1]? with
      | some (some _) => ps
      | _ => ps.set (n - 1) (some text)
    set { r with params := ps }
    return n
  else
    match r.params.findIdx? (· == some text) with
    | some i => return i + 1
    | none =>
      set { r with params := r.params ++ [some text] }
      return r.params.length + 1

/-- The literal of a number token: an integer when it fits in 64 bits, a double otherwise. -/
def numberLiteral (t : Token) : Reading Datum := do
  if t.kind == .integer then
    let cs := t.text.toList
    match cs with
    | '0' :: x :: hs =>
      if x == 'x' || x == 'X' then
        let v := hs.foldl (fun n c => n * 16 + hexDigit c) 0
        if v ≥ Nat.pow 2 64 then throw (.other ("hex literal too big: " ++ t.text))
        return .integer (if v ≥ Nat.pow 2 63 then (v : Int) - Int.pow 2 64 else v)
      else decimal cs
    | _ => decimal cs
  else return .real (Numeral.read t.text).real
where
  hexDigit (c : Char) : Nat :=
    if c.isDigit then c.toNat - 48 else if 'a' ≤ c && c ≤ 'f' then c.toNat - 87 else c.toNat - 55
  decimal (cs : List Char) : Reading Datum :=
    let v : Int := digitsValue cs
    if v ≤ int64Max then return .integer v else return .real (Numeral.read t.text).real

/-- The literal of a number token read with a minus sign before it: the negated integer
(the smallest 64-bit integer included), or the negated double of a token too large for an
integer or written with a point or an exponent. A hex literal must stay inside the 64-bit
range after the sign is applied. -/
def negativeLiteral (t : Token) : Reading Datum := do
  if t.kind == .integer then
    match t.text.toList with
    | '0' :: x :: hs =>
      if x == 'x' || x == 'X' then
        let v := hs.foldl (fun n c => n * 16 + numberLiteral.hexDigit c) 0
        if v ≥ Nat.pow 2 64 || v == Nat.pow 2 63 then
          throw (.other ("hex literal too big: -" ++ t.text))
        let signed : Int := if v ≥ Nat.pow 2 63 then (v : Int) - Int.pow 2 64 else v
        return .integer (-signed)
      else decimal ('0' :: x :: hs)
    | cs => decimal cs
  else return .real (Numeral.read t.text).real.negate
where
  decimal (cs : List Char) : Reading Datum :=
    let v : Int := digitsValue cs
    if v ≤ Int.pow 2 63 then return .integer (-v) else return .real (Numeral.read t.text).real.negate

/-- The number token that a run of tokens is, inside any number of parentheses. -/
def numberInParens : List Token → Nat → Option Token
  | [t], _ => if t.kind == .integer || t.kind == .float then some t else none
  | _, 0 => none
  | ts, f + 1 =>
    match ts.head?, ts.getLast? with
    | some a, some b =>
      if a.kind == .symbol && a.value == "(" && b.kind == .symbol && b.value == ")" && ts.length > 2
      then numberInParens ((ts.drop 1).dropLast) f
      else none
    | _, _ => none

def hexBytes : List Char → List UInt8
  | a :: b :: rest => UInt8.ofNat (numberLiteral.hexDigit a * 16 + numberLiteral.hexDigit b) :: hexBytes rest
  | _ => []

def overflow {α : Type} : Reading α := throw (.other "parser stack overflow")

def constraintWords : List String := ["GENERATED"]

/-- Reads a type name: words, then optionally one or two signed numbers in parentheses; gives
the type as written. -/
def typeName : Reading String := do
  let start ← startHere
  let _ ← nameWith canAlias
  let rec more : Nat → Reading Unit
    | 0 => pure ()
    | f + 1 => do
      match ← peek with
      | some t =>
        if canAlias t && !(constraintWords.contains (upper t.text) && t.kind == .word) then
          advance; more f
        else pure ()
      | none => pure ()
  more (← get).tokens.length
  if ← symbol? "(" then
    signed
    if ← symbol? "," then signed
    symbol ")"
  let stop := (← get).last
  textBetween start stop
where
  signed : Reading Unit := do
    let _ ← symbol? "+" <||> symbol? "-"
    match ← peek with
    | some t => if t.kind == .integer || t.kind == .float then advance else failHere
    | none => failHere

end Reading

end DataMapper.Store
