import DataMapper.Store.Datum

namespace DataMapper.Store

/-- What a token is. -/
inductive TokenKind
  | word
  | quoted
  | string
  | integer
  | float
  | bytes
  | parameter
  | symbol
  | illegal
  deriving DecidableEq, Inhabited

/-- A token: its kind, its text as written, its value (a quoted name or text without quotes,
a symbol in its usual spelling), and where it starts and stops in the statement. -/
structure Token where
  kind : TokenKind
  text : String
  value : String
  start : Nat
  stop : Nat
  deriving Inhabited

def isNameChar (c : Char) : Bool :=
  c.isAlphanum || c == '_' || c == '$' || c.toNat ≥ 128

def isNameStart (c : Char) : Bool :=
  c.isAlpha || c == '_' || c.toNat ≥ 128

def isGap (c : Char) : Bool :=
  c == ' ' || c == '\t' || c == '\n' || c == '\r' || c == '\x0c'

def isHexDigit (c : Char) : Bool :=
  c.isDigit || ('a' ≤ c && c ≤ 'f') || ('A' ≤ c && c ≤ 'F')

/-- The length of a quoted run that starts after its opening quote, with a doubled closing
quote standing for one; `none` when it never closes. Gives the content too. -/
def quotedRun (close : Char) : List Char → Nat → List Char → Option (Nat × List Char)
  | [], _, _ => none
  | c :: cs, n, acc =>
    if c == close then
      match cs with
      | d :: ds => if d == close then quotedRun close ds (n + 2) (c :: acc) else some (n + 1, acc.reverse)
      | [] => some (n + 1, acc.reverse)
    else quotedRun close cs (n + 1) (c :: acc)

def blockComment : List Char → Nat → Nat
  | [], n => n
  | '*' :: '/' :: _, n => n + 2
  | _ :: cs, n => blockComment cs (n + 1)

/-- The length of a parameter name after its mark: name characters, and pairs of colons;
whether the name had any name character. -/
def parameterRun : List Char → Nat → Bool → Nat × Bool
  | [], n, named => (n, named)
  | c :: cs, n, named =>
    if isNameChar c then parameterRun cs (n + 1) true
    else if c == ':' then
      match cs with
      | ':' :: rest => parameterRun rest (n + 2) named
      | _ => (n, named)
    else (n, named)

/-- The length and kind of a number token at the front of the text. -/
def numberRun (cs : List Char) : Nat × TokenKind :=
  match cs with
  | '0' :: x :: h :: rest =>
    if (x == 'x' || x == 'X') && isHexDigit h then
      (3 + (rest.takeWhile isHexDigit).length, .integer)
    else decimal
  | _ => decimal
where
  decimal : Nat × TokenKind :=
    let intPart := (cs.takeWhile Char.isDigit).length
    let rest := cs.drop intPart
    let (n, kind, rest) := match rest with
      | '.' :: r =>
        let f := (r.takeWhile Char.isDigit).length
        (intPart + 1 + f, TokenKind.float, r.drop f)
      | r => (intPart, TokenKind.integer, r)
    let (n, kind, rest) := match rest with
      | e :: d :: r =>
        if (e == 'e' || e == 'E') && d.isDigit then
          let k := (r.takeWhile Char.isDigit).length
          (n + 2 + k, TokenKind.float, r.drop k)
        else if (e == 'e' || e == 'E') && (d == '+' || d == '-') then
          match r with
          | g :: r' =>
            if g.isDigit then
              let k := (r'.takeWhile Char.isDigit).length
              (n + 3 + k, TokenKind.float, r'.drop k)
            else (n, kind, rest)
          | [] => (n, kind, rest)
        else (n, kind, rest)
      | _ => (n, kind, rest)
    let tail := (rest.takeWhile isNameChar).length
    if tail > 0 then (n + tail, .illegal) else (n, kind)

/-- The symbol at the front of the text: its length and usual spelling. -/
def symbolRun : List Char → Option (Nat × String)
  | '-' :: '>' :: '>' :: _ => some (3, "->>")
  | '-' :: '>' :: _ => some (2, "->")
  | '=' :: '=' :: _ => some (2, "=")
  | '<' :: '=' :: _ => some (2, "<=")
  | '<' :: '>' :: _ => some (2, "!=")
  | '<' :: '<' :: _ => some (2, "<<")
  | '>' :: '=' :: _ => some (2, ">=")
  | '>' :: '>' :: _ => some (2, ">>")
  | '!' :: '=' :: _ => some (2, "!=")
  | '|' :: '|' :: _ => some (2, "||")
  | c :: _ =>
    if "-()+*/%,;&~=<>|.".contains c then some (1, String.singleton c) else none
  | [] => none

/-- What the front of the text is: a gap of some length (blanks or a comment), or a token of
some length with its kind and value. -/
inductive Piece
  | gap (n : Nat)
  | token (n : Nat) (kind : TokenKind) (value : String)

/-- Reads the piece at the front of a non-empty text. -/
def piece (c : Char) (cs : List Char) : Piece :=
  if isGap c then .gap (1 + (cs.takeWhile isGap).length)
  else match c, cs with
  | '-', '-' :: rest => .gap (2 + (rest.takeWhile (· != '\n')).length)
  | '/', '*' :: rest => .gap (blockComment rest 2)
  | '\'', rest =>
    match quotedRun '\'' rest 1 [] with
    | some (n, body) => .token n .string (String.ofList body)
    | none => .token (1 + rest.length) .illegal ""
  | '"', rest => quotedName '"' rest
  | '`', rest => quotedName '`' rest
  | '[', rest =>
    match rest.findIdx? (· == ']') with
    | some i => .token (i + 2) .quoted (String.ofList (rest.take i))
    | none => .token (1 + rest.length) .illegal ""
  | '?', rest => .token (1 + (rest.takeWhile Char.isDigit).length) .parameter ""
  | ':', rest => parameter rest
  | '@', rest => parameter rest
  | '#', rest => parameter rest
  | '$', rest => parameter rest
  | '.', d :: rest =>
    if d.isDigit then
      let (n, kind) := numberRun (c :: d :: rest)
      .token n kind ""
    else .token 1 .symbol "."
  | 'x', '\'' :: rest => bytesToken rest
  | 'X', '\'' :: rest => bytesToken rest
  | _, rest =>
    if c.isDigit then
      let (n, kind) := numberRun (c :: rest)
      .token n kind ""
    else if isNameStart c then .token (1 + (rest.takeWhile isNameChar).length) .word ""
    else match symbolRun (c :: rest) with
      | some (n, s) => .token n .symbol s
      | none => .token 1 .illegal ""
where
  quotedName (q : Char) (rest : List Char) : Piece :=
    match quotedRun q rest 1 [] with
    | some (n, body) => .token n .quoted (String.ofList body)
    | none => .token (1 + rest.length) .illegal ""
  parameter (rest : List Char) : Piece :=
    let (n, named) := parameterRun rest 0 false
    .token (1 + n) (if named then .parameter else .illegal) ""
  bytesToken (rest : List Char) : Piece :=
    let hex := rest.takeWhile isHexDigit
    let after := rest.drop hex.length
    match after with
    | '\'' :: _ =>
      if hex.length % 2 == 0 then .token (hex.length + 3) .bytes (String.ofList hex)
      else .token (hex.length + 3) .illegal ""
    | _ =>
      let k := (after.takeWhile (· != '\'')).length
      let closed := after.drop k
      .token (2 + hex.length + k + (if closed.isEmpty then 0 else 1)) .illegal ""

/-- Splits a text into tokens, starting at a position; the fuel bounds the number of pieces,
and every piece takes at least one character. -/
def tokensFrom : Nat → List Char → Nat → List Token
  | 0, _, _ => []
  | _, [], _ => []
  | fuel + 1, c :: cs, pos =>
    let all := c :: cs
    match piece c cs with
    | .gap n => tokensFrom fuel (all.drop (max n 1)) (pos + max n 1)
    | .token n kind value =>
      let n := max n 1
      let text := String.ofList (all.take n)
      let value := if kind == .word || kind == .integer || kind == .float || kind == .parameter ||
          kind == .illegal then text else value
      ⟨kind, text, value, pos, pos + n⟩ :: tokensFrom fuel (all.drop n) (pos + n)

def tokenize (sql : String) : List Token :=
  let cs := sql.toList
  tokensFrom (cs.length + 1) cs 0

def gapLength : Nat → List Char → Nat
  | 0, _ => 0
  | _, [] => 0
  | fuel + 1, c :: cs =>
    match piece c cs with
    | .gap n => max n 1 + gapLength fuel ((c :: cs).drop (max n 1))
    | .token _ _ _ => 0

def onlyGaps (s : String) : Bool :=
  let cs := s.toList
  gapLength (cs.length + 1) cs == cs.length

end DataMapper.Store
