import DataMapper.Failure
import DataMapper.Text.Letter

namespace DataMapper.Sql

/-- A piece of SQL text. -/
inductive Piece
  | plain (c : Char)
  | quoted (text : List Char)
  | cast
  | placeholder (name : String)
  | percent
  deriving DecidableEq

def Piece.text : Piece → List Char
  | .plain c => [c]
  | .quoted t => t
  | .cast => [':', ':']
  | .placeholder n => ':' :: n.toList
  | .percent => ['%']

/-- After an opening quote `q`: the rest of the literal through its closing quote, and what
follows; `none` when no quote closes it. -/
def closeQuote (q : Char) : List Char → Option (List Char × List Char)
  | [] => none
  | c :: rest =>
    if c = q then
      match rest with
      | d :: rest' =>
        if d = q then
          match closeQuote q rest' with
          | some (body, after) => some (q :: q :: body, after)
          | none => some ([q], rest)
        else some ([q], rest)
      | [] => some ([q], [])
    else
      match closeQuote q rest with
      | some (body, after) => some (c :: body, after)
      | none => none

def isNameStart (c : Char) : Bool := c.isAlpha || c == '_'

/-- Splits a text into pieces; `prev` is the character before the text. -/
def scanFrom (fuel : Nat) (prev : Option Char) (cs : List Char) : List Piece :=
  match fuel, cs with
  | 0, _ => cs.map Piece.plain
  | _, [] => []
  | fuel+1, c :: rest =>
    let literal : Option (List Char × List Char) :=
      if c = '\'' ∨ c = '"' then (closeQuote c rest).map (fun (b, after) => (c :: b, after)) else none
    match literal with
    | some (text, after) => .quoted text :: scanFrom fuel (text.getLast? <|> some c) after
    | none =>
      if c = ':' then
        match rest with
        | ':' :: r => .cast :: scanFrom fuel (some ':') r
        | d :: r =>
          if prev ≠ some ':' ∧ isNameStart d then
            let tail := r.takeWhile Text.isWordChar
            let after := r.dropWhile Text.isWordChar
            let name := d :: tail
            .placeholder (String.ofList name) :: scanFrom fuel (name.getLast? <|> some d) after
          else .plain c :: scanFrom fuel (some c) rest
        | [] => [.plain c]
      else if c = '%' then .percent :: scanFrom fuel (some c) rest
      else .plain c :: scanFrom fuel (some c) rest

def scan (sql : String) : List Piece := scanFrom (sql.length+1) none sql.toList

def placeholders (sql : String) : List String :=
  (scan sql).filterMap fun p => match p with | .placeholder n => some n | _ => none

/-- How a driver marks parameters. -/
inductive ParamStyle
  | named
  | qmark
  | format
  | pyformat
  | numeric
  deriving DecidableEq

def ParamStyle.ofName? : String → Option ParamStyle
  | "named" => some .named
  | "qmark" => some .qmark
  | "format" => some .format
  | "pyformat" => some .pyformat
  | "numeric" => some .numeric
  | _ => none

def unsupportedStyle (name : String) : Failure := .value ("Unsupported paramstyle: " ++ name)

/-- Parameters in a driver's form: by name or by position. -/
inductive DriverParams
  | byName (kvs : List (String × Value))
  | byPosition (vs : List Value)

/-- Rewrites placeholders of `pieces` for a positional or percent style, numbering names by
first appearance for the numeric style. Gives the text and the positional values. -/
def rewrite (style : ParamStyle) (params : List (String × Value)) :
    List Piece → List String → Except Failure (List Char × List Value)
  | [], _ => .ok ([], [])
  | p :: ps, numbered =>
    let percent := style == .format || style == .pyformat
    match p with
    | .placeholder n =>
      match params.lookup n with
      | none => .error (.value ("Missing value for SQL parameter " ++ Text.quote n ++ "."))
      | some v =>
        match style with
        | .pyformat => do
          let (t, vs) ← rewrite style params ps numbered
          .ok ('%' :: '(' :: n.toList ++ [')', 's'] ++ t, vs)
        | .numeric =>
          match numbered.idxOf? n with
          | some i => do
            let (t, vs) ← rewrite style params ps numbered
            .ok (':' :: (toString (i+1)).toList ++ t, vs)
          | none => do
            let (t, vs) ← rewrite style params ps (numbered ++ [n])
            .ok (':' :: (toString (numbered.length+1)).toList ++ t, v :: vs)
        | .qmark => do
          let (t, vs) ← rewrite style params ps numbered
          .ok ('?' :: t, v :: vs)
        | _ => do
          let (t, vs) ← rewrite style params ps numbered
          .ok ('%' :: 's' :: t, v :: vs)
    | other => do
      let (t, vs) ← rewrite style params ps numbered
      let txt := other.text
      let txt := if percent then txt.flatMap (fun c => if c = '%' then ['%', '%'] else [c]) else txt
      .ok (txt ++ t, vs)

/-- Rewrites `:name` placeholders for a driver's parameter style. Without parameters the
text is unchanged; the named style keeps the text and the parameters as they are. -/
def convertParams (sql : String) (params : Option (List (String × Value))) (styleName : String) :
    Except Failure (String × Option DriverParams) :=
  match ParamStyle.ofName? styleName with
  | none => .error (unsupportedStyle styleName)
  | some style =>
    match params with
    | none => .ok (sql, none)
    | some ps =>
      if style = .named then .ok (sql, some (.byName ps))
      else do
        let (t, vs) ← rewrite style ps (scan sql) []
        let out := if style = .pyformat then DriverParams.byName ps else .byPosition vs
        .ok (String.ofList t, some out)

end DataMapper.Sql
