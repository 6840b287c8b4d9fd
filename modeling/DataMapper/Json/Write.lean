import DataMapper.Value.Text

namespace DataMapper.Json

/-- Why a value cannot be written: a value of an unwritable class, or a key of one. -/
inductive WriteError
  | unwritable (typeName : String)
  | badKey (typeName : String)
  deriving DecidableEq

/-- The escaped form of one character inside a JSON string. -/
def escapeChar (c : Char) : List Char :=
  let hex4 (n : Nat) : List Char := '\\' :: 'u' :: Text.hexPadded 4 n
  if c == '"' then ['\\', '"']
  else if c == '\\' then ['\\', '\\']
  else if c == '\n' then ['\\', 'n']
  else if c == '\r' then ['\\', 'r']
  else if c == '\t' then ['\\', 't']
  else if c == '\x08' then ['\\', 'b']
  else if c == '\x0c' then ['\\', 'f']
  else if c.toNat < 32 then hex4 c.toNat
  else if c.toNat < 127 then [c]
  else if c.toNat < 0x10000 then hex4 c.toNat
  else if let some n := Text.surrogateOf? c then hex4 n
  else
    let v := c.toNat - 0x10000
    hex4 (0xD800 + v / 0x400) ++ hex4 (0xDC00 + v % 0x400)

def quoteString (s : String) : String := String.ofList ('"' :: s.toList.flatMap escapeChar ++ ['"'])

def keyText : Value → Except WriteError String
  | .str s => .ok (quoteString s)
  | .member _ .text _ _ (.str s) => .ok (quoteString s)
  | .float x => .ok (quoteString (Binary64.render FloatLayout.json x))
  | .bool b => .ok (quoteString (if b then "true" else "false"))
  | .none => .ok (quoteString "null")
  | .int n => .ok (quoteString (toString n))
  | .member _ .integer _ _ (.int n) => .ok (quoteString (toString n))
  | v => .error (.badKey v.qualifiedTypeName)

mutual

/-- A value as JSON text. -/
def write : Value → Except WriteError String
  | .none => .ok "null"
  | .bool b => .ok (if b then "true" else "false")
  | .int n => .ok (toString n)
  | .float x => .ok (Binary64.render FloatLayout.json x)
  | .str s => .ok (quoteString s)
  | .list xs => do let items ← writeAll xs; .ok ("[" ++ ", ".intercalate items ++ "]")
  | .tuple xs => do let items ← writeAll xs; .ok ("[" ++ ", ".intercalate items ++ "]")
  | .dict kvs => do
    let items ← writePairs kvs
    .ok (openBrace ++ ", ".intercalate items ++ closeBrace)
  | .member e base _ _ v =>
    match base with
    | .plain => .error (.unwritable e)
    | _ => write v
  | v => .error (.unwritable v.typeName)

def writeAll : List Value → Except WriteError (List String)
  | [] => .ok []
  | x :: xs => do let a ← write x; let b ← writeAll xs; .ok (a :: b)

def writePairs : List (Value × Value) → Except WriteError (List String)
  | [] => .ok []
  | (k, v) :: kvs => do
    let kt ← keyText k
    let vt ← write v
    let rest ← writePairs kvs
    .ok ((kt ++ ": " ++ vt) :: rest)

end

end DataMapper.Json
