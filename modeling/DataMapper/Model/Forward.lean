import DataMapper.Model.Type

namespace DataMapper

/-- Why a type text cannot be read. -/
inductive ForwardError
  | undefined (name : String)
  | notSubscriptable
  | malformed (text : String)

namespace ForwardError

def message : ForwardError → String
  | .undefined n => "name " ++ Text.quote n ++ " is not defined"
  | .notSubscriptable => "'type' object is not subscriptable"
  | .malformed t => "Forward reference must be an expression -- got " ++ Text.quote t

end ForwardError

namespace Forward

/-- The classes that are built-in names. -/
def builtinClass? : String → Option ValueClass
  | "int" => some .int
  | "str" => some .str
  | "float" => some .float
  | "bool" => some .bool
  | "bytes" => some .bytes
  | "dict" => some .dict
  | "list" => some .list
  | "tuple" => some .tuple
  | "object" => some .object
  | _ => none

def isNameChar (c : Char) : Bool := c.isAlphanum || c == '_'

def skip (cs : List Char) : List Char := cs.dropWhile (· == ' ')

/-- Reads a type from `cs`: names, bracketed arguments and `|` joins; `fuel` bounds the
nesting. -/
def readType (text : String) : Nat → List Char → Except ForwardError (TypeExpr × List Char)
  | 0, _ => .error (.malformed text)
  | fuel+1, cs => do
    let (first, rest) ← readAtom fuel (skip cs)
    readJoins fuel [first] (skip rest)
where
  readAtom : Nat → List Char → Except ForwardError (TypeExpr × List Char)
    | 0, _ => .error (.malformed text)
    | fuel+1, cs =>
      let name := cs.takeWhile isNameChar
      let rest := skip (cs.dropWhile isNameChar)
      if name.isEmpty then .error (.malformed text)
      else
        let n := String.ofList name
        let base : Except ForwardError TypeExpr :=
          if n == "None" then .ok (.cls .noneType)
          else match builtinClass? n with
            | some c => .ok (.cls c)
            | none => .error (.undefined n)
        match base, rest with
        | .error e, _ => .error e
        | .ok t, '[' :: more =>
          match t with
          | .cls c =>
            if c == .list || c == .dict || c == .tuple then do
              let (args, after) ← readArgs fuel [] (skip more)
              .ok (.generic c args, after)
            else .error .notSubscriptable
          | _ => .error .notSubscriptable
        | .ok t, _ => .ok (t, rest)
  readArgs : Nat → List TypeExpr → List Char → Except ForwardError (List TypeExpr × List Char)
    | 0, _, _ => .error (.malformed text)
    | fuel+1, acc, cs => do
      let (t, rest) ← readType text fuel cs
      match skip rest with
      | ',' :: more => readArgs fuel (acc ++ [t]) (skip more)
      | ']' :: more => .ok (acc ++ [t], more)
      | _ => .error (.malformed text)
  readJoins : Nat → List TypeExpr → List Char → Except ForwardError (TypeExpr × List Char)
    | 0, _, _ => .error (.malformed text)
    | fuel+1, acc, cs =>
      match cs with
      | '|' :: more => do
        let (t, rest) ← readAtom fuel (skip more)
        readJoins fuel (acc ++ [t]) (skip rest)
      | _ => .ok (TypeExpr.unionOf acc, cs)

def resolveText (text : String) : Except ForwardError TypeExpr := do
  let cs := Text.trimList text.toList
  let (t, rest) ← readType text (2 * cs.length + 2) cs
  if rest.isEmpty then .ok t else .error (.malformed text)

end Forward

namespace TypeExpr

mutual

def resolve : TypeExpr → Except ForwardError TypeExpr
  | .forward s => Forward.resolveText s
  | .generic o args => do .ok (.generic o (← resolveAll args))
  | .union ms => do .ok (.unionOf (← resolveAll ms))
  | .annotated b xs => do .ok (.annotate (← resolve b) xs)
  | t => .ok t

def resolveAll : List TypeExpr → Except ForwardError (List TypeExpr)
  | [] => .ok []
  | t :: ts => do .ok ((← resolve t) :: (← resolveAll ts))

end

end TypeExpr

end DataMapper
