import DataMapper.Failure
import DataMapper.Value.Compare

namespace DataMapper

/-- A result row as a driver returns it. -/
inductive Row
  | tuple (vs : List Value)
  | mapping (kvs : List (Value × Value))
  | pairs (kvs : List (Value × Value))
  | other (v : Value)

/-- The state of an executed statement. -/
structure Cursor where
  columns : Option (List String) := none
  rows : List Row := []
  rowcount : Value := .int (-1)
  lastrowid : Value := .none

namespace Row

def put (kvs : List (Value × Value)) (k v : Value) : List (Value × Value) :=
  if kvs.any (·.1.pyEq k) then kvs.map (fun (k', v') => if k'.pyEq k then (k', v) else (k', v'))
  else kvs ++ [(k, v)]

def ofPairs (kvs : List (Value × Value)) : List (Value × Value) :=
  kvs.foldl (fun acc (k, v) => put acc k v) []

def classText : Value → String
  | .member e _ _ _ _ => "<enum '" ++ e ++ "'>"
  | .uuid _ => "<class 'uuid.UUID'>"
  | v => "<class '" ++ v.qualifiedTypeName ++ "'>"

end Row

def Cursor.mapping (c : Cursor) : Row → Except Failure (List (Value × Value))
  | .mapping kvs => .ok kvs
  | .pairs kvs => .ok (Row.ofPairs kvs)
  | .tuple vs =>
    match c.columns with
    | some cols@(_ :: _) => .ok (Row.ofPairs ((cols.map Value.str).zip vs))
    | _ => .error (.type "Cursor has no description; cannot map tuple rows to dict.")
  | .other (.str "") => .ok []
  | .other v => .error (.type ("Unsupported row type: " ++ Row.classText v))

def Cursor.mappings (c : Cursor) (rows : List Row) : Except Failure (List (List (Value × Value))) :=
  rows.mapM c.mapping

theorem Cursor.mapping_mapping (c : Cursor) (kvs : List (Value × Value)) :
    c.mapping (.mapping kvs) = .ok kvs := rfl

end DataMapper
