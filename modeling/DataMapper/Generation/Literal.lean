import DataMapper.Value.Cast
import DataMapper.Enum
import DataMapper.Model.Type
import DataMapper.Text.Case

namespace DataMapper

def enumNamed (enums : List EnumDef) (n : String) : Option EnumDef :=
  if n == "EnumType" then some EnumDef.columnModes else enums.find? (·.name == n)

/-- Reads a default literal as the declared type. -/
def parseLiteral (enums : List EnumDef) (raw : Value) (target : TypeExpr) : Except Failure Value :=
  match raw.asText?, target with
  | some s, .cls c =>
    match c with
    | .bool =>
      let lowered := Text.toLower (Text.trim s)
      if lowered == "true" then .ok (.bool true)
      else if lowered == "false" then .ok (.bool false)
      else .error (.value ("Cannot parse " ++ raw.repr ++ " as bool."))
    | .int => (Cast.intOfText s).map .int
    | .float => (Cast.floatOfText s).map .float
    | .decimal =>
      match Decimal.ofText? s with
      | some d => .ok (.decimal d)
      | none => .error (.value ("Cannot parse " ++ raw.repr ++ " as Decimal."))
    | .enum n =>
      match enumNamed enums n with
      | none => .ok raw
      | some d =>
        match d.byValue? raw with
        | some m => .ok m
        | none =>
          match d.byName? s with
          | some m => .ok m
          | none => .error (.key raw.repr)
    | .datetime => readDateTime s
    | .date => readDate s
    | .time => readTime s
    | .uuid => (uuidOfText s).map .uuid
    | _ => .ok raw
  | _, _ => .ok raw

end DataMapper
