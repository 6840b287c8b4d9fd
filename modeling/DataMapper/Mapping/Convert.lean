import DataMapper.Json.Read
import DataMapper.Json.Write
import DataMapper.Generation.Literal
import DataMapper.Extension.Basic
import DataMapper.Metadata.Basic

namespace DataMapper

def Json.WriteError.failure : Json.WriteError → Failure
  | .unwritable t => .type ("Object of type " ++ t ++ " is not JSON serializable")
  | .badKey t => .type ("keys must be str, int, float, bool or None, not " ++ t)

namespace Convert

def jsonToDb (v : Value) : Except Failure Value :=
  match v with
  | .none | .str _ | .bytes _ | .member _ .text _ _ _ => .ok v
  | _ =>
    match Json.write v with
    | .ok s => .ok (.str s)
    | .error e => .error e.failure

def readJson (f : MappedField) (shown : Value) (s : String) : Except Failure Value :=
  match Json.read? s with
  | some v => .ok v
  | none => .error (.value ("Cannot deserialize JSON for field " ++ Text.quote f.name ++ ": " ++
      shown.repr ++ "."))

/-- The JSON converter, reading. -/
def jsonFromDb (f : MappedField) (v : Value) : Except Failure Value :=
  match v with
  | .none | .dict _ | .list _ => .ok v
  | .bytes b =>
    match String.fromUTF8? (ByteArray.mk b.toArray) with
    | some s => readJson f (.str s) s
    | none => .error (.value "'utf-8' codec can't decode bytes")
  | _ =>
    match v.asText? with
    | some s => readJson f v s
    | none => .ok v

def enumOf (enums : List EnumDef) (f : MappedField) : Except Failure EnumDef :=
  let refuse : Failure := .type ("Field " ++ Text.quote f.name ++
    " uses EnumColumn but is not annotated with an Enum.")
  match f.valueType with
  | .cls (.enum n) =>
    match enumNamed enums n with
    | some d => .ok d
    | none => .error refuse
  | _ => .error refuse

def enumMode (f : MappedField) : String :=
  match f.tag? .enumColumn with
  | some ⟨_, .enumColumn (.member "EnumType" _ n _ _)⟩ => n
  | _ => "STRING"

/-- The member a value names: by name for texts, then by value. -/
def lookup (d : EnumDef) (f : MappedField) (v : Value) : Except Failure Value :=
  let byName := match v.asText? with
    | some s => d.byName? s
    | none => none
  match byName with
  | some m => .ok m
  | none =>
    match d.byValue? v with
    | some m => .ok m
    | none => .error (.value ("Invalid enum value " ++ v.repr ++ " for field " ++ Text.quote f.name ++ "."))

/-- The enumeration converter, writing. -/
def enumToDb (enums : List EnumDef) (f : MappedField) (v : Value) : Except Failure Value := do
  if v.isNone then return .none
  let d ← enumOf enums f
  let m ← if d.owns v then pure v else lookup d f v
  match m with
  | .member _ _ name index value =>
    match enumMode f with
    | "ORDINAL" => return .int index
    | "VALUE" => return value
    | _ => return .str name
  | other => return other

def atPosition (d : EnumDef) (n : Int) : Option Value :=
  let len : Int := d.members.length
  let i := if n < 0 then n + len else n
  if i < 0 then none else d.member? i.toNat

def invalidOrdinal (d : EnumDef) (f : MappedField) (v : Value) : Failure :=
  .value ("Invalid ordinal " ++ v.repr ++ " for enum " ++ d.name ++ " on field " ++
    Text.quote f.name ++ ".")

/-- The enumeration converter, reading. -/
def enumFromDb (enums : List EnumDef) (f : MappedField) (v : Value) : Except Failure Value := do
  if v.isNone then return .none
  let d ← enumOf enums f
  if d.owns v then return v
  if enumMode f == "ORDINAL" then
    let bad := invalidOrdinal d f v
    match v.toInt with
    | .ok n =>
      match atPosition d n with
      | some m => return m
      | none => throw bad
    | .error (.value _) | .error (.type _) => throw bad
    | .error e => throw e
  else lookup d f v

/-- A described converter, writing. -/
def scriptToDb : ConverterScript → Value → Except Failure Value
  | .wrap n, v => .ok (.list [.str n, .str "to", v])
  | .addPrefix p, v =>
    match v.asText? with
    | some s => .ok (.str (p ++ s))
    | none => .ok v
  | .changeCase, v =>
    match v.asText? with
    | some s => .ok (.str (Text.toUpper s))
    | none => .ok v
  | .fail m, _ => .error (.value m)
  | .failMapping m, _ => .error (.mapping m none)
  | .erase, _ => .ok .none

/-- A described converter, reading. -/
def scriptFromDb : ConverterScript → Value → Except Failure Value
  | .wrap n, v => .ok (.list [.str n, .str "from", v])
  | .addPrefix p, v =>
    match v.asText? with
    | some s => if s.startsWith p then .ok (.str (String.ofList (s.toList.drop p.length))) else .ok v
    | none => .ok v
  | .changeCase, v =>
    match v.asText? with
    | some s => .ok (.str (Text.toLower s))
    | none => .ok v
  | .fail m, _ => .error (.value m)
  | .failMapping m, _ => .error (.mapping m none)
  | .erase, _ => .ok .none

end Convert

namespace Converter

open DataMapper.Convert

def toDb (enums : List EnumDef) (c : Converter) (f : MappedField) (v : Value) : Except Failure Value :=
  match c with
  | .json => jsonToDb v
  | .enumeration => enumToDb enums f v
  | .described s _ => scriptToDb s v
  | .half => .ok v

def fromDb (enums : List EnumDef) (c : Converter) (f : MappedField) (v : Value) : Except Failure Value :=
  match c with
  | .json => jsonFromDb f v
  | .enumeration => enumFromDb enums f v
  | .described s _ => scriptFromDb s v
  | .half => .ok v

def toDbAll (enums : List EnumDef) (f : MappedField) : List Converter → Value → Except Failure Value
  | [], v => .ok v
  | c :: cs, v => do toDbAll enums f cs (← c.toDb enums f v)

def fromDbAll (enums : List EnumDef) (f : MappedField) : List Converter → Value → Except Failure Value
  | [], v => .ok v
  | c :: cs, v => do fromDbAll enums f cs (← c.fromDb enums f v)

theorem toDbAll_nil (enums : List EnumDef) (f : MappedField) (v : Value) :
    toDbAll enums f [] v = .ok v := rfl

end Converter

end DataMapper
