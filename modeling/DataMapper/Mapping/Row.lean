import DataMapper.Mapping.Convert
import DataMapper.Registry

namespace DataMapper

namespace Mapping

def mismatch (model : String) (f : MappedField) (v : Value) : Failure :=
  .mapping ("Cannot assign value " ++ v.repr ++ " of type " ++ v.typeName ++ " to " ++ model ++ "." ++
    f.name ++ " declared as " ++ f.valueType.name ++ ".") (some f.name)

def isInteger : Value → Bool
  | .int _ | .member _ .integer _ _ _ => true
  | _ => false

def uuidOfBytes (b : List UInt8) : Nat := b.foldl (fun n x => n * 256 + x.toNat) 0

/-- Coerces a value to a declared class, by the rules above. -/
def coerce (v : Value) : TypeExpr → Except Failure Value
  | .cls c =>
    let isDateTime := match v with | .datetime _ => true | _ => false
    if c.holds v && !(c == .date && isDateTime) then .ok v
    else
      match c, v with
      | .bool, .decimal _ => .ok (.bool v.truthy)
      | .bool, _ => if isInteger v then .ok (.bool v.truthy) else .ok v
      | .float, .decimal _ => v.toFloat.map .float
      | .float, _ => if isInteger v then v.toFloat.map .float else .ok v
      | .int, .float _ | .int, .decimal _ => do
        let n ← v.toInt
        return if v.pyEq (.int n) then .int n else v
      | .decimal, .float _ | .decimal, .int _ | .decimal, .str _ | .decimal, .member _ .integer _ _ _
      | .decimal, .member _ .text _ _ _ =>
        match Decimal.ofText? v.plain with
        | some d => .ok (.decimal d)
        | none => .error .invalidOperation
      | .datetime, _ => match v.asText? with | some s => readDateTime s | none => .ok v
      | .date, .datetime t => .ok (.date t.date)
      | .date, _ => match v.asText? with | some s => readDate s | none => .ok v
      | .time, _ => match v.asText? with | some s => readTime s | none => .ok v
      | .uuid, .bytes b => if b.length == 16 then .ok (.uuid (uuidOfBytes b)) else .ok v
      | .uuid, _ => match v.asText? with | some s => (uuidOfText s).map .uuid | none => .ok v
      | _, _ => .ok v
  | _ => .ok v

def admits (declared : TypeExpr) (v : Value) : Bool :=
  match declared.checkedClass? with
  | none | some .object => true
  | some .float => ValueClass.holds .int v || ValueClass.holds .float v
  | some c => c.holds v

def isBadValue (e : Failure) : Bool := e.isValueError || e.isTypeError || e.isArithmetic

/-- Reads a stored value into a field, by the rules above. -/
def readValue (enums : List EnumDef) (r : Registries) (dialect : Option Dialect) (model : String)
    (f : MappedField) (raw : Value) : Except Failure Value :=
  let converted : Except Failure Value := do
    let v ← Converter.fromDbAll enums f (r.convertersFor f dialect) raw
    if v.isNone then return .none
    coerce v f.valueType
  match converted with
  | .error (.mapping m field) => .error (.mapping m field)
  | .error e => .error (if isBadValue e then mismatch model f raw else e)
  | .ok .none => .ok .none
  | .ok v => if admits f.valueType v then .ok v else .error (mismatch model f v)

end Mapping

open Mapping

def bindField (enums : List EnumDef) (r : Registries) (dialect : Option Dialect) (e : Entity)
    (acc : List (String × Value)) (f : MappedField) : Except Failure (List (String × Value)) := do
  let v ← e.get f.name
  let v ← Converter.toDbAll enums f (r.convertersFor f dialect) v
  return assocPut acc f.column v

def bindFields (enums : List EnumDef) (r : Registries) (dialect : Option Dialect) (e : Entity)
    (fields : List MappedField) : Except Failure (List (String × Value)) :=
  fields.foldlM (bindField enums r dialect e) []

def readColumn (enums : List EnumDef) (r : Registries) (dialect : Option Dialect)
    (d : MappedModel) (acc : List (String × Value)) (cell : Value × Value) :
    Except Failure (List (String × Value)) :=
  match d.fieldForColumn? cell.1.plain with
  | none => return acc
  | some f => do return assocPut acc f.name (← readValue enums r dialect d.model.name f cell.2)

/-- The entity a row gives: each known column read into its field (a later column for the
same field wins), required constructor fields missing from the row set to nothing, and
fields the constructor does not take set afterwards. -/
def mapRow (enums : List EnumDef) (r : Registries) (dialect : Option Dialect) (d : MappedModel)
    (row : List (Value × Value)) : Except Failure Entity := do
  let given ← row.foldlM (readColumn enums r dialect d) []
  return d.model.instantiate given

theorem bindFields_nil (enums : List EnumDef) (r : Registries) (dialect : Option Dialect) (e : Entity) :
    bindFields enums r dialect e [] = .ok [] := rfl

end DataMapper
