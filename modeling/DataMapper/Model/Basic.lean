import DataMapper.Model.Type
import DataMapper.Tag.Resolve

namespace DataMapper

/-- How a field is filled when the constructor is not given a value. -/
inductive FieldDefault
  | required
  | value (v : Value)
  | fresh (v : Value)
  deriving Inhabited

namespace FieldDefault

def get? : FieldDefault → Option Value
  | .required => none
  | .value v => some v
  | .fresh v => some v

end FieldDefault

/-- A declared field of a model. -/
structure FieldSpec where
  name : String
  type : TypeExpr := .any
  default : FieldDefault := .required
  init : Bool := true
  metadata : FieldMeta := {}
  deriving Inhabited

/-- A model: a record class with class attributes and fields. An attribute that is `none` is
not set on the class. -/
structure Model where
  name : String
  table : Option Value := none
  schema : Option Value := none
  queryOnly : Option Value := none
  frozen : Bool := false
  isRecord : Bool := true
  fields : List FieldSpec := []
  deriving Inhabited

/-- An instance of a model. -/
structure Entity where
  model : String
  frozen : Bool := false
  attrs : List (String × Value)
  deriving Inhabited

namespace Entity

def missing (model attr : String) : Failure :=
  .attribute ("'" ++ model ++ "' object has no attribute '" ++ attr ++ "'")

def get (e : Entity) (attr : String) : Except Failure Value :=
  match e.attrs.lookup attr with
  | some v => .ok v
  | none => .error (missing e.model attr)

def put (e : Entity) (attr : String) (v : Value) : Entity :=
  if e.attrs.any (·.1 == attr) then
    { e with attrs := e.attrs.map (fun (k, w) => if k == attr then (k, v) else (k, w)) }
  else { e with attrs := e.attrs ++ [(attr, v)] }

def assign (e : Entity) (attr : String) (v : Value) : Except Failure Entity :=
  if e.frozen then .error (.frozen ("cannot assign to field '" ++ attr ++ "'"))
  else .ok (e.put attr v)

end Entity

namespace Model

def field? (m : Model) (name : String) : Option FieldSpec := m.fields.find? (·.name == name)

/-- The attributes a new instance starts with: fields the constructor takes get the given
value, else their default, else nothing (`None`); other fields get their default if they have
one. -/
def initialAttrs (m : Model) (given : List (String × Value)) : List (String × Value) :=
  m.fields.filterMap fun f =>
    if f.init then
      some (f.name, match given.lookup f.name with
        | some v => v
        | none => f.default.get?.getD .none)
    else (f.default.get?).map (fun v => (f.name, v))

def setLate (given : List (String × Value)) (e : Entity) (f : FieldSpec) : Entity :=
  if f.init then e
  else match given.lookup f.name with
    | some v => e.put f.name v
    | none => e

/-- A new instance from constructor values: its initial attributes, then the values given
for fields the constructor does not take, set in field order. -/
def instantiate (m : Model) (given : List (String × Value)) : Entity :=
  m.fields.foldl (setLate given) ⟨m.name, m.frozen, initialAttrs m given⟩

end Model

end DataMapper
