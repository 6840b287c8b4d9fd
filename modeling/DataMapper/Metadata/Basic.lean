import DataMapper.Model.Basic
import DataMapper.Text.Case

namespace DataMapper

/-- A persisted field of a model. -/
structure MappedField where
  name : String
  column : String
  valueType : TypeExpr
  declared : TypeExpr
  tags : List Tag
  isId : Bool
  isGenerated : Bool
  init : Bool
  deriving Inhabited

namespace MappedField

def tag? (f : MappedField) (k : TagKind) : Option Tag := f.tags.find? (·.kind == k)

def hasTag (f : MappedField) (k : TagKind) : Bool := f.tags.any (·.kind == k)

def tagsOf (f : MappedField) (k : TagKind) : List Tag := f.tags.filter (·.kind == k)

end MappedField

/-- A model as stored in a table. -/
structure MappedModel where
  model : Model
  table : String
  schema : Option String
  fields : List MappedField
  idField : Option MappedField
  queryOnly : Bool
  deriving Inhabited

namespace MappedModel

def fullTableName (m : MappedModel) : String :=
  match m.schema with
  | some s => s ++ "." ++ m.table
  | none => m.table

def hasId (m : MappedModel) : Bool := m.idField.isSome

def hasGeneratedId (m : MappedModel) : Bool :=
  match m.idField with
  | some f => f.isGenerated
  | none => false

def columns (m : MappedModel) : List String := m.fields.map (·.column)

def insertable (m : MappedModel) : List MappedField :=
  if m.hasGeneratedId then m.fields.filter (!·.isId) else m.fields

def updatable (m : MappedModel) : List MappedField := m.fields.filter (!·.isId)

def fieldForColumn? (m : MappedModel) (column : String) : Option MappedField :=
  let key := Text.toLower column
  m.fields.find? (fun f => Text.toLower f.column == key)

def field? (m : MappedModel) (name : String) : Option MappedField :=
  m.fields.find? (·.name == name)

theorem insertable_sublist (m : MappedModel) : m.insertable.Sublist m.fields := by
  unfold insertable
  split
  · exact List.filter_sublist
  · exact List.Sublist.refl _

theorem updatable_sublist (m : MappedModel) : m.updatable.Sublist m.fields :=
  List.filter_sublist

end MappedModel

end DataMapper
