import DataMapper.Metadata.Basic
import DataMapper.Model.Forward

namespace DataMapper

namespace Describe

def fail (msg : String) : Failure := .metadata msg

def forwardFailure (model : String) : ForwardError → Failure
  | .malformed t => .raised "SyntaxError" (ForwardError.malformed t).message
  | e => fail ("Cannot resolve type annotations of " ++ model ++ ": " ++ e.message)

def resolveTypes (m : Model) : Except Failure (List TypeExpr) :=
  m.fields.mapM fun f =>
    match f.type.resolve with
    | .ok t => .ok t
    | .error e => .error (forwardFailure m.name e)

def checkColumn (context : String) (tags : List Tag) : Except Failure Unit :=
  match tags.find? (·.kind == .column) with
  | some ⟨_, .column v⟩ =>
    match v.asText? with
    | some s =>
      if Text.isAllBlank s then throw (fail (context ++ " has an empty Column name.")) else pure ()
    | none => throw (fail (context ++ " has an empty Column name."))
  | _ => pure ()

/-- The first `DefaultValue` tag sets exactly one of a value and a generator. -/
def checkDefault (context : String) (tags : List Tag) : Except Failure Unit :=
  match tags.find? (·.kind == .defaultValue) with
  | some ⟨_, .defaultValue v g⟩ =>
    let literal := !v.isNone
    let generator := g.truthy
    if literal && generator then
      throw (fail (context ++ " sets both 'value' and 'generator' on DefaultValue."))
    else if !literal && !generator then
      throw (fail (context ++ " DefaultValue needs either 'value' or 'generator'."))
    else pure ()
  | _ => pure ()

def checkGenerated (context : String) : List Tag → Except Failure Unit
  | [] => pure ()
  | t :: ts =>
    match t.body with
    | .generated g _ _ =>
      if !g.truthy then throw (fail (context ++ " has a Generated tag without generator name."))
      else checkGenerated context ts
    | _ => checkGenerated context ts

def checkTags (context : String) (tags : List Tag) : Except Failure Unit := do
  checkColumn context tags
  checkDefault context tags
  checkGenerated context tags

/-- The tags of a field: those of its declared type's annotations, then those of its metadata,
resolved. -/
def fieldTags (voc : Vocabulary) (f : FieldSpec) (declared : TypeExpr) :
    Except Failure (List Tag) := do
  let fromMeta ← metadataTags f.metadata
  resolveTags voc (declared.unwrap.2.map Item.tag ++ fromMeta)

def isTransient (tags : List Tag) : Bool := tags.any (·.kind == .transient)

def columnName (name : String) (tags : List Tag) : String :=
  match tags.find? (·.kind == .column) with
  | some ⟨_, .column v⟩ => ((v.asText?).map Text.trim).getD name
  | _ => name

def idGenerated (tags : List Tag) : Bool :=
  match tags.find? (·.kind == .id) with
  | some ⟨_, .id g⟩ => g.truthy
  | _ => false

def stored (f : FieldSpec) (declared : TypeExpr) (tags : List Tag) : MappedField :=
  ⟨f.name, columnName f.name tags, declared.unwrap.1, declared, tags,
    (tags.find? (·.kind == .id)).isSome, idGenerated tags, f.init⟩

def field (voc : Vocabulary) (m : Model) (f : FieldSpec) (declared : TypeExpr) :
    Except Failure (Option MappedField) := do
  let tags ← fieldTags voc f declared
  if isTransient tags then return none
  checkTags (m.name ++ "." ++ f.name) tags
  return some (stored f declared tags)

def sharedColumn? : List MappedField → List (String × String) → Option (String × MappedField)
  | [], _ => none
  | f :: fs, seen =>
    let key := Text.toLower f.column
    match seen.lookup key with
    | some first => some (first, f)
    | none => sharedColumn? fs (seen ++ [(key, f.name)])

def textAttr : Option Value → Option String
  | some (.str s) => if s.isEmpty then none else some s
  | _ => none

end Describe

open Describe in
/-- Describes how a model is stored, by the checks above. -/
def MappedModel.describe (voc : Vocabulary) (m : Model) : Except Failure MappedModel := do
  if !m.isRecord then throw (fail (m.name ++ " must be a dataclass."))
  let types ← resolveTypes m
  let mapped ← (m.fields.zip types).filterMapM fun (f, t) => field voc m f t
  let ids := mapped.filter (·.isId)
  if ids.length > 1 then
    throw (fail (m.name ++ " declares more than one id field: " ++
      (Value.list (ids.map (fun f => .str f.name))).repr ++ "."))
  match sharedColumn? mapped [] with
  | some (first, f) =>
    throw (fail (m.name ++ " maps fields " ++ Text.quote first ++ " and " ++ Text.quote f.name ++
      " to the same column " ++ Text.quote f.column ++ "."))
  | none => pure ()
  return {
    model := m
    table := (textAttr m.table).getD (Text.toLower m.name)
    schema := textAttr m.schema
    fields := mapped
    idField := ids.head?
    queryOnly := (m.queryOnly.getD (.bool false)).truthy }

end DataMapper
