import DataMapper.Database.Basic
import DataMapper.Generation.Apply
import DataMapper.Validation.Entity
import DataMapper.Mapping.Row
import DataMapper.Metadata.Build
import DataMapper.Sql.Statement

namespace DataMapper

/-- The configuration a mapper runs with. -/
structure Mapper where
  registries : Registries
  dialect : Dialect
  voc : Vocabulary
  enums : List EnumDef
  models : List Model

/-- What mapper operations change: the database, what value sources draw on, and the entities
a write works on (nothing stands for a missing entity). -/
structure World where
  db : Database
  supply : Supply
  held : List (Option Entity) := []

abbrev Act := EStateM Failure World

namespace Act

def lift {α : Type} : Except Failure α → Act α
  | .ok a => pure a
  | .error e => throw e

def onDb {α : Type} (step : DbStep α) : Act α := fun w =>
  match step w.db with
  | .ok a db => .ok a { w with db := db }
  | .error e db => .error e { w with db := db }

def dbAccess : DbAccess Failure World where
  depth w := w.db.depth
  setDepth n w := { w with db := { w.db with depth := n } }
  requireOpen := onDb Database.requireOpen
  begin := onDb Database.begin
  commit := onDb Database.commit
  rollback := onDb Database.rollback

end Act

open Act

namespace Mapper

def generator (m : Mapper) : Sql.Generator := m.registries.generatorFor (some m.dialect)

def metadata (m : Mapper) (model : Model) : Act MappedModel :=
  lift (MappedModel.describe m.voc model)

def modelOf (m : Mapper) (e : Entity) : Except Failure Model :=
  match m.models.find? (·.name == e.model) with
  | some model => .ok model
  | none => .error (.type ("unknown model " ++ e.model))

def transaction {α : Type} (body : Act α) : Act α := dbAccess.transaction body

def withHandle {α : Type} (body : Act α) : Act α := do
  onDb Database.requireOpen
  body

def heldAt (i : Nat) : Act (Option Entity) := do
  return (← get).held.getD i none

def setHeld (i : Nat) (e : Entity) : Act Unit :=
  modify fun w => { w with held := w.held.set i (some e) }

def hold (es : List (Option Entity)) : Act Unit :=
  modify fun w => { w with held := es }

def heldAll : Act (List Entity) := do
  return (← get).held.filterMap id

def entityMetadata (m : Mapper) (i : Nat) : Act (Entity × MappedModel) := do
  match ← heldAt i with
  | none => throw (.invalidEntity "Entity cannot be None.")
  | some e =>
    let model ← lift (m.modelOf e)
    pure (e, ← m.metadata model)

def requireWritable (d : MappedModel) (action : String) : Act Unit :=
  if d.queryOnly then
    throw (.invalidEntity ("Cannot " ++ action ++ " query-only model " ++ d.model.name ++
      "; use query() instead."))
  else pure ()

def requireId (d : MappedModel) (action : String) : Act MappedField :=
  match d.idField with
  | some f => pure f
  | none => throw (.invalidEntity (d.model.name ++ " must declare an Id field to " ++ action ++ "."))

def requireIdValue (e : Entity) (d : MappedModel) (action : String) : Act Unit := do
  let f ← requireId d action
  if (← lift (e.get f.name)).isNone then
    throw (.invalidEntity ("Cannot " ++ action ++ " " ++ d.model.name ++ " without a value for " ++
      Text.quote f.name ++ "."))

def idParams (m : Mapper) (f : MappedField) (v : Value) : Act (List (String × Value)) := do
  let v ← lift (Converter.toDbAll m.enums f (m.registries.convertersFor f (some m.dialect)) v)
  pure [(f.column, v)]

/-- Fills the defaults and generated values of a held entity. -/
def fill (m : Mapper) (i : Nat) (d : MappedModel) (insert : Bool) : Act Unit := do
  let w ← get
  match w.held.getD i none with
  | none => pure ()
  | some e =>
    match (applyGenerated m.enums m.registries d insert).run ⟨e, w.supply⟩ with
    | .ok _ work => set { w with held := w.held.set i (some work.entity), supply := work.supply }
    | .error err work =>
      set { w with held := w.held.set i (some work.entity), supply := work.supply }
      throw err

end Mapper

end DataMapper
