import DataMapper.Mapper.Basic
import DataMapper.Value.Arith

namespace DataMapper

/-- A prepared write: the place of its entity, the entity's stored form, the statement and its
parameters. -/
structure Statement where
  slot : Nat
  stored : MappedModel
  sql : String
  params : List (String × Value)

/-- The validation errors a batch gathers from a failure: those of a validation failure, and
all those of a batch failure; other failures are not gathered. -/
def Failure.gathered? : Failure → Option (List FieldError)
  | .validation es => some es
  | .batch items => some (Failure.batchErrors items)
  | _ => none

namespace Mapper

open Act

def current (i : Nat) : Act Entity := do
  match ← heldAt i with
  | some e => pure e
  | none => throw (.invalidEntity "Entity cannot be None.")

def check (m : Mapper) (i : Nat) (d : MappedModel) : Act Unit := do
  lift (validateEntity m.registries d (← current i))

def bindAt (m : Mapper) (i : Nat) (fields : List MappedField) : Act (List (String × Value)) := do
  lift (bindFields m.enums m.registries (some m.dialect) (← current i) fields)

def prepareInsert (m : Mapper) (i : Nat) : Act Statement := do
  let (_, d) ← m.entityMetadata i
  requireWritable d "insert"
  m.fill i d true
  m.check i d
  let fields := d.insertable
  let sql := m.generator.insert d fields
  pure ⟨i, d, sql, ← m.bindAt i fields⟩

def prepareUpdate (m : Mapper) (i : Nat) : Act Statement := do
  let (e, d) ← m.entityMetadata i
  requireWritable d "update"
  requireIdValue e d "update"
  m.fill i d false
  m.check i d
  let sql ← lift (m.generator.update d d.fields)
  pure ⟨i, d, sql, ← m.bindAt i d.fields⟩

def prepareDelete (m : Mapper) (i : Nat) : Act Statement := do
  let (e, d) ← m.entityMetadata i
  requireWritable d "delete"
  requireIdValue e d "delete"
  let sql ← lift (m.generator.delete d)
  let idField ← requireId d "delete"
  pure ⟨i, d, sql, ← m.bindAt i [idField]⟩

/-- Prepares a batch: statements of the items that passed, and the validation errors of the
others by position. -/
def prepareAll (prepare : Nat → Act Statement) :
    List Nat → Act (List Statement × List (Nat × List FieldError))
  | [] => pure ([], [])
  | i :: is => do
    let r : Sum Statement (List FieldError) ← tryCatch (do pure (Sum.inl (← prepare i)))
      (fun e => match e.gathered? with
        | some es => pure (Sum.inr es)
        | none => throw e)
    let (sts, fails) ← prepareAll prepare is
    match r with
    | .inl st => pure (st :: sts, fails)
    | .inr es => pure (sts, (i, es) :: fails)

/-- Prepares every held entity, failing with the gathered validation errors if any item
failed. -/
def prepareBatch (prepare : Nat → Act Statement) (n : Nat) : Act (List Statement) := do
  let (sts, fails) ← prepareAll prepare (List.range n)
  if fails.isEmpty then pure sts else throw (.batch fails)

def assignKey (slot : Nat) (idField : MappedField) (key : Value) : Act Unit := do
  if !key.isNone then
    let v ← lift (Mapping.coerce key idField.valueType)
    let e ← lift ((← current slot).assign idField.name v)
    setHeld slot e

def executeInsert (st : Statement) : Act Unit := do
  match st.stored.idField, st.stored.hasGeneratedId with
  | some idField, true =>
    let key ← onDb (Database.executeAndReturnKey st.sql (some st.params) idField.column)
    assignKey st.slot idField key
  | _, _ =>
    let _ ← onDb (Database.execute st.sql (some st.params))

def executeCounted (st : Statement) : Act Value :=
  onDb (Database.execute st.sql (some st.params))

/-- Adds a row count to a running total of counts, as `+` adds numbers: a count that is no
number is refused. -/
def addCount (total v : Value) : Except Failure Value := Value.arith .add total v

def executeSum (sts : List Statement) : Act Value :=
  sts.foldlM (fun total st => do lift (addCount total (← executeCounted st))) (.int 0)

def insertAt (m : Mapper) (i : Nat) : Act Unit := do
  let st ← m.prepareInsert i
  transaction (executeInsert st)

def updateAt (m : Mapper) (i : Nat) : Act Value := do
  let st ← m.prepareUpdate i
  transaction (executeCounted st)

def insert (m : Mapper) (e : Option Entity) : Act Entity := do
  hold [e]
  m.insertAt 0
  current 0

def insertAll (m : Mapper) (es : List (Option Entity)) : Act (List Entity) := do
  hold es
  if es.isEmpty then return []
  let sts ← prepareBatch m.prepareInsert es.length
  transaction (sts.forM executeInsert)
  heldAll

def update (m : Mapper) (e : Option Entity) : Act Value := do
  hold [e]
  m.updateAt 0

def updateAll (m : Mapper) (es : List (Option Entity)) : Act Value := do
  hold es
  if es.isEmpty then return .int 0
  let sts ← prepareBatch m.prepareUpdate es.length
  transaction (executeSum sts)

def save (m : Mapper) (e : Option Entity) : Act Entity := do
  hold [e]
  let (e', d) ← m.entityMetadata 0
  let fresh ← match d.idField with
    | none => pure true
    | some f => do pure (← lift (e'.get f.name)).isNone
  if fresh then m.insertAt 0 else let _ ← m.updateAt 0
  current 0

def delete (m : Mapper) (e : Option Entity) : Act Value := do
  hold [e]
  let st ← m.prepareDelete 0
  transaction (executeCounted st)

def deleteAll (m : Mapper) (es : List (Option Entity)) : Act Value := do
  hold es
  if es.isEmpty then return .int 0
  let sts ← (List.range es.length).mapM m.prepareDelete
  transaction (executeSum sts)

/-- Prepares the delete of the rows of a model with the given ids: the statement, and the
parameters of each id. -/
def prepareDeleteByIds (m : Mapper) (model : Model) (ids : List Value) :
    Act (String × List (List (String × Value))) := do
  let d ← m.metadata model
  requireWritable d "delete"
  let idField ← requireId d "delete"
  let sql ← lift (m.generator.delete d)
  pure (sql, ← ids.mapM (m.idParams idField))

def executeEach (sql : String) (paramsList : List (List (String × Value))) : Act Value :=
  paramsList.foldlM (fun total ps => do
    lift (addCount total (← onDb (Database.execute sql (some ps))))) (.int 0)

def deleteByIds (m : Mapper) (model : Model) (ids : List Value) : Act Value := do
  if ids.isEmpty then return .int 0
  let (sql, paramsList) ← m.prepareDeleteByIds model ids
  transaction (executeEach sql paramsList)

end Mapper

end DataMapper
