import DataMapper.Mapper.Basic
import DataMapper.Page

namespace DataMapper

namespace Mapper

open Act

def mapRows (m : Mapper) (d : MappedModel) (rows : List (List (Value × Value))) : Act (List Entity) :=
  lift (rows.mapM (mapRow m.enums m.registries (some m.dialect) d))

def rowsOf (sql : String) (params : Option (List (String × Value))) :
    Act (List (List (Value × Value))) :=
  withHandle (onDb (Database.query sql params))

def query (m : Mapper) (sql : String) (model : Model) (params : Option (List (String × Value))) :
    Act (List Entity) := do
  let d ← m.metadata model
  m.mapRows d (← rowsOf sql params)

def queryOne (m : Mapper) (sql : String) (model : Model) (params : Option (List (String × Value))) :
    Act (Option Entity) := do
  let d ← m.metadata model
  match ← rowsOf sql params with
  | [] => pure none
  | row :: _ => pure (some (← lift (mapRow m.enums m.registries (some m.dialect) d row)))

/-- Streams a query's rows mapped to a model, taking at most `take` of them; rows after those
are neither read nor mapped. Taking none runs nothing. -/
def queryStream (m : Mapper) (sql : String) (model : Model) (params : Option (List (String × Value)))
    (take : Option Nat) : Act (List Entity) := do
  if take == some 0 then return []
  let d ← m.metadata model
  withHandle do
    let cur ← onDb (Database.cursor sql params)
    let rows := match take with
      | some k => cur.rows.take k
      | none => cur.rows
    rows.mapM fun r => do
      let kvs ← lift (cur.mapping r)
      lift (mapRow m.enums m.registries (some m.dialect) d kvs)

def firstColumn (row : List (Value × Value)) (type : Option TypeExpr) : Except Failure Value :=
  let v := (row.head?.map (·.2)).getD .none
  match type with
  | some t => if v.isNone then .ok v else Mapping.coerce v t
  | none => .ok v

def queryForList (sql : String) (type : Option TypeExpr) (params : Option (List (String × Value))) :
    Act (List Value) := do
  lift ((← rowsOf sql params).mapM (firstColumn · type))

def queryForObject (sql : String) (type : Option TypeExpr) (params : Option (List (String × Value))) :
    Act Value := do
  return ((← queryForList sql type params).head?).getD .none

def queryForInt (sql : String) (params : Option (List (String × Value))) : Act Value := do
  let v ← queryForObject sql (some (.cls .int)) params
  return if v.isNone then .int 0 else v

def queryForString (sql : String) (params : Option (List (String × Value))) : Act Value := do
  let v ← queryForObject sql none params
  return if v.isNone then .none else .str v.plain

/-- Every row of a model's table, or one window of them. -/
def findAll (m : Mapper) (model : Model) (limit : Option Value) (offset : Value) : Act (List Entity) := do
  let d ← m.metadata model
  let sql := m.generator.select d
  match limit with
  | some lim =>
    let negative ← lift (do
      if ← lim.relate .lt (.int 0) then pure true else offset.relate .lt (.int 0))
    if negative then throw (.value "limit and offset must be >= 0.")
    m.query (m.generator.paginate sql) model (some [("__limit", lim), ("__offset", offset)])
  | none =>
    if offset.truthy then throw (.value "offset requires limit.")
    m.query sql model none

def findById (m : Mapper) (model : Model) (id : Value) : Act (Option Entity) := do
  let d ← m.metadata model
  let idField ← requireId d "find by id"
  let sql ← lift (m.generator.selectById d)
  let ps ← m.idParams idField id
  m.queryOne sql model (some ps)

/-- The rows with the given ids, in the order of the ids, skipping missing ones. -/
def findAllByIds (m : Mapper) (model : Model) (ids : List Value) : Act (List Entity) := do
  if ids.isEmpty then return []
  let d ← m.metadata model
  let idField ← requireId d "find by id"
  let sql ← lift (m.generator.selectById d)
  withHandle do
    let found ← ids.mapM fun id => do
      let rows ← onDb (Database.query sql (some (← m.idParams idField id)))
      match rows with
      | [] => pure none
      | row :: _ => pure (some (← lift (mapRow m.enums m.registries (some m.dialect) d row)))
    pure (found.filterMap id)

def findFirst (m : Mapper) (model : Model) : Act (Option Entity) := do
  return (← m.findAll model (some (.int 1)) (.int 0)).head?

def existsById (m : Mapper) (model : Model) (id : Value) : Act Bool := do
  let d ← m.metadata model
  let idField ← requireId d "check existence"
  let sql ← lift (m.generator.existsById d)
  let n ← queryForInt sql (some (← m.idParams idField id))
  lift (n.relate .gt (.int 0))

def count (m : Mapper) (model : Model) : Act Value := do
  let d ← m.metadata model
  requireWritable d "count"
  queryForInt (m.generator.count d) none

/-- The count and the rows of one page of a query. -/
def pageRows (m : Mapper) (sql : String) (page size : Int) (params : Option (List (String × Value))) :
    Act (Value × List (List (Value × Value))) := do
  if page < 1 || size < 1 then throw (.value "page and size must be >= 1.")
  let base := params.getD []
  let paged := Row.put (Row.put (base.map fun (k, v) => (Value.str k, v)) (.str "__limit") (.int size))
    (.str "__offset") (.int ((page - 1) * size))
  let pagedParams := paged.map fun (k, v) => (k.plain, v)
  withHandle do
    let countRows ← onDb (Database.query (m.generator.countWrapper sql) params)
    let total ← match countRows with
      | [] => pure (.int 0)
      | row :: _ => lift (firstColumn row (some (.cls .int)))
    let rows ← onDb (Database.query (m.generator.paginate sql) (some pagedParams))
    pure (if total.truthy then total else .int 0, rows)

/-- One page of a query: a model's whole table, or a given query mapped to a model. -/
def queryPage (m : Mapper) (source : Sum Model String) (page size : Int) (resultModel : Option Model)
    (params : Option (List (String × Value))) : Act (Int × Int × Value × List Entity) := do
  let (sql, target) ← match source with
    | .inl model => do pure (m.generator.select (← m.metadata model), some model)
    | .inr sql => pure (sql, resultModel)
  match target with
  | none => throw (.type "query_page() needs result_type when given SQL.")
  | some model =>
    let d ← m.metadata model
    let (total, rows) ← m.pageRows sql page size params
    pure (page, size, total, ← m.mapRows d rows)

end Mapper

end DataMapper
