import DataMapper.Request.Basic
import DataMapper.Metadata.Cache

namespace DataMapper.Request

def mappedFieldDump (f : MappedField) : Value :=
  .dict [(key "field_name", .str f.name), (key "column_name", .str f.column),
    (key "value_type", .str f.valueType.display), (key "tags", .list (f.tags.map tagDump)),
    (key "is_id", .bool f.isId), (key "is_generated", .bool f.isGenerated), (key "init", .bool f.init)]

def optText : Option String → Value
  | some s => .str s
  | none => .none

def namesOf (fs : List MappedField) : Value := .list (fs.map (.str ·.name))

def mappedModelDump (m : MappedModel) : List (Value × Value) :=
  [(key "model", .str m.model.name), (key "table", .str m.table), (key "schema", optText m.schema),
    (key "full_table_name", .str m.fullTableName), (key "query_only", .bool m.queryOnly),
    (key "has_id", .bool m.hasId), (key "has_generated_id", .bool m.hasGeneratedId),
    (key "id_field", optText (m.idField.map (·.name))),
    (key "columns", .list (m.columns.map .str)), (key "insertable", namesOf m.insertable),
    (key "updatable", namesOf m.updatable), (key "fields", .list (m.fields.map mappedFieldDump))]

/-- `metadata`: a model's description, or the traffic of a description cache. -/
def metadataOp (c : Context) (req : Value) : Except Malformed Value := do
  match get? req "cache_gets" with
  | some gets => do
    let names ← (← asList gets).mapM asText
    let models ← names.mapM c.model
    let step := fun (acc : DescriptionCache × List Value × List String × List Value) (m : Model) =>
      let (cache, results, builds, contains) := acc
      let (r, cache', built) := cache.get (MappedModel.describe c.scope.voc) m
      let result := match r with
        | .ok d => Value.str d.table
        | .error f => failureDump f
      (cache', results ++ [result], (if built then builds ++ [m.name] else builds),
        contains ++ [.bool (cache'.contains m.name)])
    let (cache, results, builds, contains) := models.foldl step ({}, [], [], [])
    return resultDump (.dict [(key "results", .list results),
      (key "builds", .list (builds.map .str)), (key "size", .int cache.size),
      (key "contains", .list contains)])
  | none => do
    let m ← c.model (← asText (getD req "model" .none))
    let lookups ← match get? req "lookups" with
      | some ls => do pure (some (← (← asList ls).mapM asText))
      | none => pure none
    return outcomeDump do
      let d ← MappedModel.describe c.scope.voc m
      let extra := match lookups with
        | some ls => [(key "lookups", Value.list (ls.map fun l =>
            .list [.str l, optText ((d.fieldForColumn? l).map (·.name))]))]
        | none => []
      return .dict (mappedModelDump d ++ extra)

def statementDump : Except Failure String → Value
  | .ok s => .str s
  | .error f => failureDump f

/-- The fields named by a request entry, or the default ones. -/
def namedFields (d : MappedModel) (req : Value) (k : String) (dflt : List MappedField) :
    Except Malformed (List MappedField) := do
  match get? req k with
  | some names =>
    (← asList names).mapM fun n => do
      let n ← asText n
      match d.field? n with
      | some f => pure f
      | none => throw ("unknown field " ++ n)
  | none => pure dflt

/-- `sql`: every statement the configured generator writes for a model. -/
def sqlOp (c : Context) (req : Value) : Except Malformed Value := do
  let m ← c.model (← asText (getD req "model" .none))
  let regs ← registries c req
  match (do let r ← regs; let d ← MappedModel.describe c.scope.voc m; let dl ← dialectOf req; pure (r, d, dl)) with
  | .error f => return failureDump f
  | .ok (r, d, dl) =>
    let g := r.generatorFor dl
    let ins ← namedFields d req "insert_fields" d.insertable
    let upd ← namedFields d req "update_fields" d.fields
    return resultDump (.dict [(key "generator", .str g.name),
      (key "insert", .str (g.insert d ins)), (key "update", statementDump (g.update d upd)),
      (key "delete", statementDump (g.delete d)), (key "select", .str (g.select d)),
      (key "select_by_id", statementDump (g.selectById d)), (key "count", .str (g.count d)),
      (key "exists_by_id", statementDump (g.existsById d)),
      (key "page", .str (g.paginate (g.select d))),
      (key "placeholders", .list (d.fields.map (.str ∘ g.fieldPlaceholder)))])

/-- `registry`: what the configured registries hold. -/
def registryOp (c : Context) (req : Value) : Except Malformed Value := do
  let regs ← registries c req
  let model ← match get? req "model" with
    | some (.str n) => do pure (some (← c.model n))
    | _ => pure none
  let genNames ← (← asList (getD req "generator_names" (.list []))).mapM asText
  let tagNames ← (← asList (getD req "validator_tags" (.list []))).mapM asText
  return outcomeDump do
    let r ← regs
    let dl ← dialectOf req
    let perField ← match model with
      | some m => do
        let d ← MappedModel.describe c.scope.voc m
        pure [(key "converters", Value.dict (d.fields.map fun f =>
            (key f.name, .list ((r.convertersFor f dl).map (.str ·.label))))),
          (key "validators", .dict (d.fields.map fun f =>
            (key f.name, .list ((r.checksFor f).map (.str ·.label)))))]
      | none => pure []
    return .dict (perField ++ [
      (key "sql_generator", .str (r.generatorFor dl).label),
      (key "default_sql_generator", .str Sql.Generator.ansi.label),
      (key "exists", .list (genNames.map fun n => .list [.str n, .bool (r.sourceExists n)])),
      (key "get", .list (genNames.map fun n => .list [.str n, match r.source n with
        | .ok s => .str s.label
        | .error f => failureDump f])),
      (key "validator_for", .list (tagNames.map fun t => .list [.str t,
        match r.checks.lookup t with
        | some ch => .str ch.label
        | none => .none]))])

/-- `config`: a mapper configuration built step by step; the first refused step is the answer. -/
def configOp (req : Value) : Value :=
  let flag := fun (k : String) => (getD req k (.bool false)).truthy
  outcomeDump do
    let dialect ← match get? req "dialect" with
      | some v => Dialect.ofValue v
      | none => pure Dialect.ansi
    if flag "bad_module" then throw (.type "object does not define configure().")
    let builtins := (getD req "builtins" (.bool true)).truthy
    match get? req "raw_dialect" with
    | some v => throw (.type ("dialect must be a Dialect, got " ++ v.typeName ++ "."))
    | none => pure ()
    if flag "database" == flag "provider" then
      throw (.value "Configure exactly one of database or database_provider.")
    let r ← Registries.configure builtins []
    return .dict [(key "dialect", .str dialect.name),
      (key "sql_generator", .str (r.generatorFor (some dialect)).label),
      (key "timestamp", .bool (r.sourceExists "timestamp"))]

end DataMapper.Request
