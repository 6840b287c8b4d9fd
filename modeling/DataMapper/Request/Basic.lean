import DataMapper.Request.Encode
import DataMapper.Request.Extension
import DataMapper.Page
import DataMapper.Sql.Statement

namespace DataMapper.Request

/-- Everything a request declares. -/
structure Context where
  scope : Scope
  models : List Model

/-- Reads the declarations of a request; an enumeration whose members cannot be made fails
the request. -/
def context (req : Value) : Except Malformed (Except Failure Context) := do
  match ← enums (getD req "enums" (.dict [])) with
  | .error f => return .error f
  | .ok es =>
    let voc ← vocabulary es (getD req "tag_types" (.dict []))
    let scope : Scope := ⟨es, voc⟩
    let ms ← (← asList (getD req "models" (.list []))).mapM (model scope)
    return .ok ⟨scope, ms⟩

def Context.model (c : Context) (name : String) : Except Malformed Model :=
  match c.models.find? (·.name == name) with
  | some m => .ok m
  | none => .error ("unknown model " ++ name)

/-- The registries a request configures: the built-in module unless `builtins` is false, then
its modules. A refused registration is a failure of the request. -/
def registries (c : Context) (req : Value) : Except Malformed (Except Failure Registries) := do
  let ms ← modules c.scope.enums c.scope.voc (getD req "modules" (.list []))
  return ms.bind (Registries.configure (getD req "builtins" (.bool true)).truthy)

def dialectOf (req : Value) : Except Failure (Option Dialect) :=
  match get? req "dialect" with
  | some .none | none => .ok none
  | some v => (Dialect.ofValue v).map some

def resolveTagsOp (c : Context) (req : Value) : Except Malformed Value := do
  let xs ← items c.scope.enums c.scope.voc (getD req "tags" (.list []))
  return outcomeDump ((resolveTags c.scope.voc xs).map fun ts => .list (ts.map tagDump))

/-- `metadata_tags`: the tags a field's metadata declares. -/
def metadataTagsOp (c : Context) (req : Value) : Except Malformed Value := do
  let md := getD req "metadata" (.dict [])
  let source ← match get? md "tags" with
    | none => pure none
    | some (.list xs) => do pure (some (TagSource.many (← xs.mapM (item c.scope.enums c.scope.voc))))
    | some (.dict kvs) => do pure (some (TagSource.single (← item c.scope.enums c.scope.voc (.dict kvs))))
    | some v => do pure (some (TagSource.single (.other (← value c.scope.enums v))))
  let rest ← (entries md).filterMapM fun (k, v) =>
    if k == "tags" then pure none else do pure (some (k, ← value c.scope.enums v))
  return outcomeDump ((metadataTags ⟨source, rest⟩).map fun xs => .list (xs.map itemDump))

def dialectOp (req : Value) : Value :=
  outcomeDump <| (Dialect.ofValue (getD req "name" .none)).map fun d =>
    .dict [(key "name", .str d.name), (key "str", .str d.name),
      (key "equals", .list (d.knownEqual.map (.str ·.name)))]

/-- The fields of a page shared by every page answer, computed in this order: items, number,
size, row count, page count, then (when asked) the offset, then the flags. The number, size,
row count and offset are written as plain JSON. -/
def pageFields {α : Type} (p : Page α) (item : α → Value) (withOffset : Bool) :
    Except Failure (List (Value × Value)) := do
  let pages ← p.totalPages
  let offset ← if withOffset then do pure [(key "offset", ← p.offset)] else pure []
  return [(key "content", .list (p.content.map item)), (key "page", p.number),
    (key "size", p.size), (key "total_elements", p.total),
    (key "total_pages", .int pages)] ++ offset ++
    [(key "has_next", .bool (← p.hasNext)), (key "has_previous", .bool (← p.hasPrevious)),
     (key "is_first", .bool p.isFirst), (key "is_last", .bool (← p.isLast))]

def pageOp (c : Context) (req : Value) : Except Malformed Value := do
  let content ← (← asList (getD req "content" (.list []))).mapM (value c.scope.enums)
  return outcomeDump do
    let p ← Page.make? content (getD req "page" (.int 1)) (getD req "size" (.int 20))
      (getD req "total_elements" (.int 0))
    let fields ← pageFields p encodeValue true
    let mapped ← pageFields (p.map fun x => Value.list [x]) encodeValue false
    return .dict (fields ++ [(key "len", .int p.content.length),
      (key "iter", .list (p.content.map encodeValue)), (key "mapped", .dict mapped)])

/-- `convert_params`: placeholders rewritten for a driver's parameter style. -/
def convertParamsOp (c : Context) (req : Value) : Except Malformed Value := do
  let sql ← asText (getD req "sql" (.str ""))
  let style ← asText (getD req "paramstyle" (.str "named"))
  let params ← match getD req "params" .none with
    | .none => pure none
    | obj => do pure (some (← (entries obj).mapM fun (k, v) => do pure (k, ← value c.scope.enums v)))
  return outcomeDump <| (Sql.convertParams sql params style).map fun (text, ps) =>
    .dict [(key "sql", .str text), (key "params", match ps with
      | none => .none
      | some (.byName kvs) => .dict (kvs.map fun (k, v) => (key k, encodeValue v))
      | some (.byPosition vs) => .list (vs.map encodeValue))]

/-- `paginate`: a query cut into pages and counted, and identifiers quoted. -/
def paginateOp (c : Context) (req : Value) : Except Malformed Value := do
  let sql ← asText (getD req "sql" (.str ""))
  let idents ← (← asList (getD req "idents" (.list []))).mapM asText
  let regs ← registries c req
  return outcomeDump do
    let r ← regs
    let g := r.generatorFor (← dialectOf req)
    return .dict [(key "generator", .str g.name), (key "paginate", .str (g.paginate sql)),
      (key "count_wrapper", .str (g.countWrapper sql)),
      (key "quoted", .list (idents.map (.str ∘ g.q)))]

end DataMapper.Request
