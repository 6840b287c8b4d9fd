import DataMapper.Request.Pipeline
import DataMapper.Mapper.Write
import DataMapper.Mapper.Read

namespace DataMapper.Request

/-- A failed operation: the failure, and for a transaction the nested answers given before. -/
structure Fault where
  failure : Failure
  steps : Option (List Value) := none

/-- The state of a session: the mapper's world and the named entities. -/
structure SessionState where
  world : World
  vars : List (String × Entity) := []

abbrev SessionStep := EStateM Fault SessionState

def Fault.answer (f : Fault) : Value :=
  match failureDump f.failure, f.steps with
  | .dict kvs, some steps => .dict (kvs ++ [(key "steps", .list steps)])
  | v, _ => v

namespace Session

def act {α : Type} (a : Act α) : SessionStep α := fun st =>
  match a st.world with
  | .ok v w => .ok v { st with world := w }
  | .error e w => .error ⟨e, none⟩ { st with world := w }

def lift {α : Type} : Except Failure α → SessionStep α
  | .ok a => pure a
  | .error e => throw ⟨e, none⟩

def need {α : Type} : Except Malformed α → SessionStep α
  | .ok a => pure a
  | .error m => throw ⟨.raised "DriverError" m, none⟩

def dump (c : Context) (e : Entity) : SessionStep Value := do
  let m ← need (c.model e.model)
  lift (entityDump m e)

def dumpOpt (c : Context) : Option Entity → SessionStep Value
  | some e => dump c e
  | none => pure .none

def rowDump (kvs : List (Value × Value)) : Value := encodeValue (.dict kvs)

def freshEntity (c : Context) (spec : Value) : Except Malformed (Option Entity) := do
  match spec with
  | .none => pure none
  | _ =>
    let m ← c.model (← asText (getD spec "model" .none))
    let given ← givenValues c (getD spec "values" (.dict []))
    pure (some (m.instantiate given))

def entityArg (c : Context) (op : Value) : SessionStep (Option Entity × Option String) := do
  match get? op "var" with
  | some (.str name) =>
    match (← get).vars.lookup name with
    | some e => pure (some e, some name)
    | none => need (.error ("unknown var " ++ name))
  | _ => pure (← need (freshEntity c (getD op "entity" .none)), none)

/-- A list of entity arguments with the names they are stored under. -/
def entitiesArg (c : Context) (op : Value) : SessionStep (List (Option Entity × Option String)) := do
  match get? op "vars" with
  | some names =>
    let names ← need (do (← asList names).mapM asText)
    let vars := (← get).vars
    names.mapM fun name =>
      match vars.lookup name with
      | some e => pure (some e, some name)
      | none => need (.error ("unknown var " ++ name))
  | none =>
    let specs ← need (asList (getD op "entities" (.list [])))
    specs.mapM fun spec => do pure (← need (freshEntity c spec), none)

def store (name : String) (e : Entity) : SessionStep Unit :=
  modify fun st => { st with vars := assocPut st.vars name e }

/-- Runs a write on entities, then stores the written entities back under their names (also
when the write fails). -/
def writing {α : Type} (refs : List (Option Entity × Option String))
    (write : List (Option Entity) → Act α) : SessionStep α := fun st =>
  let back := fun (w : World) =>
    (refs.zip (List.range refs.length)).foldl (fun vars ((_, name), i) =>
      match name, w.held.getD i none with
      | some n, some e => assocPut vars n e
      | _, _ => vars) st.vars
  match write (refs.map (·.1)) st.world with
  | .ok v w => .ok v { world := w, vars := back w }
  | .error e w => .error ⟨e, none⟩ { world := w, vars := back w }

def paramsArg (c : Context) (op : Value) : SessionStep (Option (List (String × Value))) := do
  match get? op "params" with
  | none | some .none => pure none
  | some obj => pure (some (← need (givenValues c obj)))

def textArg (op : Value) (k : String) : SessionStep String := need (asText (getD op k .none))

def modelArg (c : Context) (op : Value) : SessionStep Model := do
  need (c.model (← textArg op "model"))

def valueArg (c : Context) (op : Value) (k : String) : SessionStep Value :=
  need (value c.scope.enums (getD op k .none))

def valuesArg (c : Context) (op : Value) (k : String) : SessionStep (List Value) := do
  (← need (asList (getD op k (.list [])))).mapM fun v => need (value c.scope.enums v)

def intArg (op : Value) (k : String) : SessionStep Int :=
  match get? op k with
  | some (.int n) => pure n
  | _ => need (.error ("expected an integer " ++ k))

def pageDump (page size : Int) (total : Value) (content : List Value) : SessionStep Value := do
  let p ← lift (Page.make? content (.int page) (.int size) total)
  pure (.dict (← lift (pageFields p id false)))

def queryPageAnswer (c : Context) (m : Mapper) (source : Sum Model String) (page size : Int)
    (resultModel : Option Model) (params : Option (List (String × Value))) : SessionStep Value := do
  let (page, size, total, content) ← act (m.queryPage source page size resultModel params)
  pageDump page size total (← content.mapM (dump c))

def onHandle {α : Type} (body : Act α) : SessionStep α := do
  if (← get).world.db.inTransaction then act body else act (Mapper.withHandle body)

def dbAccess : DbAccess Fault SessionState where
  depth st := st.world.db.depth
  setDepth n st := { st with world := Act.dbAccess.setDepth n st.world }
  requireOpen := act (Act.onDb Database.requireOpen)
  begin := act (Act.onDb Database.begin)
  commit := act (Act.onDb Database.commit)
  rollback := act (Act.onDb Database.rollback)

def transaction {α : Type} (body : SessionStep α) : SessionStep α := dbAccess.transaction body

end Session

open Session

/-- The result of a repository method. -/
def repoCall (c : Context) (m : Mapper) (model : Model) (op : Value) (method : String)
    (args : List Value) : SessionStep Value := do
  let arg := fun (i : Nat) => need (value c.scope.enums (args.getD i .none))
  let _ ← act (m.metadata model)
  match method with
  | "insert" => dump c (← writing [← entityArg c op] fun es => m.insert (es.headD none))
  | "insert_all" => do
    let es ← writing (← entitiesArg c op) m.insertAll
    pure (.list (← es.mapM (dump c)))
  | "update" => pure (encodeValue (← writing [← entityArg c op] fun es => m.update (es.headD none)))
  | "update_all" => pure (encodeValue (← writing (← entitiesArg c op) m.updateAll))
  | "save" => dump c (← writing [← entityArg c op] fun es => m.save (es.headD none))
  | "delete" => pure (encodeValue (← writing [← entityArg c op] fun es => m.delete (es.headD none)))
  | "delete_all" => pure (encodeValue (← writing (← entitiesArg c op) m.deleteAll))
  | "delete_by_id" => pure (encodeValue (← act (m.deleteByIds model [← arg 0])))
  | "delete_by_ids" =>
    let ids ← need (do (← asList (args.getD 0 (.list []))).mapM (value c.scope.enums))
    pure (encodeValue (← act (m.deleteByIds model ids)))
  | "find_all" =>
    let limit ← match (args[0]? : Option Value) with
      | some .none | none => pure none
      | some v => do pure (some (← need (value c.scope.enums v)))
    let offset ← match (args[1]? : Option Value) with
      | some v => need (value c.scope.enums v)
      | none => pure (.int 0)
    pure (.list (← (← act (m.findAll model limit offset)).mapM (dump c)))
  | "find_by_id" => dumpOpt c (← act (m.findById model (← arg 0)))
  | "find_all_by_ids" =>
    let ids ← need (do (← asList (args.getD 0 (.list []))).mapM (value c.scope.enums))
    pure (.list (← (← act (m.findAllByIds model ids)).mapM (dump c)))
  | "find_first" => dumpOpt c (← act (m.findFirst model))
  | "exists" => pure (.bool (← act (m.existsById model (← arg 0))))
  | "count" => pure (encodeValue (← act (m.count model)))
  | "query" =>
    let sql ← need (asText (args.getD 0 .none))
    let params ← match (args[1]? : Option Value) with
      | some .none | none => pure none
      | some obj => do pure (some (← need (givenValues c obj)))
    pure (.list (← (← act (m.query sql model params)).mapM (dump c)))
  | "query_one" =>
    let sql ← need (asText (args.getD 0 .none))
    let params ← match (args[1]? : Option Value) with
      | some .none | none => pure none
      | some obj => do pure (some (← need (givenValues c obj)))
    dumpOpt c (← act (m.queryOne sql model params))
  | "page" =>
    let page ← need (match args.getD 0 .none with | .int n => .ok n | _ => .error "page must be an integer")
    let size ← need (match args.getD 1 .none with | .int n => .ok n | _ => .error "size must be an integer")
    queryPageAnswer c m (.inl model) page size none none
  | other => need (.error ("unknown repository method " ++ other))

mutual

/-- Runs one session operation; gives its result. -/
def perform (c : Context) (m : Mapper) : Nat → Value → SessionStep Value
  | 0, _ => need (.error "operations nested too deeply")
  | fuel+1, op => do
    let name ← textArg op "op"
    match name with
    | "new" =>
      let e ← need (freshEntity c (.dict [(.str "model", getD op "model" .none),
        (.str "values", getD op "values" (.dict []))]))
      match e with
      | some e => do store (← textArg op "var") e; dump c e
      | none => need (.error "new needs a model")
    | "get" =>
      let (e, _) ← entityArg c (.dict [(.str "var", getD op "var" .none)])
      dumpOpt c e
    | "set" =>
      let var ← textArg op "var"
      let (e, _) ← entityArg c (.dict [(.str "var", .str var)])
      match e with
      | some e => do
        let e' := e.put (← textArg op "field") (← valueArg c op "value")
        store var e'
        dump c e'
      | none => need (.error ("unknown var " ++ var))
    | "insert" => dump c (← writing [← entityArg c op] fun es => m.insert (es.headD none))
    | "insert_all" =>
      let es ← writing (← entitiesArg c op) m.insertAll
      pure (.list (← es.mapM (dump c)))
    | "save" => dump c (← writing [← entityArg c op] fun es => m.save (es.headD none))
    | "update" => pure (encodeValue (← writing [← entityArg c op] fun es => m.update (es.headD none)))
    | "update_all" => pure (encodeValue (← writing (← entitiesArg c op) m.updateAll))
    | "delete" => pure (encodeValue (← writing [← entityArg c op] fun es => m.delete (es.headD none)))
    | "delete_all" => pure (encodeValue (← writing (← entitiesArg c op) m.deleteAll))
    | "delete_by_id" =>
      pure (encodeValue (← act (m.deleteByIds (← modelArg c op) [← valueArg c op "id"])))
    | "delete_by_ids" =>
      pure (encodeValue (← act (m.deleteByIds (← modelArg c op) (← valuesArg c op "ids"))))
    | "find_all" =>
      let model ← modelArg c op
      let limit ← match get? op "limit" with
        | some .none | none => pure none
        | some v => do pure (some (← need (value c.scope.enums v)))
      let offset ← match get? op "offset" with
        | some v => need (value c.scope.enums v)
        | none => pure (.int 0)
      pure (.list (← (← act (m.findAll model limit offset)).mapM (dump c)))
    | "find_by_id" => dumpOpt c (← act (m.findById (← modelArg c op) (← valueArg c op "id")))
    | "find_all_by_ids" =>
      let es ← act (m.findAllByIds (← modelArg c op) (← valuesArg c op "ids"))
      pure (.list (← es.mapM (dump c)))
    | "find_first" => dumpOpt c (← act (m.findFirst (← modelArg c op)))
    | "exists" => pure (.bool (← act (m.existsById (← modelArg c op) (← valueArg c op "id"))))
    | "count" => pure (encodeValue (← act (m.count (← modelArg c op))))
    | "query" =>
      let es ← act (m.query (← textArg op "sql") (← modelArg c op) (← paramsArg c op))
      pure (.list (← es.mapM (dump c)))
    | "query_one" =>
      dumpOpt c (← act (m.queryOne (← textArg op "sql") (← modelArg c op) (← paramsArg c op)))
    | "query_stream" =>
      let take ← match get? op "take" with
        | some (.int n) => pure (some n.toNat)
        | _ => pure none
      let es ← act (m.queryStream (← textArg op "sql") (← modelArg c op) (← paramsArg c op) take)
      pure (.list (← es.mapM (dump c)))
    | "query_for_maps" =>
      let rows ← act (Mapper.rowsOf (← textArg op "sql") (← paramsArg c op))
      pure (.list (rows.map rowDump))
    | "query_for_map" =>
      let rows ← act (Mapper.rowsOf (← textArg op "sql") (← paramsArg c op))
      pure ((rows.head?.map rowDump).getD .none)
    | "query_for_list" =>
      let type ← typeArg c op
      pure (.list ((← act (Mapper.queryForList (← textArg op "sql") type (← paramsArg c op))).map encodeValue))
    | "query_for_object" =>
      let type ← typeArg c op
      pure (encodeValue (← act (Mapper.queryForObject (← textArg op "sql") type (← paramsArg c op))))
    | "query_for_int" =>
      pure (encodeValue (← act (Mapper.queryForInt (← textArg op "sql") (← paramsArg c op))))
    | "query_for_string" =>
      pure (encodeValue (← act (Mapper.queryForString (← textArg op "sql") (← paramsArg c op))))
    | "query_page" =>
      let source ← match get? op "sql" with
        | some (.str sql) => pure (Sum.inr sql)
        | _ => do pure (Sum.inl (← modelArg c op))
      let resultModel ← match get? op "result_model" with
        | some (.str n) => do pure (some (← need (c.model n)))
        | _ => pure none
      queryPageAnswer c m source (← intArg op "page") (← intArg op "size") resultModel (← paramsArg c op)
    | "query_page_for_maps" =>
      let page ← intArg op "page"
      let size ← intArg op "size"
      let (total, rows) ← act (m.pageRows (← textArg op "sql") page size (← paramsArg c op))
      pageDump page size total (rows.map rowDump)
    | "execute_update" =>
      let sql ← textArg op "sql"
      let params ← paramsArg c op
      pure (encodeValue (← act (Mapper.transaction (Act.onDb (Database.execute sql params)))))
    | "execute_batch" =>
      let sql ← textArg op "sql"
      let batch ← (← need (asList (getD op "batch" (.list [])))).mapM fun p =>
        match p with
        | .none => pure none
        | obj => do pure (some (← need (givenValues c obj)))
      let counts ← act (Mapper.transaction (batch.mapM fun ps => Act.onDb (Database.execute sql ps)))
      pure (.list (counts.map encodeValue))
    | "transaction" =>
      let ops ← need (asList (getD op "ops" (.list [])))
      let fail := match get? op "fail" with
        | some (.str msg) => some msg
        | _ => none
      let steps ← transaction (nested c m fuel fail [] ops)
      pure (.list steps)
    | "handle_execute" =>
      let sql ← textArg op "sql"
      let params ← paramsArg c op
      pure (encodeValue (← onHandle (Act.onDb (Database.execute sql params))))
    | "handle_query" =>
      let sql ← textArg op "sql"
      let params ← paramsArg c op
      pure (.list ((← onHandle (Act.onDb (Database.query sql params))).map rowDump))
    | "handle_stream" =>
      let sql ← textArg op "sql"
      let params ← paramsArg c op
      pure (.list ((← onHandle (Act.onDb (Database.query sql params))).map rowDump))
    | "handle_key" =>
      let sql ← textArg op "sql"
      let params ← paramsArg c op
      let k ← textArg op "key"
      pure (encodeValue (← onHandle (Act.onDb (Database.executeAndReturnKey sql params k))))
    | "in_transaction" => pure (.bool (← get).world.db.inTransaction)
    | "close" => do act (Act.onDb Database.close); pure .none
    | "close_ctx" => do act (Act.onDb Database.close); pure (.bool true)
    | "metadata" => pure (.dict (mappedModelDump (← act (m.metadata (← modelArg c op)))))
    | "repo" =>
      let args ← need (asList (getD op "args" (.list [])))
      repoCall c m (← modelArg c op) op (← textArg op "method") args
    | other => need (.error ("unknown session op " ++ other))

/-- Runs the nested operations of a transaction; the first failure aborts with the answers
given so far. -/
def nested (c : Context) (m : Mapper) (fuel : Nat) (fail : Option String) :
    List Value → List Value → SessionStep (List Value)
  | done, [] =>
    match fail with
    | some msg => throw ⟨.runtime msg, some done⟩
    | none => pure done
  | done, op :: ops => do
    let r ← tryCatch (do pure (Except.ok (← perform c m fuel op))) (fun f => pure (Except.error f))
    match r with
    | .ok v => nested c m fuel fail (done ++ [resultDump v]) ops
    | .error f =>
      match f.steps with
      | some _ => throw ⟨f.failure, some (done ++ [f.answer])⟩
      | none => throw ⟨f.failure, some done⟩

def typeArg (c : Context) (op : Value) : SessionStep (Option TypeExpr) := do
  match get? op "type" with
  | none | some .none => pure none
  | some spec => pure (some (← need (type c.scope spec)))

end

/-- A result row of a scripted reply from its JSON form: an array is a tuple, an object a
mapping, `$pairs` an iterable of pairs, and anything else (tagged values included) a value
that is no row. -/
def rowOf (c : Context) (spec : Value) : Except Malformed Row :=
  match spec with
  | .list xs => do pure (.tuple (← xs.mapM (value c.scope.enums)))
  | .dict [(.str "$pairs", ps)] => do
    let pairs ← (← asList ps).mapM fun p => do
      match ← asList p with
      | [k, v] => pure (← value c.scope.enums k, ← value c.scope.enums v)
      | _ => throw "a pair needs a key and a value"
    pure (.pairs pairs)
  | .dict [(.str k, inner)] =>
    if k.startsWith "$" then do pure (.other (← value c.scope.enums spec))
    else do pure (.mapping [(.str k, ← value c.scope.enums inner)])
  | .dict _ => do
    pure (.mapping (← (entries spec).mapM fun (k, v) => do pure (Value.str k, ← value c.scope.enums v)))
  | v => do pure (.other (← value c.scope.enums v))

/-- A scripted reply from its JSON form. -/
def replyOf (c : Context) (spec : Value) : Except Malformed Reply := do
  let columns ← match get? spec "columns" with
    | some .none | none => pure []
    | some v => (← asList v).mapM asText
  let rows ← match get? spec "rows" with
    | some .none | none => pure []
    | some v => (← asList v).mapM (rowOf c)
  let rowcount ← match get? spec "rowcount" with
    | none => pure (.int 1)
    | some v => value c.scope.enums v
  let lastrowid ← match get? spec "lastrowid" with
    | none => pure .none
    | some v => value c.scope.enums v
  let failure := match get? spec "error" with
    | some .none | none => none
    | some e =>
      some ((match get? e "kind" with | some (.str k) => k | _ => "DriverFailure"),
        (match get? e "message" with | some (.str msg) => msg | _ => ""))
  pure ⟨columns, rows, rowcount, lastrowid, failure⟩

def withLog (answer : Value) (events : List Value) : Value :=
  match answer with
  | .dict kvs => .dict (kvs ++ [(key "log", .list (events.map encodeValue))])
  | v => v

/-- Runs the operations of a session in order; gives one answer per operation. -/
def runSession (c : Context) (m : Mapper) (logged : Bool) (fuel : Nat) (ops : List Value)
    (start : SessionState) : List Value :=
  let step := fun (acc : List Value × SessionState) (op : Value) =>
    let (done, st) := acc
    let before := st.world.db.conn.events.length
    let (answer, st') := match perform c m fuel op st with
      | .ok v st' => (resultDump v, st')
      | .error f st' => (f.answer, st')
    let answer := if logged then withLog answer (st'.world.db.conn.events.drop before) else answer
    (done ++ [answer], st')
  (ops.foldl step ([], start)).1

/-- `session`: operations run against one mapper on a scripted connection. -/
def sessionOp (c : Context) (req : Value) : Except Malformed Value := do
  let executor ← asText (getD req "executor" (.str "fake"))
  let styleName ← asText (getD req "paramstyle" (.str "named"))
  let replies ← (← asList (getD req "results" (.list []))).mapM (replyOf c)
  let ops ← asList (getD req "ops" (.list []))
  let now ← clockOf req
  let regs ← registries c req
  let conn ← match executor with
    | "fake" => pure (Connection.scripted ⟨replies, []⟩)
    | "sqlite" => pure (Connection.embedded
        { implicit := !(getD req "autocommit" (.bool false)).truthy
          namedRows := (getD req "row_factory" (.bool false)).truthy })
    | other => throw ("unknown executor " ++ other)
  return outcomeDump do
    let style ← match Sql.ParamStyle.ofName? styleName with
      | some s => pure s
      | none => throw (Sql.unsupportedStyle styleName)
    let dialect ← Dialect.ofValue (getD req "dialect" (.str "ANSI"))
    let r ← regs
    let m : Mapper := ⟨r, dialect, c.scope.voc, c.scope.enums, c.models⟩
    let start : SessionState :=
      { world := { db := { conn := conn, style := style }, supply := { now := now, counters := r.counters } } }
    return .list (runSession c m (executor == "fake") (weight (.list ops) + 1) ops start)

end DataMapper.Request
