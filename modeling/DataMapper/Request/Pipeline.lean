import DataMapper.Request.Describe
import DataMapper.Generation.Literal
import DataMapper.Validation.Entity
import DataMapper.Mapping.Row
import DataMapper.Generation.Apply

namespace DataMapper.Request

def parseLiteralOp (c : Context) (req : Value) : Except Malformed Value := do
  let raw ← value c.scope.enums (getD req "raw" .none)
  let target ← type c.scope (getD req "type" (.str "Any"))
  return outcomeDump ((parseLiteral c.scope.enums raw target).map encodeValue)

def givenValues (c : Context) (v : Value) : Except Malformed (List (String × Value)) :=
  (entries v).mapM fun (k, x) => do pure (k, ← value c.scope.enums x)

def checkLabels (r : Registries) (d : MappedModel) : Value :=
  .dict (d.fields.map fun f => (key f.name, .list ((r.checksFor f).map (.str ·.label))))

def validateOp (c : Context) (req : Value) : Except Malformed Value := do
  let m ← c.model (← asText (getD req "model" .none))
  let given ← givenValues c (getD req "values" (.dict []))
  let regs ← registries c req
  return outcomeDump do
    let r ← regs
    let d ← MappedModel.describe c.scope.voc m
    validateEntity r d (m.instantiate given)
    return .dict [(key "validators", checkLabels r d), (key "ok", .bool true)]

def putColumn (row : List (Value × Value)) (k v : Value) : List (Value × Value) :=
  if row.any (·.1.pyEq k) then row.map (fun (k', v') => if k'.pyEq k then (k', v) else (k', v'))
  else row ++ [(k, v)]

def row (c : Context) (spec : Value) : Except Malformed (List (Value × Value)) := do
  match spec with
  | .dict _ => (entries spec).mapM fun (k, v) => do pure (Value.str k, ← value c.scope.enums v)
  | _ =>
    (← asList spec).foldlM (fun acc p => do
      match ← asList p with
      | [k, v] => pure (putColumn acc (← value c.scope.enums k) (← value c.scope.enums v))
      | _ => throw "a row pair needs a column and a value") []

/-- `map_rows`: the entity each row gives, or its failure. -/
def mapRowsOp (c : Context) (req : Value) : Except Malformed Value := do
  let m ← c.model (← asText (getD req "model" .none))
  let rows ← (← asList (getD req "rows" (.list []))).mapM (row c)
  let regs ← registries c req
  return outcomeDump do
    let r ← regs
    let dl ← dialectOf req
    let d ← MappedModel.describe c.scope.voc m
    return .list (rows.map fun rw =>
      match mapRow c.scope.enums r dl d rw >>= entityDump m with
      | .ok v => v
      | .error f => failureDump f)

/-- `bind`: the statement parameters of an instance built from the given values. -/
def bindOp (c : Context) (req : Value) : Except Malformed Value := do
  let m ← c.model (← asText (getD req "model" .none))
  let given ← givenValues c (getD req "values" (.dict []))
  let regs ← registries c req
  match (do let r ← regs; let d ← MappedModel.describe c.scope.voc m; let dl ← dialectOf req; pure (r, d, dl)) with
  | .error f => return failureDump f
  | .ok (r, d, dl) =>
    let fields ← namedFields d req "fields" d.fields
    return outcomeDump do
      let params ← bindFields c.scope.enums r dl (m.instantiate given) fields
      return .dict (params.map fun (k, v) => (key k, encodeValue v))

def clockOf (req : Value) : Except Malformed DateTime :=
  match get? req "now" with
  | some (.str s) =>
    match DateTime.ofIso s with
    | .ok t => .ok t
    | .error _ => .error ("bad clock reading " ++ s)
  | _ => .ok Supply.defaultNow

def entityEntry (m : Model) (e : Entity) : Value :=
  match entityDump m e with
  | .ok v => v
  | .error f => failureDump f

/-- `generate`: the entity after each operation's filling, or that operation's failure. -/
def generateOp (c : Context) (req : Value) : Except Malformed Value := do
  let m ← c.model (← asText (getD req "model" .none))
  let given ← givenValues c (getD req "values" (.dict []))
  let ops ← (← asList (getD req "operations" (.list []))).mapM asText
  let now ← clockOf req
  let regs ← registries c req
  return outcomeDump do
    let r ← regs
    let d ← MappedModel.describe c.scope.voc m
    let start : Work := ⟨m.instantiate given, { now := now, counters := r.counters }⟩
    let step := fun (acc : Work × List Value) (op : String) =>
      match (applyGenerated c.scope.enums r d (op == "insert")).run acc.1 with
      | .ok _ w => (w, acc.2 ++ [entityEntry m w.entity])
      | .error e w => (w, acc.2 ++ [failureDump e])
    return .list (ops.foldl step (start, [])).2

end DataMapper.Request
