import DataMapper.Request.Decode
import DataMapper.Json.Write
import DataMapper.Metadata.Basic

namespace DataMapper.Request

def key (s : String) : Value := .str s

def hexByte (b : UInt8) : String :=
  let d := fun (n : Nat) => if n < 10 then Char.ofNat (48+n) else Char.ofNat (87+n)
  String.ofList [d (b.toNat / 16), d (b.toNat % 16)]

/-- A value in its JSON form. -/
def encodeValue : Value → Value
  | .float x => .dict [(key "$float", .str x.toText)]
  | .decimal d => .dict [(key "$decimal", .str d.toText)]
  | .datetime t => .dict [(key "$datetime", .str t.isoText)]
  | .date d => .dict [(key "$date", .str d.isoText)]
  | .time t => .dict [(key "$time", .str t.isoText)]
  | .uuid n => .dict [(key "$uuid", .str (uuidText n))]
  | .bytes bs => .dict [(key "$bytes", .str (String.join (bs.map hexByte)))]
  | .tuple xs => .dict [(key "$tuple", .list (xs.attach.map fun ⟨x, _⟩ => encodeValue x))]
  | .member e _ n _ _ => .dict [(key "$enum", .str (e ++ "." ++ n))]
  | .list xs => .list (xs.attach.map fun ⟨x, _⟩ => encodeValue x)
  | .dict kvs => .dict (kvs.attach.map fun ⟨(k, v), _⟩ => (k, encodeValue v))
  | v => v
decreasing_by
  all_goals simp_wf
  all_goals
    first
    | (have h := List.sizeOf_lt_of_mem ‹_›; omega)
    | (rename_i h; have := List.sizeOf_lt_of_mem h; simp at this; omega)

def tagDump (t : Tag) : Value :=
  .dict ((key "tag", .str t.cls) :: t.body.fields.map (fun (k, v) => (key k, encodeValue v)))

def itemDump : Item → Value
  | .tag t => tagDump t
  | .other v => encodeValue v

def entityDump (m : Model) (e : Entity) : Except Failure Value := do
  let fields ← m.fields.mapM fun f => do
    let v ← e.get f.name
    pure (key f.name, encodeValue v)
  return .dict ((key "$entity", .str e.model) :: fields)

/-- The name of a failure's kind. -/
def kindName : Failure → String
  | .metadata _ => "MetadataError"
  | .invalidEntity _ => "InvalidEntityError"
  | .sqlGeneration _ => "SQLGenerationError"
  | .generation _ => "GenerationError"
  | .mapping _ _ => "MappingError"
  | .validation _ => "ValidationError"
  | .batch _ => "BatchValidationError"
  | .value _ => "ValueError"
  | .type _ => "TypeError"
  | .key _ => "KeyError"
  | .attribute _ => "AttributeError"
  | .runtime _ => "RuntimeError"
  | .frozen _ => "FrozenInstanceError"
  | .invalidOperation => "InvalidOperation"
  | .overflow _ => "OverflowError"
  | .raised k _ => k

def fieldErrorDump (e : FieldError) : Value :=
  .list [match e.field with | some f => .str f | none => .none, .str e.message]

/-- A failure as an answer. -/
def failureDump (f : Failure) : Value :=
  let base := [(key "error", Value.str (kindName f)), (key "message", .str f.message)]
  match f with
  | .validation es => .dict (base ++ [(key "errors", .list (es.map fieldErrorDump))])
  | .batch items =>
    .dict (base ++ [(key "errors", .list ((Failure.batchErrors items).map fieldErrorDump)),
      (key "items", .list (items.map fun (i, es) => .list [.int i, .list (es.map fieldErrorDump)]))])
  | .mapping _ field =>
    .dict (base ++ [(key "field_name", match field with | some s => .str s | none => .none)])
  | _ => .dict base

def malformedDump (m : Malformed) : Value :=
  .dict [(key "error", .str "DriverError"), (key "message", .str m)]

def resultDump (v : Value) : Value := .dict [(key "result", v)]

def outcomeDump : Except Failure Value → Value
  | .ok v => resultDump v
  | .error f => failureDump f

end DataMapper.Request
