import DataMapper.Request.Decode
import DataMapper.Registry

namespace DataMapper.Request

def textD (obj : Value) (k : String) (d : String) : String :=
  match get? obj k with
  | some (.str s) => s
  | _ => d

/-- A check from its description. -/
def check (enums : List EnumDef) (impl : Value) : Except Malformed Check := do
  let kind := textD impl "type" ""
  let function := (getD impl "callable" (.bool false)).truthy
  let when ← match get? impl "when" with
    | some v => do pure (some (← value enums v))
    | none => pure none
  let msg := textD impl "message" ""
  let script ← match kind with
    | "ok" => pure CheckScript.accept
    | "fail" => pure (.reject msg)
    | "fail_for" => pure (.rejectFor (textD impl "field" "") msg)
    | "fail_many" => do
      let ms ← (← asList (getD impl "messages" (.list []))).mapM asText
      pure (.rejectMany ms)
    | "raise" => pure (.fail msg)
    | "builtin" =>
      match BuiltinCheck.ofName? (textD impl "name" "") with
      | some c => pure (.builtin c)
      | none => throw "unknown built-in validator"
    | "noncallable" => pure .accept
    | k => throw ("unknown validator type " ++ k)
  match kind, script with
  | "noncallable", _ => return .unusable
  | "builtin", .builtin c => return (if function then .described (.builtin c) kind when true else .builtin c)
  | _, _ => return .described script kind when function

/-- A converter from its description. -/
def converter (impl : Value) : Except Malformed Converter := do
  let kind := textD impl "type" ""
  let msg := textD impl "message" ""
  match kind with
  | "wrap" => return .described (.wrap (textD impl "name" "")) kind
  | "prefix" => return .described (.addPrefix (textD impl "prefix" "")) kind
  | "upper" => return .described .changeCase kind
  | "raise" => return .described (.fail msg) kind
  | "raise_mapping" => return .described (.failMapping msg) kind
  | "none" => return .described .erase kind
  | "builtin" =>
    match textD impl "name" "" with
    | "Json" => return .json
    | "Enum" => return .enumeration
    | n => throw ("unknown built-in converter " ++ n)
  | "half" => return .half
  | k => throw ("unknown converter type " ++ k)

/-- A source registration from its description. -/
def sourceRegistration (enums : List EnumDef) (name : Value) (impl : Value) :
    Except Malformed Registration := do
  if impl.isNone then return .source name .nothing
  let kind := textD impl "type" ""
  let function := (getD impl "callable" (.bool false)).truthy
  let msg := textD impl "message" ""
  let described := fun (s : SourceScript) => Registration.source name (.described s kind function)
  match kind with
  | "const" => return described (.constant (← value enums (getD impl "value" .none)))
  | "counter" =>
    let start := match get? impl "start" with
      | some (.int n) => n
      | _ => 1
    return .countingSource name start kind function
  | "copy" => return described (.copy (textD impl "field" ""))
  | "field_name" => return described .fieldName
  | "raise" => return described (.failRuntime msg)
  | "raise_value" => return described (.failValue msg)
  | "raise_generation" => return described (.failGeneration msg)
  | "builtin" =>
    match textD impl "name" "" with
    | "timestamp" => return .source name (.timestamp (getD impl "utc" (.bool true)).truthy)
    | "uuid" => return .source name .uuid
    | n => throw ("unknown built-in generator " ++ n)
  | "noncallable" => return .source name .unusable
  | k => throw ("unknown generator type " ++ k)

/-- One registration. Tags must name a known class. -/
def registration (enums : List EnumDef) (voc : Vocabulary) (spec : Value) :
    Except Malformed (Except Failure Registration) := do
  let tagName := fun (_ : Unit) => do
    let t ← asText (getD spec "tag" .none)
    match voc.find? t with
    | some _ => pure t
    | none => throw ("unknown tag " ++ t)
  match textD spec "kind" "" with
  | "validator" => do
    let t ← tagName ()
    return .ok (.check t (← check enums (getD spec "impl" .none)))
  | "converter" => do
    let t ← tagName ()
    let c ← converter (getD spec "impl" .none)
    match get? spec "dialect" with
    | some d =>
      match Dialect.ofValue d with
      | .ok dialect => return .ok (.converter t c (some dialect))
      | .error e => return .error e
    | none => return .ok (.converter t c none)
  | "generator" =>
    return .ok (← sourceRegistration enums (getD spec "name" .none) (getD spec "impl" .none))
  | "unregister_generator" => return .ok (.dropSource (textD spec "name" ""))
  | "sql_generator" =>
    match Sql.Family.ofName? (textD spec "impl" "") with
    | none => throw "unknown SQL generator"
    | some fam =>
      let g : Sql.Generator := ⟨fam, (getD spec "dollar" (.bool false)).truthy⟩
      match Dialect.ofValue (getD spec "dialect" .none) with
      | .ok d => return .ok (.generator d g)
      | .error e => return .error e
  | k => throw ("unknown registration kind " ++ k)

def modules (enums : List EnumDef) (voc : Vocabulary) (spec : Value) :
    Except Malformed (Except Failure (List Module)) := do
  let ms ← asList spec
  let decoded ← ms.mapM fun m => do (← asList m).mapM (registration enums voc)
  return decoded.mapM (·.mapM id)

end DataMapper.Request
