import DataMapper.Json.Read
import DataMapper.Enum
import DataMapper.Model.Basic
import DataMapper.Value.Uuid
import DataMapper.Value.Cast
import DataMapper.Time.Iso

namespace DataMapper.Request

abbrev Malformed := String

def get? (obj : Value) (key : String) : Option Value :=
  match obj with
  | .dict kvs => (kvs.find? (fun (k, _) => match k with | .str s => s == key | _ => false)).map (·.2)
  | _ => none

def getD (obj : Value) (key : String) (d : Value) : Value := (get? obj key).getD d

def entries (obj : Value) : List (String × Value) :=
  match obj with
  | .dict kvs => kvs.filterMap fun (k, v) => match k with | .str s => some (s, v) | _ => none
  | _ => []

def asList : Value → Except Malformed (List Value)
  | .list xs => .ok xs
  | .tuple xs => .ok xs
  | v => .error ("expected a list, got " ++ v.repr)

def asText : Value → Except Malformed String
  | .str s => .ok s
  | v => .error ("expected a string, got " ++ v.repr)

def asBool : Value → Bool := Value.truthy

mutual

def weight : Value → Nat
  | .list xs => weightAll xs + 1
  | .tuple xs => weightAll xs + 1
  | .dict kvs => weightPairs kvs + 1
  | .member _ _ _ _ v => weight v + 1
  | _ => 1

def weightAll : List Value → Nat
  | [] => 0
  | x :: xs => weight x + weightAll xs

def weightPairs : List (Value × Value) → Nat
  | [] => 0
  | (k, v) :: kvs => weight k + weight v + weightPairs kvs

end

def hexBytes : List Char → Option (List UInt8)
  | [] => some []
  | ' ' :: rest => hexBytes rest
  | a :: b :: rest =>
    match Json.hex4 ['0', '0', a, b] with
    | some (n, _) => (hexBytes rest).map (fun bs => n.toUInt8 :: bs)
    | none => none
  | [_] => none

/-- The member an `Enum.MEMBER` text names. -/
def enumMember (enums : List EnumDef) (s : String) : Except Malformed Value :=
  let name := s.toList.takeWhile (· != '.')
  let member := (s.toList.dropWhile (· != '.')).drop 1
  let d? := if String.ofList name == "EnumType" then some EnumDef.columnModes
    else enums.find? (·.name == String.ofList name)
  match d? with
  | some d =>
    match d.byName? (String.ofList member) with
    | some v => .ok v
    | none => .error ("unknown enum member " ++ s)
  | none => .error ("unknown enum " ++ s)

/-- A value from its JSON form. -/
def decodeValue (enums : List EnumDef) : Nat → Value → Except Malformed Value
  | 0, _ => .error "value nested too deeply"
  | fuel+1, v =>
    match v with
    | .dict [(.str k, inner)] =>
      match k, inner with
      | "$float", .str s =>
        match Binary64.ofText? s with
        | some x => .ok (.float x)
        | none => .error ("bad float " ++ s)
      | "$decimal", .str s =>
        match Decimal.ofText? s with
        | some d => .ok (.decimal d)
        | none => .error ("bad decimal " ++ s)
      | "$datetime", .str s =>
        match DateTime.ofIso s with
        | .ok t => .ok (.datetime t)
        | .error e => .error (e.message s)
      | "$date", .str s =>
        match Date.ofIso s with
        | .ok t => .ok (.date t)
        | .error e => .error (e.message s)
      | "$time", .str s =>
        match TimeOfDay.ofIso s with
        | .ok t => .ok (.time t)
        | .error e => .error (e.message s)
      | "$uuid", .str s =>
        match uuidOfText s with
        | .ok n => .ok (.uuid n)
        | .error e => .error e.message
      | "$bytes", .str s =>
        match hexBytes s.toList with
        | some bs => .ok (.bytes bs)
        | none => .error ("bad bytes " ++ s)
      | "$tuple", .list xs => do .ok (.tuple (← xs.mapM (decodeValue enums fuel)))
      | "$enum", .str s => enumMember enums s
      | _, _ => do .ok (.dict [(.str k, ← decodeValue enums fuel inner)])
    | .dict kvs => do .ok (.dict (← kvs.mapM fun (k, x) => do .ok (k, ← decodeValue enums fuel x)))
    | .list xs => do .ok (.list (← xs.mapM (decodeValue enums fuel)))
    | v => .ok v

def value (enums : List EnumDef) (v : Value) : Except Malformed Value :=
  decodeValue enums (weight v + 1) v

/-- The value a member of an enumeration with a base holds: the text or the integer its
declared value makes, which may fail as those constructors do. -/
def memberValue (base : EnumBase) (v : Value) : Except Failure Value :=
  match base with
  | .text => .ok (.str v.plain)
  | .integer => do pure (.int (← v.toInt))
  | .plain => .ok v

/-- The enumerations of a request: `{Name: {"base": "plain"|"str"|"int", "members": [...]}}`.
Members of a text enumeration get text values, of an integer enumeration integer values;
the first member whose value cannot be made fails the whole request. -/
def enums (spec : Value) : Except Malformed (Except Failure (List EnumDef)) := do
  let defs ← (entries spec).mapM fun (name, body) => do
    let base := match getD body "base" (.str "plain") with
      | .str "str" => EnumBase.text
      | .str "int" => EnumBase.integer
      | _ => EnumBase.plain
    let raw ← asList (getD body "members" (.list []))
    let members ← raw.mapM fun m => do
      match m with
      | .list [.str n, v] => do pure (n, ← value [] v)
      | _ => .error "bad enum member"
    pure (name, base, members)
  pure (defs.mapM fun (name, base, members) => do
    let made ← members.mapM fun (n, v) => do pure (n, ← memberValue base v)
    pure (EnumDef.define name base made))

/-- The fields of a tag of a built-in class, from keyword values; missing ones take the
class's defaults. -/
def tagBody (k : TagKind) (arg : String → Option Value) : Except Malformed TagBody :=
  let opt := fun (key : String) (d : Value) => (arg key).getD d
  let need := fun (key : String) => match arg key with
    | some v => Except.ok v
    | none => .error ("missing tag argument " ++ key)
  match k with
  | .column => do .ok (.column (← need "name"))
  | .id => .ok (.id (opt "generated" (.bool false)))
  | .transient => .ok .transient
  | .defaultValue => .ok (.defaultValue (opt "value" .none) (opt "generator" .none))
  | .generated => do .ok (.generated (← need "generator") (opt "on_insert" (.bool true)) (opt "on_update" (.bool false)))
  | .createdAt => .ok .createdAt
  | .updatedAt => .ok .updatedAt
  | .notNull => .ok .notNull
  | .notBlank => .ok .notBlank
  | .min => do .ok (.min (← need "value"))
  | .max => do .ok (.max (← need "value"))
  | .size => .ok (.size (opt "min" .none) (opt "max" .none))
  | .pattern => do .ok (.pattern (← need "regex"))
  | .choices => do
    let vs ← need "values"
    .ok (.choices (match vs with | .list xs => .tuple xs | w => w))
  | .email => .ok .email
  | .json => .ok .json
  | .enumColumn =>
    let mode := match opt "type" EnumMode.string with
      | .str s => (EnumDef.columnModes.byValue? (.str s)).getD (.str s)
      | w => w
    .ok (.enumColumn mode)
  | .custom => .ok (.custom (opt "arg" .none))

/-- An item written where tags go: a tag `{"tag": Name, ...}`, or `{"tag": "$raw", "value": v}`
for any other value. -/
def item (enums : List EnumDef) (voc : Vocabulary) (spec : Value) : Except Malformed Item := do
  let name ← asText (getD spec "tag" .none)
  if name == "$raw" then return .other (← value enums (getD spec "value" .none))
  match voc.find? name with
  | none => throw ("unknown tag " ++ name)
  | some cls =>
    let kwargs ← (entries spec).filterMapM fun (k, v) =>
      if k == "tag" then pure none else do pure (some (k, ← value enums v))
    return .tag ⟨name, ← tagBody cls.kind (fun k => List.lookup k kwargs)⟩

def items (enums : List EnumDef) (voc : Vocabulary) (spec : Value) : Except Malformed (List Item) := do
  (← asList spec).mapM (item enums voc)

/-- The declared tag classes: `{Name: {"tags": [...], "repeatable": bool, "base": Builtin}}`.
A class with a base has the base's fields, repeatability and carried tags unless it says
otherwise; carried tags may name any declared class. -/
def vocabulary (enums : List EnumDef) (spec : Value) : Except Malformed Vocabulary := do
  let heads ← (entries spec).mapM fun (name, body) => do
    let base ← match get? body "base" with
      | some (.str b) => match TagKind.ofName? b with
        | some k => pure (some k)
        | none => throw ("unknown base tag " ++ b)
      | _ => pure none
    let inherited := base.map TagClass.builtin
    let kind := (base.getD .custom)
    let repeatable := match get? body "repeatable" with
      | some v => v.truthy
      | none => (inherited.map (·.repeatable)).getD false
    pure (TagClass.mk name kind repeatable ((inherited.map (·.carried)).getD []), get? body "tags")
  let voc : Vocabulary := ⟨heads.map (·.1)⟩
  let classes ← heads.mapM fun (c, tags) => do
    match tags with
    | some ts => pure { c with carried := ← items enums voc ts }
    | none => pure c
  return ⟨classes⟩

/-- What a request declares: enumerations and tag classes. -/
structure Scope where
  enums : List EnumDef := []
  voc : Vocabulary := {}

/-- A declared type. -/
def typeExpr (s : Scope) : Nat → Value → Except Malformed TypeExpr
  | 0, _ => .error "type nested too deeply"
  | fuel+1, spec =>
    match spec with
    | .str "Any" => .ok .any
    | .str n =>
      match ValueClass.builtin? n with
      | some c => .ok (.cls c)
      | none =>
        if s.enums.any (·.name == n) then .ok (.cls (.enum n)) else .error ("unknown type " ++ n)
    | obj =>
      match get? obj "optional", get? obj "list", get? obj "dict", get? obj "union",
          get? obj "annotated", get? obj "forward" with
      | some t, _, _, _, _, _ => do .ok (TypeExpr.optional (← typeExpr s fuel t))
      | _, some t, _, _, _, _ => do .ok (.generic .list [← typeExpr s fuel t])
      | _, _, some (.list [k, v]), _, _, _ => do
        .ok (.generic .dict [← typeExpr s fuel k, ← typeExpr s fuel v])
      | _, _, _, some (.list ts), _, _ => do .ok (TypeExpr.unionOf (← ts.mapM (typeExpr s fuel)))
      | _, _, _, _, some t, _ => do
        let extras ← items s.enums s.voc (getD obj "tags" (.list []))
        .ok (TypeExpr.annotate (← typeExpr s fuel t) extras)
      | _, _, _, _, _, some (.str text) => .ok (.forward text)
      | _, _, _, _, _, _ => .error ("bad type " ++ spec.repr)

def type (s : Scope) (spec : Value) : Except Malformed TypeExpr := typeExpr s (weight spec + 1) spec

def fieldMeta (s : Scope) (tags tag extra : Option Value) : Except Malformed FieldMeta := do
  let source ← match tags, tag with
    | some ts, _ => do pure (some (TagSource.many (← items s.enums s.voc ts)))
    | none, some t => do pure (some (TagSource.single (← item s.enums s.voc t)))
    | none, none => pure none
  let pairs ← match extra with
    | some m => (entries m).mapM fun (k, v) => do pure (k, ← value s.enums v)
    | none => pure []
  return { tags := source, entries := pairs }

/-- A field of a model. A list or dictionary default is copied afresh for each instance. -/
def fieldSpec (s : Scope) (spec : Value) : Except Malformed FieldSpec := do
  let name ← asText (getD spec "name" .none)
  let ty ← type s (getD spec "type" (.str "Any"))
  let default ← match get? spec "default" with
    | some d => do
      let v ← value s.enums d
      pure (match v with
        | .list _ | .dict _ => FieldDefault.fresh v
        | _ => .value v)
    | none => pure .required
  let metadata ← fieldMeta s (get? spec "tags") (get? spec "tag") (get? spec "meta")
  return { name, type := ty, default, init := (getD spec "init" (.bool true)).truthy, metadata }

def model (s : Scope) (spec : Value) : Except Malformed Model := do
  let name ← asText (getD spec "name" .none)
  let attr := fun (key : String) => match get? spec key with
    | some v => (value s.enums v).toOption
    | none => none
  let fields ← (← asList (getD spec "fields" (.list []))).mapM (fieldSpec s)
  return { name, table := attr "table", schema := attr "schema", queryOnly := attr "query_only",
           frozen := (getD spec "frozen" (.bool false)).truthy,
           isRecord := !(getD spec "not_dataclass" (.bool false)).truthy, fields }

end DataMapper.Request
