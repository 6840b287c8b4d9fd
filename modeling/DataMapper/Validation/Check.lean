import DataMapper.Regex.Match
import DataMapper.Extension.Basic
import DataMapper.Metadata.Basic

namespace DataMapper

namespace Validation

def reject (f : MappedField) (message : String) : Failure :=
  .validation [⟨some f.name, f.name ++ " " ++ message⟩]

def configTag (f : MappedField) (k : TagKind) (attr : String) : Except Failure TagBody :=
  match f.tag? k with
  | some t => .ok t.body
  | none => .error (.attribute ("'NoneType' object has no attribute '" ++ attr ++ "'"))

def length : Value → Except Failure Nat
  | .str s => .ok s.length
  | .bytes b => .ok b.length
  | .list xs => .ok xs.length
  | .tuple xs => .ok xs.length
  | .dict kvs => .ok kvs.length
  | .member _ .text _ _ (.str s) => .ok s.length
  | v => .error (.type ("object of type '" ++ v.qualifiedTypeName ++ "' has no len()"))

def members : Value → Except Failure (List Value)
  | .list xs => .ok xs
  | .tuple xs => .ok xs
  | .dict kvs => .ok (kvs.map (·.1))
  | .str s => .ok (s.toList.map fun c => .str (String.singleton c))
  | .bytes b => .ok (b.map fun n => .int n.toNat)
  | v => .error (.type ("'" ++ v.qualifiedTypeName ++ "' object is not iterable"))

/-- Whether a list holds a value equal to `v`, comparing item by item from the first; a
comparison that signals stops the search with an invalid operation. -/
def containsChecked (v : Value) : List Value → Except Failure Bool
  | [] => .ok false
  | x :: xs =>
    if Value.signals x v then .error .invalidOperation
    else if Value.pyEq x v then .ok true
    else containsChecked v xs

/-- The integer a value stands for as an index: integers, booleans and members based on
integers. -/
def indexValue? : Value → Option Int
  | .int n => some n
  | .bool b => some (if b then 1 else 0)
  | .member _ .integer _ _ (.int n) => some n
  | _ => none

def bytesOccur (sub whole : List UInt8) : Bool :=
  (List.range (whole.length + 1)).any fun i => (whole.drop i).take sub.length == sub

/-- Whether `v` is in a collection of allowed values: an item of a list or tuple, a key of a
dictionary (which must be able to hash it), a part of a text, or a byte (or a part) of a byte
string. -/
def allows (allowed v : Value) : Except Failure Bool :=
  match allowed with
  | .list xs | .tuple xs => containsChecked v xs
  | .dict kvs =>
    match v.hashFailure? with
    | some f => .error f
    | none => .ok (v.containedIn (kvs.map (·.1)))
  | .str s =>
    match v.asText? with
    | some t => .ok ((s.splitOn t).length > 1 || t.isEmpty)
    | none => .error (.type ("'in <string>' requires string as left operand, not " ++
        v.qualifiedTypeName))
  | .bytes bs =>
    match v with
    | .bytes sub => .ok (bytesOccur sub bs)
    | _ =>
      match indexValue? v with
      | some n =>
        if n < 0 || n ≥ 256 then .error (.value "byte must be in range(0, 256)")
        else .ok (bs.any (·.toNat == n.toNat))
      | none => .error (.type ("a bytes-like object is required, not '" ++ v.qualifiedTypeName ++ "'"))
  | other => .error (.type ("argument of type '" ++ other.qualifiedTypeName ++ "' is not iterable"))

def emailPattern : String := "[^@\\s]+@[^@\\s]+\\.[^@\\s]+"

/-- Runs a built-in check on a field's value. -/
def builtin (c : BuiltinCheck) (f : MappedField) (v : Value) : Except Failure Unit := do
  match c with
  | .notNull => if v.isNone then throw (reject f "cannot be null")
  | .notBlank =>
    let blank := match v with
      | .none => true
      | _ => match v.asText? with
        | some s => Text.isAllBlank s
        | none => false
    if blank then throw (reject f "cannot be blank")
  | .min =>
    if v.isNone then return
    match ← configTag f .min "value" with
    | .min bound => if ← v.relate .lt bound then throw (reject f ("must be at least " ++ bound.plain))
    | _ => pure ()
  | .max =>
    if v.isNone then return
    match ← configTag f .max "value" with
    | .max bound => if ← v.relate .gt bound then throw (reject f ("must be at most " ++ bound.plain))
    | _ => pure ()
  | .size =>
    if v.isNone then return
    match ← configTag f .size "min" with
    | .size least most =>
      let n := Value.int (← length v)
      if !least.isNone then
        if ← n.relate .lt least then throw (reject f ("length must be at least " ++ least.plain))
      if !most.isNone then
        if ← n.relate .gt most then throw (reject f ("length must be at most " ++ most.plain))
    | _ => pure ()
  | .pattern =>
    if v.isNone then return
    match ← configTag f .pattern "regex" with
    | .pattern regex =>
      match regex.asText? with
      | some p =>
        if !(← Regex.fullMatch p v.plain) then
          throw (reject f ("must match pattern " ++ regex.repr))
      | none => throw (.type "first argument must be string or compiled pattern")
    | _ => pure ()
  | .choices =>
    if v.isNone then return
    match ← configTag f .choices "values" with
    | .choices allowed =>
      if !(← allows allowed v) then
        throw (reject f ("must be one of " ++ (Value.list (← members allowed)).repr))
    | _ => pure ()
  | .email =>
    if v.isNone then return
    let ok ← match v.asText? with
      | some s => Regex.fullMatch emailPattern s
      | none => pure false
    if !ok then throw (reject f "must be a valid email address")

def script (s : CheckScript) (f : MappedField) (v : Value) : Except Failure Unit :=
  match s with
  | .accept => .ok ()
  | .reject m => .error (.validation [⟨none, m⟩])
  | .rejectFor field m => .error (.validation [⟨some field, m⟩])
  | .rejectMany ms => .error (.validation (ms.map fun m => ⟨none, m⟩))
  | .fail m => .error (.runtime m)
  | .builtin c => builtin c f v

end Validation

/-- Runs a registered check on a field's value. A described check with a `when` value looks
only at values equal to it. -/
def Check.run (c : Check) (f : MappedField) (v : Value) : Except Failure Unit :=
  match c with
  | .builtin b => Validation.builtin b f v
  | .described s _ when _ =>
    match when with
    | some w => if v.pyEq w then Validation.script s f v else .ok ()
    | none => Validation.script s f v
  | .unusable => .ok ()

end DataMapper
