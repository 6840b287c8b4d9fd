import DataMapper.Extension.Basic
import DataMapper.Metadata.Basic
import DataMapper.Model.Basic
import DataMapper.Value.Compare

namespace DataMapper

/-- What value sources draw on. -/
structure Supply where
  now : DateTime
  issued : Nat := 0
  counters : List Int := []

def Supply.defaultNow : DateTime :=
  ⟨⟨2024, 5, 6⟩, ⟨7, 8, 9, 123456, some ⟨0⟩⟩⟩

namespace Generation

def clearBits (n mask : Nat) : Nat := n ^^^ (n &&& mask)

def uuid4 (n : Nat) : Nat :=
  let n := n % Nat.pow 2 128
  let n := clearBits n (0xc000 <<< 48) ||| (0x8000 <<< 48)
  clearBits n (0xf000 <<< 64) ||| (4 <<< 76)

def typeRepr : TypeExpr → String
  | .cls c => c.repr
  | t => t.typingText

def epochSeconds (now : DateTime) : Binary64 :=
  let us := now.epochMicros
  Binary64.ofRatio (us < 0) us.natAbs 1000000

/-- The clock's value for a field of a declared type. -/
def clock (utc : Bool) (now : DateTime) (declared : TypeExpr) : Except Failure Value :=
  let wall : DateTime := if utc then now else { now with time := { now.time with offset := none } }
  match declared with
  | .cls .datetime => .ok (.datetime wall)
  | .cls .date => .ok (.date wall.date)
  | .cls .time => .ok (.time { wall.time with offset := none })
  | .cls .int =>
    match (Binary64.mul (epochSeconds now) (Binary64.ofInt 1000)).truncate? with
    | some n => .ok (.int n)
    | none => .error (.overflow "cannot convert float infinity to integer")
  | .cls .float => .ok (.float (epochSeconds now))
  | .cls .str => .ok (.str wall.isoText)
  | t => .error (.type ("TimestampGenerator does not support field type " ++ typeRepr t ++ "."))

end Generation

open Generation

/-- A source's value for a field of an entity, and the supply after it. -/
def Source.generate (s : Source) (e : Entity) (f : MappedField) (sup : Supply) :
    Except Failure (Value × Supply) :=
  match s with
  | .timestamp utc => (clock utc sup.now f.valueType).map (·, sup)
  | .uuid =>
    let n := uuid4 (sup.issued + 1)
    let v := match f.valueType with
      | .cls .str => Value.str (uuidText n)
      | _ => .uuid n
    .ok (v, { sup with issued := sup.issued + 1 })
  | .described script _ _ =>
    match script with
    | .constant v => .ok (v, sup)
    | .counter slot =>
      let n := sup.counters.getD slot 0
      .ok (.int n, { sup with counters := sup.counters.set slot (n + 1) })
    | .copy field =>
      match e.attrs.lookup field with
      | some v => .ok (v, sup)
      | none => .error (.runtime ("no field " ++ field))
    | .fieldName => .ok (.str (f.name ++ ":" ++ f.column), sup)
    | .failRuntime m => .error (.runtime m)
    | .failValue m => .error (.value m)
    | .failGeneration m => .error (.generation m)
  | .unusable => .error (.type "'int' object is not callable")
  | .nothing => .error (.type "'NoneType' object is not callable")

end DataMapper
