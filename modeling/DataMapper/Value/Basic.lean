import DataMapper.Number.Binary64
import DataMapper.Number.Decimal
import DataMapper.Time.Calendar

namespace DataMapper

/-- What the members of an enumeration are besides members: nothing more, texts, or integers. -/
inductive EnumBase
  | plain
  | text
  | integer
  deriving DecidableEq

/-- A dynamically typed value. -/
inductive Value
  | none
  | bool (b : Bool)
  | int (n : Int)
  | float (x : Binary64)
  | decimal (d : Decimal)
  | str (s : String)
  | bytes (b : List UInt8)
  | date (d : Date)
  | time (t : TimeOfDay)
  | datetime (t : DateTime)
  | uuid (n : Nat)
  | list (xs : List Value)
  | tuple (xs : List Value)
  | dict (kvs : List (Value × Value))
  | member (enum : String) (base : EnumBase) (name : String) (index : Nat) (value : Value)
  deriving Inhabited

namespace Value

/-- The name of a value's class. -/
def typeName : Value → String
  | .none => "NoneType"
  | .bool _ => "bool"
  | .int _ => "int"
  | .float _ => "float"
  | .decimal _ => "Decimal"
  | .str _ => "str"
  | .bytes _ => "bytes"
  | .date _ => "date"
  | .time _ => "time"
  | .datetime _ => "datetime"
  | .uuid _ => "UUID"
  | .list _ => "list"
  | .tuple _ => "tuple"
  | .dict _ => "dict"
  | .member e _ _ _ _ => e

def qualifiedTypeName : Value → String
  | .decimal _ => "decimal.Decimal"
  | .date _ => "datetime.date"
  | .time _ => "datetime.time"
  | .datetime _ => "datetime.datetime"
  | v => v.typeName

/-- Truth of a value: zero, empty and none are false; a member is true unless it is based on
a false text or integer. -/
def truthy : Value → Bool
  | .none => false
  | .bool b => b
  | .int n => n != 0
  | .float x => match x.shape with | .finite _ m _ => m != 0 | _ => true
  | .decimal d => !d.isZero
  | .str s => !s.isEmpty
  | .bytes b => !b.isEmpty
  | .list xs => !xs.isEmpty
  | .tuple xs => !xs.isEmpty
  | .dict kvs => !kvs.isEmpty
  | .member _ base _ _ v => match base with | .plain => true | _ => truthy v
  | _ => true

def asText? : Value → Option String
  | .str s => some s
  | .member _ .text _ _ (.str s) => some s
  | _ => Option.none

def asInt? : Value → Option Int
  | .int n => some n
  | .bool b => some (if b then 1 else 0)
  | .member _ .integer _ _ v => asInt? v
  | _ => Option.none

def isNone : Value → Bool
  | .none => true
  | _ => false

end Value

end DataMapper
