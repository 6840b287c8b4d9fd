import DataMapper.Value.Text

namespace DataMapper

/-- One validation failure: the field it concerns (if any) and what is wrong. -/
structure FieldError where
  field : Option String
  message : String
  deriving DecidableEq

def FieldError.text (e : FieldError) : String :=
  match e.field with
  | some f => if f.isEmpty then e.message else f ++ ": " ++ e.message
  | none => e.message

/-- Why an operation failed. -/
inductive Failure
  | metadata (message : String)
  | invalidEntity (message : String)
  | sqlGeneration (message : String)
  | generation (message : String)
  | mapping (message : String) (field : Option String)
  | validation (errors : List FieldError)
  | batch (items : List (Nat × List FieldError))
  | value (message : String)
  | type (message : String)
  | key (message : String)
  | attribute (message : String)
  | runtime (message : String)
  | frozen (message : String)
  | invalidOperation
  | overflow (message : String)
  | raised (kind : String) (message : String)
  deriving Inhabited

namespace Failure

def batchErrors (items : List (Nat × List FieldError)) : List FieldError :=
  items.flatMap (·.2)

/-- The text of a failure. -/
def message : Failure → String
  | .metadata m | .invalidEntity m | .sqlGeneration m | .generation m | .mapping m _ => m
  | .validation es => "Validation failed: " ++ "; ".intercalate (es.map FieldError.text)
  | .batch items =>
    "Validation failed for " ++ toString items.length ++ " item(s) at index [" ++
      ", ".intercalate (items.map (toString ·.1)) ++ "]: " ++
      "; ".intercalate ((batchErrors items).map FieldError.text)
  | .value m | .type m | .key m | .attribute m | .runtime m | .frozen m | .overflow m => m
  | .invalidOperation => "[<class 'decimal.InvalidOperation'>]"
  | .raised _ m => m

/-- Failures that are bad values: the mapper's entity, statement and validation failures
among them. -/
def isValueError : Failure → Bool
  | .invalidEntity _ | .sqlGeneration _ | .validation _ | .batch _ | .value _ => true
  | _ => false

def isTypeError : Failure → Bool
  | .metadata _ | .mapping _ _ | .type _ => true
  | _ => false

def isArithmetic : Failure → Bool
  | .invalidOperation | .overflow _ => true
  | _ => false

def isKeyError : Failure → Bool
  | .key _ => true
  | _ => false

def unsupported (op : String) (a b : Value) : Failure :=
  .type ("'" ++ op ++ "' not supported between instances of '" ++ a.qualifiedTypeName ++
    "' and '" ++ b.qualifiedTypeName ++ "'")

end Failure

end DataMapper
