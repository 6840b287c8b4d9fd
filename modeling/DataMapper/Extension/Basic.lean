import DataMapper.Tag.Basic

namespace DataMapper

/-- The built-in checks, each tied to a tag class whose fields configure it. -/
inductive BuiltinCheck
  | notNull | notBlank | min | max | size | pattern | choices | email
  deriving DecidableEq, Inhabited

namespace BuiltinCheck

def label : BuiltinCheck → String
  | .notNull => "NotNullValidator"
  | .notBlank => "NotBlankValidator"
  | .min => "MinValidator"
  | .max => "MaxValidator"
  | .size => "SizeValidator"
  | .pattern => "PatternValidator"
  | .choices => "ChoicesValidator"
  | .email => "EmailValidator"

def tagKind : BuiltinCheck → TagKind
  | .notNull => .notNull
  | .notBlank => .notBlank
  | .min => .min
  | .max => .max
  | .size => .size
  | .pattern => .pattern
  | .choices => .choices
  | .email => .email

/-- The built-in check for a tag class name. -/
def ofName? : String → Option BuiltinCheck
  | "NotNull" => some .notNull
  | "NotBlank" => some .notBlank
  | "Min" => some .min
  | "Max" => some .max
  | "Size" => some .size
  | "Pattern" => some .pattern
  | "Choices" => some .choices
  | "Email" => some .email
  | _ => none

def all : List BuiltinCheck := [.notNull, .notBlank, .min, .max, .size, .pattern, .choices, .email]

end BuiltinCheck

/-- A check described by data. -/
inductive CheckScript
  | accept
  | reject (message : String)
  | rejectFor (field : String) (message : String)
  | rejectMany (messages : List String)
  | fail (message : String)
  | builtin (check : BuiltinCheck)
  deriving Inhabited

/-- A check as registered: built in, described (optionally only for values equal to `when`,
and optionally registered as a function), or an object that is not a check at all. -/
inductive Check
  | builtin (check : BuiltinCheck)
  | described (script : CheckScript) (kind : String) (when : Option Value) (function : Bool)
  | unusable
  deriving Inhabited

namespace Check

def label : Check → String
  | .builtin c => c.label
  | .described (.builtin c) _ _ false => c.label
  | .described _ kind _ false => "custom:" ++ kind
  | .described _ _ _ true => "FunctionValidator"
  | .unusable => "int"

end Check

/-- A converter described by data. -/
inductive ConverterScript
  | wrap (name : String)
  | addPrefix (text : String)
  | changeCase
  | fail (message : String)
  | failMapping (message : String)
  | erase
  deriving Inhabited

/-- A converter as registered: the JSON converter, the enumeration converter, a described one,
or an object with only the writing half. -/
inductive Converter
  | json
  | enumeration
  | described (script : ConverterScript) (kind : String)
  | half
  deriving Inhabited

namespace Converter

def label : Converter → String
  | .json => "JsonConverter"
  | .enumeration => "EnumConverter"
  | .described _ kind => "custom:" ++ kind
  | .half => "custom:half"

end Converter

/-- A value source described by data. `counter` draws from the slot it was given when it was
registered. -/
inductive SourceScript
  | constant (v : Value)
  | counter (slot : Nat)
  | copy (field : String)
  | fieldName
  | failRuntime (message : String)
  | failValue (message : String)
  | failGeneration (message : String)
  deriving Inhabited

/-- A value source as registered: the clock (in universal time or wall time), the identifier
source, a described source (optionally registered as a function), an object that is not a
source, or nothing. -/
inductive Source
  | timestamp (utc : Bool)
  | uuid
  | described (script : SourceScript) (kind : String) (function : Bool)
  | unusable
  | nothing
  deriving Inhabited

namespace Source

def label : Source → String
  | .timestamp _ => "TimestampGenerator"
  | .uuid => "UUIDGenerator"
  | .described _ kind false => "custom:" ++ kind
  | .described _ _ true => "FunctionGenerator"
  | .unusable => "int"
  | .nothing => "NoneType"

end Source

end DataMapper
