import DataMapper.Value.Compare

namespace DataMapper

/-- The shape of a tag: which built-in class it is or extends, with that class's fields. -/
inductive TagBody
  | column (name : Value)
  | id (generated : Value)
  | transient
  | defaultValue (value generator : Value)
  | generated (generator onInsert onUpdate : Value)
  | createdAt
  | updatedAt
  | notNull
  | notBlank
  | min (bound : Value)
  | max (bound : Value)
  | size (least most : Value)
  | pattern (regex : Value)
  | choices (values : Value)
  | email
  | json
  | enumColumn (mode : Value)
  | custom (arg : Value)
  deriving Inhabited

/-- The built-in tag classes, by name. -/
inductive TagKind
  | column | id | transient | defaultValue | generated | createdAt | updatedAt
  | notNull | notBlank | min | max | size | pattern | choices | email | json | enumColumn
  | custom
  deriving DecidableEq, Inhabited

namespace TagBody

def kind : TagBody → TagKind
  | .column _ => .column
  | .id _ => .id
  | .transient => .transient
  | .defaultValue .. => .defaultValue
  | .generated .. => .generated
  | .createdAt => .createdAt
  | .updatedAt => .updatedAt
  | .notNull => .notNull
  | .notBlank => .notBlank
  | .min _ => .min
  | .max _ => .max
  | .size .. => .size
  | .pattern _ => .pattern
  | .choices _ => .choices
  | .email => .email
  | .json => .json
  | .enumColumn _ => .enumColumn
  | .custom _ => .custom

/-- The record fields of a tag, in declaration order. -/
def fields : TagBody → List (String × Value)
  | .column n => [("name", n)]
  | .id g => [("generated", g)]
  | .defaultValue v g => [("value", v), ("generator", g)]
  | .generated g i u => [("generator", g), ("on_insert", i), ("on_update", u)]
  | .min b => [("value", b)]
  | .max b => [("value", b)]
  | .size a b => [("min", a), ("max", b)]
  | .pattern r => [("regex", r)]
  | .choices v => [("values", v)]
  | .enumColumn m => [("type", m)]
  | .custom a => [("arg", a)]
  | _ => []

end TagBody

namespace TagKind

/-- The class name of a built-in tag class. -/
def name : TagKind → String
  | .column => "Column"
  | .id => "Id"
  | .transient => "Transient"
  | .defaultValue => "DefaultValue"
  | .generated => "Generated"
  | .createdAt => "CreatedAt"
  | .updatedAt => "UpdatedAt"
  | .notNull => "NotNull"
  | .notBlank => "NotBlank"
  | .min => "Min"
  | .max => "Max"
  | .size => "Size"
  | .pattern => "Pattern"
  | .choices => "Choices"
  | .email => "Email"
  | .json => "Json"
  | .enumColumn => "EnumColumn"
  | .custom => "Tag"

def builtins : List TagKind :=
  [.column, .id, .transient, .defaultValue, .generated, .createdAt, .updatedAt, .notNull,
   .notBlank, .min, .max, .size, .pattern, .choices, .email, .json, .enumColumn]

def ofName? (n : String) : Option TagKind := builtins.find? (·.name == n)

end TagKind

/-- A tag: its exact class name and its fields. -/
structure Tag where
  cls : String
  body : TagBody
  deriving Inhabited

/-- Something found where tags are listed: a tag, or another value. -/
inductive Item
  | tag (t : Tag)
  | other (v : Value)
  deriving Inhabited

namespace Tag

def kind (t : Tag) : TagKind := t.body.kind

def repr (t : Tag) : String :=
  t.cls ++ "(" ++ ", ".intercalate (t.body.fields.map fun (n, v) => n ++ "=" ++ v.repr) ++ ")"

def eq (a b : Tag) : Bool :=
  a.cls == b.cls && a.kind == b.kind &&
    (a.body.fields.zip b.body.fields).all (fun ((_, x), (_, y)) => Value.pyEq x y)

/-- Whether comparing two tags' fields in order, up to the first unequal pair, meets a
signaling comparison. -/
def signalsIn (a b : Tag) : Bool :=
  Value.signalsInSeq (a.body.fields.map (·.2)) (b.body.fields.map (·.2))

/-- `a == b` on tag records: tags of different classes are unequal without a look at their
fields; otherwise the fields compare in order, and a signaling comparison raises. -/
def eqChecked (a b : Tag) : Except Failure Bool :=
  if a.cls == b.cls && a.kind == b.kind then
    if a.signalsIn b then .error .invalidOperation else .ok (a.eq b)
  else .ok false

end Tag

def Item.repr : Item → String
  | .tag t => t.repr
  | .other v => v.repr

/-- A tag class: its name, the built-in class it is or extends, whether several of its tags
may stand on one field, and the items it carries. -/
structure TagClass where
  name : String
  kind : TagKind
  repeatable : Bool
  carried : List Item

def enumModeMember (name : String) (index : Nat) (value : String) : Value :=
  .member "EnumType" .text name index (.str value)

def EnumMode.string : Value := enumModeMember "STRING" 0 "string"
def EnumMode.ordinal : Value := enumModeMember "ORDINAL" 1 "ordinal"
def EnumMode.value : Value := enumModeMember "VALUE" 2 "value"

def generatedTag (gen : String) (onInsert onUpdate : Bool) : Tag :=
  ⟨"Generated", .generated (.str gen) (.bool onInsert) (.bool onUpdate)⟩

/-- The built-in tag classes: `Generated` is repeatable, `CreatedAt` carries a timestamp
generated on insert, `UpdatedAt` one generated on insert and on update. -/
def TagClass.builtin (k : TagKind) : TagClass :=
  match k with
  | .generated => ⟨k.name, k, true, []⟩
  | .createdAt => ⟨k.name, k, false, [.tag (generatedTag "timestamp" true false)]⟩
  | .updatedAt => ⟨k.name, k, false, [.tag (generatedTag "timestamp" true true)]⟩
  | _ => ⟨k.name, k, false, []⟩

/-- The tag classes known to a request: built-in ones and declared ones. -/
structure Vocabulary where
  declared : List TagClass := []

namespace Vocabulary

def find? (voc : Vocabulary) (name : String) : Option TagClass :=
  match voc.declared.find? (·.name == name) with
  | some c => some c
  | none => (TagKind.ofName? name).map TagClass.builtin

def isRepeatable (voc : Vocabulary) (name : String) : Bool :=
  match voc.find? name with
  | some c => c.repeatable
  | none => false

def carried (voc : Vocabulary) (name : String) : List Item :=
  match voc.find? name with
  | some c => c.carried
  | none => []

def size (voc : Vocabulary) : Nat := voc.declared.length + TagKind.builtins.length

end Vocabulary

end DataMapper
