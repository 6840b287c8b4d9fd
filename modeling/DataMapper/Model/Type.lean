import DataMapper.Tag.Basic

namespace DataMapper

/-- The classes a field can declare. -/
inductive ValueClass
  | str | int | float | bool | decimal | datetime | date | time | uuid | bytes
  | dict | list | tuple | object | noneType
  | enum (name : String)
  deriving DecidableEq, Inhabited

namespace ValueClass

/-- The class's own name. -/
def name : ValueClass → String
  | .str => "str"
  | .int => "int"
  | .float => "float"
  | .bool => "bool"
  | .decimal => "Decimal"
  | .datetime => "datetime"
  | .date => "date"
  | .time => "time"
  | .uuid => "UUID"
  | .bytes => "bytes"
  | .dict => "dict"
  | .list => "list"
  | .tuple => "tuple"
  | .object => "object"
  | .noneType => "NoneType"
  | .enum n => n

def qualifiedName : ValueClass → String
  | .decimal => "decimal.Decimal"
  | .datetime => "datetime.datetime"
  | .date => "datetime.date"
  | .time => "datetime.time"
  | .uuid => "uuid.UUID"
  | c => c.name

def repr : ValueClass → String
  | .enum n => "<enum '" ++ n ++ "'>"
  | c => "<class '" ++ c.qualifiedName ++ "'>"

/-- The built-in class a name gives. -/
def builtin? : String → Option ValueClass
  | "str" => some .str
  | "int" => some .int
  | "float" => some .float
  | "bool" => some .bool
  | "Decimal" => some .decimal
  | "datetime" => some .datetime
  | "date" => some .date
  | "time" => some .time
  | "UUID" => some .uuid
  | "bytes" => some .bytes
  | "dict" => some .dict
  | "list" => some .list
  | "tuple" => some .tuple
  | "object" => some .object
  | "NoneType" => some .noneType
  | _ => none

/-- Whether a value is an instance of the class. -/
def holds : ValueClass → Value → Bool
  | .str, .str _ => true
  | .str, .member _ .text _ _ _ => true
  | .int, .int _ => true
  | .int, .bool _ => true
  | .int, .member _ .integer _ _ _ => true
  | .float, .float _ => true
  | .bool, .bool _ => true
  | .decimal, .decimal _ => true
  | .datetime, .datetime _ => true
  | .date, .date _ => true
  | .date, .datetime _ => true
  | .time, .time _ => true
  | .uuid, .uuid _ => true
  | .bytes, .bytes _ => true
  | .dict, .dict _ => true
  | .list, .list _ => true
  | .tuple, .tuple _ => true
  | .object, _ => true
  | .noneType, .none => true
  | .enum n, .member e _ _ _ _ => n == e
  | _, _ => false

end ValueClass

/-- A declared type. -/
inductive TypeExpr
  | any
  | cls (c : ValueClass)
  | generic (origin : ValueClass) (args : List TypeExpr)
  | union (members : List TypeExpr)
  | annotated (base : TypeExpr) (extras : List Item)
  | forward (text : String)
  deriving Inhabited

namespace TypeExpr

def sameItem : Item → Item → Bool
  | .tag a, .tag b => Tag.eq a b
  | .other a, .other b => Value.pyEq a b
  | _, _ => false

mutual

def same : TypeExpr → TypeExpr → Bool
  | .any, .any => true
  | .cls a, .cls b => a == b
  | .generic a xs, .generic b ys => a == b && sameAll xs ys
  | .union xs, .union ys => sameAll xs ys
  | .annotated a xs, .annotated b ys =>
    same a b && xs.length == ys.length && (xs.zip ys).all (fun (x, y) => sameItem x y)
  | .forward a, .forward b => a == b
  | _, _ => false

def sameAll : List TypeExpr → List TypeExpr → Bool
  | [], [] => true
  | x :: xs, y :: ys => same x y && sameAll xs ys
  | _, _ => false

end

def unionMembers : TypeExpr → List TypeExpr
  | .union ms => ms
  | t => [t]

def dedupe (ts : List TypeExpr) : List TypeExpr :=
  ts.foldl (fun kept t => if kept.any (same · t) then kept else kept ++ [t]) []

def unionOf (ts : List TypeExpr) : TypeExpr :=
  match dedupe (ts.flatMap unionMembers) with
  | [t] => t
  | ms => .union ms

def optional (t : TypeExpr) : TypeExpr := unionOf [t, .cls .noneType]

def annotate (t : TypeExpr) (extras : List Item) : TypeExpr :=
  match t with
  | .annotated b xs => .annotated b (xs ++ extras)
  | b => .annotated b extras

def isNone : TypeExpr → Bool
  | .cls .noneType => true
  | _ => false

def tagsOf (items : List Item) : List Tag :=
  items.filterMap fun i => match i with | .tag t => some t | .other _ => none

theorem mem_of_filter_singleton {ms : List TypeExpr} {p : TypeExpr → Bool} {t : TypeExpr}
    (h : ms.filter p = [t]) : t ∈ ms :=
  (List.mem_filter.mp (h ▸ List.mem_singleton_self t)).1

/-- The value type under annotations and under unions with nothing, and the tags found in
the annotations, outermost first. -/
def unwrap : TypeExpr → TypeExpr × List Tag
  | .annotated b extras =>
    let (t, tags) := unwrap b
    (t, tagsOf extras ++ tags)
  | .union ms =>
    match h : ms.filter (fun m => !m.isNone) with
    | [t] =>
      have : t ∈ ms := mem_of_filter_singleton h
      unwrap t
    | _ => (.union ms, [])
  | t => (t, [])
termination_by t => sizeOf t
decreasing_by
  all_goals simp_wf
  · omega
  · have := List.sizeOf_lt_of_mem this
    omega

mutual

def typingText : TypeExpr → String
  | .any => "typing.Any"
  | .cls c => c.qualifiedName
  | .generic o args => o.name ++ "[" ++ ", ".intercalate (typingTexts args) ++ "]"
  | .union ms => unionText ms
  | .annotated b xs =>
    "typing.Annotated[" ++ ", ".intercalate (typingText b :: xs.map Item.repr) ++ "]"
  | .forward s => "ForwardRef(" ++ Text.quote s ++ ")"

def typingTexts : List TypeExpr → List String
  | [] => []
  | t :: ts => typingText t :: typingTexts ts

def unionText : List TypeExpr → String
  | [a, .cls .noneType] => "typing.Optional[" ++ typingText a ++ "]"
  | [.cls .noneType, a] => "typing.Optional[" ++ typingText a ++ "]"
  | ms => "typing.Union[" ++ ", ".intercalate (typingTexts ms) ++ "]"

end

def dropTypingPrefix : List Char → List Char
  | 't' :: 'y' :: 'p' :: 'i' :: 'n' :: 'g' :: '.' :: rest => dropTypingPrefix rest
  | c :: rest => c :: dropTypingPrefix rest
  | [] => []

/-- How metadata shows a value type: a class by name, `Any`, or the typing text without its
library prefix (`list[int]`, `Union[int, str]`). -/
def display : TypeExpr → String
  | .cls c => c.name
  | .any => "Any"
  | t => String.ofList (dropTypingPrefix t.typingText.toList)

def name : TypeExpr → String
  | .cls c => c.name
  | .generic o _ => o.name
  | .any => "Any"
  | .union [_, .cls .noneType] | .union [.cls .noneType, _] => "Optional"
  | .union _ => "Union"
  | .annotated _ _ => "Annotated"
  | .forward s => "ForwardRef(" ++ Text.quote s ++ ")"

def checkedClass? : TypeExpr → Option ValueClass
  | .cls c => some c
  | .generic o _ => some o
  | _ => none

end TypeExpr

end DataMapper
