import DataMapper.Sql.Placeholder
import DataMapper.Tag.Basic
import DataMapper.Text.Blank

namespace DataMapper.Sql

/-- The families with a generator of their own; `ansi` is the generic one. -/
inductive Family
  | ansi
  | postgres
  | sqlite
  | mysql
  | h2
  | sqlserver
  deriving DecidableEq, Inhabited

/-- How identifiers are quoted. -/
inductive Quoting
  | bare
  | enclosed (mark : Char)
  | brackets
  deriving DecidableEq

def Quoting.apply : Quoting → String → String
  | .bare, s => s
  | .enclosed m, s => String.ofList (m :: s.toList ++ [m])
  | .brackets, s => "[" ++ s ++ "]"

namespace Family

def name : Family → String
  | .ansi => "ansi"
  | .postgres => "postgres"
  | .sqlite => "sqlite"
  | .mysql => "mysql"
  | .h2 => "h2"
  | .sqlserver => "sqlserver"

def ofName? : String → Option Family
  | "ansi" => some .ansi
  | "postgres" => some .postgres
  | "sqlite" => some .sqlite
  | "mysql" => some .mysql
  | "h2" => some .h2
  | "sqlserver" => some .sqlserver
  | _ => none

def label : Family → String
  | .ansi => "SQLGenerator"
  | .postgres => "PostgresSQLGenerator"
  | .sqlite => "SQLiteSQLGenerator"
  | .mysql => "MySQLSQLGenerator"
  | .h2 => "H2SQLGenerator"
  | .sqlserver => "SQLServerSQLGenerator"

def quoting : Family → Quoting
  | .sqlite => .enclosed '"'
  | .mysql => .enclosed '`'
  | .sqlserver => .brackets
  | _ => .bare

def returning : Family → Bool
  | .postgres | .sqlite => true
  | _ => false

def output : Family → Bool
  | .sqlserver => true
  | _ => false

def offsetFetch : Family → Bool
  | .sqlserver => true
  | _ => false

def jsonCast : Family → Bool
  | .postgres => true
  | _ => false

end Family

/-- A SQL generator: a family, and whether placeholders are written `$column` instead of the
family's own form. -/
structure Generator where
  family : Family
  dollar : Bool := false
  deriving DecidableEq, Inhabited

namespace Generator

def ansi : Generator := ⟨.ansi, false⟩

def name (g : Generator) : String := g.family.name

def label (g : Generator) : String :=
  if g.dollar then "Dollar" ++ g.family.label else g.family.label

def q (g : Generator) (ident : String) : String := g.family.quoting.apply ident

/-- The placeholder of a column with the given tags: `$column` for a dollar generator, else
`:column`, with a `::jsonb` cast where the family casts JSON and a tag is exactly `Json`. -/
def placeholder (g : Generator) (column : String) (tags : List Tag) : String :=
  if g.dollar then "$" ++ column
  else if g.family.jsonCast && tags.any (·.cls == "Json") then ":" ++ column ++ "::jsonb"
  else ":" ++ column

end Generator

def matchWord : List Char → List Char → Option (List Char)
  | [], cs => some cs
  | _ :: _, [] => none
  | w :: ws, c :: cs => if c.toUpper = w then matchWord ws cs else none

/-- Whether `ORDER` (any case) blanks `BY` (any case) starts `cs`, ending a word; the rest. -/
def matchOrderBy (cs : List Char) : Option (List Char) :=
  match matchWord "ORDER".toList cs with
  | none => none
  | some rest =>
    let gap := rest.takeWhile Text.isBlank
    if gap.isEmpty then none
    else
      match matchWord "BY".toList (rest.dropWhile Text.isBlank) with
      | none => none
      | some after =>
        match after with
        | c :: _ => if Text.isWordChar c then none else some after
        | [] => some after

/-- The scan for a top-level `ORDER BY`; `prev` is the character before `cs`, `depth` the
count of open parentheses. -/
def orderByFrom (fuel : Nat) (prev : Option Char) (depth : Int) (cs : List Char) : Bool :=
  match fuel, cs with
  | 0, _ => false
  | _, [] => false
  | fuel+1, c :: rest =>
    let skipped : Option (List Char) :=
      if c = '\'' ∨ c = '"' then (closeQuote c rest).map (·.2)
      else if c = '[' then
        if rest.contains ']' then some ((rest.dropWhile (· ≠ ']')).drop 1) else none
      else none
    match skipped with
    | some after => orderByFrom fuel (some (if c = '[' then ']' else c)) depth after
    | none =>
      if c = '(' then orderByFrom fuel (some c) (depth+1) rest
      else if c = ')' then orderByFrom fuel (some c) (depth-1) rest
      else
        let boundary := match prev with
          | some p => !Text.isWordChar p
          | none => true
        match (if boundary then matchOrderBy cs else none) with
        | some after => depth == 0 || orderByFrom fuel (some 'Y') depth after
        | none => orderByFrom fuel (some c) depth rest

def hasTopLevelOrderBy (sql : String) : Bool := orderByFrom (sql.length+1) none 0 sql.toList

namespace Generator

/-- A query cut into one page; the limit and the offset are parameters `__limit` and
`__offset`. -/
def paginate (g : Generator) (sql : String) : String :=
  if g.family.offsetFetch then
    let ordered := if hasTopLevelOrderBy sql then sql else sql ++ " ORDER BY (SELECT NULL)"
    ordered ++ " OFFSET :__offset ROWS FETCH NEXT :__limit ROWS ONLY"
  else sql ++ " LIMIT :__limit OFFSET :__offset"

def countWrapper (_g : Generator) (sql : String) : String :=
  "SELECT COUNT(*) FROM (" ++ sql ++ ") count_query"

end Generator

end DataMapper.Sql
