import DataMapper.Connection.Cursor
import DataMapper.Sql.Placeholder
import DataMapper.Store.Engine

namespace DataMapper

/-- A connection to an embedded database: the database, whether statements that change rows
open a transaction by themselves, and whether rows are read by name. -/
structure Embedded where
  engine : Store.Engine := {}
  implicit : Bool := true
  namedRows : Bool := false

namespace Embedded

/-- The text after leading blanks and comments: `--` comments run to the end of their line,
and `/*` comments to the next `*/`. Nothing is left when a comment never ends. -/
def skipGaps : Nat → List Char → List Char
  | 0, cs => cs
  | _ + 1, [] => []
  | f + 1, c :: rest =>
    if c == ' ' || c == '\t' || c == '\x0c' || c == '\n' || c == '\r' then skipGaps f rest
    else
      match c, rest with
      | '-', '-' :: more =>
        match more.dropWhile (· != '\n') with
        | [] => []
        | _ :: after => skipGaps f after
      | '/', '*' :: more => skipComment f more
      | _, _ => c :: rest
where
  /-- The text after the end of a `/*` comment, then its gaps. -/
  skipComment : Nat → List Char → List Char
    | 0, cs => cs
    | _ + 1, [] => []
    | f + 1, '*' :: '/' :: after => skipGaps f after
    | f + 1, _ :: more => skipComment f more

/-- Whether a statement's text starts, after blanks and comments, with a word that makes it
change rows. -/
def changesRows (sql : String) : Bool :=
  let rest := skipGaps (sql.length + 1) sql.toList
  let startsWith (w : String) : Bool := (rest.take w.length).map Char.toLower == w.toList
  startsWith "insert" || startsWith "update" || startsWith "delete" || startsWith "replace"

def className : Value → String
  | .decimal _ => "decimal.Decimal"
  | .time _ => "datetime.time"
  | v => v.typeName

/-- The stored value a parameter binds as, at a position. -/
def bindValue (pos : Nat) : Value → Except Failure Store.Datum
  | .none => .ok .null
  | .bool b => .ok (.integer (if b then 1 else 0))
  | .int n =>
    if Store.fitsInt64 n then .ok (.integer n)
    else .error (.overflow "Python int too large to convert to SQLite INTEGER")
  | .float x => .ok (if x.isNaN then .null else .real x)
  | .str s => .ok (.text s)
  | .bytes b => .ok (.blob b)
  | .date d => .ok (.text d.isoText)
  | .datetime t => .ok (.text (t.isoTextWith " "))
  | .member _ .integer _ _ (.int n) => bindValue pos (.int n)
  | .member _ .text _ _ (.str s) => .ok (.text s)
  | v => .error (.raised "ProgrammingError" ("Error binding parameter " ++ toString pos ++
      ": type '" ++ className v ++ "' is not supported"))

/-- The values a statement's parameters bind to. -/
def bindAll (names : List (Option String)) : Option Sql.DriverParams → Except Failure (List Store.Datum)
  | none => bySequence []
  | some (.byPosition vs) => bySequence vs
  | some (.byName kvs) =>
    names.zipIdx.mapM fun (n?, i) =>
      match n? with
      | none => .error (.raised "ProgrammingError" ("Binding " ++ toString (i + 1) ++
          " has no name, but you supplied a dictionary (which has only names)."))
      | some n =>
        let k := String.ofList (n.toList.drop 1)
        match kvs.find? (·.1 == k) with
        | some (_, v) => bindValue (i + 1) v
        | none => .error (.raised "ProgrammingError"
            ("You did not supply a value for binding parameter :" ++ k ++ "."))
where
  bySequence (vs : List Value) : Except Failure (List Store.Datum) :=
    if vs.length != names.length then
      .error (.raised "ProgrammingError" ("Incorrect number of bindings supplied. The current " ++
        "statement uses " ++ toString names.length ++ ", and there are " ++ toString vs.length ++
        " supplied."))
    else vs.zipIdx.mapM fun (v, i) => bindValue (i + 1) v

def valueOf : Store.Datum → Value
  | .null => .none
  | .integer n => .int n
  | .real x => .float x
  | .text s => .str s
  | .blob b => .bytes b

def rowOf (named : Bool) (names : List String) (values : List Store.Datum) : Row :=
  let vs := values.map valueOf
  if named then
    .pairs (names.map fun n =>
      let i := (names.findIdx? fun m => m.map Char.toLower == n.map Char.toLower).getD 0
      (.str n, vs.getD i .none))
  else .tuple vs

def failureOf : Store.StoreError → Failure
  | .failed m => .raised "OperationalError" m
  | .constraint m => .raised "IntegrityError" m

/-- Runs one statement. The connection changes even when the statement fails: a transaction
opened for it stays open. -/
def execute (c : Embedded) (sql : String) (params : Option Sql.DriverParams) :
    Except Failure Cursor × Embedded :=
  match c.engine.compile sql with
  | .error err => (.error (failureOf err), c)
  | .ok none => (.ok { lastrowid := .int c.engine.lastKey }, c)
  | .ok (some comp) =>
    if !Store.onlyGaps (String.ofList (sql.toList.drop comp.rest)) then
      (.error (.raised "ProgrammingError" "You can only execute one statement at a time."), c)
    else
      match bindAll comp.prepared.params params with
      | .error f => (.error f, c)
      | .ok values =>
        let dml := changesRows sql
        let engine := if c.implicit && dml then c.engine.begin else c.engine
        let (r, engine) := engine.run comp values
        let c := { c with engine }
        match r with
        | .error err => (.error (failureOf err), c)
        | .ok ans =>
          let names := comp.prepared.names
          let count : Int := if !dml then -1 else if ans.rows.isEmpty then ans.changes else 0
          (.ok { columns := if names.isEmpty then none else some names
                 rows := ans.rows.map (rowOf c.namedRows names)
                 rowcount := .int count
                 lastrowid := .int engine.lastKey }, c)

def commit (c : Embedded) : Embedded := { c with engine := c.engine.commit }

def rollback (c : Embedded) : Embedded := { c with engine := c.engine.rollback }

/-- Whether a transaction needs an explicit `BEGIN`: statements commit on their own and no
transaction is open. -/
def beginsExplicitly (c : Embedded) : Bool := !c.implicit && !c.engine.inTransaction

end Embedded

end DataMapper
