import DataMapper.Connection.Basic
import DataMapper.Text.Case

namespace DataMapper

/-- A database: a connection, its driver's parameter style, whether it is closed, and how
many transactions are open on it. -/
structure Database where
  conn : Connection
  style : Sql.ParamStyle
  closed : Bool := false
  depth : Nat := 0

abbrev DbStep := EStateM Failure Database

namespace Database

def inTransaction (db : Database) : Bool := db.depth > 0

def requireOpen : DbStep Unit := do
  if (← get).closed then throw (.runtime "connection is closed")

def onConnection {α : Type} (f : Connection → Except Failure α × Connection) : DbStep α := do
  let db ← get
  let (r, c) := f db.conn
  set { db with conn := c }
  match r with
  | .ok a => pure a
  | .error e => throw e

def styleName : Sql.ParamStyle → String
  | .named => "named"
  | .qmark => "qmark"
  | .format => "format"
  | .pyformat => "pyformat"
  | .numeric => "numeric"

def cursor (sql : String) (params : Option (List (String × Value))) : DbStep Cursor := do
  requireOpen
  let db ← get
  match Sql.convertParams sql params (styleName db.style) with
  | .error e => throw e
  | .ok (text, driverParams) => onConnection (·.execute text driverParams)

def execute (sql : String) (params : Option (List (String × Value))) : DbStep Value := do
  pure (← cursor sql params).rowcount

def hasClause (upper word : String) : Bool := upper.contains (" " ++ word ++ " ")

/-- Whether the key of an insert is read from the row its statement returns: the statement,
upper-cased, holds `RETURNING` or `OUTPUT` as a clause of its own. -/
def readsKeyRow (sql : String) : Bool :=
  let upper := Text.toUpper sql
  hasClause upper "RETURNING" || hasClause upper "OUTPUT"

/-- Runs an insert and gives the key of the new row: from the row a `RETURNING` or `OUTPUT`
clause gives (the column named like `key` without regard to case, else the first), or the
driver's last row id. -/
def executeAndReturnKey (sql : String) (params : Option (List (String × Value))) (key : String) :
    DbStep Value := do
  let cur ← cursor sql params
  if readsKeyRow sql then
    match cur.rows with
    | [] => pure .none
    | row :: _ =>
      match cur.mapping row with
      | .error e => throw e
      | .ok kvs =>
        match kvs.find? (fun (k, _) => Text.toLower k.plain == Text.toLower key) with
        | some (_, v) => pure v
        | none => pure ((kvs.head?.map (·.2)).getD .none)
  else pure cur.lastrowid

def query (sql : String) (params : Option (List (String × Value))) :
    DbStep (List (List (Value × Value))) := do
  let cur ← cursor sql params
  match cur.mappings cur.rows with
  | .ok rows => pure rows
  | .error e => throw e

def begin : DbStep Unit := do
  if (← get).conn.beginsExplicitly then
    let _ ← onConnection (·.execute "BEGIN" none)

def commit : DbStep Unit := onConnection Connection.commit

def rollback : DbStep Unit := onConnection Connection.rollback

def close : DbStep Unit := do
  let db ← get
  if db.closed then return
  set { db with closed := true }
  onConnection Connection.close

end Database

/-- How steps over a larger state reach the database a transaction runs on: the number of open
transactions, the check that the database is open, and the connection's transaction
statements. -/
structure DbAccess (ε σ : Type) where
  depth : σ → Nat
  setDepth : Nat → σ → σ
  requireOpen : EStateM ε σ Unit
  begin : EStateM ε σ Unit
  commit : EStateM ε σ Unit
  rollback : EStateM ε σ Unit

namespace DbAccess

variable {ε σ α : Type}

/-- Runs a body in a transaction. One opened inside another joins it: it counts itself open
while its body runs and closed again however the body ends. The outermost one begins the
connection's transaction, commits after the body, and when beginning, the body or the commit
fails it rolls back and fails the same way (or as the rollback failed); it is closed on every
way out. -/
def transaction (a : DbAccess ε σ) (body : EStateM ε σ α) : EStateM ε σ α := do
  a.requireOpen
  let depth := a.depth (← get)
  if depth > 0 then
    modify (a.setDepth (depth + 1))
    tryCatch (do let r ← body; modify (a.setDepth depth); pure r)
      (fun e => do modify (a.setDepth depth); throw e)
  else
    modify (a.setDepth 1)
    tryCatch (do
        a.begin
        let r ← body
        a.commit
        modify (a.setDepth 0)
        pure r)
      (fun e => do
        tryCatch a.rollback (fun e' => do modify (a.setDepth 0); throw e')
        modify (a.setDepth 0)
        throw e)

end DbAccess

end DataMapper
