import DataMapper.Store.Parse
import DataMapper.Store.Run

namespace DataMapper.Store

/-- A database: its tables, the tables when the open transaction began, the key of the last
inserted row (zero before any), and the rows changed by the last statement that changes rows
and by all of them. -/
structure Engine where
  catalog : Catalog := {}
  saved : Option Catalog := none
  lastKey : Int := 0
  changes : Int := 0
  totalChanges : Int := 0

/-- A compiled statement: prepared, with the fuel its evaluation may spend and where the text
after it starts. -/
structure Compiled where
  prepared : Prepared
  fuel : Nat
  rest : Nat

/-- What a statement gave: its result rows and the number of rows it changed. -/
structure Answer where
  rows : List (List Datum)
  changes : Nat

namespace Engine

def inTransaction (e : Engine) : Bool := e.saved.isSome

/-- Compiles the first statement of a text; `none` when the text holds none. -/
def compile (e : Engine) (sql : String) : Except StoreError (Option Compiled) :=
  match parseStatement sql with
  | .error (.inTable start err) =>
    .error (.failed ((startFailure? e.catalog start).getD err.message))
  | .error err => .error (.failed err.message)
  | .ok none => .ok none
  | .ok (some p) =>
    let fuel := 24 * ((tokenize sql).length + 2)
    match prepare fuel e.catalog p.params p.statement with
    | .ok prep => .ok (some ⟨prep, fuel, p.rest⟩)
    | .error err => .error err

def begin (e : Engine) : Engine :=
  if e.inTransaction then e else { e with saved := some e.catalog }

def commit (e : Engine) : Engine := { e with saved := none }

def rollback (e : Engine) : Engine :=
  match e.saved with
  | some c => { e with catalog := c, saved := none }
  | none => e

/-- Runs a compiled statement with its parameter values. -/
def run (e : Engine) (c : Compiled) (params : List Datum) : Except StoreError Answer × Engine :=
  match c.prepared.plan with
  | .begin =>
    if e.inTransaction then (.error (.failed "cannot start a transaction within a transaction"), e)
    else (.ok ⟨[], 0⟩, e.begin)
  | .commit =>
    if e.inTransaction then (.ok ⟨[], 0⟩, e.commit)
    else (.error (.failed "cannot commit - no transaction is active"), e)
  | .rollback =>
    if e.inTransaction then (.ok ⟨[], 0⟩, e.rollback)
    else (.error (.failed "cannot rollback - no transaction is active"), e)
  | plan =>
    let session : Session :=
      { changes := e.changes, totalChanges := e.totalChanges, lastKey := e.lastKey }
    let counts := plan.countsChanges
    match (runPlan c.fuel params plan).run { catalog := e.catalog, session } with
    | .ok _ p =>
      let e' := { e with catalog := p.catalog, lastKey := p.lastKey.getD e.lastKey }
      (.ok ⟨p.returned, p.changes⟩,
        if counts then { e' with changes := p.changes, totalChanges := e.totalChanges + p.changes }
        else e')
    | .error err p =>
      let e' := { e with lastKey := p.lastKey.getD e.lastKey }
      (.error err, if counts then { e' with changes := 0 } else e')

theorem rollback_restores (e : Engine) (c : Catalog) (h : e.saved = some c) :
    e.rollback.catalog = c := by
  simp [rollback, h]

end Engine

end DataMapper.Store
