import DataMapper.Store.Eval
import DataMapper.Store.Prepare

namespace DataMapper.Store

/-- What a running statement has done so far: the tables, what the connection knew when it
started, the key of the last inserted row, the number of rows changed, and the rows
returned. -/
structure Progress where
  catalog : Catalog
  session : Session := {}
  lastKey : Option Int := none
  changes : Nat := 0
  returned : List (List Datum) := []

abbrev Executing := EStateM StoreError Progress

def Executing.lift {α : Type} : Except StoreError α → Executing α
  | .ok a => pure a
  | .error e => throw e

def contextOf (params : List Datum) : Executing Context := do
  let p ← get
  return { catalog := p.catalog, params,
           session := { p.session with lastKey := p.lastKey.getD p.session.lastKey } }

def evalOver (fuel : Nat) (params : List Datum) (scope : Scope) (e : Expr) : Executing Datum := do
  let cx ← contextOf params
  Executing.lift (eval fuel cx [{ scope }] e)

def evalOnRow (fuel : Nat) (params : List Datum) (key : Int) (values : List Datum) (e : Expr) :
    Executing Datum :=
  evalOver fuel params [⟨.integer key, values⟩] e

def evalAlone (fuel : Nat) (params : List Datum) (e : Expr) : Executing Datum := do
  let cx ← contextOf params
  Executing.lift (eval fuel cx [] e)

def currentTable (name : String) : Executing Table := do
  match (← get).catalog.find? name with
  | some t => pure t
  | none => throw (.failed ("no such table: " ++ name))

def storeTable (t : Table) : Executing Unit :=
  modify fun p => { p with catalog := p.catalog.put t }

/-- The key a value makes: nothing asks for a new key, an integer is the key, and anything
else is a mismatch. -/
def keyOf (t : Table) (v : Datum) : Except StoreError Int :=
  match v.withAffinity .integer with
  | .null => .ok t.nextKey
  | .integer n => .ok n
  | _ => .error (.constraint "datatype mismatch")

def keyText (t : Table) : String :=
  match t.keyColumn.bind (t.columns[·]?) with
  | some c => t.name ++ "." ++ c.name
  | none => t.name ++ ".rowid"

/-- Whether two rows agree, without nothing, on the columns of a unique constraint, each
compared under its collation. -/
def clashes (key : UniqueKey) (a b : List Datum) : Bool :=
  (key.columns.zip key.collations).all fun (i, c) =>
    let x := a.getD i .null
    let y := b.getD i .null
    !x.isNull && !y.isNull && x.compareIn c y == .eq

/-- A constraint a new row is checked against for clashes. -/
inductive Check
  | key
  | unique (pos : Nat)
  deriving DecidableEq

/-- The order clashes are looked for in: the unique constraint the first `ON CONFLICT` clause
names, the key, the other constraints the clauses name, and the rest, the last made first. -/
def checkOrder (t : Table) (ups : List UpsertPlan) : List Check :=
  let named := (ups.filterMap fun u =>
    match u.target with
    | .unique p => some p
    | _ => none).foldl (fun acc p => if acc.contains p then acc else acc ++ [p]) []
  let rest := (List.range t.uniques.length).reverse.filter fun p => !named.contains p
  match (ups.head?.map (·.target) : Option ConflictTarget) with
  | some (.unique p) => [.unique p, .key] ++ ((named.drop 1) ++ rest).map .unique
  | _ => .key :: (named ++ rest).map .unique

/-- The `ON CONFLICT` clause that deals with a clash: the first naming its constraint or
naming none. -/
def upsertFor (ups : List UpsertPlan) (c : Check) : Option UpsertPlan :=
  ups.find? fun u =>
    match u.target, c with
    | .any, _ => true
    | .key, .key => true
    | .unique p, .unique q => p == q
    | _, _ => false

/-- What to do with a row once its constraints are checked: store it (after deleting the rows
in the way), skip it, or update the stored row with the given key instead. -/
inductive Verdict
  | store (cleared : List Int)
  | skip
  | upsert (sets : List (Slot × Expr)) (filter : Option Expr) (key : Int)

/-- Checks a row about to be stored under a key (replacing the row at `own`, for updates);
gives the verdict and the values, with defaults put in where a replacing statement needs
them. -/
def checkRow (fuel : Nat) (params : List Datum) (conflict : Conflict) (ups : List UpsertPlan)
    (t : Table) (own : Option Int) (key : Int) (values : List Datum) :
    Executing (Verdict × List Datum) := do
  let values ← t.columns.zipIdx.foldlM (fun vs (c, i) => do
      if c.notNull && (vs.getD i .null).isNull then
        match conflict, c.default with
        | .ignore, _ => pure vs
        | .replace, some d => do pure (vs.set i ((← evalAlone fuel params d).withAffinity c.affinity))
        | _, _ => throw (.constraint ("NOT NULL constraint failed: " ++ t.name ++ "." ++ c.name))
      else pure vs) values
  if t.columns.zipIdx.any fun (c, i) => c.notNull && (values.getD i .null).isNull then
    return (.skip, values)
  for (label, e) in t.checks do
    let v ← evalOnRow fuel params key values e
    if v.truth? == some false then
      if conflict == .ignore then return (.skip, values)
      throw (.constraint ("CHECK constraint failed: " ++ label))
  let others := t.rows.filter fun r => some r.key != own
  let mut cleared : List Int := []
  for c in checkOrder t ups do
    let hits := others.filter fun r =>
      !cleared.contains r.key &&
        match c with
        | .key => r.key == key
        | .unique p =>
          match t.uniques[p]? with
          | some u => clashes u r.values values
          | none => false
    match hits with
    | [] => pure ()
    | first :: _ =>
      match upsertFor ups c with
      | some u =>
        match u.update with
        | some (sets, filter) => return (.upsert sets filter first.key, values)
        | none => return (.skip, values)
      | none =>
        match conflict with
        | .ignore => return (.skip, values)
        | .replace => cleared := cleared ++ hits.map (·.key)
        | _ =>
          let shown := match c with
            | .key => keyText t
            | .unique p => t.uniqueText ((t.uniques[p]?.map (·.columns)).getD [])
          throw (.constraint ("UNIQUE constraint failed: " ++ shown))
  return (.store cleared, values)

/-- The values a row of a strict table holds: each column of a standard type takes only
values of that type (an integer going into a `REAL` column as a double), a column of type
`ANY` takes anything, and nothing is always taken. Other tables take their values as they
are. -/
def strictValues (t : Table) (values : List Datum) : Except StoreError (List Datum) :=
  if !t.strict then .ok values
  else (t.columns.zip values).mapM fun (c, v) =>
    match upperName c.declared, v with
    | _, .null | "ANY", _ => .ok v
    | "INT", .integer _ | "INTEGER", .integer _ | "REAL", .real _ | "TEXT", .text _
    | "BLOB", .blob _ => .ok v
    | "REAL", .integer n => .ok (.real (Binary64.ofInt n))
    | ty, _ =>
      let shown := match v with
        | .integer _ => "INT"
        | d => upperName d.typeName
      .error (.constraint ("cannot store " ++ shown ++ " value in " ++ ty ++ " column " ++ t.name ++
        "." ++ c.name))

def giveBack (fuel : Nat) (params : List Datum) (returning : List Expr) (key : Int)
    (values : List Datum) : Executing Unit := do
  if returning.isEmpty then return
  let row ← returning.mapM (evalOnRow fuel params key values)
  modify fun p => { p with returned := p.returned ++ [row] }

/-- Writes new values over a stored row, as an update does: the assignments take their
columns' affinities, a changed key must be an integer, and the row is checked (with no
`ON CONFLICT` clauses) and stored. -/
def rewriteRow (fuel : Nat) (params : List Datum) (conflict : Conflict) (t : Table)
    (old : StoredRow) (newVals : List (Slot × Datum)) (returning : List Expr) : Executing Unit := do
  let values := newVals.foldl (fun vs (s, v) =>
    match s with
    | .column i => vs.set i ((v.withAffinity ((t.columns[i]?.map (·.affinity)).getD .blob)))
    | .key => vs) old.values
  let keyGiven : Option Datum := match t.keyColumn with
    | some k =>
      if newVals.any (fun (s, _) => s == .column k || s == .key) then some (values.getD k .null)
      else none
    | none => (newVals.filter fun (s, _) => s == .key).getLast?.map (·.2)
  let newKey ← match keyGiven with
    | some v =>
      match v.withAffinity .integer with
      | .integer n => pure n
      | _ => throw (.constraint "datatype mismatch")
    | none => pure old.key
  let values := match t.keyColumn with
    | some k => values.set k (.integer newKey)
    | none => values
  let (verdict, values) ← checkRow fuel params conflict [] t (some old.key) newKey values
  match verdict with
  | .store cleared =>
    let values ← Executing.lift (strictValues t values)
    let rows := t.rows.filter fun r => r.key != old.key && !cleared.contains r.key
    storeTable { t with rows := t.place rows ⟨newKey, values⟩,
                        highest := max t.highest newKey }
    modify fun p => { p with changes := p.changes + 1 }
    giveBack fuel params returning newKey values
  | _ => pure ()

/-- Inserts one row given by slot values. -/
def insertRow (fuel : Nat) (params : List Datum) (conflict : Conflict) (name : String)
    (slots : List Slot) (ups : List UpsertPlan) (given : List Datum) (returning : List Expr) :
    Executing Unit := do
  let t ← currentTable name
  let pairs := slots.zip given
  let valueFor (i : Nat) : Option Datum :=
    (pairs.filter fun (s, _) => s == .column i).getLast?.map (·.2)
  let values ← t.columns.zipIdx.mapM fun (c, i) => do
    match valueFor i with
    | some v => pure (v.withAffinity c.affinity)
    | none =>
      match c.default with
      | some d => do pure ((← evalAlone fuel params d).withAffinity c.affinity)
      | none => pure .null
  let keyGiven : Datum := match t.keyColumn with
    | some k => values.getD k .null
    | none => ((pairs.filter fun (s, _) => s == .key).getLast?.map (·.2)).getD .null
  let key ← Executing.lift (keyOf t keyGiven)
  let values := match t.keyColumn with
    | some k => values.set k (.integer key)
    | none => values
  let (verdict, values) ← checkRow fuel params conflict ups t none key values
  match verdict with
  | .skip => pure ()
  | .upsert sets filter target =>
    match t.rows.find? (·.key == target) with
    | none => pure ()
    | some old =>
      let scope : Scope := [⟨.integer old.key, old.values⟩, ⟨.integer key, values⟩]
      let go ← match filter with
        | some w => do pure ((← evalOver fuel params scope w).truth? == some true)
        | none => pure true
      if go then
        let newVals ← sets.mapM fun (s, e) => do pure (s, ← evalOver fuel params scope e)
        rewriteRow fuel params .abort t old newVals returning
  | .store cleared =>
    let values ← Executing.lift (strictValues t values)
    let rows := t.rows.filter fun r => !cleared.contains r.key
    let t' := { t with rows := t.place rows ⟨key, values⟩, highest := max t.highest key }
    storeTable t'
    modify fun p => { p with lastKey := if t.withoutRowid then p.lastKey else some key,
                             changes := p.changes + 1 }
    giveBack fuel params returning key values

/-- Runs an insert. -/
def runInsert (fuel : Nat) (params : List Datum) (conflict : Conflict) (name : String)
    (slots : List Slot) (rows : Rows) (ups : List UpsertPlan) (returning : List Expr) :
    Executing Unit := do
  match rows with
  | .values rs =>
    for r in rs do
      let given ← r.mapM (evalAlone fuel params)
      insertRow fuel params conflict name slots ups given returning
  | .query q =>
    let cx ← contextOf params
    let rs ← Executing.lift (runQuery fuel cx [] q)
    for given in rs do
      insertRow fuel params conflict name slots ups given returning
  | .defaults => insertRow fuel params conflict name [] ups [] returning

def matching (fuel : Nat) (params : List Datum) (t : Table) (filter : Option Expr) :
    Executing (List Int) := do
  let hits ← t.rows.filterM fun r =>
    match filter with
    | some w => do pure ((← evalOnRow fuel params r.key r.values w).truth? == some true)
    | none => pure true
  pure (hits.map (·.key))

/-- Runs an update. -/
def runUpdate (fuel : Nat) (params : List Datum) (conflict : Conflict) (name : String)
    (sets : List (Slot × Expr)) (filter : Option Expr) (returning : List Expr) : Executing Unit := do
  let keys ← matching fuel params (← currentTable name) filter
  for key in keys do
    let t ← currentTable name
    match t.rows.find? (·.key == key) with
    | none => pure ()
    | some old =>
      let newVals ← sets.mapM fun (s, e) => do pure (s, ← evalOnRow fuel params old.key old.values e)
      rewriteRow fuel params conflict t old newVals returning

def runDelete (fuel : Nat) (params : List Datum) (name : String) (filter : Option Expr)
    (returning : List Expr) : Executing Unit := do
  let t ← currentTable name
  let keys ← matching fuel params t filter
  for r in t.rows do
    if keys.contains r.key then giveBack fuel params returning r.key r.values
  storeTable { t with rows := t.rows.filter fun r => !keys.contains r.key }
  modify fun p => { p with changes := p.changes + keys.length }

def runCreateIndex (entry : IndexEntry) (key : UniqueKey) : Executing Unit := do
  let t ← currentTable entry.table
  if entry.unique then
    let clash := t.rows.zipIdx.any fun (r, i) =>
      (t.rows.take i).any fun s => clashes key s.values r.values
    if clash then throw (.constraint ("UNIQUE constraint failed: " ++ t.uniqueText key.columns))
    storeTable { t with uniques := t.uniques ++ [key] }
  modify fun p => { p with catalog := { p.catalog with indexes := p.catalog.indexes ++ [entry] } }

/-- Drops an index, and the unique constraint it made. -/
def runDropIndex (name : String) : Executing Unit := do
  let p ← get
  match p.catalog.findIndex? name with
  | none => pure ()
  | some entry =>
    match p.catalog.find? entry.table with
    | some t =>
      storeTable { t with uniques := t.uniques.filter fun k =>
        !(k.index.map (sameName · name)).getD false }
    | none => pure ()
    modify fun p => { p with catalog := { p.catalog with
      indexes := p.catalog.indexes.filter fun i => !sameName i.name name } }

/-- Runs a plan that reads or writes tables. -/
def runPlan (fuel : Nat) (params : List Datum) : Plan → Executing Unit
  | .query q => do
    let cx ← contextOf params
    let rows ← Executing.lift (runQuery fuel cx [] q)
    modify fun p => { p with returned := rows }
  | .insert conflict name slots rows ups returning =>
    runInsert fuel params conflict name slots rows ups returning
  | .update conflict name sets filter returning =>
    runUpdate fuel params conflict name sets filter returning
  | .delete name filter returning => runDelete fuel params name filter returning
  | .create t => modify fun p => { p with catalog := p.catalog.add t }
  | .createIndex entry key => runCreateIndex entry key
  | .drop name => modify fun p => { p with catalog := p.catalog.remove name }
  | .dropIndex name => runDropIndex name
  | _ => pure ()

def Plan.countsChanges : Plan → Bool
  | .insert .. | .update .. | .delete .. => true
  | _ => false

theorem upsertFor_nil (c : Check) : upsertFor [] c = none := rfl

end DataMapper.Store
