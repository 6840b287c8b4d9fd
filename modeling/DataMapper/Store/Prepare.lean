import DataMapper.Store.Resolve

namespace DataMapper.Store

/-- The clashes an `ON CONFLICT` clause deals with: any, those on the row key, or those on
the unique constraint at a position of the table's list. -/
inductive ConflictTarget
  | any
  | key
  | unique (pos : Nat)
  deriving DecidableEq

/-- An `ON CONFLICT` clause ready to run: its target, and the assignments and filter of its
update, or none to do nothing. They read the stored row as the first source and the row that
clashed as the second. -/
structure UpsertPlan where
  target : ConflictTarget
  update : Option (List (Slot × Expr) × Option Expr)

/-- A statement ready to run: names resolved, tables and columns checked. -/
inductive Plan
  | query (q : Query)
  | insert (conflict : Conflict) (table : String) (slots : List Slot) (rows : Rows)
      (upserts : List UpsertPlan) (returning : List Expr)
  | update (conflict : Conflict) (table : String) (sets : List (Slot × Expr))
      (filter : Option Expr) (returning : List Expr)
  | delete (table : String) (filter : Option Expr) (returning : List Expr)
  | create (t : Table)
  | createIndex (entry : IndexEntry) (key : UniqueKey)
  | drop (table : String)
  | dropIndex (name : String)
  | nothing
  | begin
  | commit
  | rollback

/-- A prepared statement: its plan, the names of its result columns, and its parameters'
names by number. -/
structure Prepared where
  plan : Plan
  names : List String
  params : List (Option String)

def knownSchema (schema : Option String) : Bool :=
  (schema.map fun d => sameName d "main" || sameName d "temp").getD true

def writeTable (cat : Catalog) (tn : TableName) : Except StoreError Table :=
  match cat.find? tn.name with
  | some t =>
    if knownSchema tn.schema then .ok t
    else .error (.failed ("no such table: " ++ shownName tn.schema tn.name))
  | none => .error (.failed ("no such table: " ++ shownName tn.schema tn.name))

/-- Resolves a `RETURNING` list against the written table; gives the expressions and names. -/
def resolveReturning (fuel : Nat) (env : Env) (t : Table) (outs : List Output) :
    Except StoreError (List Expr × List String) := do
  let shapes := [t.shape t.name]
  let rs ← outs.flatMapM fun o =>
    match o with
    | .all => .ok (starColumns shapes)
    | .allOf n =>
      if sameName n t.name then .ok (starColumns shapes) else .error (.failed ("no such table: " ++ n))
    | .expr e asName text => do pure [(← resolveExpr fuel env [shapes] [] {} e, asName, text)]
  pure (rs.map (·.1), rs.map fun (e, a, txt) => outputName [shapes] e a txt)

def slotOf (t : Table) (col : String) : Option Slot :=
  match t.columnIndex? col with
  | some i => some (.column i)
  | none => if isKeyName col && !t.withoutRowid then some .key else none

def collationNamed (name : String) : Except StoreError Collation :=
  match Collation.ofName? name with
  | some c => .ok c
  | none => .error (.failed ("no such collation sequence: " ++ name))

def strictTypes : List String := ["INT", "INTEGER", "REAL", "TEXT", "BLOB", "ANY"]

/-- Whether a name is kept for the database's own objects: it starts with `sqlite_`, in any
case. -/
def reservedName (name : String) : Bool := foldName (String.ofList (name.toList.take 7)) == "sqlite_"

/-- The checks made on the head of a `CREATE TABLE` before its definition is read, in the
order they are made: the schema must exist, and be left out (or be `temp`) for a temporary
table; the name must not be reserved; no table may have it, unless the creation lets an
existing table be; and no index may have it. -/
def startFailure? (cat : Catalog) (s : TableStart) : Option String :=
  let schema := s.table.schema
  if !knownSchema schema then some ("unknown database " ++ schema.getD "")
  else if s.temp && (schema.map fun d => !sameName d "temp").getD false then
    some "temporary table name must be unqualified"
  else if reservedName s.table.name then
    some ("object name reserved for internal use: " ++ s.table.name)
  else if (cat.find? s.table.name).isSome then
    if s.ifNotExists then none else some ("table " ++ s.written ++ " already exists")
  else if (cat.findIndex? s.table.name).isSome then
    some ("there is already an index named " ++ s.table.name)
  else none

/-- Builds the table a creation describes, checking its columns and keys, then what its
options ask for, then its checks. -/
def buildTable (fuel : Nat) (env : Env) (name : String) (specs : List ColumnSpec)
    (constraints : List TableConstraint) (options : TableOptions) : Except StoreError Table := do
  let names := specs.map (·.name)
  for (n, i) in names.zipIdx do
    if (names.take i).any (sameName · n) then throw (.failed ("duplicate column name: " ++ n))
  let collations ← specs.mapM fun s =>
    match s.collation with
    | some c => collationNamed c
    | none => pure .binary
  let indexOf (c : String) : Except StoreError Nat :=
    match names.findIdx? (sameName · c) with
    | some i => .ok i
    | none => .error (.failed ("no such column: " ++ c))
  let keyOf (cols : List IndexedColumn) : Except StoreError UniqueKey := do
    let is ← cols.mapM fun c => indexOf c.name
    let cs ← (cols.zip is).mapM fun (c, i) =>
      match c.collation with
      | some n => collationNamed n
      | none => pure (collations.getD i .binary)
    pure { columns := is, collations := cs }
  let columnKeys := specs.zipIdx.filterMap fun (s, i) => if s.primaryKey then some [i] else none
  let tableKeys ← constraints.filterMapM fun c =>
    match c with
    | .primaryKey cols => do pure (some ((← keyOf cols).columns))
    | _ => pure none
  let keys := columnKeys ++ tableKeys
  if keys.length > 1 then
    throw (.failed ("table \"" ++ name ++ "\" has more than one primary key"))
  let keyColumn : Option Nat := if options.withoutRowid then none else match keys with
    | [[i]] =>
      match specs[i]? with
      | some s => if upperName s.declared == "INTEGER" && !s.descending then some i else none
      | none => none
    | _ => none
  if specs.any (·.autoincrement) && keyColumn.isNone then
    throw (.failed "AUTOINCREMENT is only allowed on an INTEGER PRIMARY KEY")
  if options.strict then
    for s in specs do
      if s.declared.isEmpty then throw (.failed ("missing datatype for " ++ name ++ "." ++ s.name))
      if !strictTypes.contains (upperName s.declared) then
        throw (.failed ("unknown datatype for " ++ name ++ "." ++ s.name ++ ": \"" ++
          s.declared ++ "\""))
  if options.withoutRowid then
    if specs.any (·.autoincrement) then
      throw (.failed "AUTOINCREMENT not allowed on WITHOUT ROWID tables")
    if keys.isEmpty then throw (.failed ("PRIMARY KEY missing on table " ++ name))
  let single (i : Nat) : UniqueKey := { columns := [i], collations := [collations.getD i .binary] }
  let uniques := specs.zipIdx.foldl (fun acc (s, i) =>
      let acc := if s.primaryKey && keyColumn.isNone then acc ++ [single i] else acc
      if s.unique then acc ++ [single i] else acc) ([] : List UniqueKey)
  let uniques ← constraints.foldlM (fun acc c =>
      match c with
      | .primaryKey cols => do
        let k ← keyOf cols
        pure (if keyColumn.isNone then acc ++ [k] else acc)
      | .unique cols => do pure (acc ++ [← keyOf cols])
      | .check _ _ => pure acc) uniques
  let keyed := keys.flatten
  let columns := (specs.zip collations).zipIdx.map fun ((s, c), i) =>
    let anyType := options.strict && upperName s.declared == "ANY"
    ({ name := s.name, declared := s.declared,
       affinity := if anyType then .blob else Affinity.ofDeclared s.declared,
       notNull := s.notNull ||
         ((options.strict || options.withoutRowid) && keyed.contains i && keyColumn != some i),
       collation := c } : Column)
  let shell : Table := { name, columns }
  let scope := [[shell.shape name]]
  let columnChecks := specs.flatMap (·.checks)
  let tableChecks := constraints.filterMap fun c =>
    match c with
    | .check label e => some (label, e)
    | _ => none
  let checks ← (columnChecks ++ tableChecks).mapM fun (label, e) => do
    pure (label, ← resolveExpr fuel env scope [] {} e)
  let columns ← (specs.zip columns).mapM fun (s, c) => do
    let d ← s.default.mapM (resolveExpr fuel env [] [] {})
    pure { c with default := d }
  let columnOrder := specs.zipIdx.filterMap fun (s, i) =>
    if s.primaryKey then some [(i, collations.getD i .binary, s.descending)] else none
  let tableOrder ← constraints.filterMapM fun c =>
    match c with
    | .primaryKey cols => do
      let k ← keyOf cols
      pure (some ((k.columns.zip k.collations).zip (cols.map (·.descending)) |>.map
        fun ((i, c), d) => (i, c, d)))
    | _ => pure none
  let order := if options.withoutRowid then (columnOrder ++ tableOrder).flatten else []
  pure { name, columns, keyColumn, autoincrement := specs.any (·.autoincrement),
         strict := options.strict, withoutRowid := options.withoutRowid, order, uniques, checks }

/-- Whether a unique constraint is what an `ON CONFLICT` target names: as many columns, each
named by the target, under the same collation when the target gives one. -/
def targetMatches (target : List (Nat × Option Collation)) (key : UniqueKey) : Bool :=
  key.columns.length == target.length &&
    (key.columns.zip key.collations).all fun (i, c) =>
      target.any fun (j, given) => j == i && (given.map (· == c)).getD true

/-- Resolves the target of an `ON CONFLICT` clause: the row key, or the position of the unique
constraint it names; `which` is the clause's ordinal, shown when more clauses follow it. -/
def resolveTarget (t : Table) (which : String) (target : List IndexedColumn) :
    Except StoreError ConflictTarget := do
  let terms ← target.mapM fun c => do
    let coll ← c.collation.mapM collationNamed
    match t.columnIndex? c.name with
    | some i => pure (some i, coll)
    | none =>
      if isKeyName c.name then pure (none, coll)
      else throw (.failed ("no such column: " ++ c.name))
  let isKey : Bool := match terms with
    | [(some i, none)] => t.keyColumn == some i
    | [(none, none)] => true
    | _ => false
  if isKey then return .key
  let cols := terms.filterMap fun (i, c) => i.map (·, c)
  let order := (List.range t.uniques.length).reverse
  match order.find? fun p => (t.uniques[p]?.map (targetMatches cols)).getD false with
  | some p => pure (.unique p)
  | none => throw (.failed (which ++
      "ON CONFLICT clause does not match any PRIMARY KEY or UNIQUE constraint"))

def resolveSets (fuel : Nat) (env : Env) (scopes : List (List Shape)) (t : Table)
    (sets : List (String × Expr)) : Except StoreError (List (Slot × Expr)) :=
  sets.mapM fun (c, e) => do
    let e' ← resolveExpr fuel env scopes [] {} e
    match slotOf t c with
    | some s => pure (s, e')
    | none => throw (.failed ("no such column: " ++ c))

/-- Resolves the `ON CONFLICT` clauses of an insert: all targets, then all updates. -/
def resolveUpserts (fuel : Nat) (env : Env) (t : Table) (shown : String) (ups : List Upsert) :
    Except StoreError (List UpsertPlan) := do
  let targets ← ups.zipIdx.mapM fun (u, i) =>
    match u.target with
    | some cols =>
      let which := if i + 1 < ups.length then ordinal (i + 1) ++ " " else ""
      resolveTarget t which cols
    | none => pure .any
  let excluded : Shape :=
    { t.shape "excluded" with keyed := false, joined := t.columns.map (·.name) }
  let scopes := [[t.shape shown, excluded]]
  (ups.zip targets).mapM fun (u, target) => do
    match u.update with
    | some (sets, filter) =>
      let sets' ← resolveSets fuel env scopes t sets
      let filter' ← filter.mapM (resolveExpr fuel env scopes [] {})
      pure { target, update := some (sets', filter') }
    | none => pure { target, update := none }

/-- Prepares a statement against a catalog. -/
def prepare (fuel : Nat) (cat : Catalog) (params : List (Option String)) :
    Statement → Except StoreError Prepared
  | .query q => do
    let (q', names, _) ← resolveQuery fuel { catalog := cat } [] q
    pure ⟨.query q', names, params⟩
  | .insert ctes conflict tn asName cols rows ups ret => do
    let env : Env := { catalog := cat, ctes := ctes.tables }
    match rows with
    | .values (r :: rest) =>
      if rest.any (·.length != r.length) then
        throw (.failed "all VALUES must have the same number of terms")
    | _ => pure ()
    let t ← writeTable cat tn
    let slots ← match cols with
      | some cs => cs.mapM fun c =>
        match slotOf t c with
        | some s => .ok s
        | none => .error (.failed ("table " ++ t.name ++ " has no column named " ++ c))
      | none => .ok (t.columns.zipIdx.map fun (_, i) => Slot.column i)
    let (rows', supplied) ← match rows with
      | .values rs => do
        let rs' ← rs.mapM (·.mapM (resolveExpr fuel env [] [] {}))
        pure (Rows.values rs', (rs.head?.map (·.length)).getD 0)
      | .query q => do
        let (q', names, _) ← resolveQuery fuel env [] q
        pure (Rows.query q', names.length)
      | .defaults => pure (Rows.defaults, 0)
    match cols, rows' with
    | _, .defaults => pure ()
    | none, _ =>
      if supplied != t.columns.length then
        throw (.failed ("table " ++ t.name ++ " has " ++ toString t.columns.length ++
          " columns but " ++ toString supplied ++ " values were supplied"))
    | some cs, _ =>
      if supplied != cs.length then
        throw (.failed (toString supplied ++ " values for " ++ toString cs.length ++ " columns"))
    let upserts ← resolveUpserts fuel env t (asName.getD t.name) ups
    let (retExprs, names) ← resolveReturning fuel env t ret
    pure ⟨.insert conflict t.name slots rows' upserts retExprs, names, params⟩
  | .update ctes conflict tn asName sets filter ret => do
    let env : Env := { catalog := cat, ctes := ctes.tables }
    let t ← writeTable cat tn
    let scopes := [[t.shape (asName.getD t.name)]]
    let sets' ← resolveSets fuel env scopes t sets
    let filter' ← filter.mapM (resolveExpr fuel env scopes [] {})
    let (retExprs, names) ← resolveReturning fuel env t ret
    pure ⟨.update conflict t.name sets' filter' retExprs, names, params⟩
  | .delete ctes tn asName filter ret => do
    let env : Env := { catalog := cat, ctes := ctes.tables }
    let t ← writeTable cat tn
    let filter' ← filter.mapM (resolveExpr fuel env [[t.shape (asName.getD t.name)]] [] {})
    let (retExprs, names) ← resolveReturning fuel env t ret
    pure ⟨.delete t.name filter' retExprs, names, params⟩
  | .createTable start specs constraints options => do
    if let some m := startFailure? cat start then throw (.failed m)
    if (cat.find? start.table.name).isSome then pure ⟨.nothing, [], params⟩
    else
      let t ← buildTable fuel { catalog := cat } start.table.name specs constraints options
      pure ⟨.create t, [], params⟩
  | .createIndex unique ifNotExists idx table cols _ => do
    if !knownSchema idx.schema then throw (.failed ("unknown database " ++ idx.schema.getD ""))
    let t ← match cat.find? table with
      | some t => pure t
      | none => throw (.failed ("no such table: " ++ idx.schema.getD "main" ++ "." ++ table))
    if reservedName idx.name then
      throw (.failed ("object name reserved for internal use: " ++ idx.name))
    if (cat.find? idx.name).isSome then
      throw (.failed ("there is already a table named " ++ idx.name))
    match cat.findIndex? idx.name with
    | some _ =>
      if ifNotExists then pure ⟨.nothing, [], params⟩
      else throw (.failed ("index " ++ idx.name ++ " already exists"))
    | none =>
      let positions ← cols.mapM fun c =>
        match t.columnIndex? c.name with
        | some i => pure i
        | none => throw (.failed ("no such column: " ++ c.name))
      let collations ← (cols.zip positions).mapM fun (c, i) =>
        match c.collation with
        | some n => collationNamed n
        | none => pure ((t.columns[i]?.map (·.collation)).getD .binary)
      pure ⟨.createIndex { name := idx.name, table := t.name, unique }
        { columns := positions, collations, index := some idx.name }, [], params⟩
  | .dropTable ifExists tn =>
    match (if knownSchema tn.schema then cat.find? tn.name else none) with
    | some t => .ok ⟨.drop t.name, [], params⟩
    | none =>
      if ifExists then .ok ⟨.nothing, [], params⟩
      else .error (.failed ("no such table: " ++ shownName tn.schema tn.name))
  | .dropIndex ifExists idx =>
    match (if knownSchema idx.schema then cat.findIndex? idx.name else none) with
    | some e => .ok ⟨.dropIndex e.name, [], params⟩
    | none =>
      if ifExists then .ok ⟨.nothing, [], params⟩
      else .error (.failed ("no such index: " ++ shownName idx.schema idx.name))
  | .begin => .ok ⟨.begin, [], params⟩
  | .commit => .ok ⟨.commit, [], params⟩
  | .rollback => .ok ⟨.rollback, [], params⟩

theorem prepare_begin (fuel : Nat) (cat : Catalog) (params : List (Option String)) :
    prepare fuel cat params .begin = .ok ⟨.begin, [], params⟩ := rfl

end DataMapper.Store
