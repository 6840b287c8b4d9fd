import DataMapper.Store.Expr
import DataMapper.Store.Table

namespace DataMapper.Store

/-- What name lookup sees of a source: the name it goes by, its columns with what is known of
them, whether its rows have keys, the column that is the key, and the columns only a
qualified name reaches. -/
structure Shape where
  name : String
  columns : List (String × ColumnInfo)
  keyed : Bool
  keyColumn : Option Nat := none
  joined : List String := []

def Table.shape (t : Table) (as : String) : Shape :=
  { name := as, keyed := !t.withoutRowid, keyColumn := t.keyColumn,
    columns := t.columns.map fun c =>
      (c.name, { affinity := some c.affinity, collation := some c.collation }) }

def isKeyName (c : String) : Bool := ["rowid", "oid", "_rowid_"].contains (foldName c)

def shownName (table : Option String) (col : String) : String :=
  match table with
  | some t => t ++ "." ++ col
  | none => col

/-- Looks a column up in the scopes, innermost first; `none` when no scope has it. -/
def lookup (scopes : List (List Shape)) (table : Option String) (col : String) :
    Except StoreError (Option Expr) :=
  go scopes 0
where
  /-- Looks in the scopes left, the first of which is `up` scopes out. -/
  go : List (List Shape) → Nat → Except StoreError (Option Expr)
    | [], _ => .ok none
    | scope :: rest, up =>
      let cands := scope.zipIdx.filter fun (s, _) =>
        match table with
        | some t => sameName s.name t
        | none => true
      let hits := cands.filterMap fun (s, i) =>
        if table.isNone && s.joined.any (sameName · col) then none
        else
          (s.columns.findIdx? fun (n, _) => sameName n col).map fun j =>
            (i, j, (s.columns[j]?.map (·.2)).getD {})
      match hits with
      | [(i, j, info)] => .ok (some (.ref up i (.column j) info))
      | _ :: _ :: _ => .error (.failed ("ambiguous column name: " ++ shownName table col))
      | [] =>
        if isKeyName col then
          match cands.filter (·.1.keyed) with
          | [(_, i)] => .ok (some (.ref up i .key { affinity := some .integer }))
          | _ :: _ :: _ => .error (.failed ("ambiguous column name: " ++ shownName table col))
          | [] => go rest (up + 1)
        else go rest (up + 1)

/-- The name of a result column: its alias, the column it reads, or its text. -/
def outputName (scopes : List (List Shape)) (e : Expr) (asName : Option String) (text : String) :
    String :=
  match asName with
  | some a => a
  | none =>
    match e with
    | .ref up src slot _ =>
      match (scopes[up]?.bind (·[src]?)) with
      | some s =>
        match slot with
        | .column i => ((s.columns[i]?).map (·.1)).getD text
        | .key =>
          match s.keyColumn with
          | some k => ((s.columns[k]?).map (·.1)).getD "rowid"
          | none => "rowid"
      | none => text
    | _ => text

/-- Makes names unique without regard to case, suffixing `:N` to a repeated name. -/
def uniqueNames (names : List String) : List String :=
  (names.foldl (fun acc n => acc ++ [fresh acc n 0 (acc.length + 2)]) [])
where
  /-- A name not yet taken: the name, or its stem with the next count. -/
  fresh (taken : List String) (n : String) (count : Nat) : Nat → String
    | 0 => n
    | fuel + 1 =>
      if taken.any (sameName · n) then
        let stem := stemOf n
        fresh taken (stem ++ ":" ++ toString (count + 1)) (count + 1) fuel
      else n
  /-- A name without a `:N` suffix. -/
  stemOf (n : String) : String :=
    let cs := n.toList.reverse
    let digits := cs.takeWhile Char.isDigit
    match cs.drop digits.length with
    | ':' :: rest => if digits.isEmpty || rest.isEmpty then n else String.ofList rest.reverse
    | _ => n

def ordinal (n : Nat) : String :=
  let suffix :=
    if n % 100 ≥ 11 && n % 100 ≤ 13 then "th"
    else if n % 10 == 1 then "st" else if n % 10 == 2 then "nd" else if n % 10 == 3 then "rd"
    else "th"
  toString n ++ suffix

abbrev Resolved := Expr × Option String × String

def starOf (s : Shape) (i : Nat) (skipJoined : Bool) : List Resolved :=
  (s.columns.zipIdx.filter fun ((n, _), _) => !(skipJoined && s.joined.any (sameName · n))).map
    fun ((n, info), j) => (.ref 0 i (.column j) info, none, n)

def starColumns (shapes : List Shape) : List Resolved :=
  shapes.zipIdx.flatMap fun (s, i) => starOf s i true

def tooDeep {α : Type} : Except StoreError α := .error (.failed "parser stack overflow")

/-- What resolution sees besides the scopes: the tables, the common tables in scope (name,
column names and query), the common tables being defined, the tables being defined by
recursion with their column names, and the current select's named windows, completed. -/
structure Env where
  catalog : Catalog
  ctes : List (String × List String × Query) := []
  defining : List String := []
  working : List (String × List String) := []
  windows : List (String × Window) := []

/-- What a clause allows: aggregates, and window functions. -/
structure Allow where
  aggregate : Bool := false
  window : Bool := false

def Core.readsOf (name : String) : Core → Nat
  | .select _ _ sources .. => (sources.filter fun j =>
      match j with
      | .mk _ _ (.table none n _) _ _ => sameName n name
      | _ => false).length
  | .values _ => 0

def Core.aggregates (fuel : Nat) : Core → Bool
  | .select _ outputs _ _ groups _ _ _ => !groups.isEmpty || outputs.any fun o =>
      match o with
      | .expr e _ _ => e.hasAggregate fuel
      | _ => false
  | .values _ => false

/-- The number of first parts of a common table's query that give its first rows, when its
last parts, joined by the operator of the last one (`UNION` or `UNION ALL`), read it. -/
def recursiveSeeds (name : String) : Query → Option Nat
  | .mk _ _ _ rest _ _ _ =>
    match rest.getLast? with
    | some (lastOp, _) =>
      if lastOp == .unionAll || lastOp == .union then
        let steps := (rest.reverse.takeWhile fun (op, c) => op == lastOp && c.readsOf name > 0)
        if steps.isEmpty then none else some (rest.length + 1 - steps.length)
      else none
    | none => none

def seedQuery (q : Query) (n : Nat) : Query :=
  match q with
  | .mk r ctes first rest _ _ _ => .mk r ctes first (rest.take (n - 1)) [] none none

def stripCollate : Nat → Expr → Option String × Expr
  | 0, e => (none, e)
  | f + 1, .collate a c => (some c, (stripCollate f a).2)
  | _ + 1, e => (none, e)

def constantOffset (fuel : Nat) (e : Expr) : Bool :=
  !e.anyNode (fun x =>
    match x with
    | .name _ n _ => !(foldName n == "true" || foldName n == "false")
    | .param _ | .ref .. | .present _ | .scalar _ | .inQuery .. => true
    | _ => false) fuel

def Bound.constant (fuel : Nat) : Bound → Bound
  | .preceding n => .preceding (if constantOffset fuel n then n else .lit .null)
  | .following n => .following (if constantOffset fuel n then n else .lit .null)
  | b => b

def Bound.hasOffset : Bound → Bool
  | .preceding _ | .following _ => true
  | _ => false

/-- Completes a window from the named window it builds on: a bare name takes all of that
window; otherwise the window may add an order to one without, and its own frame to one
without. -/
def completeWindow (named : List (String × Window)) : Window → Except StoreError Window
  | .mk none bare partition order frame => .ok (.mk none bare partition order frame)
  | .mk (some b) bare partition order frame =>
    match named.reverse.find? (fun (n, _) => sameName n b) with
    | none => .error (.failed ("no such window: " ++ b))
    | some (_, .mk _ _ bp bo bf) =>
      if bare then .ok (.mk none false bp bo bf)
      else if !partition.isEmpty then
        .error (.failed ("cannot override PARTITION clause of window: " ++ b))
      else if !order.isEmpty && !bo.isEmpty then
        .error (.failed ("cannot override ORDER BY clause of window: " ++ b))
      else if bf.isSome then
        .error (.failed ("cannot override frame specification of window: " ++ b))
      else .ok (.mk none false bp (if order.isEmpty then bo else order) frame)

def completeWindows (defs : List (String × Window)) : Except StoreError (List (String × Window)) :=
  defs.foldlM (fun done (n, w) => do pure (done ++ [(n, ← completeWindow done w)])) []

/-- Replaces the window calls of an expression, outside its subqueries, by their numbers in
the list of calls, adding them to it. -/
def numberWindows : Nat → Expr → StateM (List Expr) Expr
  | 0, e => pure e
  | f + 1, e =>
    if e.isWindowCall then do
      let calls ← get
      set (calls ++ [e])
      pure (.windowed calls.length)
    else
      let go := numberWindows f
      match e with
      | .unary op a => do pure (.unary op (← go a))
      | .binary op a b => do pure (.binary op (← go a) (← go b))
      | .collate a c => do pure (.collate (← go a) c)
      | .isNull n a => do pure (.isNull n (← go a))
      | .like n g a p esc => do pure (.like n g (← go a) (← go p) (← esc.mapM go))
      | .between n a lo hi => do pure (.between n (← go a) (← go lo) (← go hi))
      | .inList n a items => do pure (.inList n (← go a) (← items.mapM go))
      | .inQuery n a q => do pure (.inQuery n (← go a) q)
      | .call fn d args filter none => do
        pure (.call fn d (← args.mapM go) (← filter.mapM go) none)
      | .countAll filter none => do pure (.countAll (← filter.mapM go) none)
      | .cast a ty => do pure (.cast (← go a) ty)
      | .cases b arms o => do
        let b' ← b.mapM go
        let arms' ← arms.mapM fun (c, v) => do pure (← go c, ← go v)
        pure (.cases b' arms' (← o.mapM go))
      | other => pure other

def firstAggregate : Nat → Expr → Option String
  | 0, _ => none
  | f + 1, e =>
    match e with
    | .call fn _ args _ none => if fnKind fn args.length == .aggregate then some fn else
        e.children.findSome? (firstAggregate f)
    | .countAll _ none => some "count"
    | _ => e.children.findSome? (firstAggregate f)

def opName : SetOp → String
  | .unionAll => "UNION ALL"
  | .union => "UNION"
  | .intersect => "INTERSECT"
  | .except => "EXCEPT"

/-- The error for parts of a compound with different numbers of columns, told by the part on
the right. -/
def widthError (right : Core) (op : SetOp) : StoreError :=
  match right with
  | .values _ => .failed "all VALUES must have the same number of terms"
  | .select .. => .failed ("SELECTs to the left and right of " ++ opName op ++
      " do not have the same number of result columns")

/-- A resolved part of a query: the part, its result columns' names, what is known of them,
its result expressions with their aliases, the shapes of its sources, and its order terms
(for a select that is the whole query). -/
structure Part where
  core : Core
  names : List String
  infos : List ColumnInfo
  outputs : List (Expr × Option String)
  shapes : List Shape
  order : List (Expr × Direction) := []

/-- The collation of each result column of a compound: that of the first part whose column
has one, else `BINARY`. -/
def compoundCollations (fuel : Nat) (parts : List (List Expr)) (width : Nat) : List Collation :=
  (List.range width).map fun k =>
    (parts.findSome? fun p => p[k]?.bind (·.collation fuel)).getD .binary

def outOfRange (pos : Nat) (clause : String) (width : Nat) : StoreError :=
  .failed (ordinal pos ++ " " ++ clause ++ " term out of range - should be between 1 and " ++
    toString width)

mutual

/-- Resolves the names of an expression; `aliases` are the result columns a bare name may
pick when no column has it. -/
def resolveExpr : Nat → Env → List (List Shape) → List (String × Expr) → Allow → Expr →
    Except StoreError Expr
  | 0, _, _, _, _, _ => tooDeep
  | f + 1, env, scopes, aliases, allow, e =>
    let go := resolveExpr f env scopes aliases allow
    let inner : Allow := { aggregate := false, window := false }
    match e with
    | .lit _ | .param _ | .ref .. | .output _ | .windowed _ => .ok e
    | .name table col quoted => do
      match ← lookup scopes table col with
      | some r => pure r
      | none =>
        if table.isNone then
          match aliases.find? (fun (a, _) => sameName a col) with
          | some (_, x) => pure x
          | none =>
            if quoted then pure (.lit (.text col))
            else if foldName col == "true" then pure (.lit (.integer 1))
            else if foldName col == "false" then pure (.lit (.integer 0))
            else throw (.failed ("no such column: " ++ col))
        else throw (.failed ("no such column: " ++ shownName table col))
    | .unary op a => do pure (.unary op (← go a))
    | .binary op a b => do pure (.binary op (← go a) (← go b))
    | .collate a c => do
      let a' ← go a
      if (Collation.ofName? c).isNone then throw (.failed ("no such collation sequence: " ++ c))
      pure (.collate a' c)
    | .isNull n a => do pure (.isNull n (← go a))
    | .like n g a p esc => do pure (.like n g (← go a) (← go p) (← esc.mapM go))
    | .between n a lo hi => do pure (.between n (← go a) (← go lo) (← go hi))
    | .inList n a items => do pure (.inList n (← go a) (← items.mapM go))
    | .inQuery n a q => do
      let a' ← go a
      let (q', names, _) ← resolveQuery f env scopes q
      if names.length != 1 then
        throw (.failed ("sub-select returns " ++ toString names.length ++ " columns - expected 1"))
      pure (.inQuery n a' q')
    | .present q => do
      let (q', _, _) ← resolveQuery f env scopes q
      pure (.present q')
    | .scalar q => do
      let (q', names, _) ← resolveQuery f env scopes q
      if names.length != 1 then
        throw (.failed ("sub-select returns " ++ toString names.length ++ " columns - expected 1"))
      pure (.scalar q')
    | .call fn distinct args filter win =>
      let kind := fnKind fn args.length
      match win with
      | some w =>
        match kind with
        | .unknown => .error (.failed ("no such function: " ++ fn))
        | .scalar => .error (.failed (fn ++ "() may not be used as a window function"))
        | .wrongCount => .error (.failed ("wrong number of arguments to function " ++ fn ++ "()"))
        | _ =>
          if !allow.window then .error (.failed ("misuse of window function " ++ fn ++ "()"))
          else do
            let sub : Allow := { allow with window := false }
            let args' ← args.mapM (resolveExpr f env scopes aliases sub)
            let w ← completeWindow env.windows w
            if filter.isSome && kind == .window then
              throw (.failed "FILTER clause may only be used with aggregate window functions")
            let w' ← resolveWindow f env scopes aliases sub w
            let filter' ← filter.mapM (resolveExpr f env scopes aliases sub)
            pure (.call fn distinct args' filter' (some w'))
      | none =>
        match kind with
        | .window => .error (.failed ("misuse of window function " ++ fn ++ "()"))
        | .aggregate =>
          if !allow.aggregate then .error (.failed ("misuse of aggregate function " ++ fn ++ "()"))
          else do
            let args' ← args.mapM (resolveExpr f env scopes aliases inner)
            let filter' ← filter.mapM (resolveExpr f env scopes aliases inner)
            pure (.call fn distinct args' filter' none)
        | .unknown => .error (.failed ("no such function: " ++ fn))
        | .wrongCount => .error (.failed ("wrong number of arguments to function " ++ fn ++ "()"))
        | .scalar =>
          if filter.isSome then
            .error (.failed ("FILTER may not be used with non-aggregate " ++ fn ++ "()"))
          else do
            let args' ← args.mapM go
            if upperName fn == "LIKELIHOOD" && !((args.getD 1 (.lit .null)).isProbability) then
              throw (.failed ("second argument to " ++ fn ++
                "() must be a constant between 0.0 and 1.0"))
            pure (.call fn distinct args' none none)
    | .countAll filter win =>
      match win with
      | some w =>
        if !allow.window then .error (.failed "misuse of window function count()")
        else do
          let sub : Allow := { allow with window := false }
          let w ← completeWindow env.windows w
          let w' ← resolveWindow f env scopes aliases sub w
          let filter' ← filter.mapM (resolveExpr f env scopes aliases sub)
          pure (.countAll filter' (some w'))
      | none =>
        if !allow.aggregate then .error (.failed "misuse of aggregate function count()")
        else do
          let filter' ← filter.mapM (resolveExpr f env scopes aliases inner)
          pure (.countAll filter' none)
    | .cast a ty => do pure (.cast (← go a) ty)
    | .cases b arms o => do
      let b' ← b.mapM go
      let arms' ← arms.mapM fun (c, v) => do pure (← go c, ← go v)
      pure (.cases b' arms' (← o.mapM go))

/-- Resolves the terms of a completed window, and its frame offsets, which read nothing. -/
def resolveWindow : Nat → Env → List (List Shape) → List (String × Expr) → Allow → Window →
    Except StoreError Window
  | 0, _, _, _, _, _ => tooDeep
  | f + 1, env, scopes, aliases, allow, .mk _ _ partition order frame => do
    match frame with
    | some (.mk .range s e _) =>
      if (s.hasOffset || e.hasOffset) && order.length != 1 then
        throw (.failed "RANGE with offset PRECEDING/FOLLOWING requires one ORDER BY expression")
    | _ => pure ()
    let go := resolveExpr f env scopes aliases allow
    let partition' ← partition.mapM go
    let order' ← order.mapM fun (t, d) => do pure (← go t, d)
    let bound (b : Bound) : Except StoreError Bound :=
      match b.constant f with
      | .preceding n => do pure (.preceding (← resolveExpr f env [] [] {} n))
      | .following n => do pure (.following (← resolveExpr f env [] [] {} n))
      | other => pure other
    let frame' ← frame.mapM fun (.mk unit s e ex) => do
      pure (Frame.mk unit (← bound s) (← bound e) ex)
    pure (.mk none false partition' order' frame')

/-- Resolves a query seen from the given outer scopes; gives it with its result columns'
names and what is known of them (from its first part). -/
def resolveQuery : Nat → Env → List (List Shape) → Query →
    Except StoreError (Query × List String × List ColumnInfo)
  | 0, _, _, _ => tooDeep
  | f + 1, env, outer, .mk _ ctes first rest order limit offset => do
    let env := { env with ctes := ctes ++ env.ctes }
    let limit' ← limit.mapM (resolveExpr f env [] [] {})
    let offset' ← offset.mapM (resolveExpr f env [] [] {})
    match rest, first with
    | [], .select .. =>
      let p ← resolveCore f env outer first order
      pure (.mk false [] p.core [] p.order limit' offset', p.names, p.infos)
    | _, _ =>
      let parts := (none, first) :: rest.map fun (op, c) => (some op, c)
      let resolved := (← resolveParts f env outer parts.reverse none).reverse
      let ps := resolved.map (·.2)
      match ps with
      | [] => tooDeep
      | p0 :: _ =>
        let collations := compoundCollations f (ps.map fun p => p.outputs.map (·.1))
          p0.names.length
        let order' ← compoundOrder f env outer ps collations order
        let others := resolved.drop 1 |>.filterMap fun (op, p) => op.map (·, p.core)
        pure (.mk false [] p0.core others order' limit' offset', p0.names, p0.infos)

/-- Resolves the parts of a compound, given from the last to the first, checking each against
the part on its right (its number of columns, the part itself, and its operator). -/
def resolveParts : Nat → Env → List (List Shape) → List (Option SetOp × Core) →
    Option (Nat × Core × SetOp) → Except StoreError (List (Option SetOp × Part))
  | 0, _, _, _, _ => tooDeep
  | _ + 1, _, _, [], _ => pure []
  | f + 1, env, outer, (op, c) :: more, right => do
    let p ← resolveCore f env outer c []
    match right with
    | some (w, rc, rop) => if p.names.length != w then throw (widthError rc rop)
    | none => pure ()
    let others ← resolveParts f env outer more (op.map fun o => (p.names.length, c, o))
    pure ((op, p) :: others)

/-- Resolves the order of a compound: each term must pick a result column, and orders under
its own collation or else the column's. -/
def compoundOrder : Nat → Env → List (List Shape) → List Part → List Collation →
    List (Expr × Direction) → Except StoreError (List (Expr × Direction))
  | 0, _, _, _, _, _ => tooDeep
  | f + 1, env, outer, parts, collations, order => do
    let width := collations.length
    for ((t, _), i) in order.zipIdx do
      match (stripCollate f t).2 with
      | .lit (.integer k) => if k < 1 || k > width then throw (outOfRange (i + 1) "ORDER BY" width)
      | _ => pure ()
    order.zipIdx.mapM fun ((t, d), i) => do
      let (explicit, bare) := stripCollate f t
      let pick : Option Nat := match bare with
        | .lit (.integer k) => some (k - 1).toNat
        | _ => parts.findSome? fun p =>
          let byAlias : Option Nat := match bare with
            | .name none n _ => p.outputs.findIdx? fun (_, a) => (a.map (sameName · n)).getD false
            | _ => none
          byAlias.orElse fun _ =>
            match resolveExpr f env (p.shapes :: outer) [] { aggregate := true } bare with
            | .ok r => p.outputs.findIdx? fun (e, _) => Expr.sameAs f (stripCollate f e).2 r
            | .error _ => none
      match pick with
      | none => throw (.failed (ordinal (i + 1) ++
          " ORDER BY term does not match any column in the result set"))
      | some k =>
        let coll := explicit.getD (collations[k]?.getD .binary).name
        pure (.collate (.output k) coll, d)

/-- Resolves a part of a query: a select with its order terms (given for a select that is
the whole query), or a list of rows. -/
def resolveCore : Nat → Env → List (List Shape) → Core → List (Expr × Direction) →
    Except StoreError Part
  | 0, _, _, _, _ => tooDeep
  | f + 1, env, outer, .values rows, _ => do
    let mut done : List (List Expr) := []
    let mut right : Option Nat := none
    for r in rows.reverse do
      let r' ← r.mapM (resolveExpr f env outer [] {})
      if let some w := right then
        if r.length != w then throw (.failed "all VALUES must have the same number of terms")
      right := some r.length
      done := r' :: done
    let firstRow := (done.head?).getD []
    pure { core := .values done,
           names := (List.range firstRow.length).map fun k => "column" ++ toString (k + 1),
           infos := firstRow.map fun e =>
             { affinity := e.affinity f, collation := e.collation f },
           outputs := firstRow.map fun e => (e, none), shapes := [] }
  | f + 1, env, outer, .select distinct outputs sources filter groups having windows _, order => do
    let named ← completeWindows windows
    let env := { env with windows := named }
    let resolved ← resolveSources f env outer sources
    let shapes := resolved.map (·.2)
    let joinCols := (sources.zip shapes).zipIdx.map fun ((j, shape), i) =>
      match j with
      | .mk _ natural _ _ cols =>
        if natural then
          shape.columns.filterMap fun (n, _) =>
            if (shapes.take i).any (fun b => b.columns.any (sameName ·.1 n)) then some n else none
        else cols
    let usingConds ← (shapes.zip joinCols).zipIdx.mapM fun ((shape, cols), i) =>
      cols.mapM fun c => do
        let left := (shapes.take i).zipIdx.find? fun (b, _) => b.columns.any (sameName ·.1 c)
        match left, shape.columns.findIdx? (sameName ·.1 c) with
        | some (b, bi), some rj =>
          let lj := (b.columns.findIdx? (sameName ·.1 c)).getD 0
          let linfo := (b.columns[lj]?.map (·.2)).getD {}
          let rinfo := (shape.columns[rj]?.map (·.2)).getD {}
          pure (Expr.binary .eq (.ref 0 bi (.column lj) linfo) (.ref 0 i (.column rj) rinfo))
        | _, _ => throw (.failed ("cannot join using column " ++ c ++
            " - column not present in both tables"))
    let shapes := (shapes.zip joinCols).map fun (s, cols) => { s with joined := cols }
    let scopes := shapes :: outer
    let outs ← outputs.flatMapM fun o =>
      match o with
      | .all =>
        if shapes.isEmpty then .error (.failed "no tables specified")
        else .ok (starColumns shapes)
      | .allOf t =>
        match shapes.zipIdx.filter (fun (s, _) => sameName s.name t) with
        | [] => .error (.failed ("no such table: " ++ t))
        | hits => .ok (hits.flatMap fun (s, i) => starOf s i false)
      | .expr e asName text => .ok [(e, asName, text)]
    let everything : Allow := { aggregate := true, window := true }
    let outs ← outs.mapM fun (e, a, t) => do
      pure (← resolveExpr f env scopes [] everything e, a, t)
    let grouped := !groups.isEmpty || outs.any (fun (e, _, _) => e.hasAggregate f)
    let names := outs.map fun (e, a, t) => outputName scopes e a t
    let aliases := outs.filterMap fun (e, a, _) => a.map (·, e)
    if having.isSome && !grouped then throw (.failed "HAVING clause on a non-aggregate query")
    let having' ← having.mapM (resolveExpr f env scopes aliases { aggregate := true })
    let filter' ← filter.mapM (resolveExpr f env scopes aliases { aggregate := grouped })
    let ons ← sources.mapM fun (.mk _ _ _ on _) =>
      on.mapM (resolveExpr f env scopes aliases { aggregate := grouped })
    for (_, w) in named do
      discard <| resolveWindow f env scopes aliases { aggregate := grouped } w
    let order' ← order.zipIdx.mapM fun ((t, d), i) => do
      pure (← orderTerm f env scopes aliases outs everything (i + 1) t, d)
    let groups' ← groups.zipIdx.mapM fun (g, i) => do
      let g' ← groupTerm f env scopes aliases outs (i + 1) g
      if g'.hasAggregate f then
        throw (.failed "aggregate functions are not allowed in the GROUP BY clause")
      pure g'
    let misplaced := if grouped then
        (filter'.toList ++ ons.filterMap id).findSome? (firstAggregate f)
      else order'.findSome? fun (t, _) => firstAggregate f t
    if let some fn := misplaced then throw (.failed ("misuse of aggregate: " ++ fn ++ "()"))
    let counted := outs.map (·.1) ++ having'.toList ++ order'.map (·.1)
    if grouped && counted.any (Expr.hasDistinctMisfit f) then
      throw (.failed "DISTINCT aggregates must have exactly one argument")
    let joins := ((sources.zip resolved).zip ((usingConds.zip ons).zip joinCols)).map
      fun ((j, (s', _)), ((conds, on), cols)) =>
        match j with
        | .mk kind _ _ _ _ =>
          let cond := (conds ++ on.toList).foldl (fun acc c =>
            match acc with
            | some a => some (Expr.binary .and a c)
            | none => some c) none
          Join.mk kind false s' cond cols
    let numberOuts : StateM (List Expr) (List Expr) :=
      outs.mapM fun ((e, _, _) : Resolved) => numberWindows f e
    let numberOrder : StateM (List Expr) (List Expr) :=
      order'.mapM fun ((t, _) : Expr × Direction) => numberWindows f t
    let (exprs, calls) := numberOuts.run []
    let (orderExprs, calls) := numberOrder.run calls
    let outs' := (exprs.zip outs).map fun (e, (_, a, t)) => Output.expr e a t
    pure { core := .select distinct outs' joins filter' groups' having' [] calls,
           names,
           infos := outs.map fun (e, _, _) =>
             { affinity := e.affinity f, collation := e.collation f },
           outputs := outs.map fun (e, a, _) => (e, a),
           shapes,
           order := (orderExprs.zip order').map fun (e, (_, d)) => (e, d) }

/-- Resolves the sources of a select: each one's resolved form and shape. -/
def resolveSources : Nat → Env → List (List Shape) → List Join →
    Except StoreError (List (Source × Shape))
  | 0, _, _, _ => tooDeep
  | f + 1, env, outer, joins => joins.mapM fun (.mk _ _ s _ _) =>
    match s with
    | .table schema name asName => resolveTable f env outer schema name asName
    | .query q asName => do
      let (q', names, infos) ← resolveQuery f { env with windows := [] } outer q
      pure (.query q' asName,
        { name := asName.getD "", columns := (uniqueNames names).zip infos, keyed := false })
    | other => pure (other, { name := "", columns := [], keyed := false })

/-- Resolves a named source: a table being defined by recursion, a common table in scope, or
a stored table. -/
def resolveTable : Nat → Env → List (List Shape) → Option String → String → Option String →
    Except StoreError (Source × Shape)
  | 0, _, _, _, _, _ => tooDeep
  | f + 1, env, outer, schema, name, asName => do
    let shown := asName.getD name
    let working := if schema.isNone then env.working.find? (fun (n, _) => sameName n name)
      else none
    let cte := if schema.isNone then env.ctes.find? (fun (n, _) => sameName n name) else none
    match working, cte with
    | some (n, cols), _ =>
      pure (.working n asName,
        { name := shown, columns := cols.map fun c => (c, {}), keyed := false })
    | none, some (n, cols, q) =>
      if env.defining.any (sameName · n) then throw (.failed ("circular reference: " ++ n))
      let env' := { env with defining := n :: env.defining, windows := [] }
      let named (found : List String) (infos : List ColumnInfo) :
          Except StoreError (List (String × ColumnInfo)) :=
        if cols.isEmpty then .ok ((uniqueNames found).zip infos)
        else if cols.length != found.length then
          .error (.failed ("table " ++ n ++ " has " ++ toString found.length ++
            " values for " ++ toString cols.length ++ " columns"))
        else .ok (cols.zip infos)
      match recursiveSeeds n q with
      | some seeds => do
        let (_, seedNames, infos) ← resolveQuery f env' outer (seedQuery q seeds)
        let columns ← named seedNames infos
        let env'' := { env' with working := (n, columns.map (·.1)) :: env'.working }
        match q with
        | .mk _ _ _ rest _ _ _ =>
          for (_, c) in rest.drop (seeds - 1) do
            if c.readsOf n > 1 then
              throw (.failed ("multiple references to recursive table: " ++ n))
            if c.aggregates f then throw (.failed "recursive aggregate queries not supported")
        let (q', _, _) ← resolveQuery f env'' outer q
        pure (.recursive n q' seeds asName, { name := shown, columns, keyed := false })
      | none => do
        let (q', found, infos) ← resolveQuery f env' outer q
        let columns ← named found infos
        pure (.query q' (some shown), { name := shown, columns, keyed := false })
    | none, none =>
      match env.catalog.find? name with
      | some t =>
        if (schema.map fun d => sameName d "main" || sameName d "temp").getD true then
          pure (.table schema t.name asName, t.shape shown)
        else throw (.failed ("no such table: " ++ shownName schema name))
      | none => throw (.failed ("no such table: " ++ shownName schema name))

/-- Resolves an order term of a select: a bare alias or a position picks a result column
(keeping the term's collation); anything else is an expression. -/
def orderTerm : Nat → Env → List (List Shape) → List (String × Expr) → List Resolved → Allow →
    Nat → Expr → Except StoreError Expr
  | 0, _, _, _, _, _, _, _ => tooDeep
  | f + 1, env, scopes, aliases, outs, allow, pos, t =>
    let (explicit, bare) := stripCollate f t
    let wrap (x : Expr) : Expr := match explicit with
      | some c => .collate x c
      | none => x
    let byAlias : Option Expr := match bare with
      | .name none n _ => outs.findSome? fun (e, a, _) =>
          if (a.map (sameName · n)).getD false then some e else none
      | _ => none
    match byAlias, bare with
    | some x, _ => .ok (wrap x)
    | none, .lit (.integer k) =>
      if 1 ≤ k && k ≤ outs.length then .ok (wrap ((outs[(k - 1).toNat]?.map (·.1)).getD t))
      else .error (outOfRange pos "ORDER BY" outs.length)
    | none, _ => resolveExpr f env scopes aliases allow t

/-- Resolves a grouping term: a position picks a result column; anything else is an
expression, whose bare names may be aliases when no column has them. -/
def groupTerm : Nat → Env → List (List Shape) → List (String × Expr) → List Resolved →
    Nat → Expr → Except StoreError Expr
  | 0, _, _, _, _, _, _ => tooDeep
  | f + 1, env, scopes, aliases, outs, pos, t =>
    let (explicit, bare) := stripCollate f t
    match bare with
    | .lit (.integer k) =>
      if 1 ≤ k && k ≤ outs.length then
        let x := (outs[(k - 1).toNat]?.map (·.1)).getD t
        .ok (match explicit with
          | some c => .collate x c
          | none => x)
      else .error (outOfRange pos "GROUP BY" outs.length)
    | _ => resolveExpr f env scopes aliases { aggregate := true } t

end

def Core.outputExprs : Core → List Expr
  | .select _ outputs .. => outputs.filterMap fun o =>
    match o with
    | .expr e _ _ => some e
    | _ => none
  | .values rows => (rows.head?).getD []

end DataMapper.Store
