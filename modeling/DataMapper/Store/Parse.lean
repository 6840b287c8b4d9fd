import DataMapper.Store.Reading

namespace DataMapper.Store

namespace Reading

def atQueryStart : Reading Bool := do
  return (← atKeyword "SELECT") || (← atKeyword "VALUES") || (← atKeyword "WITH")

def atKeywordThen (k s : String) : Reading Bool := do
  match ← peek, ← peekSecond with
  | some t, some u => return isKeyword t k && u.kind == .symbol && u.value == s
  | _, _ => return false

def atOver : Reading Bool := do
  match ← peek, ← peekSecond with
  | some t, some u =>
    return isKeyword t "OVER" && ((u.kind == .symbol && u.value == "(") || canIdentify u)
  | _, _ => return false

def atWindowClause : Reading Bool := do
  match ← peek, ← peekSecond, ((← get).tokens.drop 2).head? with
  | some t, some u, some v => return isKeyword t "WINDOW" && canIdentify u && isKeyword v "AS"
  | _, _, _ => return false

def aliasOf : Reading (Option String) := do
  if ← keyword? "AS" then some <$> name
  else
    match ← peek with
    | some t => if canAlias t then advance; pure (some t.value) else pure none
    | none => pure none

def idList : Nat → Reading (List String)
  | 0 => overflow
  | f + 1 => do
    let n ← name
    if ← symbol? "," then pure (n :: (← idList f)) else pure [n]

/-- Reads columns of an index or a key: names, each with an optional collation and
direction. -/
def indexedColumns : Nat → Reading (List IndexedColumn)
  | 0 => overflow
  | f + 1 => do
    let n ← name
    let coll ← if ← keyword? "COLLATE" then some <$> nameWith canAlias else pure none
    let descending ← if ← keyword? "DESC" then pure true else do
      discard <| keyword? "ASC"
      pure false
    let c : IndexedColumn := { name := n, collation := coll, descending }
    if ← symbol? "," then pure (c :: (← indexedColumns f)) else pure [c]

/-- The join a run of join words makes: its kind and whether it is natural; `none` for an
unknown combination. -/
def joinKindOf (words : List String) : Option (JoinKind × Bool) :=
  let ws := words.map upper
  let known := ["NATURAL", "LEFT", "OUTER", "RIGHT", "FULL", "INNER", "CROSS"]
  if !ws.all known.contains then none
  else
    let left := ws.contains "LEFT" || ws.contains "FULL"
    let right := ws.contains "RIGHT" || ws.contains "FULL"
    let outer := ws.contains "OUTER" || left || right
    let inner := ws.contains "INNER" || ws.contains "CROSS"
    if (inner && outer) || (outer && !left && !right) then none
    else
      let kind := if left && right then JoinKind.full else if left then .left
        else if right then .right else if ws.contains "CROSS" then .cross else .inner
      some (kind, ws.contains "NATURAL")

/-- Reads a join operator after a source: a comma, `JOIN`, or one to three words the first of
which is a join word, then `JOIN`. -/
def joinOperator : Reading (Option (JoinKind × Bool)) := do
  if ← symbol? "," then return some (.inner, false)
  if ← keyword? "JOIN" then return some (.inner, false)
  match ← peek with
  | some t =>
    if t.kind == .word && joinWords.contains (upper t.text) then
      advance
      let mut words := [t]
      for _ in [0:2] do
        if !(← atKeyword "JOIN") then
          match ← peek with
          | some u => if canName u then advance; words := words ++ [u] else failHere
          | none => failHere
      keyword "JOIN"
      match joinKindOf (words.map (·.text)) with
      | some k => return some k
      | none =>
        throw (.other ("unknown join type: " ++ " ".intercalate (words.map (·.text))))
    else return none
  | none => return none

mutual

def expr : Nat → Reading Expr
  | 0 => overflow
  | f + 1 => do
    let a ← andLevel f
    orTail f a

def orTail : Nat → Expr → Reading Expr
  | 0, _ => overflow
  | f + 1, a => do
    if ← keyword? "OR" then
      let b ← andLevel f
      orTail f (.binary .or a b)
    else pure a

def andLevel : Nat → Reading Expr
  | 0 => overflow
  | f + 1 => do
    let a ← notLevel f
    andTail f a

def andTail : Nat → Expr → Reading Expr
  | 0, _ => overflow
  | f + 1, a => do
    if ← keyword? "AND" then
      let b ← notLevel f
      andTail f (.binary .and a b)
    else pure a

def notLevel : Nat → Reading Expr
  | 0 => overflow
  | f + 1 => do
    if ← keyword? "NOT" then pure (.unary .not (← notLevel f))
    else
      let a ← orderLevel f
      equalityTail f a

/-- The rest of a chain of equalities, `IS`, `LIKE`, `BETWEEN`, `IN` and null tests. -/
def equalityTail : Nat → Expr → Reading Expr
  | 0, _ => overflow
  | f + 1, a => do
    match ← peek with
    | none => pure a
    | some t =>
      if t.kind == .symbol && t.value == "=" then
        advance; equalityTail f (.binary .eq a (← orderLevel f))
      else if t.kind == .symbol && t.value == "!=" then
        advance; equalityTail f (.binary .ne a (← orderLevel f))
      else if isKeyword t "IS" then
        advance
        let negated ← keyword? "NOT"
        if ← keyword? "DISTINCT" then
          keyword "FROM"
          let b ← orderLevel f
          equalityTail f (.binary (if negated then .is else .isNot) a b)
        else
          let b ← orderLevel f
          equalityTail f (.binary (if negated then .isNot else .is) a b)
      else if isKeyword t "ISNULL" then
        advance; equalityTail f (.isNull false a)
      else if isKeyword t "NOTNULL" then
        advance; equalityTail f (.isNull true a)
      else if isKeyword t "NOT" then
        advance
        if ← keyword? "NULL" then equalityTail f (.isNull true a)
        else
          let e ← matchTail f a true
          equalityTail f e
      else if isKeyword t "LIKE" || isKeyword t "GLOB" || isKeyword t "BETWEEN" ||
          isKeyword t "IN" || isKeyword t "REGEXP" || isKeyword t "MATCH" then
        let e ← matchTail f a false
        equalityTail f e
      else pure a

/-- Reads `LIKE`, `GLOB`, `BETWEEN` or `IN` after its left side, negated or not. -/
def matchTail : Nat → Expr → Bool → Reading Expr
  | 0, _, _ => overflow
  | f + 1, a, negated => do
    match ← peek with
    | none => failHere
    | some t =>
      if isKeyword t "LIKE" || isKeyword t "GLOB" then
        advance
        let p ← orderLevel f
        let esc ← if ← keyword? "ESCAPE" then some <$> orderLevel f else pure none
        pure (.like negated (isKeyword t "GLOB") a p esc)
      else if isKeyword t "REGEXP" || isKeyword t "MATCH" then
        advance
        let p ← orderLevel f
        pure (.call (upper t.text) false [p, a] none none)
      else if isKeyword t "BETWEEN" then
        advance
        let lo ← orderLevel f
        keyword "AND"
        let hi ← orderLevel f
        pure (.between negated a lo hi)
      else if isKeyword t "IN" then
        advance
        symbol "("
        if ← atQueryStart then
          let q ← query f
          symbol ")"
          pure (.inQuery negated a q)
        else if ← symbol? ")" then pure (.inList negated a [])
        else
          let items ← exprList f
          symbol ")"
          pure (.inList negated a items)
      else failHere

def orderLevel : Nat → Reading Expr
  | 0 => overflow
  | f + 1 => do
    let a ← bitLevel f
    orderTail f a

/-- The rest of a chain of orderings. -/
def orderTail : Nat → Expr → Reading Expr
  | 0, _ => overflow
  | f + 1, a => do
    match ← peek with
    | some t =>
      let op? : Option BinaryOp :=
        if t.kind != .symbol then none
        else if t.value == "<" then some .lt
        else if t.value == "<=" then some .le
        else if t.value == ">" then some .gt
        else if t.value == ">=" then some .ge
        else none
      match op? with
      | some op => advance; orderTail f (.binary op a (← bitLevel f))
      | none => pure a
    | none => pure a

def bitLevel : Nat → Reading Expr
  | 0 => overflow
  | f + 1 => do
    let a ← addLevel f
    bitTail f a

/-- The rest of a chain of bit operators and shifts. -/
def bitTail : Nat → Expr → Reading Expr
  | 0, _ => overflow
  | f + 1, a => do
    match ← peek with
    | some t =>
      let op? : Option BinaryOp :=
        if t.kind != .symbol then none
        else if t.value == "&" then some .bitAnd
        else if t.value == "|" then some .bitOr
        else if t.value == "<<" then some .shiftLeft
        else if t.value == ">>" then some .shiftRight
        else none
      match op? with
      | some op => advance; bitTail f (.binary op a (← addLevel f))
      | none => pure a
    | none => pure a

def addLevel : Nat → Reading Expr
  | 0 => overflow
  | f + 1 => do
    let a ← mulLevel f
    addTail f a

/-- The rest of a chain of `+` and `-`. -/
def addTail : Nat → Expr → Reading Expr
  | 0, _ => overflow
  | f + 1, a => do
    match ← peek with
    | some t =>
      if t.kind == .symbol && t.value == "+" then advance; addTail f (.binary .add a (← mulLevel f))
      else if t.kind == .symbol && t.value == "-" then
        advance; addTail f (.binary .sub a (← mulLevel f))
      else pure a
    | none => pure a

def mulLevel : Nat → Reading Expr
  | 0 => overflow
  | f + 1 => do
    let a ← concatLevel f
    mulTail f a

/-- The rest of a chain of `*`, `/` and `%`. -/
def mulTail : Nat → Expr → Reading Expr
  | 0, _ => overflow
  | f + 1, a => do
    match ← peek with
    | some t =>
      let op? : Option BinaryOp :=
        if t.kind != .symbol then none
        else if t.value == "*" then some .mul
        else if t.value == "/" then some .div
        else if t.value == "%" then some .rem
        else none
      match op? with
      | some op => advance; mulTail f (.binary op a (← concatLevel f))
      | none => pure a
    | none => pure a

def concatLevel : Nat → Reading Expr
  | 0 => overflow
  | f + 1 => do
    let a ← collateLevel f
    concatTail f a

def concatTail : Nat → Expr → Reading Expr
  | 0, _ => overflow
  | f + 1, a => do
    if ← symbol? "||" then concatTail f (.binary .concat a (← collateLevel f))
    else pure a

def collateLevel : Nat → Reading Expr
  | 0 => overflow
  | f + 1 => do
    let a ← unaryLevel f
    collateTail f a

def collateTail : Nat → Expr → Reading Expr
  | 0, _ => overflow
  | f + 1, a => do
    if ← keyword? "COLLATE" then collateTail f (.collate a (← nameWith canAlias))
    else pure a

/-- Reads a prefix operator's operand, or a primary expression. -/
def unaryLevel : Nat → Reading Expr
  | 0 => overflow
  | f + 1 => do
    if ← symbol? "-" then
      let before := (← get).tokens
      let e ← unaryLevel f
      let used := before.take (before.length - (← get).tokens.length)
      match numberInParens used used.length with
      | some t => pure (.lit (← negativeLiteral t))
      | none => pure (.unary .negate e)
    else if ← symbol? "+" then pure (.unary .plus (← unaryLevel f))
    else if ← symbol? "~" then pure (.unary .bitNot (← unaryLevel f))
    else if ← keyword? "NOT" then pure (.unary .not (← notLevel f))
    else primary f

/-- Reads a literal, a parameter, a name, a call, a cast, a case, a parenthesized expression
or a subquery. -/
def primary : Nat → Reading Expr
  | 0 => overflow
  | f + 1 => do
    match ← peek with
    | none => failHere
    | some t =>
      match t.kind with
      | .integer | .float => advance; pure (.lit (← numberLiteral t))
      | .string => advance; pure (.lit (.text t.value))
      | .bytes => advance; pure (.lit (.blob (hexBytes t.value.toList)))
      | .parameter => advance; pure (.param (← number t.text))
      | .symbol =>
        if t.value == "(" then
          advance
          if ← atQueryStart then
            let q ← query f
            symbol ")"
            pure (.scalar q)
          else
            let e ← expr f
            if ← atSymbol "," then throw (.other "row value misused")
            symbol ")"
            pure e
        else failHere
      | .illegal => failHere
      | .word =>
        let k := upper t.text
        if k == "NULL" then advance; pure (.lit .null)
        else if k == "CAST" then
          advance
          symbol "("
          let e ← expr f
          keyword "AS"
          let ty ← if ← atSymbol ")" then pure "" else typeName
          symbol ")"
          pure (.cast e ty)
        else if k == "CASE" then
          advance
          let base ← if ← atKeyword "WHEN" then pure none else some <$> expr f
          let arms ← whenArms f
          let otherwise ← if ← keyword? "ELSE" then some <$> expr f else pure none
          keyword "END"
          pure (.cases base arms otherwise)
        else if k == "EXISTS" then
          advance
          symbol "("
          let q ← query f
          symbol ")"
          pure (.present q)
        else if canName t then named f t
        else failHere
      | .quoted => named f t

/-- Reads a call, a qualified name or a plain name starting at a name token. -/
def named : Nat → Token → Reading Expr
  | 0, _ => overflow
  | f + 1, t => do
    advance
    if ← symbol? "(" then
      if ← symbol? "*" then
        symbol ")"
        let (filter, win) ← callTail f
        if upper t.value == "COUNT" then pure (.countAll filter win)
        else pure (.call t.value false [] filter win)
      else if ← symbol? ")" then
        let (filter, win) ← callTail f
        pure (.call t.value false [] filter win)
      else
        let distinct ← if ← keyword? "DISTINCT" then pure true else do
          let _ ← keyword? "ALL"
          pure false
        let args ← if ← symbol? ")" then pure [] else do
          let args ← exprList f
          symbol ")"
          pure args
        let (filter, win) ← callTail f
        if distinct && win.isSome then
          throw (.other "DISTINCT is not supported for window functions")
        pure (.call t.value distinct args filter win)
    else if ← symbol? "." then
      let second ← name
      if ← symbol? "." then
        let third ← name
        pure (.name (some second) third false)
      else pure (.name (some t.value) second false)
    else pure (.name none t.value (t.kind == .quoted))

/-- Reads the filter and the window that may follow a call. -/
def callTail : Nat → Reading (Option Expr × Option Window)
  | 0 => overflow
  | f + 1 => do
    let filter ← if ← atKeywordThen "FILTER" "(" then do
        advance
        symbol "("
        keyword "WHERE"
        let e ← expr f
        symbol ")"
        pure (some e)
      else pure none
    let win ← if ← atOver then do
        advance
        if ← symbol? "(" then
          let w ← windowBody f
          symbol ")"
          pure (some w)
        else pure (some (.mk (some (← nameWith canIdentify)) true [] [] none))
      else pure none
    pure (filter, win)

/-- Reads the inside of a window's parentheses: an optional window it builds on, partition
terms, order terms and a frame. -/
def windowBody : Nat → Reading Window
  | 0 => overflow
  | f + 1 => do
    let base ← match ← peek with
      | some t =>
        if canIdentify t && !(["PARTITION", "ORDER", "RANGE", "ROWS", "GROUPS"].any (isKeyword t))
        then do advance; pure (some t.value)
        else pure none
      | none => pure none
    let partition ← if ← keyword? "PARTITION" then do keyword "BY"; exprList f else pure []
    let order ← if ← keyword? "ORDER" then do keyword "BY"; orderTerms f else pure []
    let frame ← frameSpec f
    pure (.mk base false partition order frame)

/-- Reads an optional frame: its unit, its ends and what it leaves out. -/
def frameSpec : Nat → Reading (Option Frame)
  | 0 => overflow
  | f + 1 => do
    let unit? : Option FrameUnit ←
      if ← keyword? "RANGE" then pure (some .range)
      else if ← keyword? "ROWS" then pure (some .rows)
      else if ← keyword? "GROUPS" then pure (some .groups)
      else pure none
    match unit? with
    | none => pure none
    | some unit =>
      let (start, finish) ← if ← keyword? "BETWEEN" then do
          let s ← frameBound f true
          keyword "AND"
          let e ← frameBound f false
          pure (s, e)
        else do pure (← frameBound f true, Bound.currentRow)
      let exclude ← if ← keyword? "EXCLUDE" then do
          if ← keyword? "NO" then do keyword "OTHERS"; pure FrameExclude.noOthers
          else if ← keyword? "CURRENT" then do keyword "ROW"; pure .currentRow
          else if ← keyword? "GROUP" then pure .group
          else if ← keyword? "TIES" then pure .ties
          else failHere
        else pure .noOthers
      let bad := match start, finish with
        | .currentRow, .preceding _ => true
        | .following _, .preceding _ => true
        | .following _, .currentRow => true
        | _, _ => false
      if bad then throw (.other "unsupported frame specification")
      pure (some (.mk unit start finish exclude))

/-- Reads one end of a frame; `UNBOUNDED PRECEDING` may only start it and `UNBOUNDED
FOLLOWING` only end it. -/
def frameBound : Nat → Bool → Reading Bound
  | 0, _ => overflow
  | f + 1, isStart => do
    if ← atKeyword "UNBOUNDED" then
      match ← peekSecond with
      | some u =>
        if isStart && isKeyword u "PRECEDING" then do advance; advance; pure .unboundedPreceding
        else if !isStart && isKeyword u "FOLLOWING" then do advance; advance; pure .unboundedFollowing
        else offsetBound f
      | none => offsetBound f
    else if ← atKeyword "CURRENT" then
      match ← peekSecond with
      | some u => if isKeyword u "ROW" then do advance; advance; pure .currentRow else offsetBound f
      | none => offsetBound f
    else offsetBound f

def offsetBound : Nat → Reading Bound
  | 0 => overflow
  | f + 1 => do
    let e ← expr f
    if ← keyword? "PRECEDING" then pure (.preceding e)
    else if ← keyword? "FOLLOWING" then pure (.following e)
    else failHere

def whenArms : Nat → Reading (List (Expr × Expr))
  | 0 => overflow
  | f + 1 => do
    keyword "WHEN"
    let c ← expr f
    keyword "THEN"
    let v ← expr f
    if ← atKeyword "WHEN" then pure ((c, v) :: (← whenArms f)) else pure [(c, v)]

def exprList : Nat → Reading (List Expr)
  | 0 => overflow
  | f + 1 => do
    let e ← expr f
    if ← symbol? "," then pure (e :: (← exprList f)) else pure [e]

/-- Reads a query: its common tables, its parts and the order and limit of the last part,
which must be the only one to have them. -/
def query : Nat → Reading Query
  | 0 => overflow
  | f + 1 => do
    let (recursive, ctes) ← if ← keyword? "WITH" then withList f else pure (false, [])
    let (first, tail) ← part f
    let rest ← moreParts f
    let tails := tail :: rest.map (·.2.2)
    let ops := rest.map (·.1)
    let early := ((tails.dropLast.zip ops).reverse.find? fun ((o, l, _), _) =>
      !o.isEmpty || l.isSome)
    match early with
    | some ((o, _, _), op) =>
      let opName := match op with
        | .unionAll => "UNION ALL"
        | .union => "UNION"
        | .intersect => "INTERSECT"
        | .except => "EXCEPT"
      throw (.other ((if o.isEmpty then "LIMIT" else "ORDER BY") ++
        " clause should come after " ++ opName ++ " not before"))
    | none =>
      let (order, limit, offset) := (tails.getLast?).getD ([], none, none)
      pure (.mk recursive ctes first (rest.map fun (op, c, _) => (op, c)) order limit offset)

def withList : Nat → Reading (Bool × List (String × List String × Query))
  | 0 => overflow
  | f + 1 => do
    let recursive ← keyword? "RECURSIVE"
    pure (recursive, ← cteList f [])

/-- Reads common tables separated by commas: a name, optional column names, `AS` and a
query in parentheses. A name may not repeat one of the names read before it, in any case. -/
def cteList : Nat → List String → Reading (List (String × List String × Query))
  | 0, _ => overflow
  | f + 1, seen => do
    let n ← name
    let cols ← if ← symbol? "(" then do
        let cs ← idList f
        symbol ")"
        pure cs
      else pure []
    keyword "AS"
    if ← keyword? "NOT" then keyword "MATERIALIZED"
    else discard <| keyword? "MATERIALIZED"
    symbol "("
    let q ← query f
    symbol ")"
    if seen.any (fun m => upper m == upper n) then
      throw (.other ("duplicate WITH table name: " ++ n))
    if ← symbol? "," then pure ((n, cols, q) :: (← cteList f (n :: seen))) else pure [(n, cols, q)]

/-- Reads the parts after the first, each with its operator and its order and limit. -/
def moreParts : Nat →
    Reading (List (SetOp × Core × (List (Expr × Direction) × Option Expr × Option Expr)))
  | 0 => overflow
  | f + 1 => do
    let op? : Option SetOp ←
      if ← keyword? "UNION" then do
        if ← keyword? "ALL" then pure (some .unionAll) else pure (some .union)
      else if ← keyword? "INTERSECT" then pure (some .intersect)
      else if ← keyword? "EXCEPT" then pure (some .except)
      else pure none
    match op? with
    | none => pure []
    | some op =>
      let (c, tail) ← part f
      pure ((op, c, tail) :: (← moreParts f))

/-- Reads one part of a query: a select with its order and limit, or a list of rows. -/
def part : Nat → Reading (Core × (List (Expr × Direction) × Option Expr × Option Expr))
  | 0 => overflow
  | f + 1 => do
    if ← keyword? "VALUES" then
      let rows ← valueRows f
      pure (.values rows, ([], none, none))
    else
      keyword "SELECT"
      let distinct ← if ← keyword? "DISTINCT" then pure true else do
        let _ ← keyword? "ALL"
        pure false
      let outputs ← outputList f
      let sources ← if ← keyword? "FROM" then fromClause f else pure []
      let filter ← if ← keyword? "WHERE" then some <$> expr f else pure none
      let groups ← if ← keyword? "GROUP" then do keyword "BY"; exprList f else pure []
      let having ← if ← keyword? "HAVING" then some <$> expr f else pure none
      let windows ← if ← atWindowClause then do advance; windowDefs f else pure []
      let order ← if ← keyword? "ORDER" then do keyword "BY"; orderTerms f else pure []
      let (limit, offset) ← if ← keyword? "LIMIT" then do
          let a ← expr f
          if ← keyword? "OFFSET" then pure (some a, some (← expr f))
          else if ← symbol? "," then pure (some (← expr f), some a)
          else pure (some a, none)
        else pure (none, none)
      pure (.select distinct outputs sources filter groups having windows [],
        (order, limit, offset))

def valueRows : Nat → Reading (List (List Expr))
  | 0 => overflow
  | f + 1 => do
    symbol "("
    let row ← exprList f
    symbol ")"
    if ← symbol? "," then pure (row :: (← valueRows f)) else pure [row]

def windowDefs : Nat → Reading (List (String × Window))
  | 0 => overflow
  | f + 1 => do
    let n ← nameWith canIdentify
    keyword "AS"
    symbol "("
    let w ← windowBody f
    symbol ")"
    if ← symbol? "," then pure ((n, w) :: (← windowDefs f)) else pure [(n, w)]

def outputList : Nat → Reading (List Output)
  | 0 => overflow
  | f + 1 => do
    let o ← output f
    if ← symbol? "," then pure (o :: (← outputList f)) else pure [o]

/-- Reads one result column. -/
def output : Nat → Reading Output
  | 0 => overflow
  | f + 1 => do
    if ← symbol? "*" then pure .all
    else
      let star ← match ← peek, ← peekSecond with
        | some t, some d =>
          if canName t && d.kind == .symbol && d.value == "." then
            match ((← get).tokens.drop 2).head? with
            | some s => pure (if s.kind == .symbol && s.value == "*" then some t.value else none)
            | none => pure none
          else pure none
        | _, _ => pure none
      match star with
      | some table =>
        advance; advance; advance
        pure (.allOf table)
      | none =>
        let start ← startHere
        let e ← expr f
        let text ← textBetween start (← get).last
        let asName ← aliasOf
        pure (.expr e asName text)

/-- Reads what a select reads from: a source, then sources each after a join operator, with
its condition. -/
def fromClause : Nat → Reading (List Join)
  | 0 => overflow
  | f + 1 => do
    let s ← source f
    if ← keyword? "ON" then
      discard (expr f)
      throw (.other "a JOIN clause is required before ON")
    if ← keyword? "USING" then
      symbol "("
      discard (idList f)
      symbol ")"
      throw (.other "a JOIN clause is required before USING")
    pure (.mk .inner false s none [] :: (← joins f))

/-- Reads the joined sources after the first. -/
def joins : Nat → Reading (List Join)
  | 0 => overflow
  | f + 1 => do
    match ← joinOperator with
    | none => pure []
    | some (kind, natural) =>
      let s ← source f
      let (on, cols) ← if ← keyword? "ON" then do pure (some (← expr f), [])
        else if ← keyword? "USING" then do
          symbol "("
          let cs ← idList f
          symbol ")"
          pure (none, cs)
        else pure (none, [])
      if natural && (on.isSome || !cols.isEmpty) then
        throw (.other "a NATURAL join may not have an ON or USING clause")
      pure (.mk kind natural s on cols :: (← joins f))

/-- Reads one source: a table or a subquery, with its alias. -/
def source : Nat → Reading Source
  | 0 => overflow
  | f + 1 => do
    if ← symbol? "(" then
      if ← atQueryStart then
        let q ← query f
        symbol ")"
        pure (.query q (← aliasOf))
      else failHere
    else
      let first ← name
      let (schema, table) ← if ← symbol? "." then do pure (some first, ← name)
        else pure (none, first)
      let asName ← aliasOf
      if ← keyword? "INDEXED" then
        keyword "BY"
        discard name
      else if ← atKeyword "NOT" then
        match ← peekSecond with
        | some u => if isKeyword u "INDEXED" then do advance; advance
        | none => pure ()
      pure (.table schema table asName)

/-- Reads the terms of an order: expressions with their direction and where nothing goes. -/
def orderTerms : Nat → Reading (List (Expr × Direction))
  | 0 => overflow
  | f + 1 => do
    let e ← expr f
    let desc ← if ← keyword? "DESC" then pure true else do let _ ← keyword? "ASC"; pure false
    let nulls ← if ← keyword? "NULLS" then do
        if ← keyword? "FIRST" then pure (some true) else do keyword "LAST"; pure (some false)
      else pure none
    let d : Direction := { desc, nullsFirst := nulls }
    if ← symbol? "," then pure ((e, d) :: (← orderTerms f)) else pure [(e, d)]

end

def onConflict : Reading Unit := do
  if ← keyword? "ON" then
    keyword "CONFLICT"
    let ok ← keyword? "ROLLBACK" <||> keyword? "ABORT" <||> keyword? "FAIL" <||>
      keyword? "IGNORE" <||> keyword? "REPLACE"
    if !ok then failHere

/-- Reads a column's default: a literal, a signed number, a parenthesized expression, or a
bare name standing for its text. -/
def defaultValue (f : Nat) : Reading Expr := do
  if ← symbol? "(" then
    let e ← expr f
    symbol ")"
    pure e
  else if ← symbol? "-" then
    match ← peek with
    | some t =>
      if t.kind == .integer || t.kind == .float then
        advance; pure (.lit (← negativeLiteral t))
      else failHere
    | none => failHere
  else
    let _ ← symbol? "+"
    match ← peek with
    | some t =>
      match t.kind with
      | .integer | .float => advance; pure (.lit (← numberLiteral t))
      | .string => advance; pure (.lit (.text t.value))
      | .bytes => advance; pure (.lit (.blob (hexBytes t.value.toList)))
      | .word =>
        if isKeyword t "NULL" then advance; pure (.lit .null)
        else if canIdentify t then advance; pure (.lit (.text t.value))
        else failHere
      | .quoted => advance; pure (.lit (.text t.value))
      | _ => failHere
    | none => failHere

/-- Reads a column's constraints. -/
def columnConstraints (f : Nat) : Nat → ColumnSpec → Reading ColumnSpec
  | 0, c => pure c
  | k + 1, c => do
    let named ← if ← keyword? "CONSTRAINT" then some <$> name else pure none
    if ← keyword? "PRIMARY" then
      keyword "KEY"
      let desc ← if ← keyword? "DESC" then pure true else do let _ ← keyword? "ASC"; pure false
      onConflict
      let auto ← keyword? "AUTOINCREMENT"
      columnConstraints f k { c with primaryKey := true, descending := desc, autoincrement := auto }
    else if ← keyword? "NOT" then
      keyword "NULL"
      onConflict
      columnConstraints f k { c with notNull := true }
    else if ← keyword? "NULL" then
      onConflict
      columnConstraints f k c
    else if ← keyword? "UNIQUE" then
      onConflict
      columnConstraints f k { c with unique := true }
    else if ← keyword? "CHECK" then
      symbol "("
      let start ← startHere
      let e ← expr f
      let label ← textBetween start (← get).last
      symbol ")"
      columnConstraints f k { c with checks := c.checks ++ [(named.getD label, e)] }
    else if ← keyword? "DEFAULT" then
      let d ← defaultValue f
      columnConstraints f k { c with default := some d }
    else if ← keyword? "COLLATE" then
      let coll ← nameWith canAlias
      columnConstraints f k { c with collation := some coll }
    else if ← keyword? "REFERENCES" then
      let _ ← name
      if ← symbol? "(" then
        let _ ← idList f
        symbol ")"
      columnConstraints f k c
    else if named.isSome then failHere
    else pure c

/-- Reads the columns and constraints of a table being created. -/
def tableBody (f : Nat) : Nat → List ColumnSpec → List TableConstraint →
    Reading (List ColumnSpec × List TableConstraint)
  | 0, cs, ts => pure (cs, ts)
  | k + 1, cs, ts => do
    let named ← if ← keyword? "CONSTRAINT" then some <$> name else pure none
    if ← keyword? "PRIMARY" then
      keyword "KEY"
      symbol "("
      let cols ← indexedColumns f
      symbol ")"
      onConflict
      next k cs (ts ++ [.primaryKey cols])
    else if ← keyword? "UNIQUE" then
      symbol "("
      let cols ← indexedColumns f
      symbol ")"
      onConflict
      next k cs (ts ++ [.unique cols])
    else if ← keyword? "CHECK" then
      symbol "("
      let start ← startHere
      let e ← expr f
      let label ← textBetween start (← get).last
      symbol ")"
      onConflict
      next k cs (ts ++ [.check (named.getD label) e])
    else if ← keyword? "FOREIGN" then
      keyword "KEY"
      symbol "("
      let _ ← idList f
      symbol ")"
      keyword "REFERENCES"
      let _ ← name
      if ← symbol? "(" then
        let _ ← idList f
        symbol ")"
      next k cs ts
    else if named.isSome || !ts.isEmpty then failHere
    else
      let n ← name
      let declared ← match ← peek with
        | some t => if canAlias t && !(t.kind == .word && constraintWords.contains (upper t.text))
            then typeName else pure ""
        | none => pure ""
      let c ← columnConstraints f (← get).tokens.length { name := n, declared }
      next k (cs ++ [c]) ts
where
  next (k : Nat) (cs : List ColumnSpec) (ts : List TableConstraint) :
      Reading (List ColumnSpec × List TableConstraint) := do
    if ← symbol? "," then tableBody f k cs ts else pure (cs, ts)

/-- Reads a table's name, with its schema when one is given; gives the table name as written
too. -/
def tableName : Reading (TableName × String) := do
  let written := match ← peek with
    | some t => t.text
    | none => ""
  let first ← name
  if ← symbol? "." then
    let written := match ← peek with
      | some t => t.text
      | none => ""
    let second ← name
    pure (⟨some first, second⟩, written)
  else pure (⟨none, first⟩, written)

/-- Reads one option after a table's definition: `WITHOUT ROWID` or `STRICT`, in any case;
another name is refused. `none` when no name follows. -/
def tableOption (o : TableOptions) : Reading (Option TableOptions) := do
  match ← peek with
  | some t =>
    if t.kind == .word && upper t.text == "WITHOUT" then
      advance
      match ← peek with
      | some n =>
        if canName n then
          advance
          if upper n.text == "ROWID" then pure (some { o with withoutRowid := true })
          else throw (.other ("unknown table option: " ++ n.text))
        else failHere
      | none => failHere
    else if canName t then
      advance
      if upper t.text == "STRICT" then pure (some { o with strict := true })
      else throw (.other ("unknown table option: " ++ t.text))
    else pure none
  | none => pure none

/-- Reads the options after a table's definition, separated by commas; the first may be left
out before a comma. -/
def tableOptions : Nat → TableOptions → Bool → Reading TableOptions
  | 0, o, _ => pure o
  | f + 1, o, first => do
    match ← tableOption o with
    | some o' => if ← symbol? "," then tableOptions f o' false else pure o'
    | none =>
      if first then
        if ← symbol? "," then tableOptions f o false else pure o
      else failHere

def returning (f : Nat) : Reading (List Output) := do
  if ← keyword? "RETURNING" then outputList f else pure []

def conflictClause : Reading Conflict := do
  if ← keyword? "OR" then
    if ← keyword? "ROLLBACK" then pure .rollback
    else if ← keyword? "ABORT" then pure .abort
    else if ← keyword? "FAIL" then pure .fail
    else if ← keyword? "IGNORE" then pure .ignore
    else if ← keyword? "REPLACE" then pure .replace
    else failHere
  else pure .abort

def assignments (f : Nat) : Nat → Reading (List (String × Expr))
  | 0 => overflow
  | k + 1 => do
    let n ← name
    symbol "="
    let e ← expr f
    if ← symbol? "," then pure ((n, e) :: (← assignments f k)) else pure [(n, e)]

/-- Reads the conflict clauses of an insert: `ON CONFLICT`, an optional target with its
filter, and `DO NOTHING` or `DO UPDATE SET` with an optional filter. -/
def upserts (f : Nat) : Nat → Reading (List Upsert)
  | 0 => pure []
  | k + 1 => do
    if !(← atKeyword "ON") then return []
    keyword "ON"
    keyword "CONFLICT"
    let (target, targetFilter) ← if ← symbol? "(" then do
        let cols ← indexedColumns f
        symbol ")"
        let w ← if ← keyword? "WHERE" then some <$> expr f else pure none
        pure (some cols, w)
      else pure (none, none)
    keyword "DO"
    let update ← if ← keyword? "NOTHING" then pure none
      else do
        keyword "UPDATE"
        keyword "SET"
        let sets ← assignments f f
        let w ← if ← keyword? "WHERE" then some <$> expr f else pure none
        pure (some (sets, w))
    let u : Upsert := { target, targetFilter, update }
    pure (u :: (← upserts f k))

/-- Reads an insert after its first keyword. -/
def insertRest (f : Nat) (ctes : Ctes) (conflict : Conflict) : Reading Statement := do
  keyword "INTO"
  let (table, _) ← tableName
  let asName ← if ← keyword? "AS" then some <$> name else pure none
  let columns ← if ← symbol? "(" then do
      let cs ← idList f
      symbol ")"
      pure (some cs)
    else pure none
  let rows ← if ← atKeyword "VALUES" then do
      let q ← query f
      match q with
      | .mk false [] (.values rs) [] [] none none => pure (Rows.values rs)
      | _ => pure (Rows.query q)
    else if ← atQueryStart then Rows.query <$> query f
    else if ← keyword? "DEFAULT" then do keyword "VALUES"; pure Rows.defaults
    else failHere
  let ups ← upserts f f
  pure (.insert ctes conflict table asName columns rows ups (← returning f))

/-- Reads a statement that changes rows, after its common tables. -/
def changeStatement (f : Nat) (ctes : Ctes) : Reading Statement := do
  match ← peek with
  | none => failHere
  | some t =>
    let k := upper t.text
    if t.kind != .word then failHere
    else if k == "INSERT" then
      advance
      let conflict ← conflictClause
      insertRest f ctes conflict
    else if k == "REPLACE" then
      advance
      insertRest f ctes .replace
    else if k == "UPDATE" then
      advance
      let conflict ← conflictClause
      let (table, _) ← tableName
      let asName ← if ← keyword? "AS" then some <$> name else pure none
      keyword "SET"
      let sets ← assignments f f
      let filter ← if ← keyword? "WHERE" then some <$> expr f else pure none
      pure (.update ctes conflict table asName sets filter (← returning f))
    else if k == "DELETE" then
      advance
      keyword "FROM"
      let (table, _) ← tableName
      let asName ← if ← keyword? "AS" then some <$> name else pure none
      let filter ← if ← keyword? "WHERE" then some <$> expr f else pure none
      pure (.delete ctes table asName filter (← returning f))
    else failHere

/-- Reads a statement. -/
def statement (f : Nat) : Reading Statement := do
  match ← peek with
  | none => failHere
  | some t =>
    let k := upper t.text
    if t.kind != .word then failHere
    else if k == "SELECT" || k == "VALUES" then .query <$> query f
    else if k == "WITH" then
      let saved ← get
      advance
      let (recursive, ctes) ← withList f
      if ← (atKeyword "SELECT" <||> atKeyword "VALUES") then
        set saved
        .query <$> query f
      else changeStatement f { recursive, tables := ctes }
    else if k == "INSERT" || k == "REPLACE" || k == "UPDATE" || k == "DELETE" then
      changeStatement f {}
    else if k == "CREATE" then
      advance
      let unique ← keyword? "UNIQUE"
      if unique || (← atKeyword "INDEX") then
        keyword "INDEX"
        let ifNotExists ← if ← keyword? "IF" then do keyword "NOT"; keyword "EXISTS"; pure true
          else pure false
        let (index, _) ← tableName
        keyword "ON"
        let table ← name
        symbol "("
        let cols ← indexedColumns f
        symbol ")"
        let filter ← if ← keyword? "WHERE" then some <$> expr f else pure none
        pure (.createIndex unique ifNotExists index table cols filter)
      else
        let temp ← keyword? "TEMP" <||> keyword? "TEMPORARY"
        keyword "TABLE"
        let ifNotExists ← if ← keyword? "IF" then do keyword "NOT"; keyword "EXISTS"; pure true
          else pure false
        let (table, written) ← tableName
        let start : TableStart := { temp, ifNotExists, table, written }
        tryCatch (do
            symbol "("
            let (columns, constraints) ← tableBody f (← get).tokens.length [] []
            symbol ")"
            let options ← tableOptions (← get).tokens.length {} true
            pure (.createTable start columns constraints options))
          fun err => throw (.inTable start err)
    else if k == "DROP" then
      advance
      if ← keyword? "INDEX" then
        let ifExists ← if ← keyword? "IF" then do keyword "EXISTS"; pure true else pure false
        let (index, _) ← tableName
        pure (.dropIndex ifExists index)
      else
        keyword "TABLE"
        let ifExists ← if ← keyword? "IF" then do keyword "EXISTS"; pure true else pure false
        let (table, _) ← tableName
        pure (.dropTable ifExists table)
    else if k == "BEGIN" then
      advance
      let _ ← keyword? "DEFERRED" <||> keyword? "IMMEDIATE" <||> keyword? "EXCLUSIVE"
      if ← keyword? "TRANSACTION" then
        match ← peek with
        | some n => if canName n then advance
        | none => pure ()
      pure .begin
    else if k == "COMMIT" || k == "END" then
      advance
      if ← keyword? "TRANSACTION" then
        match ← peek with
        | some n => if canName n then advance
        | none => pure ()
      pure .commit
    else if k == "ROLLBACK" then
      advance
      if ← keyword? "TRANSACTION" then
        match ← peek with
        | some n => if canName n then advance
        | none => pure ()
      pure .rollback
    else failHere

end Reading

/-- A statement read from a text: the statement, the names of its parameters by number, and
where the text after the statement (and its `;`) starts. -/
structure Parsed where
  statement : Statement
  params : List (Option String)
  rest : Nat

/-- Reads the first statement of a text; `none` when the text holds no statement. -/
def parseStatement (sql : String) : Except SyntaxError (Option Parsed) :=
  let toks := tokenize sql
  match toks with
  | [] => .ok none
  | first :: _ =>
    if first.kind == .symbol && first.value == ";" then .ok none
    else
      let fuel := 24 * (toks.length + 2)
      let run : Reading (Statement × Nat) := do
        let s ← Reading.statement fuel
        match ← Reading.peek with
        | none => pure (s, sql.length)
        | some t =>
          if t.kind == .symbol && t.value == ";" then
            Reading.advance
            pure (s, t.stop)
          else Reading.failHere
      match run.run { tokens := toks, chars := sql.toList } with
      | .ok ((s, rest), r) => .ok (some ⟨s, r.params, rest⟩)
      | .error e => .error e

end DataMapper.Store
