import DataMapper.Request.Session
import DataMapper.Proofs.Steps

namespace DataMapper

namespace DbAccess

variable {ε σ α β : Type} (a : DbAccess ε σ)

/-- An outcome with the count of open transactions set in its state: `m` after a success, `k`
after a failure. -/
def settle (m k : Nat) : EStateM.Result ε σ α → EStateM.Result ε σ α
  | .ok r s => .ok r (a.setDepth m s)
  | .error e s => .error e (a.setDepth k s)

/-- The step `x`, run with `n` transactions open, does what `y` does, and leaves `m` open when
it succeeds and `k` when it fails. -/
def Runs (n m k : Nat) (x y : EStateM ε σ α) : Prop :=
  ∀ s, x (a.setDepth n s) = a.settle m k (y s)

/-- A step blind to the count: it neither reads nor changes it. -/
def Blind (x : EStateM ε σ α) : Prop := ∀ n, a.Runs n n n x x

/-- The laws of an access: the count is a field of the state that the last setting decides, and
the open check and the connection's transaction statements are blind to it. -/
structure Lawful : Prop where
  depth_setDepth : ∀ n s, a.depth (a.setDepth n s) = n
  setDepth_setDepth : ∀ m n s, a.setDepth m (a.setDepth n s) = a.setDepth m s
  requireOpen : a.Blind a.requireOpen
  begin : a.Blind a.begin
  commit : a.Blind a.commit
  rollback : a.Blind a.rollback

/-- A scope as the nesting sees it, around a body that runs with the given number of scopes
open: inside another scope only the check that the database is open; outermost, the check, then
beginning, the body and the commit, and on a failure of any of these a rollback and the same
failure, or the rollback's own. -/
def joinedScope (n : Nat) (body : Nat → EStateM ε σ α) : EStateM ε σ α :=
  if n > 0 then do
    a.requireOpen
    body (n + 1)
  else do
    a.requireOpen
    tryCatch (do a.begin; let r ← body 1; a.commit; pure r) (fun e => do a.rollback; throw e)

variable {a}

namespace Runs

variable {n m k m' k' : Nat} {x y : EStateM ε σ α}

theorem bind {f g : α → EStateM ε σ β} (hx : a.Runs n m k x y) (hf : ∀ r, a.Runs m m' k (f r) (g r)) :
    a.Runs n m' k (x >>= f) (y >>= g) := by
  intro s
  have h := hx s
  cases hy : y s with
  | ok r t =>
    rw [hy] at h
    rw [run_bind_ok h, hf r t, run_bind_ok hy]
  | error e t =>
    rw [hy] at h
    rw [run_bind_error h, run_bind_error hy]
    rfl

theorem tryCatch {h h' : ε → EStateM ε σ α} (hx : a.Runs n m k x y)
    (hh : ∀ e, a.Runs k m k' (h e) (h' e)) :
    a.Runs n m k' (tryCatch x h) (tryCatch y h') := by
  intro s
  have hs := hx s
  cases hy : y s with
  | ok r t =>
    rw [hy] at hs
    rw [run_tryCatch_ok hs, run_tryCatch_ok hy]
    rfl
  | error e t =>
    rw [hy] at hs
    rw [run_tryCatch_error hs, hh e t, run_tryCatch_error hy]

theorem pure (r : α) : a.Runs n n k (Pure.pure r : EStateM ε σ α) (Pure.pure r) := fun _ => rfl

theorem throw (e : ε) : a.Runs n m n (MonadExcept.throw e : EStateM ε σ α) (MonadExcept.throw e) :=
  fun _ => rfl

theorem setDepth (ha : a.Lawful) (m : Nat) :
    a.Runs n m k (modify (a.setDepth m) : EStateM ε σ PUnit) (Pure.pure ()) := fun s => by
  change EStateM.Result.ok () (a.setDepth m (a.setDepth n s)) = _
  rw [ha.setDepth_setDepth]
  rfl

theorem of_get {g : σ → EStateM ε σ α}
    (hg : ∀ s, g (a.setDepth n s) (a.setDepth n s) = a.settle m k (y s)) :
    a.Runs n m k (get >>= g) y :=
  hg

theorem of_eq {y' : EStateM ε σ α} (h : a.Runs n m k x y) (hy : y = y') : a.Runs n m k x y' :=
  hy ▸ h

end Runs

theorem tryCatch_throw (x : EStateM ε σ α) : tryCatch x (fun e => throw e) = x := by
  funext s
  cases hx : x s with
  | ok r t => exact run_tryCatch_ok hx
  | error e t => rw [run_tryCatch_error hx]; rfl

/-- One transaction scope. Run with `n` transactions open, around a body that with any number
`k` open does what `inner k` does and leaves `k` open, a scope does what the nesting says it
does and leaves `n` open, however it ends. -/
theorem transaction_runs (ha : a.Lawful) {body : EStateM ε σ α} {inner : Nat → EStateM ε σ α}
    (hbody : ∀ k, a.Runs k k k body (inner k)) (n : Nat) :
    a.Runs n n n (a.transaction body) (a.joinedScope n inner) := by
  unfold transaction joinedScope
  by_cases hn : n > 0
  · rw [if_pos hn]
    refine Runs.bind (ha.requireOpen n) fun _ => Runs.of_get fun s => ?_
    simp only [ha.depth_setDepth, hn, if_true]
    revert s
    show a.Runs n n n _ _
    refine (Runs.bind (Runs.setDepth ha (n + 1)) fun _ =>
      Runs.tryCatch (Runs.bind (hbody (n + 1)) fun r =>
          Runs.bind (Runs.setDepth ha n) fun _ => Runs.pure r)
        fun e => Runs.bind (Runs.setDepth ha n) fun _ => Runs.throw e).of_eq ?_
    simp only [pure_bind, bind_pure]
    exact tryCatch_throw _
  · have hn0 : n = 0 := by omega
    subst hn0
    rw [if_neg hn]
    refine Runs.bind (ha.requireOpen 0) fun _ => Runs.of_get fun s => ?_
    simp only [ha.depth_setDepth, hn, if_false]
    revert s
    show a.Runs 0 0 0 _ _
    refine (Runs.bind (Runs.setDepth ha 1) fun _ =>
      Runs.tryCatch (Runs.bind (ha.begin 1) fun _ => Runs.bind (hbody 1) fun r =>
          Runs.bind (ha.commit 1) fun _ => Runs.bind (Runs.setDepth ha 0) fun _ => Runs.pure r)
        fun e => Runs.bind (Runs.tryCatch (ha.rollback 1) fun e' =>
            Runs.bind (Runs.setDepth ha 0) fun _ => Runs.throw e')
          fun _ => Runs.bind (Runs.setDepth ha 0) fun _ => Runs.throw e).of_eq ?_
    simp only [pure_bind, tryCatch_throw]

end DbAccess

/-- A program that uses transactions on one database: a statement, which may look at how many
transactions are open; a transaction scope around a program; one program after another; and a
program whose failures a handler takes over. -/
inductive TxProgram (ε σ : Type)
  | stmt (run : Nat → EStateM ε σ Unit)
  | scope (body : TxProgram ε σ)
  | seq (first next : TxProgram ε σ)
  | guard (body : TxProgram ε σ) (handler : ε → TxProgram ε σ)

namespace TxProgram

variable {ε σ : Type} (a : DbAccess ε σ)

/-- Runs a program: each statement is told how many transactions the database counts open. -/
def run : TxProgram ε σ → EStateM ε σ Unit
  | .stmt f => fun s => f (a.depth s) s
  | .scope p => a.transaction (run p)
  | .seq p q => do run p; run q
  | .guard p h => tryCatch (run p) (fun e => run (h e))

/-- Runs a program standing inside `n` scopes with no counter: each statement is told how many
scopes stand around it, and each scope does what the nesting says. -/
def joined : Nat → TxProgram ε σ → EStateM ε σ Unit
  | n, .stmt f => f n
  | n, .scope p => a.joinedScope n (fun k => joined k p)
  | n, .seq p q => do joined n p; joined n q
  | n, .guard p h => tryCatch (joined n p) (fun e => joined n (h e))

/-- A program whose statements are blind to the count, whatever number they are told. -/
def Blind : TxProgram ε σ → Prop
  | .stmt f => ∀ d, a.Blind (f d)
  | .scope p => Blind p
  | .seq p q => Blind p ∧ Blind q
  | .guard p h => Blind p ∧ ∀ e, Blind (h e)

variable {a}

/-- A program run with `n` transactions open does what it does standing inside `n` scopes, and
leaves `n` open, however it ends. -/
theorem run_runs (ha : a.Lawful) (p : TxProgram ε σ) (hp : p.Blind a) (n : Nat) :
    a.Runs n n n (p.run a) (p.joined a n) := by
  induction p generalizing n with
  | stmt f =>
    intro s
    change f (a.depth (a.setDepth n s)) (a.setDepth n s) = _
    rw [ha.depth_setDepth]
    exact hp n n s
  | scope p ih => exact DbAccess.transaction_runs ha (fun k => ih hp k) n
  | seq p q ihp ihq => exact (ihp hp.1 n).bind fun _ => ihq hp.2 n
  | guard p h ihp ihh => exact (ihp hp.1 n).tryCatch fun e => ihh e (hp.2 e) n

/-- Nested transactions join the outermost one. Take any access to a database whose count of
open transactions is a field of the state, and whose open check and transaction statements
(which may fail) are blind to it, and any program of scopes, statements, failures and handlers
whose statements are blind to it too. Run with `n` transactions open, the program does exactly
what it does when each statement is told the number of scopes around it and each scope does what
the nesting says (`joined`): only the outermost scope begins, commits after its body, and rolls
back when beginning, the body or the commit fails, failing the same way unless the rollback
fails; a scope inside another only checks that the database is open; a failure passes on
unchanged unless a handler takes it. The count is `n` again at the end, however the run ends. -/
theorem nested_transactions_join_outermost {a : DbAccess ε σ} (ha : a.Lawful) {p : TxProgram ε σ}
    (hp : p.Blind a) (n : Nat) (s : σ) :
    p.run a (a.setDepth n s) = a.settle n n (p.joined a n s) :=
  run_runs ha p hp n s

end TxProgram

namespace Database

/-- The database's own access: its count of open transactions, its open check and its
transaction statements. -/
def access : DbAccess Failure Database where
  depth db := db.depth
  setDepth n db := { db with depth := n }
  requireOpen := requireOpen
  begin := begin
  commit := commit
  rollback := rollback

theorem requireOpen_blind : access.Blind requireOpen := by
  intro n db
  cases hc : db.closed <;> simp [requireOpen, access, DbAccess.settle, hc, bind, EStateM.bind,
    get, getThe, MonadStateOf.get, EStateM.get, pure, EStateM.pure, throw, throwThe,
    MonadExceptOf.throw, EStateM.throw]

theorem onConnection_blind {α : Type} (f : Connection → Except Failure α × Connection) :
    access.Blind (onConnection f) := by
  intro n db
  rcases hf : f db.conn with ⟨r, c⟩
  cases r <;> simp [onConnection, access, DbAccess.settle, hf, bind, EStateM.bind, get, getThe,
    MonadStateOf.get, EStateM.get, set, MonadStateOf.set, EStateM.set, pure, EStateM.pure, throw,
    throwThe, MonadExceptOf.throw, EStateM.throw]

theorem begin_blind : access.Blind begin := by
  intro n db
  -- whether a statement is needed depends on the connection alone
  have hread : ∀ s : Database, begin s = (if s.conn.beginsExplicitly then
      onConnection (·.execute "BEGIN" none) >>= fun _ => pure () else pure ()) s := fun _ => rfl
  have hsame : (access.setDepth n db).conn = db.conn := rfl
  change begin (access.setDepth n db) = _
  rw [hread, hread, hsame]
  cases db.conn.beginsExplicitly
  · rfl
  · exact ((onConnection_blind _ n).bind fun _ => DbAccess.Runs.pure ()) db

theorem access_lawful : access.Lawful where
  depth_setDepth _ _ := rfl
  setDepth_setDepth _ _ _ := rfl
  requireOpen := requireOpen_blind
  begin := begin_blind
  commit := onConnection_blind Connection.commit
  rollback := onConnection_blind Connection.rollback

end Database

namespace Act

theorem onDb_blind {α : Type} {x : DbStep α} (hx : Database.access.Blind x) :
    dbAccess.Blind (onDb x) := by
  intro n w
  have h : x { w.db with depth := n } = Database.access.settle n n (x w.db) := hx n w.db
  cases hw : x w.db
  <;> (rw [hw] at h; simp only [onDb, dbAccess, DbAccess.settle, h, hw, Database.access])

theorem dbAccess_lawful : dbAccess.Lawful where
  depth_setDepth _ _ := rfl
  setDepth_setDepth _ _ _ := rfl
  requireOpen := onDb_blind Database.access_lawful.requireOpen
  begin := onDb_blind Database.access_lawful.begin
  commit := onDb_blind Database.access_lawful.commit
  rollback := onDb_blind Database.access_lawful.rollback

end Act

namespace Request.Session

theorem act_blind {α : Type} {x : Act α} (hx : Act.dbAccess.Blind x) : dbAccess.Blind (act x) := by
  intro n st
  have h : x (Act.dbAccess.setDepth n st.world) = Act.dbAccess.settle n n (x st.world) :=
    hx n st.world
  cases hw : x st.world
  <;> (rw [hw] at h; simp only [act, dbAccess, DbAccess.settle, h, hw])

theorem dbAccess_lawful : dbAccess.Lawful where
  depth_setDepth _ _ := rfl
  setDepth_setDepth _ _ _ := rfl
  requireOpen := act_blind Act.dbAccess_lawful.requireOpen
  begin := act_blind Act.dbAccess_lawful.begin
  commit := act_blind Act.dbAccess_lawful.commit
  rollback := act_blind Act.dbAccess_lawful.rollback

/-- A session's scope around a statement and a scope whose failure is handled: the inner scope
joins, and its failure reaches the handler without a rollback. -/
theorem handled_inner_failure_joins :
    let p : TxProgram Fault SessionState :=
      .scope (.seq (.stmt fun _ => pure ())
        (.guard (.scope (.stmt fun _ => throw ⟨.runtime "boom", none⟩)) fun _ => .stmt fun _ => pure ()))
    let st : SessionState :=
      ⟨⟨⟨.scripted ⟨[], []⟩, .qmark, false, 0⟩, ⟨Supply.defaultNow, 0, []⟩, []⟩, []⟩
    p.run dbAccess (dbAccess.setDepth 0 st) = dbAccess.settle 0 0 (p.joined dbAccess 0 st) := by
  intro p st
  have hp : p.Blind dbAccess :=
    ⟨fun _ _ => DbAccess.Runs.pure (), fun _ _ => DbAccess.Runs.throw _, fun _ _ _ => DbAccess.Runs.pure ()⟩
  exact TxProgram.nested_transactions_join_outermost dbAccess_lawful hp 0 st

end Request.Session

end DataMapper
