import DataMapper.Connection.Cursor

namespace DataMapper

/-- One scripted answer to a statement. -/
structure Reply where
  columns : List String := []
  rows : List Row := []
  rowcount : Value := .int 1
  lastrowid : Value := .none
  failure : Option (String × String) := none

/-- A scripted connection: the replies left and the log so far. -/
structure Script where
  replies : List Reply
  log : List Value := []

namespace Script

def cursorOf (r : Reply) : Cursor :=
  { columns := if r.columns.isEmpty then none else some r.columns
    rows := r.rows
    rowcount := r.rowcount
    lastrowid := r.lastrowid }

def execute (s : Script) (sql : String) (params : Value) : Except Failure Cursor × Script :=
  let logged := s.log ++ [.list [.str "execute", .str sql, params]]
  let (r, rest) : Reply × List Reply := match s.replies with
    | [] => ({}, [])
    | r :: rs => (r, rs)
  let s' : Script := ⟨rest, logged⟩
  match r.failure with
  | some (kind, message) => (.error (.raised kind message), s')
  | none => (.ok (cursorOf r), s')

def note (s : Script) (event : String) : Script :=
  { s with log := s.log ++ [.list [.str event]] }

theorem execute_logs (s : Script) (sql : String) (params : Value) :
    (s.execute sql params).2.log = s.log ++ [.list [.str "execute", .str sql, params]] := by
  unfold execute
  split
  split <;> rfl

end Script

end DataMapper
