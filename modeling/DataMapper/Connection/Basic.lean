import DataMapper.Connection.Scripted
import DataMapper.Connection.Embedded

namespace DataMapper

def Sql.DriverParams.toValue : Sql.DriverParams → Value
  | .byName kvs => .dict (kvs.map fun (k, v) => (.str k, v))
  | .byPosition vs => .list vs

/-- A driver connection. -/
inductive Connection
  | scripted (s : Script)
  | embedded (e : Embedded)

namespace Connection

def execute (c : Connection) (sql : String) (params : Option Sql.DriverParams) :
    Except Failure Cursor × Connection :=
  match c with
  | .scripted s =>
    let (r, s') := s.execute sql ((params.map Sql.DriverParams.toValue).getD .none)
    (r, .scripted s')
  | .embedded e =>
    let (r, e') := e.execute sql params
    (r, .embedded e')

def commit : Connection → Except Failure Unit × Connection
  | .scripted s => (.ok (), .scripted (s.note "commit"))
  | .embedded e => (.ok (), .embedded e.commit)

def rollback : Connection → Except Failure Unit × Connection
  | .scripted s => (.ok (), .scripted (s.note "rollback"))
  | .embedded e => (.ok (), .embedded e.rollback)

def close : Connection → Except Failure Unit × Connection
  | .scripted s => (.ok (), .scripted (s.note "close"))
  | .embedded e => (.ok (), .embedded e)

def beginsExplicitly : Connection → Bool
  | .scripted _ => false
  | .embedded e => e.beginsExplicitly

def events : Connection → List Value
  | .scripted s => s.log
  | .embedded _ => []

end Connection

end DataMapper
