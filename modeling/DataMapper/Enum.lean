import DataMapper.Value.Compare

namespace DataMapper

/-- An enumeration: its canonical members with their values, and its aliases, each naming
the position of the member it stands for. -/
structure EnumDef where
  name : String
  base : EnumBase
  members : List (String × Value)
  aliases : List (String × Nat)

namespace EnumDef

def addEntries (d : EnumDef) : List (String × Value) → EnumDef
  | [] => d
  | (n, v) :: rest =>
    match d.members.findIdx? (fun m => Value.pyEq m.2 v) with
    | some i => addEntries { d with aliases := d.aliases ++ [(n, i)] } rest
    | none => addEntries { d with members := d.members ++ [(n, v)] } rest

def define (name : String) (base : EnumBase) (entries : List (String × Value)) : EnumDef :=
  addEntries ⟨name, base, [], []⟩ entries

def member? (d : EnumDef) (i : Nat) : Option Value :=
  match d.members[i]? with
  | some (n, v) => some (.member d.name d.base n i v)
  | none => none

def all (d : EnumDef) : List Value :=
  (List.range d.members.length).filterMap d.member?

def byName? (d : EnumDef) (n : String) : Option Value :=
  match d.members.findIdx? (·.1 == n) with
  | some i => d.member? i
  | none =>
    match d.aliases.lookup n with
    | some i => d.member? i
    | none => none

def owns (d : EnumDef) : Value → Bool
  | .member e _ _ _ _ => e == d.name
  | _ => false

/-- The member a value gives: a member of this enumeration is itself, any other value finds
the first member with an equal value. -/
def byValue? (d : EnumDef) (v : Value) : Option Value :=
  if d.owns v then some v
  else
    match d.members.findIdx? (fun m => Value.pyEq m.2 v) with
    | some i => d.member? i
    | none => none

def notValid (d : EnumDef) (v : Value) : Failure :=
  .value (v.repr ++ " is not a valid " ++ d.name)

def columnModes : EnumDef :=
  define "EnumType" .text [("STRING", .str "string"), ("ORDINAL", .str "ordinal"),
    ("VALUE", .str "value")]

theorem member?_some (d : EnumDef) (i : Nat) (h : i < d.members.length) :
    d.member? i = some (.member d.name d.base d.members[i].1 i d.members[i].2) := by
  simp [member?, List.getElem?_eq_getElem h]

end EnumDef

end DataMapper
