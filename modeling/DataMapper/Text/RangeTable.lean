
namespace DataMapper.Text

/-- A run of code points `lo, lo+stride, …, ≤ hi`, each mapped to itself plus `delta`. -/
structure Span where
  lo : Nat
  hi : Nat
  stride : Nat
  delta : Int

def hexDigit? (c : Char) : Option Nat :=
  if '0' ≤ c ∧ c ≤ '9' then some (c.toNat-48)
  else if 'a' ≤ c ∧ c ≤ 'f' then some (c.toNat-87)
  else if 'A' ≤ c ∧ c ≤ 'F' then some (c.toNat-55)
  else none

def readHex? (s : String) : Option Nat :=
  match s.toList with
  | [] => none
  | cs => cs.foldlM (fun acc c => (hexDigit? c).map (acc*16+·)) 0

def readSigned? (s : String) : Option Int :=
  match s.toList with
  | '-' :: cs => (String.toNat? (String.ofList cs)).map (fun n => -(n : Int))
  | _ => (s.toNat?).map (fun n => (n : Int))

/-- Reads `lo,hi,stride,delta` entries; an entry of two numbers is a plain range. -/
def Span.readTable (text : String) : Array Span :=
  (text.splitOn ";").foldl (fun acc e =>
    match e.splitOn "," with
    | [a, b] =>
      match readHex? a, readHex? b with
      | some lo, some hi => acc.push ⟨lo,hi,1,0⟩
      | _, _ => acc
    | [a, b, s, d] =>
      match readHex? a, readHex? b, s.toNat?, readSigned? d with
      | some lo, some hi, some st, some dl => acc.push ⟨lo,hi,st,dl⟩
      | _, _, _, _ => acc
    | _ => acc) #[]

/-- The span whose bounds hold `c`, found by halving; spans are sorted and disjoint. -/
def Span.find? (t : Array Span) (c : Nat) : Option Span :=
  go 0 t.size
where
  go (lo hi : Nat) : Option Span :=
    if _h : lo < hi then
      let mid := (lo+hi)/2
      match t[mid]? with
      | none => none
      | some sp =>
        if c < sp.lo then go lo mid
        else if sp.hi < c then go (mid+1) hi
        else some sp
    else none
  termination_by hi-lo

def Span.covers (sp : Span) (c : Nat) : Bool :=
  sp.lo ≤ c && c ≤ sp.hi && (c-sp.lo) % sp.stride == 0

def Span.member (t : Array Span) (c : Char) : Bool :=
  match Span.find? t c.toNat with
  | some sp => sp.covers c.toNat
  | none => false

def Span.image? (t : Array Span) (c : Char) : Option Char :=
  match Span.find? t c.toNat with
  | some sp => if sp.covers c.toNat then some (Char.ofNat ((c.toNat : Int)+sp.delta).toNat) else none
  | none => none

def readExpansions (text : String) : List (Nat × List Char) :=
  (text.splitOn ";").filterMap fun e =>
    match (e.splitOn ",").map readHex? with
    | some c :: rest => some (c, rest.filterMap (·.map Char.ofNat))
    | _ => none

end DataMapper.Text
