import DataMapper.Store.Datum

namespace DataMapper.Store

/-- A way of comparing texts. -/
inductive Collation
  | binary
  | nocase
  | rtrim
  deriving DecidableEq, Inhabited

namespace Collation

def ofName? (name : String) : Option Collation :=
  match name.map Char.toUpper with
  | "BINARY" => some .binary
  | "NOCASE" => some .nocase
  | "RTRIM" => some .rtrim
  | _ => none

def key : Collation → String → String
  | .binary, s => s
  | .nocase, s => s.map Char.toLower
  | .rtrim, s => String.ofList (s.toList.reverse.dropWhile (· == ' ')).reverse

def compareText (c : Collation) (s t : String) : Ordering := Ord.compare (c.key s) (c.key t)

theorem nocase_key (s : String) : nocase.key s = s.map Char.toLower := rfl

end Collation

namespace Datum

def compareIn (c : Collation) : Datum → Datum → Ordering
  | .text s, .text t => c.compareText s t
  | a, b => a.compare b

def sameIn (c : Collation) (a b : Datum) : Bool := a.compareIn c b == .eq

theorem compareIn_binary_text (s t : String) :
    compareIn .binary (.text s) (.text t) = Ord.compare s t := rfl

end Datum

end DataMapper.Store
