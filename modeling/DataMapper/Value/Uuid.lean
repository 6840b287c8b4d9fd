import DataMapper.Number.Parse
import DataMapper.Failure

namespace DataMapper

namespace Uuid

/-- Removes every occurrence of `pat` from `cs`, scanning left to right. -/
def removeAll (pat : List Char) : List Char → List Char
  | [] => []
  | c :: cs =>
    if pat.isPrefixOf (c :: cs) && !pat.isEmpty then removeAll pat ((c :: cs).drop pat.length)
    else c :: removeAll pat cs
termination_by cs => cs.length
decreasing_by
  all_goals simp_wf
  · have : pat.length ≥ 1 := by
      cases pat with
      | nil => simp at *
      | cons _ _ => simp
    omega

def stripBraces (cs : List Char) : List Char :=
  let isBrace := fun c => c == '{' || c == '}'
  ((cs.dropWhile isBrace).reverse.dropWhile isBrace).reverse

def badlyFormed : Failure := .value "badly formed hexadecimal UUID string"

end Uuid

open Uuid in
/-- The identifier a text spells. -/
def uuidOfText (s : String) : Except Failure Nat :=
  let cs := removeAll "uuid:".toList (removeAll "urn:".toList s.toList)
  let hex := (stripBraces cs).filter (· != '-')
  if hex.length != 32 then .error badlyFormed
  else
    match readInteger (String.ofList hex) 16 with
    | .error _ =>
      .error (.value ("invalid literal for int() with base 16: " ++ Text.quote (String.ofList hex)))
    | .ok n =>
      if n < 0 ∨ n ≥ Int.pow 2 128 then .error (.value "int is out of range (need a 128-bit value)")
      else .ok n.toNat

end DataMapper
