
namespace DataMapper.Text

def standInBase : Nat := 0x10F800

def standIn (n : Nat) : Char := Char.ofNat (standInBase + (n - 0xD800))

def surrogateOf? (c : Char) : Option Nat :=
  if standInBase ≤ c.toNat then some (c.toNat - standInBase + 0xD800) else none

/-- A lone half's stand-in gives the half back. -/
theorem surrogateOf_standIn {n : Nat} (h₁ : 0xD800 ≤ n) (h₂ : n ≤ 0xDFFF) :
    surrogateOf? (standIn n) = some n := by
  have hvalid : (standInBase + (n - 0xD800)).isValidChar := by
    simp only [Nat.isValidChar, standInBase]
    omega
  have hnat : (standIn n).toNat = standInBase + (n - 0xD800) := by
    unfold standIn Char.ofNat
    rw [dif_pos hvalid]
    rfl
  simp only [surrogateOf?, hnat, if_pos (Nat.le_add_right _ _), Option.some.injEq]
  omega

end DataMapper.Text
