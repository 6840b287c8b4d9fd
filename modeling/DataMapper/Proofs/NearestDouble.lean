import DataMapper.Value.Arith
import Mathlib.Tactic.SplitIfs
import Mathlib.Tactic.Linarith
import Mathlib.Tactic.Ring

namespace DataMapper

namespace Binary64

theorem roundHalfEven_cases (n d : Nat) :
    (roundHalfEven n d = n / d ∧ 2 * (n % d) ≤ d) ∨
      (roundHalfEven n d = n / d + 1 ∧ d ≤ 2 * (n % d)) := by
  unfold roundHalfEven
  dsimp only
  split_ifs <;> omega

theorem roundHalfEven_le {n d : Nat} : 2 * (roundHalfEven n d * d) ≤ 2 * n + d := by
  have hdiv := Nat.div_add_mod n d
  rcases roundHalfEven_cases n d with ⟨h, hr⟩ | ⟨h, hr⟩
  · rw [h, Nat.mul_comm (n / d) d]
    omega
  · rw [h, Nat.add_mul, Nat.one_mul, Nat.mul_comm (n / d) d]
    omega

theorem le_roundHalfEven {n d : Nat} (hd : 0 < d) : 2 * n ≤ 2 * (roundHalfEven n d * d) + d := by
  have hdiv := Nat.div_add_mod n d
  have hlt := Nat.mod_lt n hd
  rcases roundHalfEven_cases n d with ⟨h, hr⟩ | ⟨h, hr⟩
  · rw [h, Nat.mul_comm (n / d) d]
    omega
  · rw [h, Nat.add_mul, Nat.one_mul, Nat.mul_comm (n / d) d]
    omega

theorem scaled_eq (a : Nat) (k : Int) : scaled a k = (a * 2 ^ k.toNat, 2 ^ (-k).toNat) := by
  unfold scaled
  split_ifs with hk
  · have : (-k).toNat = 0 := by omega
    simp [this, Nat.pow_eq]
  · have : k.toNat = 0 := by omega
    simp [this, Nat.pow_eq]

theorem two_pow_mul_balance {a b c d : Nat} (h : a + b = c + d) :
    2 ^ a * 2 ^ b = 2 ^ c * 2 ^ d := by
  rw [← Nat.pow_add, ← Nat.pow_add, h]

/-- `floorLog2 num den` is the exponent `t` with `2^t ≤ num/den < 2^(t+1)`, written without
negative powers. -/
theorem floorLog2_spec {num den : Nat} (hn : 0 < num) (hd : 0 < den) :
    den * 2 ^ (floorLog2 num den).toNat ≤ num * 2 ^ (-floorLog2 num den).toNat ∧
      num * 2 ^ (-floorLog2 num den).toNat < 2 * den * 2 ^ (floorLog2 num den).toNat := by
  have hn1 : 2 ^ num.log2 ≤ num := Nat.log2_self_le (by omega)
  have hn2 : num < 2 ^ (num.log2 + 1) := Nat.lt_log2_self
  have hd1 : 2 ^ den.log2 ≤ den := Nat.log2_self_le (by omega)
  have hd2 : den < 2 ^ (den.log2 + 1) := Nat.lt_log2_self
  unfold floorLog2
  simp only [scaled_eq, Nat.one_mul]
  generalize hk : (num.log2 : Int) - den.log2 = k
  have hbal : 2 ^ num.log2 * 2 ^ (-k).toNat = 2 ^ den.log2 * 2 ^ k.toNat :=
    two_pow_mul_balance (by omega)
  have hA := Nat.two_pow_pos (-k).toNat
  have hB := Nat.two_pow_pos k.toNat
  split_ifs with htest
  · refine ⟨htest, ?_⟩
    have hup := Nat.mul_lt_mul_of_pos_right hn2 hA
    rw [Nat.pow_succ] at hup
    nlinarith
  · have hbal' : 2 ^ (-(k - 1)).toNat * 2 ^ k.toNat = 2 * (2 ^ (-k).toNat * 2 ^ (k - 1).toNat) := by
      rw [← Nat.pow_add, ← Nat.pow_add, ← Nat.pow_succ']
      congr 1
      omega
    have hA' := Nat.two_pow_pos (-(k - 1)).toNat
    have hB' := Nat.two_pow_pos (k - 1).toNat
    constructor
    · have hlow := Nat.mul_lt_mul_of_pos_right hd2 hB
      rw [Nat.pow_succ] at hlow
      have h1 : den * 2 ^ k.toNat < 2 * (num * 2 ^ (-k).toNat) := by
        nlinarith [Nat.mul_le_mul_right (2 ^ (-k).toNat) hn1]
      have h2 : den * 2 ^ (k - 1).toNat * 2 ^ k.toNat <
          num * 2 ^ (-(k - 1)).toNat * 2 ^ k.toNat :=
        calc den * 2 ^ (k - 1).toNat * 2 ^ k.toNat
            = den * 2 ^ k.toNat * 2 ^ (k - 1).toNat := by ring
          _ < 2 * (num * 2 ^ (-k).toNat) * 2 ^ (k - 1).toNat :=
            Nat.mul_lt_mul_of_pos_right h1 hB'
          _ = num * (2 * (2 ^ (-k).toNat * 2 ^ (k - 1).toNat)) := by ring
          _ = num * 2 ^ (-(k - 1)).toNat * 2 ^ k.toNat := by rw [← hbal']; ring
      exact Nat.le_of_lt (Nat.lt_of_mul_lt_mul_right h2)
    · nlinarith

section Scale

variable {T S k : Nat} {t : Int}

theorem exponent_le (hT : T < 2 ^ 53) (hS : 0 < S)
    (hlo : S * 2 ^ t.toNat ≤ T * 2 ^ (-t).toNat) : t ≤ 52 := by
  by_contra h
  have hneg : (-t).toNat = 0 := by omega
  have hpow : 2 ^ 53 ≤ 2 ^ t.toNat := Nat.pow_le_pow_right (by omega) (by omega)
  have hS2 : 2 ^ t.toNat ≤ S * 2 ^ t.toNat := Nat.le_mul_of_pos_left _ hS
  rw [hneg, Nat.pow_zero, Nat.mul_one] at hlo
  omega

theorem divisor_lt_grid (hT : T < 2 ^ 53) (hS : S < 2 ^ 1075)
    (hlo : S * 2 ^ t.toNat ≤ T * 2 ^ (-t).toNat) (hk : (k : Int) = min (52 - t) 1074) :
    S < 2 * 2 ^ k := by
  by_cases hnormal : 52 - t ≤ 1074
  · rw [← Nat.pow_succ']
    have hexp : 2 ^ (k + 1) * 2 ^ t.toNat = 2 ^ 53 * 2 ^ (-t).toNat :=
      two_pow_mul_balance (by omega)
    apply Nat.lt_of_mul_lt_mul_right (a := 2 ^ t.toNat)
    calc S * 2 ^ t.toNat ≤ T * 2 ^ (-t).toNat := hlo
      _ < 2 ^ 53 * 2 ^ (-t).toNat := Nat.mul_lt_mul_of_pos_right hT (Nat.two_pow_pos _)
      _ = 2 ^ (k + 1) * 2 ^ t.toNat := hexp.symm
  · have hk' : k = 1074 := by omega
    have h1075 : 1075 = k + 1 := by omega
    rw [h1075, Nat.pow_succ'] at hS
    exact hS

theorem scaled_lt (hhi : T * 2 ^ (-t).toNat < 2 * S * 2 ^ t.toNat)
    (hk : (k : Int) = min (52 - t) 1074) : T * 2 ^ k < 2 ^ 53 * S := by
  have hexp : 2 ^ k * 2 ^ t.toNat ≤ 2 ^ (-t).toNat * 2 ^ 52 := by
    rw [← Nat.pow_add, ← Nat.pow_add]
    exact Nat.pow_le_pow_right (by omega) (by omega)
  apply Nat.lt_of_mul_lt_mul_right (a := 2 ^ t.toNat)
  calc T * 2 ^ k * 2 ^ t.toNat = T * (2 ^ k * 2 ^ t.toNat) := Nat.mul_assoc ..
    _ ≤ T * (2 ^ (-t).toNat * 2 ^ 52) := Nat.mul_le_mul_left _ hexp
    _ = T * 2 ^ (-t).toNat * 2 ^ 52 := (Nat.mul_assoc ..).symm
    _ < 2 * S * 2 ^ t.toNat * 2 ^ 52 := Nat.mul_lt_mul_of_pos_right hhi (Nat.two_pow_pos _)
    _ = 2 ^ 53 * S * 2 ^ t.toNat := by ring

theorem le_scaled (hlo : S * 2 ^ t.toNat ≤ T * 2 ^ (-t).toNat) (hk : (k : Int) = 52 - t) :
    2 ^ 52 * S ≤ T * 2 ^ k := by
  have hexp : 2 ^ k * 2 ^ t.toNat = 2 ^ (-t).toNat * 2 ^ 52 := two_pow_mul_balance (by omega)
  apply Nat.le_of_mul_le_mul_right _ (Nat.two_pow_pos t.toNat)
  calc 2 ^ 52 * S * 2 ^ t.toNat = S * 2 ^ t.toNat * 2 ^ 52 := by ring
    _ ≤ T * 2 ^ (-t).toNat * 2 ^ 52 := Nat.mul_le_mul_right _ hlo
    _ = T * 2 ^ k * 2 ^ t.toNat := by rw [Nat.mul_assoc, Nat.mul_assoc, hexp]

end Scale

/-- A pattern with a clear sign bit reads back as the exponent and fraction fields it was
built from: a subnormal for exponent field zero, else a normal number with the hidden bit. -/
theorem shape_ofFields {ex fr : Nat} (hex : ex < 2047) (hfr : fr < 2 ^ 52) :
    (ofFields false ex fr).shape =
      if ex = 0 then .finite false fr (-1074)
      else .finite false (fr + 2 ^ 52) ((ex : Int) - 1075) := by
  have hbits : (ofFields false ex fr).bits.toNat = ex * 2 ^ 52 + fr := by
    simp only [ofFields, Bool.false_eq_true, if_false, Nat.pow_eq, Nat.zero_add,
      UInt64.toNat_ofNat']
    omega
  unfold shape
  simp only [hbits, Nat.pow_eq, fracBits]
  have hsign : (ex * 2 ^ 52 + fr) / 2 ^ 63 = 0 := by omega
  have hex' : (ex * 2 ^ 52 + fr) / 2 ^ 52 % 2 ^ 11 = ex := by omega
  have hfr' : (ex * 2 ^ 52 + fr) % 2 ^ 52 = fr := by omega
  have hne : ex ≠ 2047 := by omega
  simp only [hsign, hex', hfr', hne, if_false]
  rfl

theorem shape_pack {m : Nat} {e : Int} (hm : 0 < m) (hm' : m < 2 ^ 53) (he : -1074 ≤ e)
    (he' : e ≤ 971) (hsub : m < 2 ^ 52 → e = -1074) : (pack false m e).shape = .finite false m e := by
  unfold pack
  have hfrac : fracBits = 2 ^ 52 := Nat.pow_eq
  rw [if_neg (by omega), hfrac]
  by_cases hs : m < 2 ^ 52
  · rw [if_pos hs, shape_ofFields (by omega) hs, if_pos rfl, hsub hs]
  · have hfin : ¬ e > 971 := by omega
    have hex : (e + 1075).toNat < 2047 := by omega
    have hfr : m - 2 ^ 52 < 2 ^ 52 := by omega
    have hnz : (e + 1075).toNat ≠ 0 := by omega
    have hsig : m - 2 ^ 52 + 2 ^ 52 = m := by omega
    have hexp : ((e + 1075).toNat : Int) - 1075 = e := by omega
    rw [if_neg hs, if_neg hfin, shape_ofFields hex hfr, if_neg hnz, hsig, hexp]

theorem ceil_div_double {a b : Nat} : (2 * a + 2 * b - 1) / (2 * b) = (a + b - 1) / b := by
  rw [← Nat.div_div_eq_div_mul]
  congr 1
  omega

/-- Rounding `T/S` to a multiple of `1/P`, a grid finer than `2/S`, keeps its ceiling: the
rounded value lies within half a step of `T/S`, and `T/S` is at least `1/S` away from the
integer below its ceiling. -/
theorem ceil_of_rounded {T S P m : Nat} (hS : 0 < S) (hP : S < 2 * P)
    (h1 : 2 * (m * S) ≤ 2 * (T * P) + S) (h2 : 2 * (T * P) ≤ 2 * (m * S) + S) :
    (m + P - 1) / P = (T + S - 1) / S := by
  have hdm := Nat.div_add_mod (T + S - 1) S
  have hlt := Nat.mod_lt (T + S - 1) hS
  generalize hq : (T + S - 1) / S = q at hdm
  have hq1 : T ≤ S * q := by omega
  have hq2 : S * q < T + S := by omega
  have hup : m ≤ q * P := by
    by_contra hc
    have hc' : q * P + 1 ≤ m := by omega
    nlinarith [Nat.mul_le_mul_right S hc', Nat.mul_le_mul_right P hq1]
  have hlow : q * P < m + P := by
    by_contra hc
    have hc' : m + P ≤ q * P := by omega
    nlinarith [Nat.mul_le_mul_right S hc', Nat.mul_le_mul_right P hq2]
  apply Nat.div_eq_of_lt_le
  · omega
  · rw [Nat.add_mul, Nat.one_mul]
    omega

end Binary64

/-- The ceiling of a natural over a positive natural, as integer division of its negation
computes it. -/
theorem neg_ediv_neg_eq_ceil {n d : Nat} (hd : 0 < d) :
    -((-(n : Int)) / (d : Int)) = (((n + d - 1) / d : Nat) : Int) := by
  have hdm := Nat.div_add_mod (n + d - 1) d
  have hlt := Nat.mod_lt (n + d - 1) hd
  generalize (n + d - 1) / d = c at hdm
  have hd' : (0 : Int) < d := by exact_mod_cast hd
  have hq : (-(n : Int)) / (d : Int) = -(c : Int) := by
    refine ((Int.ediv_emod_unique (r := (d : Int) * c - n) hd').mpr ⟨?_, ?_, ?_⟩).1
    · ring
    · have : n ≤ d * c := by omega
      have : (n : Int) ≤ (d : Int) * c := by exact_mod_cast this
      omega
    · have : d * c < n + d := by omega
      have : (d : Int) * c < n + d := by exact_mod_cast this
      omega
  rw [hq, Int.neg_neg]

namespace Num

/-- The ceiling of a finite double that is not negative: its exact value `m·2^e` as a quotient,
rounded up. -/
theorem ceil_float_finite {x : Binary64} {m : Nat} {e : Int} (hx : x.shape = .finite false m e) :
    Num.ceil (.float x) =
      .ok (((m * 2 ^ e.toNat + 2 ^ (-e).toNat - 1) / 2 ^ (-e).toNat : Nat) : Int) := by
  have hnan : x.isNaN = false := by simp [Binary64.isNaN, hx]
  have hratio : x.toRatio? = some (((m * 2 ^ e.toNat : Nat) : Int), 2 ^ (-e).toNat) := by
    simp [Binary64.toRatio?, hx, Binary64.scaled_eq]
  simp only [ceil, hnan, Bool.false_eq_true, if_false, hratio]
  rw [neg_ediv_neg_eq_ceil (Nat.two_pow_pos _)]

end Num

namespace Binary64

/-- A significand in range, packed at the exponent `-k`, is a finite double whose ceiling is
the ceiling of `m / 2^k`. -/
theorem ceil_pack {m k : Nat} (hm : 0 < m) (hm' : m < 2 ^ 53) (hk : k ≤ 1074)
    (hsub : m < 2 ^ 52 → k = 1074) :
    (pack false m (-k)).isInf = false ∧
      Num.ceil (.float (pack false m (-k))) = .ok (((m + 2 ^ k - 1) / 2 ^ k : Nat) : Int) := by
  have hshape := shape_pack (e := -(k : Int)) hm hm' (by omega) (by omega) (fun h => by rw [hsub h]; rfl)
  refine ⟨by rw [isInf, hshape], ?_⟩
  rw [Num.ceil_float_finite hshape]
  have h1 : (-(k : Int)).toNat = 0 := by omega
  have h2 : (-(-(k : Int))).toNat = k := by omega
  rw [h1, h2, Nat.pow_zero, Nat.mul_one]

theorem ceil_pack_carry {k : Nat} (hk : 1 ≤ k) (hk' : k ≤ 1074) :
    (pack false (2 ^ 52) (1 - k)).isInf = false ∧
      Num.ceil (.float (pack false (2 ^ 52) (1 - k))) =
        .ok (((2 ^ 53 + 2 ^ k - 1) / 2 ^ k : Nat) : Int) := by
  have hshape := shape_pack (m := 2 ^ 52) (e := 1 - (k : Int)) (by omega) (by omega) (by omega) (by omega) (by omega)
  refine ⟨by rw [isInf, hshape], ?_⟩
  rw [Num.ceil_float_finite hshape]
  obtain ⟨j, rfl⟩ : ∃ j, k = j + 1 := ⟨k - 1, by omega⟩
  have h1 : ((1 : Int) - ((j + 1 : Nat) : Int)).toNat = 0 := by omega
  have h2 : (-((1 : Int) - ((j + 1 : Nat) : Int))).toNat = j := by omega
  have htop : (2 : Nat) ^ 53 = 2 * 2 ^ 52 := by norm_num
  have hgrid : (2 : Nat) ^ (j + 1) = 2 * 2 ^ j := Nat.pow_succ'
  rw [h1, h2, Nat.pow_zero, Nat.mul_one, htop, hgrid, ceil_div_double]

/-- On a positive quotient whose binary exponent is at most `52`, `ofRatio` scales by `2^k`,
rounds to the nearest integer and packs; a significand rounded up to `2^53` carries. -/
theorem ofRatio_eq_pack {T S k : Nat} (hT : 0 < T) (hS : 0 < S) (ht : floorLog2 T S ≤ 52)
    (hk : (k : Int) = min (52 - floorLog2 T S) 1074) :
    ofRatio false T S =
      if roundHalfEven (T * 2 ^ k) S = 2 ^ 53 then pack false (2 ^ 52) (1 - k)
      else pack false (roundHalfEven (T * 2 ^ k) S) (-k) := by
  have he : max (floorLog2 T S - 52) (-1074) = -(k : Int) := by omega
  have hk' : (-(-(k : Int))).toNat = k := by omega
  have h0 : (-(k : Int)).toNat = 0 := by omega
  have hcarry : -(k : Int) + 1 = 1 - k := by omega
  unfold ofRatio
  simp only [he, scaled_eq, hk', h0, hcarry, Nat.pow_eq, Nat.pow_zero, Nat.mul_one]
  rw [if_neg (by omega), if_neg (by omega)]

theorem ceil_ofRatio_zero {S : Nat} (hS : 0 < S) :
    (ofRatio false 0 S).isInf = false ∧
      Num.ceil (.float (ofRatio false 0 S)) = .ok (((0 + S - 1) / S : Nat) : Int) := by
  have hzero : ofRatio false 0 S = ofFields false 0 0 := by simp [ofRatio]
  have hshape : (ofFields false 0 0).shape = .finite false 0 (-1074) := by
    rw [shape_ofFields (by omega) (by omega), if_pos rfl]
  rw [hzero]
  refine ⟨by rw [isInf, hshape], ?_⟩
  have hgrid := Nat.two_pow_pos (-(-1074 : Int)).toNat
  rw [Num.ceil_float_finite hshape, Nat.div_eq_of_lt (by omega), Nat.div_eq_of_lt (by omega)]

/-- A quotient of a count below `2^53` by a divisor below `2^1075` rounds to a finite double
with the same ceiling as the quotient. The divisor bound keeps the rounding grid, at worst the
subnormal spacing `2^-1074`, finer than `2/S`. -/
theorem ceil_ofRatio {T S : Nat} (hT : T < 2 ^ 53) (hS : 0 < S) (hS' : S < 2 ^ 1075) :
    (ofRatio false T S).isInf = false ∧
      Num.ceil (.float (ofRatio false T S)) = .ok (((T + S - 1) / S : Nat) : Int) := by
  rcases Nat.eq_zero_or_pos T with rfl | hT0
  · exact ceil_ofRatio_zero hS
  obtain ⟨hlo, hhi⟩ := floorLog2_spec hT0 hS
  have ht := exponent_le hT hS hlo
  obtain ⟨k, hk⟩ : ∃ k : Nat, (k : Int) = min (52 - floorLog2 T S) 1074 :=
    ⟨_, Int.toNat_of_nonneg (by omega)⟩
  have hfine := divisor_lt_grid hT hS' hlo hk
  have hbelow := scaled_lt hhi hk
  rw [ofRatio_eq_pack hT0 hS ht hk]
  have hup := roundHalfEven_le (n := T * 2 ^ k) (d := S)
  have hdown := le_roundHalfEven (n := T * 2 ^ k) hS
  generalize roundHalfEven (T * 2 ^ k) S = m at hup hdown ⊢
  rw [← ceil_of_rounded hS hfine hup hdown]
  split_ifs with hcarry
  · -- a carry needs a grid finer than one: at `k = 0` the quotient would reach `2^53`
    subst hcarry
    have hk1 : 1 ≤ k := by
      by_contra h
      have hk0 : k = 0 := by omega
      rw [hk0, Nat.pow_zero, Nat.mul_one] at hup
      omega
    exact ceil_pack_carry hk1 (by omega)
  · have hm : 0 < m := by
      have hgrid : 2 ^ k ≤ T * 2 ^ k := Nat.le_mul_of_pos_left _ hT0
      by_contra h
      rw [Nat.eq_zero_of_not_pos h, Nat.zero_mul] at hdown
      omega
    have hm' : m < 2 ^ 53 := by
      have hlt : m * S < (2 ^ 53 + 1) * S := by
        rw [Nat.add_mul, Nat.one_mul]
        omega
      have := Nat.lt_of_mul_lt_mul_right hlt
      omega
    have hsub : m < 2 ^ 52 → k = 1074 := by
      intro hsmall
      by_contra hk'
      have hnorm := le_scaled hlo (k := k) (by omega)
      have hle : 2 ^ 53 * S ≤ (2 * m + 1) * S := by
        rw [Nat.add_mul, Nat.one_mul, Nat.mul_assoc]
        omega
      have := Nat.le_of_mul_le_mul_right hle hS
      omega
    exact ceil_pack hm hm' (by omega) hsub

end Binary64

end DataMapper
