import Mathlib.Algebra.Order.Floor.Ring
import Mathlib.Data.Int.Log
import Mathlib.Data.Rat.Floor
import Mathlib.Tactic.FieldSimp
import Mathlib.Tactic.Linarith
import Mathlib.Tactic.NormNum
import Mathlib.Tactic.Positivity
import SocFabric.Lib.PyNum

/-!
# Finite doubles as rational numbers

`round` is the nearest double, ties to even, with gradual underflow. A number that is a whole
multiple of a power of two and not too large beside it is its own nearest double (`round_multiple`);
so the difference of two doubles from 60 on is exact as long as it stays below 60 (`round_sub`).
Below that it may round, but never the other way round than another difference (`round_mono`).
-/

namespace Float64

/-- The distance of neighbouring doubles around a number. -/
def ulp (x : Rat) : Rat := 2 ^ max (Int.log 2 |x| - 52) (-1074)

/-- The double nearest to a number, if there is a finite one. -/
def round (x : Rat) : Option Rat :=
  if x = 0 then some 0
  else if |roundEven (x / ulp x) * ulp x| < 2 ^ 1024 then some (roundEven (x / ulp x) * ulp x)
  else none

theorem roundEven_intCast (n : Int) : roundEven (n : Rat) = n := by
  simp [roundEven]

theorem two_zpow_split (e e' : Int) (h : e' ≤ e) : ∃ n : Int, (2 : Rat) ^ e = n * 2 ^ e' := by
  refine ⟨2 ^ (e - e').toNat, ?_⟩
  rw [Int.cast_pow, Int.cast_ofNat, ← zpow_natCast, Int.toNat_of_nonneg (by omega), ← zpow_add₀ (by norm_num)]
  congr 1
  omega

/-- A number with at most 53 bits above `2 ^ e` is a double. -/
theorem round_multiple {x : Rat} {k e : Int} (hx : x = k * 2 ^ e) (he : -1074 ≤ e) (he' : e ≤ 971)
    (hlt : |x| < 2 ^ (e + 53)) : round x = some x := by
  by_cases hzero : x = 0
  · rw [round, if_pos hzero, hzero]
  have hpos : 0 < |x| := abs_pos.mpr hzero
  -- The exponent of the last place is at most `e`, so that `x` is a whole number of last places.
  have hlog : Int.log 2 |x| < e + 53 := (Int.lt_zpow_iff_log_lt (by norm_num) hpos).mp (by exact_mod_cast hlt)
  obtain ⟨n, hn⟩ := two_zpow_split e (max (Int.log 2 |x| - 52) (-1074)) (by omega)
  have hulp : ulp x ≠ 0 := zpow_ne_zero _ (by norm_num)
  have hwhole : x / ulp x = ((k * n : Int) : Rat) := by
    rw [div_eq_iff hulp, ulp, Int.cast_mul, mul_assoc, ← hn, hx]
  have hround : (roundEven (x / ulp x) : Rat) * ulp x = x := by
    rw [hwhole, roundEven_intCast, ← hwhole, div_mul_cancel₀ x hulp]
  have hfin : |x| < 2 ^ 1024 := by
    refine hlt.trans_le ?_
    have hmono : (2 : Rat) ^ (e + 53) ≤ 2 ^ (1024 : Int) := zpow_le_zpow_right₀ (by norm_num) (by omega)
    exact_mod_cast hmono
  rw [round, if_neg hzero, hround, if_pos hfin]

/-- A double from `2 ^ m` on is a whole multiple of `2 ^ (m - 52)`. -/
theorem exists_multiple {x : Rat} {m : Int} (h : round x = some x) (hx : 2 ^ m ≤ x) :
    ∃ k : Int, x = k * 2 ^ (m - 52) := by
  have hpos : 0 < x := lt_of_lt_of_le (zpow_pos (by norm_num) m) hx
  have hlog : m ≤ Int.log 2 |x| := by
    rw [abs_of_pos hpos]
    exact (Int.zpow_le_iff_le_log (by norm_num) hpos).mp (by exact_mod_cast hx)
  rw [round, if_neg hpos.ne'] at h
  split_ifs at h
  obtain ⟨n, hn⟩ := two_zpow_split (max (Int.log 2 |x| - 52) (-1074)) (m - 52) (by omega)
  refine ⟨roundEven (x / ulp x) * n, ?_⟩
  have heq := Option.some.inj h
  rw [Int.cast_mul, mul_assoc, ← hn]
  exact heq.symm

/-- The difference of two doubles from 60 on that are less than 60 apart is a double. -/
theorem round_sub {x y : Rat} (hx : round x = some x) (hy : round y = some y) (h60 : 60 ≤ y) (hle : y ≤ x)
    (hlt : x - y < 60) : round (x - y) = some (x - y) := by
  obtain ⟨k, hk⟩ := exists_multiple (m := 5) hx (by norm_num; linarith)
  obtain ⟨l, hl⟩ := exists_multiple (m := 5) hy (by norm_num; linarith)
  apply round_multiple (k := k - l) (e := 5 - 52)
  · rw [Int.cast_sub, sub_mul, ← hk, ← hl]
  · norm_num
  · norm_num
  · rw [abs_of_nonneg (by linarith)]
    norm_num
    linarith

theorem round_natCast {n : Nat} (h : n < 2 ^ 53) : round n = some n := by
  apply round_multiple (k := n) (e := 0)
  · simp
  · norm_num
  · norm_num
  · rw [abs_of_nonneg (by positivity)]
    have hcast : (n : Rat) < 2 ^ 53 := by exact_mod_cast h
    simpa using hcast

/-! ### Rounding is monotone -/

theorem roundEven_mono {x y : Rat} (h : x ≤ y) : roundEven x ≤ roundEven y := by
  have hfloor : x.floor ≤ y.floor := Rat.floor_monotone h
  rcases hfloor.lt_or_eq with hlt | heq
  · have hx : roundEven x ≤ x.floor + 1 := by
      unfold roundEven
      split_ifs <;> omega
    have hy : y.floor ≤ roundEven y := by
      unfold roundEven
      split_ifs <;> omega
    omega
  · -- Both lie between the same two integers, and the decision is on the part behind the point.
    unfold roundEven
    rw [heq]
    have hpart : x - y.floor ≤ y - y.floor := by linarith
    split_ifs with hx hy hy
    · exact le_rfl
    · omega
    · exfalso
      apply hx
      rcases hy with hy | ⟨hy, heven⟩
      · exact .inl (hpart.trans_lt hy)
      · rcases (hpart.trans_eq hy).lt_or_eq with h' | h'
        · exact .inl h'
        · exact .inr ⟨h', heven⟩
    · exact le_rfl

/-- Rounding to whole last places does not move a number past a power of two. -/
theorem roundEven_mul_ulp_mono {x y : Rat} (hx : 0 < x) (h : x ≤ y) :
    (roundEven (x / ulp x) : Rat) * ulp x ≤ roundEven (y / ulp y) * ulp y := by
  have hy : 0 < y := hx.trans_le h
  have hux : 0 < ulp x := zpow_pos (by norm_num) _
  have huy : 0 < ulp y := zpow_pos (by norm_num) _
  have hlog : Int.log 2 |x| ≤ Int.log 2 |y| := by
    rw [abs_of_pos hx, abs_of_pos hy]
    exact Int.log_mono_right hx h
  rcases (max_le_max_right (-1074) (sub_le_sub_right hlog 52)).eq_or_lt with heq | hlt
  · have hulp : ulp x = ulp y := by rw [ulp, ulp, heq]
    have hround : roundEven (x / ulp y) ≤ roundEven (y / ulp y) :=
      roundEven_mono (div_le_div_of_nonneg_right h huy.le)
    rw [hulp]
    exact mul_le_mul_of_nonneg_right (by exact_mod_cast hround) huy.le
  · -- The power of two at or below `y` lies between the two and is a whole number of last places of both.
    have hpow : (2 : Rat) ^ Int.log 2 |y| ≤ y := by
      have := Int.zpow_log_le_self (b := 2) (by norm_num) hy
      rw [abs_of_pos hy]
      exact_mod_cast this
    have hxpow : x ≤ 2 ^ Int.log 2 |y| := by
      have hself := Int.lt_zpow_succ_log_self (b := 2) (by norm_num) x
      rw [← abs_of_pos hx] at hself ⊢
      have hexp : (2 : Rat) ^ (Int.log 2 |x| + 1) ≤ 2 ^ Int.log 2 |y| :=
        zpow_le_zpow_right₀ (by norm_num) (by omega)
      exact (le_of_lt (by exact_mod_cast hself)).trans hexp
    obtain ⟨n, hn⟩ := two_zpow_split (Int.log 2 |y|) (max (Int.log 2 |x| - 52) (-1074)) (by omega)
    obtain ⟨m, hm⟩ := two_zpow_split (Int.log 2 |y|) (max (Int.log 2 |y| - 52) (-1074)) (by omega)
    have hleft : (roundEven (x / ulp x) : Rat) * ulp x ≤ 2 ^ Int.log 2 |y| := by
      have hle : roundEven (x / ulp x) ≤ n := by
        rw [← roundEven_intCast n]
        exact roundEven_mono ((div_le_iff₀ hux).mpr (hxpow.trans_eq hn))
      rw [hn]
      exact mul_le_mul_of_nonneg_right (by exact_mod_cast hle) hux.le
    have hright : (2 : Rat) ^ Int.log 2 |y| ≤ roundEven (y / ulp y) * ulp y := by
      have hle : m ≤ roundEven (y / ulp y) := by
        rw [← roundEven_intCast m]
        exact roundEven_mono ((le_div_iff₀ huy).mpr (hm.symm.trans_le hpow))
      rw [hm]
      exact mul_le_mul_of_nonneg_right (by exact_mod_cast hle) huy.le
    exact hleft.trans hright

theorem roundEven_mul_ulp_nonneg {x : Rat} (hx : 0 ≤ x) : (0 : Rat) ≤ roundEven (x / ulp x) * ulp x := by
  have hulp : 0 < ulp x := zpow_pos (by norm_num) _
  have hle : (0 : Int) ≤ roundEven (x / ulp x) := by
    rw [← roundEven_intCast 0]
    exact roundEven_mono (by rw [Int.cast_zero]; exact div_nonneg hx hulp.le)
  exact mul_nonneg (by exact_mod_cast hle) hulp.le

theorem round_mono {x y b : Rat} (hx : 0 ≤ x) (h : x ≤ y) (hb : round y = some b) :
    ∃ a, round x = some a ∧ a ≤ b := by
  rcases hx.eq_or_lt with rfl | hx
  · refine ⟨0, if_pos rfl, ?_⟩
    rw [round] at hb
    split_ifs at hb with hy
    · cases hb
      exact le_rfl
    · cases hb
      exact roundEven_mul_ulp_nonneg h
  · have hmono := roundEven_mul_ulp_mono hx h
    rw [round, if_neg (hx.trans_le h).ne'] at hb
    split_ifs at hb with hfin
    cases hb
    refine ⟨_, ?_, hmono⟩
    rw [round, if_neg hx.ne', if_pos]
    rw [abs_of_nonneg (roundEven_mul_ulp_nonneg hx.le)]
    exact hmono.trans_lt (lt_of_abs_lt hfin)

theorem abs_roundEven_le {x : Rat} {n : Int} (h : |x| ≤ n) : |roundEven x| ≤ n := by
  obtain ⟨hlow, hhigh⟩ := abs_le.mp h
  have hlow' : roundEven ((-n : Int) : Rat) ≤ roundEven x :=
    roundEven_mono (by rwa [Int.cast_neg])
  have hhigh' := roundEven_mono hhigh
  rw [roundEven_intCast] at hlow' hhigh'
  exact abs_le.mpr ⟨hlow', hhigh'⟩

theorem le_abs_roundEven {x : Rat} {n : Int} (h : n ≤ |x|) : n ≤ |roundEven x| := by
  rcases le_abs.mp h with h | h
  · have hle := roundEven_mono h
    rw [roundEven_intCast] at hle
    exact hle.trans (le_abs_self _)
  · have hle : roundEven x ≤ roundEven ((-n : Int) : Rat) :=
      roundEven_mono (by rw [Int.cast_neg]; exact le_neg.mp h)
    rw [roundEven_intCast] at hle
    exact (le_neg.mp hle).trans (neg_le_abs _)

/-- A significand has at most 53 bits, or is a power of two after rounding up. -/
theorem abs_significand_le (x : Rat) : |roundEven (x / ulp x)| ≤ 2 ^ 53 := by
  have hulp : 0 < ulp x := zpow_pos (by norm_num) _
  have hlt : |x| < 2 ^ (max (Int.log 2 |x| - 52) (-1074) + 53) :=
    (Int.lt_zpow_succ_log_self (b := 2) (by norm_num) |x|).trans_le
      (zpow_le_zpow_right₀ (by norm_num) (by omega))
  refine abs_roundEven_le ?_
  rw [abs_div, abs_of_pos hulp, div_le_iff₀ hulp, ulp, Int.cast_pow, Int.cast_ofNat,
    ← zpow_natCast, ← zpow_add₀ (by norm_num), add_comm]
  exact hlt.le

/-- Without underflow it has no fewer. -/
theorem le_abs_significand {x : Rat} (hx : x ≠ 0) (h : -1074 < Int.log 2 |x| - 52) :
    2 ^ 52 ≤ |roundEven (x / ulp x)| := by
  have hulp : 0 < ulp x := zpow_pos (by norm_num) _
  refine le_abs_roundEven ?_
  rw [abs_div, abs_of_pos hulp, le_div_iff₀ hulp, ulp, max_eq_left h.le, Int.cast_pow,
    Int.cast_ofNat, ← zpow_natCast, ← zpow_add₀ (by norm_num), Nat.cast_ofNat, add_sub_cancel]
  exact Int.zpow_log_le_self (by norm_num) (abs_pos.mpr hx)

/-- From `2 ^ 1024` on there is no finite double. -/
theorem round_eq_none {x : Rat} (h : 2 ^ 1024 ≤ |x|) : round x = none := by
  rw [← zpow_natCast] at h
  have hpos : 0 < |x| := lt_of_lt_of_le (zpow_pos (by norm_num) _) h
  have hlog : (1024 : Nat) ≤ Int.log 2 |x| := (Int.zpow_le_iff_le_log (by norm_num) hpos).mp h
  have hsignificand := le_abs_significand (abs_pos.mp hpos) (by omega)
  have hulp : ulp x = 2 ^ (Int.log 2 |x| - 52) := by rw [ulp, max_eq_left (by omega)]
  have hulp_pos : 0 < ulp x := zpow_pos (by norm_num) _
  have hlarge : (2 : Rat) ^ ((1024 : Nat) : Int) ≤ |roundEven (x / ulp x) * ulp x| :=
    calc (2 : Rat) ^ ((1024 : Nat) : Int) ≤ 2 ^ Int.log 2 |x| := zpow_le_zpow_right₀ (by norm_num) hlog
      _ = 2 ^ 52 * ulp x := by
        rw [hulp, ← zpow_natCast, ← zpow_add₀ (by norm_num), Nat.cast_ofNat, add_sub_cancel]
      _ ≤ |roundEven (x / ulp x)| * ulp x :=
        mul_le_mul_of_nonneg_right (by exact_mod_cast hsignificand) hulp_pos.le
      _ = |roundEven (x / ulp x) * ulp x| := by rw [abs_mul, abs_of_pos hulp_pos, Int.cast_abs]
  rw [zpow_natCast] at hlarge
  rw [round, if_neg (abs_pos.mp hpos), if_neg (not_lt.mpr hlarge)]

/-- The nearest double is a double. -/
theorem round_round {x y : Rat} (h : round x = some y) : round y = some y := by
  rw [round] at h
  split_ifs at h with hzero hfin <;> cases h
  · exact if_pos rfl
  have hhigh := abs_significand_le x
  have hlow := le_abs_significand hzero
  rw [ulp] at hfin hhigh hlow ⊢
  generalize Int.log 2 |x| - 52 = l at *
  generalize roundEven (x / 2 ^ max l (-1074)) = k at *
  generalize he : max l (-1074) = e at *
  have hpow : (0 : Rat) < 2 ^ e := zpow_pos (by norm_num) e
  have habs : |(k : Rat) * 2 ^ e| = |k| * 2 ^ e := by
    rw [abs_mul, abs_of_pos hpow, Int.cast_abs]
  -- The number is below `2 ^ 1024`, and so is the exponent of its last place.
  have hexp : ∀ m : Nat, 2 ^ m ≤ |k| → e + m < 1024 := by
    intro m hm
    have hle : (2 : Rat) ^ m * 2 ^ e ≤ |k| * 2 ^ e :=
      mul_le_mul_of_nonneg_right (by exact_mod_cast hm) hpow.le
    have hlt := hle.trans_lt (habs ▸ hfin)
    rw [← zpow_natCast, ← zpow_add₀ (by norm_num), ← zpow_natCast,
      zpow_lt_zpow_iff_right₀ (by norm_num)] at hlt
    omega
  rcases hhigh.lt_or_eq with hlt | heq
  · have hle : e ≤ 971 := by
      by_contra hgt
      have hexp52 := hexp 52 (hlow (by omega))
      omega
    refine round_multiple rfl (by omega) hle ?_
    rw [habs, add_comm, zpow_add₀ (by norm_num)]
    exact mul_lt_mul_of_pos_right (by exact_mod_cast hlt) hpow
  · -- The number was rounded up to a power of two.
    have hexp53 := hexp 53 heq.ge
    obtain ⟨c, hc⟩ : ∃ c, k = c * 2 := by
      rcases abs_eq (by norm_num) |>.mp heq with rfl | rfl
      · exact ⟨2 ^ 52, by norm_num⟩
      · exact ⟨-2 ^ 52, by norm_num⟩
    have hsplit : (k : Rat) * 2 ^ e = c * 2 ^ (e + 1) := by
      rw [hc, zpow_add_one₀ (by norm_num), Int.cast_mul, Int.cast_ofNat]
      ring
    refine round_multiple hsplit (by omega) (by omega) ?_
    rw [habs, heq, add_assoc, add_comm, zpow_add₀ (by norm_num)]
    exact mul_lt_mul_of_pos_right (by norm_num) hpow

end Float64

/-- A finite double. -/
structure Double where
  val : Rat
  round_val : Float64.round val = some val

namespace Double

def ofNat (n : Nat) (h : n < 2 ^ 53) : Double := ⟨n, Float64.round_natCast h⟩

/-- `a - b < c` in the arithmetic of doubles: the difference is rounded before it is compared, and
may be infinite. -/
def subLt (a b : Double) (c : Rat) : Bool :=
  match Float64.round (a.val - b.val) with
  | some x => x < c
  | none => a.val < b.val

theorem subLt_of_lt {a b : Double} (h60 : 60 ≤ b.val) (hle : b.val ≤ a.val) (hlt : a.val - b.val < 60) :
    a.subLt b 60 = true := by
  rw [subLt, Float64.round_sub a.round_val b.round_val h60 hle hlt]
  exact decide_eq_true hlt

/-- Sixty seconds by the rounded difference are sixty seconds. -/
theorem le_of_not_subLt {a b : Double} (h60 : 60 ≤ b.val) (hle : b.val ≤ a.val) (h : a.subLt b 60 = false) :
    b.val + 60 ≤ a.val := by
  by_contra hlt
  rw [subLt_of_lt h60 hle (by linarith)] at h
  cases h

theorem subLt_iff {a b : Double} (h60 : 60 ≤ b.val) (hle : b.val ≤ a.val) :
    a.subLt b 60 = true ↔ a.val - b.val < 60 := by
  refine ⟨fun h => ?_, subLt_of_lt h60 hle⟩
  by_contra hge
  rw [subLt] at h
  split at h
  · next x hx =>
    have hsixty : Float64.round 60 = some 60 := Float64.round_natCast (n := 60) (by norm_num)
    obtain ⟨y, hy, hyx⟩ := Float64.round_mono (by norm_num) (not_lt.mp hge) hx
    rw [hsixty] at hy
    cases hy
    exact absurd (of_decide_eq_true h) (not_lt.mpr hyx)
  · exact absurd (of_decide_eq_true h) (not_lt.mpr hle)

/-- A smaller difference rounds to no more. -/
theorem subLt_of_le {a b a' b' : Double} {c : Rat} (hnonneg : b'.val ≤ a'.val)
    (hle : a'.val - b'.val ≤ a.val - b.val) (h : a.subLt b c = true) : a'.subLt b' c = true := by
  unfold subLt at h
  split at h
  · next x hx =>
    obtain ⟨y, hy, hyx⟩ := Float64.round_mono (sub_nonneg.mpr hnonneg) hle hx
    rw [subLt, hy]
    exact decide_eq_true (hyx.trans_lt (of_decide_eq_true h))
  · have hlt := of_decide_eq_true h
    linarith

end Double
