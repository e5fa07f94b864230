import KvServer.Readers.Shards
import Mathlib.Tactic.Ring
import Mathlib.Tactic.GCongr

/-!
# `shard_size` in double precision

`BuildShards` computes `int64_t(std::ceil((double)*stream_size / options_.num_worker_threads))`
in IEEE 754 binary64 arithmetic: both `int64_t` operands are converted to `double` and divided,
each result rounded to nearest with ties to even, and `std::ceil` is exact. `shardSize` takes the
exact ceiling `ceilDiv` of `S / W` instead. This module models the double arithmetic and shows
that the two agree for every stream and thread count below `2^53`, where the conversions are
exact. Above, they can part: `(double)(2^53 + 1)` is `2^53`.

A finite double `x ≥ 0` is an integer number of `2^-1074`, the smallest subnormal, and is
represented by that integer. The values here stay far below the largest double (an `int64_t`
divided by a positive `int64_t` is below `2^63`), so overflow is not modelled.

* `ceilToInt64_roundToDouble`: the rounded quotient of `S < 2^53` by `1 ≤ W < 2^53` has the
  exact ceiling `⌈S / W⌉`. The rounding error is at most half the quotient's quantum, which is
  less than `1 / W` there.
* `shardSizeDouble_eq_shardSize`: so below `2^53` bytes and threads, `shardSize` is the code's
  `shard_size`.
-/

namespace KvServer.ConcurrentStreamRecordReader

/-! ## Doubles as multiples of `2^-1074` -/

/-- The exponent of the smallest subnormal double, `2^-1074`. -/
def doubleUnitExponent : Nat := 1074

/-- The number of `2^-1074` in `1`. -/
def doubleUnit : Nat := 2 ^ doubleUnitExponent

/-- `n / d` rounded to the nearest integer, ties to even. -/
def roundHalfEven (n d : Nat) : Nat :=
  if 2 * (n % d) < d then n / d
  else if d < 2 * (n % d) then n / d + 1
  else if n / d % 2 = 0 then n / d else n / d + 1

/-- Rounding to nearest, ties to even, of the rational `n / d` (a number of `2^-1074`) to a
double. The binade `[2^(52 + s), 2^(53 + s))` of `n / d` sets the quantum `2^s`; below `2^53`
(the subnormals and the first normal binade) the quantum is one. -/
def roundToDouble (n d : Nat) : Nat :=
  let s := (n / d).log2 + 1 - 53
  roundHalfEven n (d * 2 ^ s) * 2 ^ s

/-- `(double)a` for an `int64_t` `a ≥ 0`. -/
def int64ToDouble (a : Nat) : Nat := roundToDouble (a * doubleUnit) 1

/-- The quotient `x / y` of two doubles, `y > 0`. -/
def divDouble (x y : Nat) : Nat := roundToDouble (x * doubleUnit) y

/-- `int64_t(std::ceil(x))` for a double `0 ≤ x < 2^63`. -/
def ceilToInt64 (x : Nat) : Nat := (x + doubleUnit - 1) / doubleUnit

/-- `int64_t(std::ceil((double)a / b))` for `int64_t`s `a ≥ 0` and `b ≥ 1`. -/
def doubleCeilDiv (a b : Int) : Int :=
  ceilToInt64 (divDouble (int64ToDouble a.toNat) (int64ToDouble b.toNat))

/-- `shard_size = min(S, max(int64_t(std::ceil((double)S / W)), min_shard_size_bytes))`, as the
code computes it. -/
def shardSizeDouble (streamSize : Int) (options : Options) : Int :=
  min streamSize
    (max (doubleCeilDiv streamSize options.numWorkerThreads) options.minShardSizeBytes)

theorem doubleUnit_eq : doubleUnit = 2 ^ doubleUnitExponent := rfl

theorem doubleUnit_pos : 0 < doubleUnit := Nat.two_pow_pos _

/-! ## Rounding -/

/-- The rounding error is at most half of `d`: `|roundHalfEven n d * d - n| ≤ d / 2`. -/
theorem roundHalfEven_spec (n : Nat) {d : Nat} (hd : 0 < d) :
    2 * (roundHalfEven n d * d) ≤ 2 * n + d ∧ 2 * n ≤ 2 * (roundHalfEven n d * d) + d := by
  have h : n / d * d + n % d = n := by rw [Nat.mul_comm]; exact Nat.div_add_mod n d
  have h1 : (n / d + 1) * d = n / d * d + d := Nat.succ_mul _ _
  have hr := Nat.mod_lt n hd
  unfold roundHalfEven
  split_ifs <;> omega

theorem roundHalfEven_mul_right (n d : Nat) {k : Nat} (hk : 0 < k) :
    roundHalfEven (n * k) (d * k) = roundHalfEven n d := by
  simp only [roundHalfEven, Nat.mul_mod_mul_right, Nat.mul_div_mul_right _ _ hk, ← Nat.mul_assoc,
    Nat.mul_lt_mul_right hk]

theorem roundHalfEven_of_dvd {n d : Nat} (hd : 0 < d) (h : d ∣ n) : roundHalfEven n d = n / d := by
  simp [roundHalfEven, Nat.mod_eq_zero_of_dvd h, hd]

/-- Rounding does not pass a multiple `m * d` at or above `n`. -/
theorem roundHalfEven_le_of_le {n d m : Nat} (hd : 0 < d) (h : n ≤ m * d) :
    roundHalfEven n d ≤ m := by
  have := (roundHalfEven_spec n hd).1
  by_contra hm
  have : (m + 1) * d ≤ roundHalfEven n d * d := Nat.mul_le_mul_right d (Nat.lt_of_not_le hm)
  rw [Nat.succ_mul] at this
  omega

/-- Rounding stays above a multiple `m * d` that `n` exceeds by more than `d / 2`. -/
theorem lt_roundHalfEven_of_lt {n d m : Nat} (hd : 0 < d) (h : 2 * (m * d) + d < 2 * n) :
    m < roundHalfEven n d := by
  have := (roundHalfEven_spec n hd).2
  by_contra hm
  have : roundHalfEven n d * d ≤ m * d := Nat.mul_le_mul_right d (Nat.le_of_not_lt hm)
  omega

/-- Rounding depends on the rational `n / d` only. -/
theorem roundToDouble_mul_right (n d : Nat) {k : Nat} (hk : 0 < k) :
    roundToDouble (n * k) (d * k) = roundToDouble n d := by
  simp only [roundToDouble, Nat.mul_div_mul_right _ _ hk, Nat.mul_right_comm d k,
    roundHalfEven_mul_right _ _ hk]

/-! ## The quantum below `2^53` -/

/-- Below `2^53`, the quantum `2^s` of a value's binade divides the unit. -/
theorem quantum_le {x : Nat} (hx : x < 2 ^ 53 * doubleUnit) :
    x.log2 + 1 - 53 ≤ doubleUnitExponent := by
  rcases Nat.eq_zero_or_pos x with rfl | hpos
  · simp
  · have := (Nat.log2_lt hpos.ne').2
      (show x < 2 ^ (53 + doubleUnitExponent) by rwa [pow_add, ← doubleUnit_eq])
    omega

/-- The quantum of a quotient `x / W` below `2^53` is less than two units divided by `W`. -/
theorem mul_quantum_lt {x W : Nat} (hx : x < 2 ^ 53 * doubleUnit) (hW : W < 2 ^ 53) :
    W * 2 ^ ((x / W).log2 + 1 - 53) < 2 * doubleUnit := by
  generalize hs : (x / W).log2 + 1 - 53 = s
  rcases Nat.eq_zero_or_pos s with rfl | hs0
  · calc W * 2 ^ 0 = W := by ring
      _ < 2 ^ 53 := hW
      _ ≤ 2 ^ (1 + doubleUnitExponent) :=
        Nat.pow_le_pow_right (by norm_num) (by simp [doubleUnitExponent])
      _ = 2 * doubleUnit := by rw [pow_add, pow_one, doubleUnit_eq]
  · have hQ : x / W ≠ 0 := by
      intro h
      rw [h, Nat.log2_zero] at hs
      omega
    have hbinade : 2 ^ (52 + s) ≤ x / W :=
      le_trans (Nat.pow_le_pow_right (by norm_num) (by omega)) (Nat.log2_self_le hQ)
    have : 2 ^ 52 * (W * 2 ^ s) < 2 ^ 52 * (2 * doubleUnit) := by
      calc 2 ^ 52 * (W * 2 ^ s) = 2 ^ (52 + s) * W := by ring
        _ ≤ x / W * W := Nat.mul_le_mul_right W hbinade
        _ ≤ x := Nat.div_mul_le_self _ _
        _ < 2 ^ 53 * doubleUnit := hx
        _ = 2 ^ 52 * (2 * doubleUnit) := by ring
    exact Nat.lt_of_mul_lt_mul_left this

/-- An `int64_t` below `2^53` converts to `double` exactly. -/
theorem int64ToDouble_of_lt {a : Nat} (ha : a < 2 ^ 53) : int64ToDouble a = a * doubleUnit := by
  unfold int64ToDouble roundToDouble
  dsimp only
  rw [Nat.div_one, Nat.one_mul]
  have hdvd : 2 ^ ((a * doubleUnit).log2 + 1 - 53) ∣ a * doubleUnit :=
    Dvd.dvd.mul_left (Nat.pow_dvd_pow 2
      (quantum_le (Nat.mul_lt_mul_of_pos_right ha doubleUnit_pos))) a
  rw [roundHalfEven_of_dvd (Nat.two_pow_pos _) hdvd, Nat.div_mul_cancel hdvd]

/-! ## The ceiling of the quotient -/

/-- The double quotient of `S < 2^53` by `1 ≤ W < 2^53` has the exact ceiling `c` of `S / W`.
The quotient's quantum `2^s` divides the unit, so rounding never passes the integer `c`; and
`W * 2^s < 2` units, so half a quantum is less than the distance `1 / W` from `S / W` down to
`c - 1`. -/
theorem ceilToInt64_roundToDouble {S W c : Nat} (hS : S < 2 ^ 53) (hW : 0 < W)
    (hW' : W < 2 ^ 53) (hle : S ≤ c * W) (hlt : c * W < S + W) :
    ceilToInt64 (roundToDouble (S * doubleUnit) W) = c := by
  have hx : S * doubleUnit < 2 ^ 53 * doubleUnit := Nat.mul_lt_mul_of_pos_right hS doubleUnit_pos
  have hsW := mul_quantum_lt hx hW'
  have hsE := quantum_le (lt_of_le_of_lt (Nat.div_le_self (S * doubleUnit) W) hx)
  unfold roundToDouble
  dsimp only
  generalize (S * doubleUnit / W).log2 + 1 - 53 = s at hsW hsE
  obtain ⟨V, hV⟩ : 2 ^ s ∣ doubleUnit := by
    rw [doubleUnit_eq]
    exact Nat.pow_dvd_pow 2 hsE
  have hD : 0 < W * 2 ^ s := Nat.mul_pos hW (Nat.two_pow_pos s)
  have hVD (m : Nat) : m * V * (W * 2 ^ s) = m * W * doubleUnit := by rw [hV]; ring
  have hup : roundHalfEven (S * doubleUnit) (W * 2 ^ s) ≤ c * V :=
    roundHalfEven_le_of_le hD (by rw [hVD]; exact Nat.mul_le_mul_right _ hle)
  unfold ceilToInt64
  apply Nat.div_eq_of_lt_le
  · rcases c with _ | k
    · simp
    have hkW : (k * W + 1) * doubleUnit ≤ S * doubleUnit :=
      Nat.mul_le_mul_right _ (by rw [Nat.succ_mul] at hlt; omega)
    have hlow : k * V < roundHalfEven (S * doubleUnit) (W * 2 ^ s) :=
      lt_roundHalfEven_of_lt hD (by rw [hVD]; rw [Nat.succ_mul] at hkW; omega)
    have : (k * V + 1) * 2 ^ s ≤ roundHalfEven (S * doubleUnit) (W * 2 ^ s) * 2 ^ s :=
      Nat.mul_le_mul_right _ hlow
    have : (k * V + 1) * 2 ^ s = k * doubleUnit + 2 ^ s := by rw [hV]; ring
    have := Nat.two_pow_pos s
    rw [Nat.succ_mul]
    omega
  · have : roundHalfEven (S * doubleUnit) (W * 2 ^ s) * 2 ^ s ≤ c * V * 2 ^ s :=
      Nat.mul_le_mul_right _ hup
    have : c * V * 2 ^ s = c * doubleUnit := by rw [hV]; ring
    have := doubleUnit_pos
    rw [Nat.succ_mul]
    omega

/-- Below `2^53`, the code's double ceiling is the exact one. -/
theorem doubleCeilDiv_eq_ceilDiv {a b : Int} (ha : 0 ≤ a) (ha' : a < 2 ^ 53) (hb : 1 ≤ b)
    (hb' : b < 2 ^ 53) : doubleCeilDiv a b = ceilDiv a b := by
  have hq := Int.ediv_mul_le (-a) (show b ≠ 0 by omega)
  have hq' := Int.lt_ediv_add_one_mul_self (-a) (show 0 < b by omega)
  obtain ⟨c, hc⟩ : ∃ c : Nat, ceilDiv a b = c :=
    Int.eq_ofNat_of_zero_le (by unfold ceilDiv; nlinarith)
  have hqc : -a / b = -c := by unfold ceilDiv at hc; linarith
  rw [hqc] at hq hq'
  lift a to Nat using ha
  lift b to Nat using (by omega)
  have hle : a ≤ c * b := by exact_mod_cast (show (a : Int) ≤ c * b by linarith)
  have hlt : c * b < a + b := by exact_mod_cast (show (c * b : Int) < a + b by linarith)
  unfold doubleCeilDiv divDouble
  rw [Int.toNat_natCast, Int.toNat_natCast, int64ToDouble_of_lt (by omega),
    int64ToDouble_of_lt (by omega), roundToDouble_mul_right _ _ doubleUnit_pos,
    ceilToInt64_roundToDouble (by omega) (by omega) (by omega) hle hlt, hc]

/-- **The model's shard size is the code's.** For every stream of `0 ≤ S < 2^53` bytes and every
thread count `1 ≤ W < 2^53`, the `shard_size` that `BuildShards` computes in double precision is
`shardSize`, which takes the exact ceiling of `S / W`. -/
theorem shardSizeDouble_eq_shardSize {S : Int} {options : Options} (hS : 0 ≤ S)
    (hS' : S < 2 ^ 53) (hW : 1 ≤ options.numWorkerThreads)
    (hW' : options.numWorkerThreads < 2 ^ 53) :
    shardSizeDouble S options = shardSize S options := by
  rw [shardSizeDouble, shardSize, doubleCeilDiv_eq_ceilDiv hS hS' hW hW']

/-- A ten-byte stream read by two workers. -/
theorem shardSizeDouble_eq_shardSize_ten :
    (0 : Int) ≤ 10 ∧ (10 : Int) < 2 ^ 53 ∧
      1 ≤ ({ numWorkerThreads := 2 } : Options).numWorkerThreads ∧
      ({ numWorkerThreads := 2 } : Options).numWorkerThreads < 2 ^ 53 ∧
      shardSizeDouble 10 { numWorkerThreads := 2 } = shardSize 10 { numWorkerThreads := 2 } :=
  ⟨by decide, by decide, by decide, by decide,
    shardSizeDouble_eq_shardSize (by decide) (by decide) (by decide) (by decide)⟩

end KvServer.ConcurrentStreamRecordReader
