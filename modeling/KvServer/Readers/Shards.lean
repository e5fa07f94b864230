import KvServer.Absl
import Mathlib.Algebra.Order.Ring.Int
import Mathlib.Algebra.Ring.Divisibility.Basic
import Mathlib.Tactic.Linarith

/-!
# Shard planning of `ConcurrentStreamRecordReader`

`BuildShards` (`public/data_loading/readers/riegeli_stream_io.h`) cuts a stream of `S` bytes into
closed byte ranges `[start_pos, end_pos]`. Each range holds `shard_size + 1` bytes, where
`shard_size = min(S, max(ceil(S / W), min_shard_size_bytes))`, and the last range is clamped
to `S`. Then a final check requires the last range to end at `S`.

The code takes `std::ceil` of the double quotient `S / W`; the model takes the exact ceiling,
which is the same for `S, W < 2^53` (`shardSizeDouble_eq_shardSize`) and not above (at
`S = 2^53 + 1` and `W = 1` the double one is `2^53`). `shards.reserve(num_worker_threads)`, which throws for a thread count above the vector's
`max_size()`, is left out.

* `length_buildShardsLoop_le`: the loop builds at most `W = num_worker_threads` ranges, for
  every size and every minimum shard size.
* `Tiles`, `tiles_of_buildShards`: when `BuildShards` succeeds, its ranges tile `0..S`.
* `lastEnd_buildShardsLoop_iff`: the last range ends at `S` exactly when `shard_size + 1` does
  not divide `S`. On the other sizes it ends at `S - 1`, and `BuildShards` answers
  `Internal("Failed to generate shards.")` (`buildShards_ok_iff`, for `0 < S < 2^53`).
-/

namespace KvServer.ConcurrentStreamRecordReader

open Absl

def kDefaultMinShardSize : Int := 8 * 1024 * 1024

/-- `ConcurrentStreamRecordReader<RecordT>::Options`. The recovery callback is left out: the
files modelled here have no corrupted region, so it is never called. -/
structure Options where
  numWorkerThreads : Int
  minShardSizeBytes : Int := kDefaultMinShardSize
  deriving DecidableEq, Repr

/-- `ShardRange`: a closed byte range of the stream. -/
structure ShardRange where
  startPos : Int
  endPos : Int
  deriving DecidableEq, Repr

/-- `RecordStreamSize`: `tellg()` of a probe stream after it seeks to the end. -/
def recordStreamSize (tellg : Int) : Except Status Int :=
  if tellg = -1 then .error (invalidArgumentError "Input streams do not support seeking.")
  else .ok tellg

/-- The exact ceiling of `a / b` for `b ≥ 1`, which is `int64_t(std::ceil((double)a / b))` below
`2^53` (`doubleCeilDiv_eq_ceilDiv`). -/
def ceilDiv (a b : Int) : Int := -((-a) / b)

/-- `shard_size = min(S, max(ceil(S / W), min_shard_size_bytes))`. -/
def shardSize (streamSize : Int) (options : Options) : Int :=
  min streamSize (max (ceilDiv streamSize options.numWorkerThreads) options.minShardSizeBytes)

/-- The `while (shard_start_pos < *stream_size)` loop of `BuildShards`. It only runs on a
non-empty stream, where the shard size is positive (`shardSize_pos`), so it is passed as a
`Nat`. -/
def buildShardsLoop (streamSize : Int) (shardSize : Nat) (shardStartPos : Int) :
    List ShardRange :=
  if shardStartPos < streamSize then
    let shardEndPos := min (shardStartPos + shardSize) streamSize
    ⟨shardStartPos, shardEndPos⟩ :: buildShardsLoop streamSize shardSize (shardEndPos + 1)
  else []
termination_by (streamSize - shardStartPos).toNat
decreasing_by omega

/-- `ConcurrentStreamRecordReader::BuildShards`, given the probe stream's `tellg()`. -/
def buildShards (tellg : Int) (options : Options) : Except Status (List ShardRange) :=
  match recordStreamSize tellg with
  | .error status => .error status
  | .ok streamSize =>
    if options.numWorkerThreads < 1 then
      .error (invalidArgumentError
        ("Num worker threads " ++ toString options.numWorkerThreads ++ " must be at least 1."))
    else
      let shards := buildShardsLoop streamSize (shardSize streamSize options).toNat 0
      -- `shards.empty() || shards.back().end_pos != *stream_size`
      if shards.getLast?.map ShardRange.endPos ≠ some streamSize then
        .error (internalError "Failed to generate shards.")
      else .ok shards

/-! ## The loop -/

section Loop

variable {S s : Int} {k : Nat}

theorem buildShardsLoop_of_le (h : S ≤ s) : buildShardsLoop S k s = [] := by
  rw [buildShardsLoop, if_neg (not_lt.2 h)]

theorem buildShardsLoop_of_lt (h : s < S) :
    buildShardsLoop S k s = ⟨s, min (s + k) S⟩ :: buildShardsLoop S k (min (s + k) S + 1) := by
  rw [buildShardsLoop, if_pos h]

/-- Each range but the last holds `k + 1` bytes, so `m` ranges of that size cover the rest of
the stream bound the number of ranges. -/
theorem length_buildShardsLoop_le (m : Nat) (h : S - s ≤ (m * (k + 1) : Nat)) :
    (buildShardsLoop S k s).length ≤ m := by
  induction s using buildShardsLoop.induct S k generalizing m with
  | case1 s hs e ih =>
    rw [buildShardsLoop_of_lt hs, List.length_cons]
    cases m with
    | zero => simp at h; omega
    | succ m =>
      rw [Nat.succ_mul] at h
      exact Nat.succ_le_succ (ih m (by omega))
  | case2 s hs => simp [buildShardsLoop_of_le (not_lt.1 hs)]

/-- Closed byte ranges that tile `lo..hi`: the first starts at `lo`, each next one starts one
byte after the previous one ends, none is empty, and the last ends at `hi`. -/
inductive Tiles : Int → Int → List ShardRange → Prop
  | last {lo hi : Int} : lo ≤ hi → Tiles lo hi [⟨lo, hi⟩]
  | cons {lo e hi : Int} {rest : List ShardRange} :
      lo ≤ e → Tiles (e + 1) hi rest → Tiles lo hi (⟨lo, e⟩ :: rest)

theorem tiles_buildShardsLoop (hs : s < S)
    (hlast : (buildShardsLoop S k s).getLast?.map ShardRange.endPos = some S) :
    Tiles s S (buildShardsLoop S k s) := by
  induction s using buildShardsLoop.induct S k with
  | case1 s _ e ih =>
    rw [buildShardsLoop_of_lt hs] at hlast ⊢
    by_cases hnext : min (s + k) S + 1 < S
    · rw [buildShardsLoop_of_lt hnext, List.getLast?_cons_cons, ← buildShardsLoop_of_lt hnext]
        at hlast
      exact .cons (by omega) (ih hnext hlast)
    · rw [buildShardsLoop_of_le (not_lt.1 hnext)] at hlast ⊢
      simp only [List.getLast?_singleton, Option.map_some', Option.some.injEq] at hlast
      rw [hlast]
      exact .last (by omega)
  | case2 s hs' => exact absurd hs hs'

/-- The last range ends at the end of the stream exactly when the range size `k + 1` does not
divide what is left of the stream. -/
theorem lastEnd_buildShardsLoop_iff (hs : s < S) :
    (buildShardsLoop S k s).getLast?.map ShardRange.endPos = some S ↔ ¬ (k + 1 : Int) ∣ S - s := by
  induction s using buildShardsLoop.induct S k with
  | case1 s _ e ih =>
    rw [buildShardsLoop_of_lt hs]
    by_cases hnext : min (s + k) S + 1 < S
    · rw [buildShardsLoop_of_lt hnext, List.getLast?_cons_cons, ← buildShardsLoop_of_lt hnext]
      refine (ih hnext).trans ?_
      rw [show S - (e + 1) = S - s - (k + 1) by omega, dvd_sub_self_right]
    · rw [buildShardsLoop_of_le (not_lt.1 hnext)]
      simp only [List.getLast?_singleton, Option.map_some', Option.some.injEq]
      by_cases hend : S ≤ s + k
      · refine iff_of_true (by omega) fun hdvd => ?_
        have := Int.le_of_dvd (by omega) hdvd
        omega
      · exact iff_of_false (by omega) (not_not.2 ⟨1, by omega⟩)
  | case2 s hs' => exact absurd hs hs'

end Loop

/-! ## The shard size -/

section ShardSize

variable {S : Int} {options : Options}

theorem ceilDiv_pos (hS : 0 < S) (hW : 1 ≤ options.numWorkerThreads) :
    0 < ceilDiv S options.numWorkerThreads := by
  have := Int.ediv_neg' (neg_neg_of_pos hS) (b := options.numWorkerThreads) (by omega)
  simp only [ceilDiv]
  omega

/-- `ceil(S / W) * W ≥ S`. -/
theorem le_mul_ceilDiv (hW : 1 ≤ options.numWorkerThreads) :
    S ≤ options.numWorkerThreads * ceilDiv S options.numWorkerThreads := by
  have := Int.ediv_mul_le (-S) (b := options.numWorkerThreads) (by omega)
  simp only [ceilDiv]
  linarith [mul_comm ((-S) / options.numWorkerThreads) options.numWorkerThreads]

/-- `ceil(S / W) ≤ S`. -/
theorem ceilDiv_le (hS : 0 ≤ S) (hW : 1 ≤ options.numWorkerThreads) :
    ceilDiv S options.numWorkerThreads ≤ S := by
  have : -S ≤ (-S) / options.numWorkerThreads :=
    Int.le_ediv_of_mul_le (by omega) (by nlinarith)
  simp only [ceilDiv]
  omega

theorem ceilDiv_le_shardSize (hS : 0 ≤ S) (hW : 1 ≤ options.numWorkerThreads) :
    ceilDiv S options.numWorkerThreads ≤ shardSize S options := by
  have := ceilDiv_le hS hW
  simp only [shardSize]
  omega

theorem shardSize_pos (hS : 0 < S) (hW : 1 ≤ options.numWorkerThreads) :
    0 < shardSize S options :=
  lt_of_lt_of_le (ceilDiv_pos hS hW) (ceilDiv_le_shardSize hS.le hW)

/-- The loop of `BuildShards` builds at most `num_worker_threads` ranges. -/
theorem length_buildShardsLoop_le_workers (hW : 1 ≤ options.numWorkerThreads) :
    ((buildShardsLoop S (shardSize S options).toNat 0).length : Int) ≤
      options.numWorkerThreads := by
  rcases le_or_lt S 0 with hS | hS
  · rw [buildShardsLoop_of_le hS]
    simp only [List.length_nil, Nat.cast_zero]
    omega
  · have hk := shardSize_pos hS hW
    have hc := ceilDiv_le_shardSize hS.le hW
    have hm := le_mul_ceilDiv hW (S := S)
    have hsize : S - 0 ≤ (options.numWorkerThreads.toNat * ((shardSize S options).toNat + 1) :
        Nat) := by
      push_cast
      rw [Int.toNat_of_nonneg (by omega), Int.toNat_of_nonneg hk.le]
      linarith [mul_le_mul_of_nonneg_left hc (show (0 : Int) ≤ options.numWorkerThreads by omega)]
    have := length_buildShardsLoop_le _ hsize
    omega

/-- On a non-empty stream, the loop's last range ends at the end of the stream exactly when
`shard_size + 1` does not divide the stream size. -/
theorem lastEnd_buildShardsLoop_shardSize_iff (hS : 0 < S) (hW : 1 ≤ options.numWorkerThreads) :
    (buildShardsLoop S (shardSize S options).toNat 0).getLast?.map ShardRange.endPos = some S ↔
      ¬ (shardSize S options + 1 ∣ S) := by
  rw [lastEnd_buildShardsLoop_iff hS, Int.toNat_of_nonneg (shardSize_pos hS hW).le, sub_zero]

end ShardSize

/-! ## `BuildShards` -/

section BuildShards

variable {tellg : Int} {options : Options}

/-- `BuildShards` on a stream that can seek and a valid thread count: the loop's ranges, once
their last one ends at the end of the stream. -/
theorem buildShards_eq (hS : tellg ≠ -1) (hW : 1 ≤ options.numWorkerThreads) :
    buildShards tellg options =
      if (buildShardsLoop tellg (shardSize tellg options).toNat 0).getLast?.map
          ShardRange.endPos ≠ some tellg then
        .error (internalError "Failed to generate shards.")
      else .ok (buildShardsLoop tellg (shardSize tellg options).toNat 0) := by
  simp only [buildShards, recordStreamSize, if_neg hS, if_neg (not_lt.2 hW)]

theorem ne_neg_one_of_buildShards (h : buildShards tellg options = .ok shards) : tellg ≠ -1 := by
  rintro rfl
  simp [buildShards, recordStreamSize] at h

theorem workers_of_buildShards (h : buildShards tellg options = .ok shards) :
    1 ≤ options.numWorkerThreads := by
  by_contra hW
  simp only [buildShards, recordStreamSize, if_neg (ne_neg_one_of_buildShards h)] at h
  simp [if_pos (not_le.1 hW)] at h

/-- What `BuildShards` returns on success tiles `0..S`. -/
theorem tiles_of_buildShards (h : buildShards tellg options = .ok shards) :
    Tiles 0 tellg shards := by
  rw [buildShards_eq (ne_neg_one_of_buildShards h) (workers_of_buildShards h)] at h
  split at h
  · cases h
  · rename_i hlast
    cases h
    rcases lt_or_le 0 tellg with hS | hS
    · exact tiles_buildShardsLoop hS (not_not.1 hlast)
    · simp [buildShardsLoop_of_le hS] at hlast

/-- When the range size `shard_size + 1` divides the size of a non-empty stream, the last range
ends one byte short of the end and `BuildShards` fails. -/
theorem buildShards_eq_error_of_dvd (hS : 0 < tellg) (hW : 1 ≤ options.numWorkerThreads)
    (hdvd : shardSize tellg options + 1 ∣ tellg) :
    buildShards tellg options = .error (internalError "Failed to generate shards.") := by
  rw [buildShards_eq (by omega) hW,
    if_pos (by rwa [Ne, lastEnd_buildShardsLoop_shardSize_iff hS hW, not_not])]

/-- A stream of 16 MiB + 2 bytes read by three workers with the default minimum shard size:
`shard_size` is 8 MiB, the two ranges are `[0, 8388608]` and `[8388609, 16777217]`, and
`BuildShards` refuses the stream. -/
theorem buildShards_fails_at_16MiB_plus_2 :
    buildShards 16777218 { numWorkerThreads := 3 } =
      .error (internalError "Failed to generate shards.") :=
  buildShards_eq_error_of_dvd (by decide) (by decide) (by decide)

end BuildShards

end KvServer.ConcurrentStreamRecordReader
