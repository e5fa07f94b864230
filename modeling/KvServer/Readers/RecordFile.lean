import KvServer.Absl
import Mathlib.Data.List.Sort

/-!
# Riegeli record files and `RiegeliStreamReader`

A well-formed Riegeli file of `size` bytes, as `riegeli::RecordReader` presents it: records
at strictly increasing numeric positions below `size`, with no corrupted region. A reader
stands before a suffix of the records. `pos()` is the position of the next record, or `size`
at the end of the file. `Seek(x)` moves the reader to the first record at or after `x`, and
`ReadRecord` yields the next record and moves the reader past it.

The lemmas about `Seek` (`seek_zero`, `seek_of_bounded`, `dropWhile_dropWhile_of_imp`) are
what the concurrent reader's proofs use from the file. `RiegeliStreamReader::ReadStreamRecords`
passes every record to the callback (`readStreamRecords_calls`) and logs the first error the
callback returned (`overallStatus_readStreamRecords`), but returns the reader's own status.
-/

namespace KvServer

open Absl

/-- A well-formed Riegeli file: its size in bytes and its records, each at its numeric
position. -/
structure RecordFile (R : Type) where
  size : Nat
  records : List (Nat × R)
  increasing : (records.map Prod.fst).Sorted (· < ·)
  bounded : ∀ r ∈ records, r.1 < size

/-- A `riegeli::RecordReader` over a `RecordFile`: the file size and the records still to read. -/
structure RecordReader (R : Type) where
  size : Nat
  rest : List (Nat × R)

/-- `pos().numeric()`: the position of the next record, or the file size at the end. -/
def RecordReader.pos {R : Type} (reader : RecordReader R) : Int :=
  match reader.rest with
  | [] => reader.size
  | r :: _ => r.1

namespace RecordFile

variable {R : Type}

/-- `Seek(x)`: the reader stands before the first record at or after `x`. -/
def seek (file : RecordFile R) (x : Int) : RecordReader R :=
  ⟨file.size, file.records.dropWhile fun r => (r.1 : Int) < x⟩

theorem seek_zero (file : RecordFile R) : (file.seek 0).rest = file.records := by
  simp only [seek]
  cases file.records with
  | nil => rfl
  | cons r _ => rw [List.dropWhile_cons_of_neg (by simp only [decide_eq_true_eq, not_lt]; omega)]

/-- Seeking past every record leaves nothing to read. -/
theorem seek_of_bounded (file : RecordFile R) {x : Int} (hx : file.size ≤ x) :
    (file.seek x).rest = [] := by
  simp only [seek, List.dropWhile_eq_nil_iff, decide_eq_true_eq]
  intro r hr
  have := file.bounded r hr
  omega

end RecordFile

/-- Dropping a prefix by `p` and then by a weaker `q` is dropping by `q`. -/
theorem dropWhile_dropWhile_of_imp {α : Type} {p q : α → Bool} (h : ∀ a, p a → q a)
    (l : List α) : (l.dropWhile p).dropWhile q = l.dropWhile q := by
  induction l with
  | nil => rfl
  | cons a l ih =>
    by_cases hp : p a
    · rw [List.dropWhile_cons_of_pos hp, ih, List.dropWhile_cons_of_pos (h a hp)]
    · rw [List.dropWhile_cons_of_neg hp]

namespace RiegeliStreamReader

variable {R : Type}

/-- The `while (reader_.ReadRecord(record))` loop of `ReadStreamRecords`: the records passed to
the callback, in order, and `overall_status` after them. -/
def readLoop (callback : R → Status) : List (Nat × R) → Status → List R × Status
  | [], overallStatus => ([], overallStatus)
  | (_, record) :: rest, overallStatus =>
    let (calls, status) := readLoop callback rest (overallStatus.update (callback record))
    (record :: calls, status)

/-- What `RiegeliStreamReader::ReadStreamRecords` did: the records it passed to the callback,
the logged `overall_status`, and the returned `reader_.status()`. -/
structure ReadResult (R : Type) where
  calls : List R
  overallStatus : Status
  status : Status

/-- `RiegeliStreamReader::ReadStreamRecords` on a reader at the file beginning. On a file with
no corrupted region the reader ends healthy, so `reader_.status()` is OK. -/
def readStreamRecords (file : RecordFile R) (callback : R → Status) : ReadResult R :=
  let (calls, overallStatus) := readLoop callback file.records okStatus
  ⟨calls, overallStatus, okStatus⟩

theorem readLoop_calls (callback : R → Status) (records : List (Nat × R)) (status : Status) :
    (readLoop callback records status).1 = records.map Prod.snd := by
  induction records generalizing status with
  | nil => rfl
  | cons r rest ih => simp [readLoop, ih]

/-- The sequential reader passes every record to the callback once, in file order, whatever the
callback answers. -/
theorem readStreamRecords_calls (file : RecordFile R) (callback : R → Status) :
    (readStreamRecords file callback).calls = file.records.map Prod.snd := by
  simp only [readStreamRecords]
  exact readLoop_calls callback file.records okStatus

theorem readLoop_overallStatus (callback : R → Status) (records : List (Nat × R))
    (status : Status) :
    (readLoop callback records status).2 =
      (records.map fun r => callback r.2).foldl Status.update status := by
  induction records generalizing status with
  | nil => rfl
  | cons r rest ih => exact ih _

/-- The `overall_status` the sequential reader logs is the first error the callback returned,
if any; the status it returns is the reader's, whatever the callback answers. -/
theorem overallStatus_readStreamRecords (file : RecordFile R) (callback : R → Status) :
    (readStreamRecords file callback).overallStatus =
      ((file.records.map fun r => callback r.2).find? fun status => !status.ok).getD
        ((file.records.map fun r => callback r.2).getLast?.getD okStatus) :=
  (readLoop_overallStatus callback file.records okStatus).trans (Status.foldl_update okStatus_ok _)

end RiegeliStreamReader

end KvServer
