import KvServer.Readers.Shards
import KvServer.Readers.RecordFile
import Mathlib.Data.List.Chain

/-!
# `ConcurrentStreamRecordReader::ReadStreamRecords`

One task per shard of `BuildShards`: each seeks to its `start_pos` and reads while the reader's
position is at most its `end_pos`. After that, the results are checked in shard order for a gap
between `next_shard_first_record_pos` and the next shard's `first_record_pos`.

The tasks run concurrently, so only the records each task passes to the callback are modelled,
per shard. Interleavings of callback calls from different shards are not modelled.

* `readShardRecords_append`: a shard `[s, e]` reads the records of `Seek(s)` up to the ones of
  `Seek(e + 1)`, and reports `Seek(e + 1)`'s position as the next shard's first record.
* `calls_of_tiles`, `results_of_tiles`: over shards that tile the stream, the tasks' records
  are the file's records in order, and each shard's `next_shard_first_record_pos` is the next
  shard's `first_record_pos`.
* `readStreamRecords_ok_of_buildShards`: whenever `BuildShards` succeeds, the read succeeds,
  and it passes every record to the callback exactly once, in file order, like the sequential
  `RiegeliStreamReader`.
* `readStreamRecords_status_eq`: what the callback answers never changes the returned status;
  each task only logs the first error it got.
* `readStreamRecords_tasks_le_workers`: no more tasks than `num_worker_threads`.
-/

namespace KvServer.ConcurrentStreamRecordReader

open Absl

variable {R : Type}

/-- `ShardResult`: what a shard task reports for the correctness check. -/
structure ShardResult where
  firstRecordPos : Int
  nextShardFirstRecordPos : Int
  numRecordsRead : Int
  deriving DecidableEq, Repr

/-- The state of the read loop of `ReadShardRecords` after it stops: the records passed to
`record_callback` in order, the two accumulators, and the records the reader has not read. -/
structure ShardLoop (R : Type) where
  calls : List R
  numRecordsRead : Int
  overallStatus : Status
  rest : List (Nat × R)

/-- `while (next_record_pos <= shard.end_pos && record_reader.ReadRecord(record))`, on the
records the reader has not read. `next_record_pos` is the position of the next one. At the end
of the file, `ReadRecord` fails and the loop stops. -/
def readShardLoop (recordCallback : R → Status) (endPos numRecordsRead : Int)
    (overallStatus : Status) : List (Nat × R) → ShardLoop R
  | [] => ⟨[], numRecordsRead, overallStatus, []⟩
  | (pos, record) :: rest =>
    if (pos : Int) ≤ endPos then
      let loop := readShardLoop recordCallback endPos (numRecordsRead + 1)
        (overallStatus.update (recordCallback record)) rest
      { loop with calls := record :: loop.calls }
    else ⟨[], numRecordsRead, overallStatus, (pos, record) :: rest⟩

/-- What one shard task hands back: the records it passed to the callback, the logged
`overall_status`, and its `StatusOr<ShardResult>`. -/
structure ShardTask (R : Type) where
  calls : List R
  overallStatus : Status
  result : Except Status ShardResult

/-- `ReadShardRecords`. On a file with no corrupted region, `Seek` succeeds and the reader
stays healthy, so the task always returns a `ShardResult`. -/
def readShardRecords (file : RecordFile R) (shard : ShardRange)
    (recordCallback : R → Status) : ShardTask R :=
  let reader := file.seek shard.startPos
  let loop := readShardLoop recordCallback shard.endPos 0 okStatus reader.rest
  { calls := loop.calls
    overallStatus := loop.overallStatus
    result := .ok
      { firstRecordPos := reader.pos
        nextShardFirstRecordPos := (⟨file.size, loop.rest⟩ : RecordReader R).pos
        numRecordsRead := loop.numRecordsRead } }

/-- The checks of `ReadStreamRecords` after the first shard's result `prev`: the first failed
task's status, or `Internal` at the first gap between two shards. -/
def checkShardResults (prev : ShardResult) : List (Except Status ShardResult) → Status
  | [] => okStatus
  | .error status :: _ => status
  | .ok curr :: rest =>
    if prev.nextShardFirstRecordPos < curr.firstRecordPos then
      internalError ("Skipped some records between byte=" ++
        toString prev.nextShardFirstRecordPos ++ " and byte=" ++
        toString curr.firstRecordPos ++ ".")
    else checkShardResults curr rest

/-- What `ReadStreamRecords` did: the shard tasks it launched, in shard order, and the status it
returned. -/
structure StreamRead (R : Type) where
  tasks : List (ShardTask R)
  status : Status

/-- `ConcurrentStreamRecordReader::ReadStreamRecords` on a file, whose size is what the probe
stream's `tellg()` reports. -/
def readStreamRecords (file : RecordFile R) (options : Options) (callback : R → Status) :
    StreamRead R :=
  match buildShards file.size options with
  | .error status => ⟨[], status⟩
  | .ok shards =>
    let tasks := shards.map (readShardRecords file · callback)
    match tasks.map ShardTask.result with
    | [] => ⟨tasks, okStatus⟩
    | .error status :: _ => ⟨tasks, status⟩
    | .ok first :: rest => ⟨tasks, checkShardResults first rest⟩

/-! ## One shard -/

section Shard

variable (recordCallback : R → Status) (endPos : Int)

theorem readShardLoop_calls (n : Int) (status : Status) (records : List (Nat × R)) :
    (readShardLoop recordCallback endPos n status records).calls =
      (records.takeWhile fun r => (r.1 : Int) ≤ endPos).map Prod.snd := by
  induction records generalizing n status with
  | nil => rfl
  | cons r rest ih =>
    by_cases h : (r.1 : Int) ≤ endPos
    · simp [readShardLoop, h, ih]
    · simp [readShardLoop, h]

theorem readShardLoop_rest (n : Int) (status : Status) (records : List (Nat × R)) :
    (readShardLoop recordCallback endPos n status records).rest =
      records.dropWhile fun r => (r.1 : Int) ≤ endPos := by
  induction records generalizing n status with
  | nil => rfl
  | cons r rest ih =>
    by_cases h : (r.1 : Int) ≤ endPos
    · simp [readShardLoop, h, ih]
    · simp [readShardLoop, h]

/-- After the loop of a shard `[s, e]` with `s ≤ e + 1`, the reader stands where `Seek(e + 1)`
puts it. -/
theorem readShardLoop_rest_seek (file : RecordFile R) {s e : Int} (hse : s ≤ e + 1)
    (n : Int) (status : Status) :
    (readShardLoop recordCallback e n status (file.seek s).rest).rest =
      (file.seek (e + 1)).rest := by
  rw [readShardLoop_rest]
  simp only [RecordFile.seek]
  rw [dropWhile_dropWhile_of_imp (fun r h => by simp at h ⊢; omega)]
  congr 1
  funext r
  simp only [decide_eq_decide]
  omega

/-- A shard `[s, e]` passes the records of `Seek(s)` that precede those of `Seek(e + 1)` to the
callback. -/
theorem readShardRecords_calls_append (file : RecordFile R) {s e : Int} (hse : s ≤ e + 1) :
    (readShardRecords file ⟨s, e⟩ recordCallback).calls ++
        (file.seek (e + 1)).rest.map Prod.snd =
      (file.seek s).rest.map Prod.snd := by
  simp only [readShardRecords]
  rw [readShardLoop_calls, ← readShardLoop_rest_seek recordCallback file hse 0 okStatus,
    readShardLoop_rest, ← List.map_append, List.takeWhile_append_dropWhile]

/-- A shard `[s, e]` reports the positions of `Seek(s)` and `Seek(e + 1)`. -/
theorem readShardRecords_result (file : RecordFile R) {s e : Int} (hse : s ≤ e + 1) :
    ∃ n, (readShardRecords file ⟨s, e⟩ recordCallback).result =
      .ok ⟨(file.seek s).pos, (file.seek (e + 1)).pos, n⟩ := by
  refine ⟨(readShardLoop recordCallback e 0 okStatus (file.seek s).rest).numRecordsRead, ?_⟩
  simp only [readShardRecords, readShardLoop_rest_seek recordCallback file hse]
  rfl

theorem readShardLoop_numRecordsRead (n : Int) (status : Status) (records : List (Nat × R)) :
    (readShardLoop recordCallback endPos n status records).numRecordsRead =
      n + (records.takeWhile fun r => (r.1 : Int) ≤ endPos).length := by
  induction records generalizing n status with
  | nil => simp [readShardLoop]
  | cons r rest ih =>
    by_cases h : (r.1 : Int) ≤ endPos
    · simp [readShardLoop, h, ih, List.takeWhile_cons]
      omega
    · simp [readShardLoop, h]

theorem readShardLoop_overallStatus (n : Int) (status : Status) (records : List (Nat × R)) :
    (readShardLoop recordCallback endPos n status records).overallStatus =
      ((readShardLoop recordCallback endPos n status records).calls.map recordCallback).foldl
        Status.update status := by
  induction records generalizing n status with
  | nil => rfl
  | cons r rest ih =>
    by_cases h : (r.1 : Int) ≤ endPos
    · simp only [readShardLoop, h, if_true, List.map_cons, List.foldl_cons]
      exact ih _ _
    · simp [readShardLoop, h]

/-- What a shard task returns does not depend on the callback. -/
theorem readShardRecords_result_eq (file : RecordFile R) (shard : ShardRange)
    (recordCallback' : R → Status) :
    (readShardRecords file shard recordCallback).result =
      (readShardRecords file shard recordCallback').result := by
  simp only [readShardRecords, readShardLoop_rest, readShardLoop_numRecordsRead]

end Shard

/-! ## Shards that tile the stream -/

section Tiles

variable (file : RecordFile R) (callback : R → Status)

/-- Over shards that tile `lo..hi`, the tasks pass the records of `Seek(lo)` that precede those
of `Seek(hi + 1)` to the callback, shard after shard. -/
theorem calls_of_tiles {lo hi : Int} {shards : List ShardRange} (h : Tiles lo hi shards) :
    (shards.map (readShardRecords file · callback)).flatMap ShardTask.calls ++
        (file.seek (hi + 1)).rest.map Prod.snd =
      (file.seek lo).rest.map Prod.snd := by
  induction h with
  | @last lo hi hle =>
    simpa using readShardRecords_calls_append callback file (by omega : lo ≤ hi + 1)
  | @cons lo e hi rest hle _ ih =>
    rw [List.map_cons, List.flatMap_cons, List.append_assoc, ih]
    exact readShardRecords_calls_append callback file (by omega : lo ≤ e + 1)

/-- The results of tasks over shards that tile `lo..hi`: each is a `ShardResult`, the first
reports `Seek(lo)`'s position, and each `next_shard_first_record_pos` is the next shard's
`first_record_pos`. -/
theorem results_of_tiles {lo hi : Int} {shards : List ShardRange} (h : Tiles lo hi shards) :
    ∃ first rest, (shards.map (readShardRecords file · callback)).map ShardTask.result =
        (first :: rest).map .ok ∧ first.firstRecordPos = (file.seek lo).pos ∧
        (first :: rest).Chain'
          fun a b => a.nextShardFirstRecordPos = b.firstRecordPos := by
  induction h with
  | @last lo hi hle =>
    obtain ⟨n, hn⟩ := readShardRecords_result callback file (by omega : lo ≤ hi + 1)
    exact ⟨⟨(file.seek lo).pos, (file.seek (hi + 1)).pos, n⟩, [], by simp [hn], rfl,
      List.chain'_singleton _⟩
  | @cons lo e hi rest hle _ ih =>
    obtain ⟨n, hn⟩ := readShardRecords_result callback file (by omega : lo ≤ e + 1)
    obtain ⟨first, rest', hmap, hfirst, hchain⟩ := ih
    refine ⟨⟨(file.seek lo).pos, (file.seek (e + 1)).pos, n⟩, first :: rest', ?_, rfl,
      List.Chain'.cons hfirst.symm hchain⟩
    rw [List.map_cons, List.map_cons, hn, hmap]
    rfl

end Tiles

/-- The checks pass over results where each shard ends where the next one starts. -/
theorem checkShardResults_of_chain {first : ShardResult} {rest : List ShardResult}
    (h : (first :: rest).Chain' fun a b => a.nextShardFirstRecordPos = b.firstRecordPos) :
    checkShardResults first (rest.map .ok) = okStatus := by
  induction rest generalizing first with
  | nil => rfl
  | cons curr rest ih =>
    rw [List.chain'_cons] at h
    simp [checkShardResults, h.1, ih h.2]

/-- **Exactly-once delivery.** Whenever `BuildShards` returns shards, `ReadStreamRecords`
returns OK: every task returns a result and the gap check never fires, because each shard's
`next_shard_first_record_pos` is the next shard's `first_record_pos`. The records the tasks pass
to the callback, taken shard after shard, are the file's records in file order, as
`RiegeliStreamReader::ReadStreamRecords` passes them. -/
theorem readStreamRecords_ok_of_buildShards (file : RecordFile R) (options : Options)
    (callback : R → Status) {shards : List ShardRange}
    (h : buildShards file.size options = .ok shards) :
    let run := readStreamRecords file options callback
    run.status = okStatus ∧
      (∃ results : List ShardResult, run.tasks.map ShardTask.result = results.map .ok ∧
        results.Chain' fun a b => a.nextShardFirstRecordPos = b.firstRecordPos) ∧
      run.tasks.flatMap ShardTask.calls = file.records.map Prod.snd ∧
      (RiegeliStreamReader.readStreamRecords file callback).calls =
        file.records.map Prod.snd := by
  have htiles := tiles_of_buildShards h
  obtain ⟨first, rest, hmap, -, hchain⟩ := results_of_tiles file callback htiles
  have hcalls := calls_of_tiles file callback htiles
  rw [RecordFile.seek_of_bounded file (by omega), RecordFile.seek_zero] at hcalls
  simp only [readStreamRecords, h, hmap, List.map_cons]
  exact ⟨checkShardResults_of_chain hchain, ⟨first :: rest, rfl, hchain⟩, by simpa using hcalls,
    RiegeliStreamReader.readStreamRecords_calls file callback⟩

/-- A ten-byte file with records at 0, 5, 6 and 9. Two workers with no minimum shard size cut
it into `[0, 5]` and `[6, 10]`. -/
def tenByteFile : RecordFile Char :=
  ⟨10, [(0, 'a'), (5, 'b'), (6, 'c'), (9, 'd')], by decide, by decide⟩

theorem readStreamRecords_ok_tenByteFile :
    buildShards tenByteFile.size { numWorkerThreads := 2, minShardSizeBytes := 0 } =
        .ok [⟨0, 5⟩, ⟨6, 10⟩] ∧
      let run := readStreamRecords tenByteFile { numWorkerThreads := 2, minShardSizeBytes := 0 }
        fun c => if c = 'b' then internalError "rejected" else okStatus
      run.status = okStatus ∧
        (∃ results : List ShardResult, run.tasks.map ShardTask.result = results.map .ok ∧
          results.Chain' fun a b => a.nextShardFirstRecordPos = b.firstRecordPos) ∧
        run.tasks.flatMap ShardTask.calls = tenByteFile.records.map Prod.snd ∧
        (RiegeliStreamReader.readStreamRecords tenByteFile
            fun c => if c = 'b' then internalError "rejected" else okStatus).calls =
          tenByteFile.records.map Prod.snd := by
  have h : buildShards tenByteFile.size { numWorkerThreads := 2, minShardSizeBytes := 0 } =
      .ok [⟨0, 5⟩, ⟨6, 10⟩] := by
    rw [buildShards_eq (by decide) (by decide)]
    simp [tenByteFile, shardSize, ceilDiv, buildShardsLoop_of_lt, buildShardsLoop_of_le]
  exact ⟨h, readStreamRecords_ok_of_buildShards _ _ _ h⟩

/-- The tasks `ReadStreamRecords` launches are the shards of `BuildShards`. -/
theorem readStreamRecords_tasks (file : RecordFile R) (options : Options)
    (callback : R → Status) :
    (readStreamRecords file options callback).tasks =
      match buildShards file.size options with
      | .error _ => []
      | .ok shards => shards.map (readShardRecords file · callback) := by
  simp only [readStreamRecords]
  split
  · rfl
  · split <;> rfl

/-- **Callback errors are logged, not returned.** The status `ReadStreamRecords` returns is the
same for every callback, and each shard task logs as `overall_status` the first error the
callback returned on its records, if any. -/
theorem readStreamRecords_status_eq (file : RecordFile R) (options : Options)
    (callback callback' : R → Status) :
    (readStreamRecords file options callback).status =
        (readStreamRecords file options callback').status ∧
      ∀ task ∈ (readStreamRecords file options callback).tasks,
        task.overallStatus = ((task.calls.map callback).find? fun status => !status.ok).getD
          ((task.calls.map callback).getLast?.getD okStatus) := by
  constructor
  · simp only [readStreamRecords]
    split
    · rfl
    · simp only [List.map_map, Function.comp_def,
        readShardRecords_result_eq callback file _ callback']
      split <;> rfl
  · rw [readStreamRecords_tasks]
    split
    · simp
    · simp only [List.mem_map]
      rintro _ ⟨shard, -, rfl⟩
      exact (readShardLoop_overallStatus callback _ 0 okStatus _).trans
        (Status.foldl_update okStatus_ok _)

/-- **At most `W` tasks.** For every stream size and every minimum shard size, the loop of
`BuildShards` terminates with at most `num_worker_threads` shards, so `ReadStreamRecords`
never launches more than `num_worker_threads` shard tasks. -/
theorem readStreamRecords_tasks_le_workers (options : Options)
    (hW : 1 ≤ options.numWorkerThreads) :
    (∀ streamSize : Int, ((buildShardsLoop streamSize (shardSize streamSize options).toNat 0).length
        : Int) ≤ options.numWorkerThreads) ∧
      ∀ (file : RecordFile R) (callback : R → Status),
        ((readStreamRecords file options callback).tasks.length : Int) ≤
          options.numWorkerThreads := by
  refine ⟨fun _ => length_buildShardsLoop_le_workers hW, fun file callback => ?_⟩
  rw [readStreamRecords_tasks]
  split
  · simp only [List.length_nil, Nat.cast_zero]
    omega
  · rename_i shards h
    rw [buildShards_eq (ne_neg_one_of_buildShards h) hW] at h
    split at h
    · cases h
    · cases h
      simpa using length_buildShardsLoop_le_workers hW (S := (file.size : Int))


theorem readStreamRecords_tasks_le_four_workers :
    1 ≤ ({ numWorkerThreads := 4 } : Options).numWorkerThreads ∧
      (∀ streamSize : Int, ((buildShardsLoop streamSize
          (shardSize streamSize { numWorkerThreads := 4 }).toNat 0).length : Int) ≤ 4) ∧
        ∀ (file : RecordFile Char) (callback : Char → Status),
          ((readStreamRecords file { numWorkerThreads := 4 } callback).tasks.length : Int) ≤ 4 :=
  ⟨by decide, readStreamRecords_tasks_le_workers _ (by decide)⟩

end KvServer.ConcurrentStreamRecordReader
