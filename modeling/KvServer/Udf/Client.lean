import KvServer.Absl
import KvServer.Protobuf
import Mathlib.Data.List.Chain

/-!
# `UdfClientImpl`

The UDF client (`components/udf/udf_client.cc`) keeps the handler name, logical commit time and
version of the code object it last installed in the Roma engine. It starts at `("", -1, 1)`.

Each call waits on the engine, which is modelled by the outcome it reports. `LoadCodeObj`
returns a status, and its callback reports a status within `kCodeUpdateTimeout` or never.
`Execute` returns a status, and its callback reports a response within `udf_timeout_` or never.

* `setCodeObject_spec`: a call with a logical commit time that is not larger is a no-op that
  returns OK; a load that is refused, fails or times out returns an error and changes nothing;
  any other call installs the config.
* `run_installed`: along any sequence of calls, the state is the config of the last load that
  succeeded, and the logical commit times of the successful loads strictly increase.
* `executeCode_eq_invocation`: `ExecuteCode` either returns the first JSON error and submits
  nothing, or submits one invocation, with the client's handler and version, whose input is the
  metadata's and the arguments' JSON, in order, and answers what the engine answered.
-/

namespace KvServer

open Absl Protobuf

/-- `CodeConfig`: a UDF code update. -/
structure CodeConfig where
  js : String
  wasm : String
  udfHandlerName : String
  logicalCommitTime : Int
  version : Int
  deriving DecidableEq, Repr

/-- Roma's `CodeObject`, as `BuildCodeObject` fills it. -/
structure CodeObject where
  id : String
  versionNum : Nat
  js : String
  wasm : String
  deriving DecidableEq, Repr

/-- Roma's `InvocationRequestStrInput`, as `BuildInvocationRequest` fills it. -/
structure InvocationRequestStrInput where
  id : String
  versionNum : Nat
  handlerName : String
  input : List String
  deriving DecidableEq, Repr

/-- `static_cast<uint64_t>` of an `int64_t`: the value modulo `2^64`. -/
def toUInt64 (n : Int) : Nat := (n % 18446744073709551616).toNat

def kCodeObjectId : String := "id"
def kInvocationRequestId : String := "id"
def kUdfInterfaceVersion : Int := 1

/-- How Roma answers one `LoadCodeObj`: the status it returns, and the status of the response
its callback reports if that happens within `kCodeUpdateTimeout`. -/
structure LoadOutcome where
  loadStatus : Status
  response : Option Status
  deriving DecidableEq, Repr

/-- How Roma answers one `Execute`: the status it returns, and the response its callback reports
if that happens within `udf_timeout_`, as its status and, when that is OK, its `resp`. -/
structure ExecuteOutcome where
  executeStatus : Status
  response : Option (Status × String)
  deriving DecidableEq, Repr

/-- The state of `UdfClientImpl`: `handler_name_`, `logical_commit_time_`, `version_`.
`udf_timeout_` is fixed at construction; it enters only through the engine's outcome. -/
structure UdfClientImpl where
  handlerName : String
  logicalCommitTime : Int
  version : Int
  deriving DecidableEq, Repr

namespace UdfClientImpl

/-- A freshly constructed client. -/
def init : UdfClientImpl := ⟨"", -1, 1⟩

/-- The state once `codeConfig` is installed. -/
def install (codeConfig : CodeConfig) : UdfClientImpl :=
  ⟨codeConfig.udfHandlerName, codeConfig.logicalCommitTime, codeConfig.version⟩

def buildCodeObject (js wasm : String) (version : Int) : CodeObject :=
  ⟨kCodeObjectId, toUInt64 version, js, wasm⟩

def buildInvocationRequest (client : UdfClientImpl) (keys : List String) :
    InvocationRequestStrInput :=
  ⟨kInvocationRequestId, toUInt64 client.version, client.handlerName, keys⟩

/-- What a `SetCodeObject` call did: its status, the code object it submitted to
`LoadCodeObj`, and the client after it. -/
structure SetCodeResult where
  status : Status
  submitted : Option CodeObject
  client : UdfClientImpl
  deriving DecidableEq, Repr

/-- `SetCodeObject`. -/
def setCodeObject (client : UdfClientImpl) (codeConfig : CodeConfig) (outcome : LoadOutcome) :
    SetCodeResult :=
  if client.logicalCommitTime ≥ codeConfig.logicalCommitTime then ⟨okStatus, none, client⟩
  else
    let codeObject := buildCodeObject codeConfig.js codeConfig.wasm codeConfig.version
    if !outcome.loadStatus.ok then ⟨outcome.loadStatus, some codeObject, client⟩
    else
      match outcome.response with
      | none => ⟨internalError "Timed out setting UDF code object.", some codeObject, client⟩
      | some resp =>
        let responseStatus := if !resp.ok then okStatus.update resp else okStatus
        if !responseStatus.ok then ⟨responseStatus, some codeObject, client⟩
        else ⟨okStatus, some codeObject, install codeConfig⟩

/-- `SetWasmCodeObject`: `SetCodeObject`, with an OK status returned as `absl::OkStatus()`. -/
def setWasmCodeObject (client : UdfClientImpl) (codeConfig : CodeConfig)
    (outcome : LoadOutcome) : SetCodeResult :=
  let result := client.setCodeObject codeConfig outcome
  if !result.status.ok then result else { result with status := okStatus }

/-- What an `ExecuteCode` call did: its result, and the invocation it submitted to `Execute`. -/
structure ExecuteResult where
  result : Except Status String
  submitted : Option InvocationRequestStrInput

/-- `ExecuteCode(std::vector<std::string> keys)`. -/
def executeCodeKeys (client : UdfClientImpl) (keys : List String) (outcome : ExecuteOutcome) :
    ExecuteResult :=
  let request := client.buildInvocationRequest keys
  if !outcome.executeStatus.ok then ⟨.error outcome.executeStatus, some request⟩
  else
    match outcome.response with
    | none => ⟨.error (internalError "Timed out waiting for UDF result."), some request⟩
    | some (status, resp) =>
      let responseStatus := if status.ok then okStatus else okStatus.update status
      let result := if status.ok then resp else ""
      if !responseStatus.ok then ⟨.error responseStatus, some request⟩
      else ⟨.ok result, some request⟩

/-- The messages `ExecuteCode` hands to `MessageToJsonString`. -/
inductive ProtoMessage where
  | udfExecutionMetadata (executionMetadata : UDFExecutionMetadata)
  | udfArgument (arg : UDFArgument)
  | value (data : Value)

/-- The message `ExecuteCode` serializes for an argument: its data when it has no tags, the
whole argument otherwise. -/
def argumentMessage (arg : UDFArgument) : ProtoMessage :=
  if arg.tags.isEmpty then .value arg.data else .udfArgument arg

section ExecuteCode

variable (messageToJsonString : ProtoMessage → Except Status String)

/-- The loop over `arguments` in `ExecuteCode`: the JSON of each argument, in order, or the first
serialization error. -/
def serializeArguments : List UDFArgument → Except Status (List String)
  | [] => .ok []
  | arg :: rest =>
    match messageToJsonString (argumentMessage arg) with
    | .error status => .error status
    | .ok jsonArg =>
      match serializeArguments rest with
      | .error status => .error status
      | .ok jsonArgs => .ok (jsonArg :: jsonArgs)

/-- `ExecuteCode(UDFExecutionMetadata&&, const RepeatedPtrField<UDFArgument>&)`, with the
protobuf JSON printer as a parameter. -/
def executeCode (client : UdfClientImpl) (executionMetadata : UDFExecutionMetadata)
    (arguments : List UDFArgument) (outcome : ExecuteOutcome) : ExecuteResult :=
  let executionMetadata := { executionMetadata with udfInterfaceVersion := kUdfInterfaceVersion }
  match messageToJsonString (.udfExecutionMetadata executionMetadata) with
  | .error status => ⟨.error status, none⟩
  | .ok jsonMetadata =>
    match serializeArguments messageToJsonString arguments with
    | .error status => ⟨.error status, none⟩
    | .ok jsonArgs => client.executeCodeKeys (jsonMetadata :: jsonArgs) outcome

end ExecuteCode

/-! ## `SetCodeObject` -/

/-- The engine completed the load with an OK response within the timeout. -/
def loadSucceeded (outcome : LoadOutcome) : Bool :=
  outcome.loadStatus.ok && outcome.response.any Status.ok

/-- The three outcomes of a `SetCodeObject` call. A config whose logical commit time is not
larger is skipped: OK, nothing submitted, state unchanged. Otherwise its code object is
submitted, and the call either installs it and returns OK, or returns an error and leaves the
state. -/
def SetCodeObjectSpec (client : UdfClientImpl) (codeConfig : CodeConfig) (outcome : LoadOutcome)
    (result : SetCodeResult) : Prop :=
  if codeConfig.logicalCommitTime ≤ client.logicalCommitTime then
    result = ⟨okStatus, none, client⟩
  else
    result.submitted = some (buildCodeObject codeConfig.js codeConfig.wasm codeConfig.version) ∧
      if loadSucceeded outcome then result.status = okStatus ∧ result.client = install codeConfig
      else result.status.ok = false ∧ result.client = client

section SetCodeObject

variable (client : UdfClientImpl) (codeConfig : CodeConfig) (outcome : LoadOutcome)

theorem setCodeObject_spec :
    SetCodeObjectSpec client codeConfig outcome (client.setCodeObject codeConfig outcome) := by
  unfold SetCodeObjectSpec
  by_cases hlct : codeConfig.logicalCommitTime ≤ client.logicalCommitTime
  · simp [setCodeObject, hlct]
  · have hgt : ¬ client.logicalCommitTime ≥ codeConfig.logicalCommitTime := by omega
    obtain ⟨loadStatus, response⟩ := outcome
    cases hload : loadStatus.ok
    · simp [setCodeObject, hgt, hlct, loadSucceeded, hload]
    · cases response with
      | none => simp [setCodeObject, hgt, hlct, loadSucceeded, hload]
      | some resp =>
        cases hresp : resp.ok <;>
          simp [setCodeObject, hgt, hlct, loadSucceeded, hload, hresp, Status.update]

theorem setWasmCodeObject_spec :
    SetCodeObjectSpec client codeConfig outcome (client.setWasmCodeObject codeConfig outcome) := by
  have h := setCodeObject_spec client codeConfig outcome
  unfold SetCodeObjectSpec at h ⊢
  unfold setWasmCodeObject
  split_ifs at h ⊢ <;> simp_all

end SetCodeObject

/-! ## Runs of calls -/

/-- A call on the client. `ExecuteCode` is `const`: it reads the state and leaves it. -/
inductive ClientCall where
  | setCodeObject (codeConfig : CodeConfig) (outcome : LoadOutcome)
  | setWasmCodeObject (codeConfig : CodeConfig) (outcome : LoadOutcome)
  | executeCode (keys : List String) (outcome : ExecuteOutcome)

/-- The config a `SetCodeObject` or `SetWasmCodeObject` call loaded: one whose code object it
submitted and for which it returned OK. -/
def loadedConfig (codeConfig : CodeConfig) (result : SetCodeResult) : Option CodeConfig :=
  if result.status.ok && result.submitted.isSome then some codeConfig else none

/-- One call: the client after it, and the config it loaded, if any. -/
def step (client : UdfClientImpl) : ClientCall → UdfClientImpl × Option CodeConfig
  | .setCodeObject codeConfig outcome =>
    let result := client.setCodeObject codeConfig outcome
    (result.client, loadedConfig codeConfig result)
  | .setWasmCodeObject codeConfig outcome =>
    let result := client.setWasmCodeObject codeConfig outcome
    (result.client, loadedConfig codeConfig result)
  | .executeCode _ _ => (client, none)

/-- A sequence of calls: the client at the end, and the configs loaded along the way, in
order. -/
def run (client : UdfClientImpl) : List ClientCall → UdfClientImpl × List CodeConfig
  | [] => (client, [])
  | call :: calls =>
    let (next, loaded) := client.step call
    let (final, rest) := run next calls
    (final, loaded.toList ++ rest)

/-- What a call that satisfies `SetCodeObjectSpec` does to the state: it installs the config it
loads, whose logical commit time is larger, or it leaves the state. -/
theorem loadedConfig_of_spec {client : UdfClientImpl} {codeConfig : CodeConfig}
    {outcome : LoadOutcome} {result : SetCodeResult}
    (h : SetCodeObjectSpec client codeConfig outcome result) :
    (loadedConfig codeConfig result = some codeConfig ∧
        client.logicalCommitTime < codeConfig.logicalCommitTime ∧
        result.client = install codeConfig) ∨
      (loadedConfig codeConfig result = none ∧ result.client = client) := by
  unfold SetCodeObjectSpec at h
  unfold loadedConfig
  split_ifs at h with hlct hsucc
  · subst h
    simp
  · exact .inl ⟨by simp [h.1, h.2.1], by omega, h.2.2⟩
  · exact .inr ⟨by simp [h.2.1], h.2.2⟩

/-- A `SetCodeObject` or `SetWasmCodeObject` step, from its spec. -/
theorem step_of_spec {client : UdfClientImpl} {codeConfig : CodeConfig} {outcome : LoadOutcome}
    {result : SetCodeResult} (h : SetCodeObjectSpec client codeConfig outcome result) :
    (∃ c, (result.client, loadedConfig codeConfig result) = (install c, some c) ∧
        client.logicalCommitTime < c.logicalCommitTime) ∨
      (result.client, loadedConfig codeConfig result) = (client, none) := by
  rcases loadedConfig_of_spec h with ⟨h1, h2, h3⟩ | ⟨h1, h2⟩
  · exact .inl ⟨codeConfig, by rw [h1, h3], h2⟩
  · exact .inr (by rw [h1, h2])

/-- One step either loads a config with a larger logical commit time and installs it, or leaves
the state. -/
theorem step_cases (client : UdfClientImpl) (call : ClientCall) :
    (∃ codeConfig, client.step call = (install codeConfig, some codeConfig) ∧
        client.logicalCommitTime < codeConfig.logicalCommitTime) ∨
      client.step call = (client, none) := by
  cases call with
  | setCodeObject codeConfig outcome => exact step_of_spec (setCodeObject_spec _ _ _)
  | setWasmCodeObject codeConfig outcome => exact step_of_spec (setWasmCodeObject_spec _ _ _)
  | executeCode => exact .inr rfl

/-- The state after a run is the last loaded config, and the loaded configs' logical commit
times strictly increase from the start state's. -/
theorem run_installed (client : UdfClientImpl) (calls : List ClientCall) :
    (client.run calls).1 = ((client.run calls).2.getLast?.map install).getD client ∧
      (client.logicalCommitTime :: (client.run calls).2.map CodeConfig.logicalCommitTime).Chain'
        (· < ·) := by
  induction calls generalizing client with
  | nil => simp [run]
  | cons call calls ih =>
    rcases step_cases client call with ⟨codeConfig, hstep, hlt⟩ | hstep
    · obtain ⟨hfinal, hchain⟩ := ih (install codeConfig)
      simp only [run, hstep, Option.toList_some, List.singleton_append, List.map_cons]
      refine ⟨?_, List.Chain'.cons hlt hchain⟩
      rw [hfinal]
      cases h : ((install codeConfig).run calls).2.getLast? <;> simp [h, List.getLast?_cons]
    · simpa [run, hstep] using ih client

/-- On a strictly increasing list, the largest element is the last. -/
theorem foldl_max_of_chain {a : Int} {l : List Int} (h : (a :: l).Chain' (· < ·)) :
    l.foldl max a = (l.getLast?).getD a := by
  induction l generalizing a with
  | nil => rfl
  | cons b l ih =>
    rw [List.chain'_cons] at h
    rw [List.foldl_cons, show max a b = b by omega, ih h.2]
    cases l with
    | nil => rfl
    | cons c l =>
      rw [List.getLast?_cons_cons, List.getLast?_eq_getLast (c :: l) (List.cons_ne_nil c l)]
      rfl

/-- **The logical commit time gate.** Each `SetCodeObject` or `SetWasmCodeObject` call skips a
config whose logical commit time is not larger (OK, nothing submitted, state unchanged). It
returns an error and leaves the state when the load is refused, fails or times out, and
otherwise installs the config. A step that changes the state raises `logical_commit_time_`.
Along every run from a fresh client, with `ExecuteCode` calls anywhere in it, the loaded
configs have strictly increasing logical commit times. `logical_commit_time_` is the largest of
`-1` and theirs, and `handler_name_` and `version_` come from the last of them. -/
theorem setCodeObject_lct_gate :
    (∀ client codeConfig outcome,
      SetCodeObjectSpec client codeConfig outcome (client.setCodeObject codeConfig outcome) ∧
        SetCodeObjectSpec client codeConfig outcome
          (client.setWasmCodeObject codeConfig outcome)) ∧
      (∀ (client : UdfClientImpl) call, (client.step call).1 ≠ client →
        client.logicalCommitTime < (client.step call).1.logicalCommitTime) ∧
      ∀ calls, let (final, loaded) := init.run calls
        (loaded.map CodeConfig.logicalCommitTime).Chain' (· < ·) ∧
          final.logicalCommitTime = (loaded.map CodeConfig.logicalCommitTime).foldl max (-1) ∧
          final.handlerName = (loaded.getLast?.map CodeConfig.udfHandlerName).getD "" ∧
          final.version = (loaded.getLast?.map CodeConfig.version).getD 1 := by
  refine ⟨fun client codeConfig outcome => ⟨setCodeObject_spec client codeConfig outcome,
      setWasmCodeObject_spec client codeConfig outcome⟩,
    fun client call hne => ?_, fun calls => ?_⟩
  · rcases step_cases client call with ⟨codeConfig, hstep, hlt⟩ | hstep
    · simpa [hstep, install] using hlt
    · exact absurd (by rw [hstep]) hne
  · obtain ⟨hfinal, hchain⟩ := run_installed init calls
    refine ⟨(List.chain'_cons'.1 hchain).2, ?_⟩
    rw [show (-1 : Int) = init.logicalCommitTime from rfl, foldl_max_of_chain hchain, hfinal,
      List.getLast?_map]
    cases (init.run calls).2.getLast? <;> exact ⟨rfl, rfl, rfl⟩

/-! ## `ExecuteCode` -/

section ExecuteCodeSpec

variable (messageToJsonString : ProtoMessage → Except Status String)

/-- The message whose JSON stands for an argument in the invocation: its data when it has no
tags, the whole argument otherwise. -/
def invocationArgument (arg : UDFArgument) : ProtoMessage :=
  match arg.tags with
  | [] => .value arg.data
  | _ => .udfArgument arg

/-- The metadata message of the invocation: the metadata with `udf_interface_version = 1`. -/
def invocationMetadata (executionMetadata : UDFExecutionMetadata) : ProtoMessage :=
  .udfExecutionMetadata { executionMetadata with udfInterfaceVersion := 1 }

/-- The invocation input: the JSON of the metadata message, then of each argument's message, or
the first serialization error. -/
def invocationInput (executionMetadata : UDFExecutionMetadata) (arguments : List UDFArgument) :
    Except Status (List String) :=
  (invocationMetadata executionMetadata :: arguments.map invocationArgument).mapM
    messageToJsonString

/-- The engine's answer: the output of an OK answer in time, the error status of an answer with
an error (or of a refused submission), and `Internal` when there is no answer in time. -/
def engineAnswer (outcome : ExecuteOutcome) : Except Status String :=
  if !outcome.executeStatus.ok then .error outcome.executeStatus
  else
    match outcome.response with
    | none => .error (internalError "Timed out waiting for UDF result.")
    | some (status, resp) => if status.ok then .ok resp else .error status

theorem serializeArguments_eq_mapM (arguments : List UDFArgument) :
    serializeArguments messageToJsonString arguments =
      (arguments.map argumentMessage).mapM messageToJsonString := by
  induction arguments with
  | nil => rfl
  | cons arg rest ih =>
    simp only [serializeArguments, ih, List.map_cons, List.mapM_cons]
    cases messageToJsonString (argumentMessage arg) <;>
      cases (rest.map argumentMessage).mapM messageToJsonString <;> rfl

/-- A `mapM` in `Except` that succeeds maps each element to the result at its position. -/
theorem forall₂_of_mapM_eq_ok {α β ε : Type} (f : α → Except ε β) {l : List α} {r : List β}
    (h : l.mapM f = .ok r) : List.Forall₂ (fun a b => f a = .ok b) l r := by
  induction l generalizing r with
  | nil => cases h; exact .nil
  | cons a l ih =>
    rw [List.mapM_cons] at h
    cases ha : f a <;> cases hl : l.mapM f <;>
      simp only [ha, hl, bind, Except.bind, pure, Except.pure] at h <;> cases h
    exact .cons ha (ih hl)

theorem executeCodeKeys_eq (client : UdfClientImpl) (keys : List String)
    (outcome : ExecuteOutcome) :
    client.executeCodeKeys keys outcome =
      ⟨engineAnswer outcome, some (client.buildInvocationRequest keys)⟩ := by
  obtain ⟨executeStatus, response⟩ := outcome
  cases hexec : executeStatus.ok
  · simp [executeCodeKeys, engineAnswer, hexec]
  · cases response with
    | none => simp [executeCodeKeys, engineAnswer, hexec]
    | some response =>
      obtain ⟨status, resp⟩ := response
      cases hstatus : status.ok <;> simp [executeCodeKeys, engineAnswer, hexec, hstatus]

/-- **`ExecuteCode`.** It either returns the first JSON serialization error and submits nothing,
or it submits one invocation: id `"id"`, the client's version as `uint64_t`, the client's
handler name, and as input the `n + 1` strings `[JSON(metadata), s₁, …, sₙ]`. The metadata is
printed with `udf_interface_version = 1`, and `sᵢ` is the JSON of the `i`-th argument's data when
it has no tags and of the whole argument otherwise. The call answers what the engine answered. -/
theorem executeCode_eq_invocation (client : UdfClientImpl)
    (executionMetadata : UDFExecutionMetadata) (arguments : List UDFArgument)
    (outcome : ExecuteOutcome) :
    let result := client.executeCode messageToJsonString executionMetadata arguments outcome
    match invocationInput messageToJsonString executionMetadata arguments with
    | .error status => result.result = .error status ∧ result.submitted = none
    | .ok input => ∃ jsonMetadata jsonArgs, input = jsonMetadata :: jsonArgs ∧
        messageToJsonString (invocationMetadata executionMetadata) = .ok jsonMetadata ∧
        List.Forall₂ (fun arg json => messageToJsonString (invocationArgument arg) = .ok json)
          arguments jsonArgs ∧
        result.submitted = some
          { id := kInvocationRequestId, versionNum := toUInt64 client.version,
            handlerName := client.handlerName, input := input } ∧
        result.result = engineAnswer outcome := by
  have hargs : arguments.map argumentMessage = arguments.map invocationArgument :=
    List.map_congr_left fun ⟨tags, data⟩ _ => by cases tags <;> rfl
  simp only [executeCode, invocationInput, invocationMetadata, serializeArguments_eq_mapM, hargs,
    List.mapM_cons, kUdfInterfaceVersion]
  cases messageToJsonString
    (.udfExecutionMetadata { executionMetadata with udfInterfaceVersion := 1 })
  · exact ⟨rfl, rfl⟩
  · cases hrest : (arguments.map invocationArgument).mapM messageToJsonString
    · exact ⟨rfl, rfl⟩
    · simp only [bind, Except.bind, pure, Except.pure, executeCodeKeys_eq, buildInvocationRequest,
        and_true]
      exact ⟨_, _, rfl, rfl, List.forall₂_map_left_iff.1 (forall₂_of_mapM_eq_ok _ hrest)⟩

end ExecuteCodeSpec

end UdfClientImpl

end KvServer
