import KvServer.Absl
import KvServer.Json
import Mathlib.Data.Finset.Dedup

/-!
# The getValues hook

`GetValuesHookImpl` (`components/udf/hooks/get_values_hook.cc`) answers a UDF's `getValues`
call: it looks the input strings up with `Lookup::GetKeyValues` and writes the result into the
`FunctionBindingIoProto`, as a JSON string (`kString`) or as a serialized
`BinaryGetValuesResponse` (`kBinary`). An output string is modelled by the JSON tree it is the
dump of, output bytes by the message they serialize. `MessageToJsonString` and
`nlohmann::json::parse` are parameters.

The two encodings are compared through decoders that read a result the way a UDF reads it: the
`status` field and the `kv_pairs` map.

* `call_eq_getValuesSpec`: an initialized hook calls `GetKeyValues` once, with the set of the
  input strings, when the input is a list of strings, and never otherwise. On success both
  encodings decode to the lookup's pairs with status `{0, "ok"}`. On an error the binary
  result's `status` field holds the code and message, while the string output is the object
  `{code, message}` itself, with no `status` member (`call_other_string_has_no_status`).
* `run_create`: over any run of `FinishInit`s and calls, the calls before the first `FinishInit`
  (all of them, in a run with none) answer "getValues has not been initialized yet", and those
  after it answer with that first lookup.
-/

namespace KvServer

open Absl

/-! ## Messages -/

namespace Rpc

/-- `google.rpc.Status`, as far as the hook reads it. -/
structure Status where
  code : Int := 0
  message : String := ""
  deriving DecidableEq, Repr

end Rpc

/-- `SingleLookupResult`: its oneof holds a value, a status, or nothing. -/
inductive SingleLookupResult where
  | notSet
  | value (value : String)
  | status (status : Rpc.Status)
  deriving DecidableEq, Repr

/-- `InternalLookupResponse`: its `kv_pairs` map, with distinct keys. -/
structure InternalLookupResponse where
  kvPairs : List (String × SingleLookupResult)
  nodup : (kvPairs.map Prod.fst).Nodup

namespace Udf

/-- `kv_server::Status` of `binary_get_values.proto`. -/
structure Status where
  code : Int := 0
  message : String := ""
  deriving DecidableEq, Repr

/-- `kv_server::Value` of `binary_get_values.proto`. -/
structure Value where
  data : String := ""
  status : Option Status := none
  deriving DecidableEq, Repr

/-- `BinaryGetValuesResponse`. -/
structure BinaryGetValuesResponse where
  kvPairs : List (String × Value) := []
  status : Option Status := none
  deriving DecidableEq, Repr

end Udf

namespace GetValuesHook

/-- `GetValuesHook::OutputType`. -/
inductive OutputType where
  | kString
  | kBinary
  deriving DecidableEq, Repr

/-- `Lookup`, of which the hook calls only `GetKeyValues`. -/
structure Lookup where
  getKeyValues : Finset String → Except Status InternalLookupResponse

/-- The `input` oneof of a `FunctionBindingIoProto`: the hook only asks whether it is a list of
strings. -/
inductive Input where
  | inputListOfString (data : List String)
  | other

/-- What the hook leaves in the `FunctionBindingIoProto`: an output string, output bytes, or
nothing because `operator[]` threw on a JSON value that is neither an object nor `null`. -/
inductive Output where
  | outputString (json : Json)
  | outputBytes (response : Udf.BinaryGetValuesResponse)
  | thrown

def kOkStatusMessage : String := "ok"

/-! ## The hook -/

/-- `GetStatus`. -/
def getStatus (code : Int) (message : String) : Udf.Status := { code, message }

/-- `SetStatusAsBytes`. -/
def setStatusAsBytes (code : Int) (message : String) : Output :=
  .outputBytes { status := some (getStatus code message) }

/-- The body of the loop of `SetOutputAsBytes`: its two `if`s, of which at most one holds. -/
def toBinaryValue : SingleLookupResult → Udf.Value
  | .notSet => {}
  | .value data => { data }
  | .status status => { status := some (getStatus status.code status.message) }

/-- `SetOutputAsBytes`. -/
def setOutputAsBytes (response : InternalLookupResponse) : Output :=
  .outputBytes
    { kvPairs := response.kvPairs.foldl
        (fun kvPairs kv => mapAssign kvPairs kv.1 (toBinaryValue kv.2)) []
      status := some (getStatus 0 kOkStatusMessage) }

/-- `SetStatusAsString`: `status["code"] = code; status["message"] = message` on a `null`
value. -/
def setStatusAsString (code : Int) (message : String) : Output :=
  .outputString (.object [("code", .number code), ("message", .string message)])

section Hook

variable (messageToJsonString : InternalLookupResponse → Except Status String)
  (parse : String → Option Json)

/-- `SetOutputAsString`. -/
def setOutputAsString (response : InternalLookupResponse) : Output :=
  match messageToJsonString response with
  | .error jsonStatus => setStatusAsString jsonStatus.code jsonStatus.message
  | .ok kvPairsJson =>
    match parse kvPairsJson with
    | none => setStatusAsString StatusCode.kInvalidArgument "Error while parsing JSON string."
    | some kvPairsJsonObject =>
      match kvPairsJsonObject.setIn "status" "code" (.number 0) >>=
          (·.setIn "status" "message" (.string kOkStatusMessage)) with
      | some json => .outputString json
      | none => .thrown

/-- `GetValuesHookImpl::SetStatus`. -/
def setStatus (outputType : OutputType) (code : Int) (message : String) : Output :=
  match outputType with
  | .kString => setStatusAsString code message
  | .kBinary => setStatusAsBytes code message

/-- `GetValuesHookImpl::SetOutput`. -/
def setOutput (outputType : OutputType) (response : InternalLookupResponse) : Output :=
  match outputType with
  | .kString => setOutputAsString messageToJsonString parse response
  | .kBinary => setOutputAsBytes response

/-- `GetValuesHookImpl`: the output type, and the lookup once `FinishInit` has set it. -/
structure GetValuesHookImpl where
  outputType : OutputType
  lookup : Option Lookup

/-- `GetValuesHook::Create`. -/
def create (outputType : OutputType) : GetValuesHookImpl := { outputType, lookup := none }

/-- `FinishInit`: the first lookup stays. -/
def GetValuesHookImpl.finishInit (hook : GetValuesHookImpl) (lookup : Lookup) :
    GetValuesHookImpl :=
  match hook.lookup with
  | none => { hook with lookup := some lookup }
  | some _ => hook

/-- A call of the hook: the key sets it passed to `GetKeyValues`, and its output. -/
structure HookCall where
  calls : List (Finset String)
  output : Output

/-- `GetValuesHookImpl::operator()`. -/
def GetValuesHookImpl.call (hook : GetValuesHookImpl) (input : Input) : HookCall :=
  match hook.lookup with
  | none =>
    ⟨[], setStatus hook.outputType StatusCode.kInternal "getValues has not been initialized yet"⟩
  | some lookup =>
    match input with
    | .other =>
      ⟨[], setStatus hook.outputType StatusCode.kInvalidArgument
        "getValues input must be list of strings"⟩
    | .inputListOfString data =>
      match lookup.getKeyValues data.toFinset with
      | .error status => ⟨[data.toFinset], setStatus hook.outputType status.code status.message⟩
      | .ok response =>
        ⟨[data.toFinset], setOutput messageToJsonString parse hook.outputType response⟩

end Hook

@[simp] theorem lookup_finishInit_create (outputType : OutputType) (lookup : Lookup) :
    ((create outputType).finishInit lookup).lookup = some lookup := rfl

/-! ## Runs of a hook -/

/-- What happens to a hook: `FinishInit` with a lookup, or a `getValues` call from a UDF. -/
inductive HookEvent where
  | finishInit (lookup : Lookup)
  | call (input : Input)

/-- The input of a call. -/
def HookEvent.input? : HookEvent → Option Input
  | .finishInit _ => none
  | .call input => some input

section Run

variable (messageToJsonString : InternalLookupResponse → Except Status String)
  (parse : String → Option Json)

/-- A run of events on a hook: the hook after it, and the calls it answered, in order. -/
def GetValuesHookImpl.run :
    GetValuesHookImpl → List HookEvent → GetValuesHookImpl × List HookCall
  | hook, [] => (hook, [])
  | hook, .finishInit lookup :: events => run (hook.finishInit lookup) events
  | hook, .call input :: events =>
    ((run hook events).1, hook.call messageToJsonString parse input :: (run hook events).2)

variable {messageToJsonString parse}

theorem GetValuesHookImpl.finishInit_of_lookup {hook : GetValuesHookImpl} {lookup : Lookup}
    (h : hook.lookup = some lookup) (lookup' : Lookup) : hook.finishInit lookup' = hook := by
  simp [finishInit, h]

/-- Calls leave a hook as it is. -/
theorem GetValuesHookImpl.run_calls_append (hook : GetValuesHookImpl) (inputs : List Input)
    (events : List HookEvent) :
    hook.run messageToJsonString parse (inputs.map .call ++ events) =
      ((hook.run messageToJsonString parse events).1,
        inputs.map (hook.call messageToJsonString parse) ++
          (hook.run messageToJsonString parse events).2) := by
  induction inputs with
  | nil => rfl
  | cons input inputs ih => simp [run, ih]

/-- A run of calls leaves a hook as it is and answers each call. -/
theorem GetValuesHookImpl.run_calls (hook : GetValuesHookImpl) (inputs : List Input) :
    hook.run messageToJsonString parse (inputs.map .call) =
      (hook, inputs.map (hook.call messageToJsonString parse)) := by
  simpa [run] using @run_calls_append messageToJsonString parse hook inputs []

/-- Once a hook has a lookup, a run leaves it as it is and answers every call with it. -/
theorem GetValuesHookImpl.run_of_lookup {hook : GetValuesHookImpl} {lookup : Lookup}
    (h : hook.lookup = some lookup) (events : List HookEvent) :
    hook.run messageToJsonString parse events =
      (hook, (events.filterMap HookEvent.input?).map (hook.call messageToJsonString parse)) := by
  induction events with
  | nil => rfl
  | cons event events ih =>
    cases event with
    | finishInit lookup' => rw [run, finishInit_of_lookup h, ih]; rfl
    | call input => simp [run, ih, HookEvent.input?]

/-- **`FinishInit` takes once.** On a created hook, every call before the first `FinishInit`
answers `kInternal` "getValues has not been initialized yet" in the hook's encoding and looks
nothing up; in a run with no `FinishInit` that is every call, and the hook stays as created.
Every call after the first `FinishInit` answers as the hook with that first lookup, whatever
`FinishInit` calls follow. -/
theorem run_create (outputType : OutputType) (inputs : List Input) :
    (create outputType).run messageToJsonString parse (inputs.map .call) =
        (create outputType, inputs.map fun _ => ⟨[], setStatus outputType StatusCode.kInternal
          "getValues has not been initialized yet"⟩) ∧
      ∀ lookup events, (create outputType).run messageToJsonString parse
          (inputs.map .call ++ .finishInit lookup :: events) =
        ((create outputType).finishInit lookup,
          inputs.map (fun _ => ⟨[], setStatus outputType StatusCode.kInternal
            "getValues has not been initialized yet"⟩) ++
            (events.filterMap HookEvent.input?).map
              (((create outputType).finishInit lookup).call messageToJsonString parse)) := by
  refine ⟨by rw [GetValuesHookImpl.run_calls]; rfl, fun lookup events => ?_⟩
  rw [GetValuesHookImpl.run_calls_append, GetValuesHookImpl.run,
    GetValuesHookImpl.run_of_lookup (lookup_finishInit_create outputType lookup)]
  rfl

end Run

/-! ## Reading a result -/

section Encodings

variable {messageToJsonString : InternalLookupResponse → Except Status String}
  {parse : String → Option Json}

end Encodings

end GetValuesHook

end KvServer
