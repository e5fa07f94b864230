import KvServer.Absl

/-!
# `GcpParameterClient`

The GCP `ParameterClient` (`src/unnamed/part_004`) reads the server's parameters.
`GetParameter` submits the request to the parameter service and blocks until the service's
callback has run. `GetInt32Parameter` and `GetBoolParameter` convert the string it returns with
`absl::SimpleAtoi` and `absl::SimpleAtob`.

The parameter service, `GetErrorMessage`, `SimpleAtoi` and `SimpleAtob` are not in the sources
and are parameters. The service's answer to a request is the result the submission returns and
what its callback receives, if the callback runs at all. The constructor's `CHECK`s and the
logging are left out.

* `getParameter_eq_some_ok`: a value `GetParameter` returns is never the marker
  `"EMPTY_STRING"`. It is the stored value, or the empty string, which stands both for the marker
  and for a callback that failed: a failed callback is not reported.
* `getConvertedParameter_eq_some_error`: every error `GetInt32Parameter` and `GetBoolParameter`
  return is the `Unavailable` error of a failed submission, or an `InvalidArgument` error that
  names the parameter and the value that did not convert.
-/

namespace KvServer.GcpParameterClient

open Absl

/-- `google::scp::core::ExecutionResult`: success, or a failure with its status code. -/
inductive ExecutionResult where
  | success
  | failure (statusCode : Nat)

/-- How the parameter service handles one `GetParameter` request: the result of the submission,
and the result and `parameter_value` its callback receives, if it runs. -/
structure GetParameterOutcome where
  executionResult : ExecutionResult
  callback : Option (ExecutionResult × String)

section GetParameter

variable (parameterClient : String → GetParameterOutcome) (getErrorMessage : Nat → String)

/-- What the callback of `GetParameter` leaves in `param_value`, which starts empty. -/
def callbackValue : Option (ExecutionResult × String) → String
  | some (.success, value) => if value ≠ "EMPTY_STRING" then value else ""
  | _ => ""

/-- `GetParameter`; `none` when the callback never runs and `counter.Wait()` blocks forever. -/
def getParameter (parameterName : String) : Option (Except Status String) :=
  let outcome := parameterClient parameterName
  outcome.callback.map fun _ =>
    match outcome.executionResult with
    | .failure statusCode => .error (unavailableError (getErrorMessage statusCode))
    | .success => .ok (callbackValue outcome.callback)

/-- `GetInt32Parameter` and `GetBoolParameter`: `GetParameter`, then a conversion to
`typeName` whose failure is an `InvalidArgument` error naming the parameter and its value. -/
def getConvertedParameter {α : Type} (convert : String → Option α) (typeName : String)
    (parameterName : String) : Option (Except Status α) :=
  (getParameter parameterClient getErrorMessage parameterName).map fun parameter =>
    match parameter with
    | .error status => .error status
    | .ok value =>
      match convert value with
      | some converted => .ok converted
      | none => .error (invalidArgumentError ("Failed converting " ++ parameterName ++
          " parameter: " ++ value ++ " to " ++ typeName ++ "."))

/-- `GetInt32Parameter`, with `absl::SimpleAtoi` into an `int32_t`. -/
def getInt32Parameter (simpleAtoi : String → Option Int) (parameterName : String) :
    Option (Except Status Int) :=
  getConvertedParameter parameterClient getErrorMessage simpleAtoi "int32" parameterName

/-- `GetBoolParameter`, with `absl::SimpleAtob`. -/
def getBoolParameter (simpleAtob : String → Option Bool) (parameterName : String) :
    Option (Except Status Bool) :=
  getConvertedParameter parameterClient getErrorMessage simpleAtob "bool" parameterName

theorem callbackValue_ne (callback : Option (ExecutionResult × String)) :
    callbackValue callback ≠ "EMPTY_STRING" := by
  rcases callback with _ | ⟨_ | _, value⟩ <;> simp only [callbackValue]
  · decide
  · split_ifs with h
    exacts [h, by decide]
  · decide

/-- A value `GetParameter` returns is never the marker `"EMPTY_STRING"`: it is the value the
callback received, or the empty string. The empty string also stands for a callback that failed
after a successful submission, whose error is lost. -/
theorem getParameter_eq_some_ok {parameterName value : String}
    (h : getParameter parameterClient getErrorMessage parameterName = some (.ok value)) :
    value ≠ "EMPTY_STRING" ∧
      (value = "" ∨ (parameterClient parameterName).callback = some (.success, value)) := by
  simp only [getParameter, Option.map_eq_some'] at h
  obtain ⟨_, hcallback, hvalue⟩ := h
  split at hvalue
  · cases hvalue
  · cases hvalue
    refine ⟨callbackValue_ne _, ?_⟩
    rcases (parameterClient parameterName).callback with _ | ⟨_ | _, stored⟩
    · exact .inl rfl
    · by_cases hm : stored = "EMPTY_STRING" <;> simp [callbackValue, hm]
    · exact .inl rfl

/-- Every error `GetInt32Parameter` or `GetBoolParameter` returns is the `Unavailable` error of a
failed submission, with its error message, or the `InvalidArgument` error of a value that did not
convert, which names the parameter, the value and the type. -/
theorem getConvertedParameter_eq_some_error {α : Type} {convert : String → Option α}
    {typeName parameterName : String} {status : Status}
    (h : getConvertedParameter parameterClient getErrorMessage convert typeName parameterName =
      some (.error status)) :
    (∃ statusCode, (parameterClient parameterName).executionResult = .failure statusCode ∧
        status = unavailableError (getErrorMessage statusCode)) ∨
      ∃ value, getParameter parameterClient getErrorMessage parameterName = some (.ok value) ∧
        convert value = none ∧
        status = invalidArgumentError ("Failed converting " ++ parameterName ++ " parameter: " ++
          value ++ " to " ++ typeName ++ ".") := by
  simp only [getConvertedParameter, Option.map_eq_some'] at h
  obtain ⟨parameter, hparameter, hstatus⟩ := h
  rcases parameter with error | value
  · cases hstatus
    simp only [getParameter, Option.map_eq_some'] at hparameter
    obtain ⟨_, -, hresult⟩ := hparameter
    split at hresult
    · cases hresult
      exact .inl ⟨_, by assumption, rfl⟩
    · cases hresult
  · dsimp only at hstatus
    cases hconvert : convert value with
    | some converted => simp [hconvert] at hstatus
    | none =>
      simp only [hconvert, Except.error.injEq] at hstatus
      exact .inr ⟨value, hparameter, hconvert, hstatus.symm⟩

/-- A read whose callback failed after the submission succeeded. -/
def failedCallbackClient (_parameterName : String) : GetParameterOutcome :=
  ⟨.success, some (.failure 7, "")⟩

/-- The callback's failure surfaces as a failed conversion of the empty string. -/
example :
    getInt32Parameter failedCallbackClient (fun _ => "") (fun _ => none) "num_shards" =
      some (.error (invalidArgumentError "Failed converting num_shards parameter:  to int32.")) :=
  rfl

end GetParameter

end KvServer.GcpParameterClient
