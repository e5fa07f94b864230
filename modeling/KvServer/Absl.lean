import Mathlib.Data.Int.Defs

/-!
# `absl::Status`

The status values the modelled code builds and returns. An `absl::Status` is a raw integer code
and a message; the code is kept as an integer because `ConvertToV1Response` casts an arbitrary
`int32` from a response into `absl::StatusCode`. `absl::StatusOr<T>` is `Except Status T`.
-/

namespace KvServer.Absl

/-! The canonical codes of `absl::StatusCode` that the modelled code names. -/

namespace StatusCode

def kOk : Int := 0
def kInvalidArgument : Int := 3
def kInternal : Int := 13
def kUnavailable : Int := 14

end StatusCode

/-- `absl::Status`: a code and a message. -/
structure Status where
  code : Int
  message : String
  deriving DecidableEq, Repr

/-- `absl::OkStatus()`. -/
def okStatus : Status := ⟨StatusCode.kOk, ""⟩

/-- `absl::Status(code, message)`: an OK status keeps no message. -/
def Status.make (code : Int) (message : String) : Status :=
  if code = StatusCode.kOk then okStatus else ⟨code, message⟩

/-- `absl::Status::ok()`. -/
def Status.ok (s : Status) : Bool := s.code = StatusCode.kOk

/-- `absl::Status::Update(new_status)`: keeps the first error. -/
def Status.update (s new : Status) : Status := if s.ok then new else s

def invalidArgumentError (message : String) : Status := ⟨StatusCode.kInvalidArgument, message⟩

def internalError (message : String) : Status := ⟨StatusCode.kInternal, message⟩

def unavailableError (message : String) : Status := ⟨StatusCode.kUnavailable, message⟩

@[simp] theorem okStatus_ok : okStatus.ok = true := rfl

@[simp] theorem invalidArgumentError_ok (m : String) : (invalidArgumentError m).ok = false := rfl

@[simp] theorem internalError_ok (m : String) : (internalError m).ok = false := rfl

@[simp] theorem okStatus_update (s : Status) : okStatus.update s = s := rfl

theorem Status.update_of_not_ok {s : Status} (h : s.ok = false) (new : Status) :
    s.update new = s := by
  simp [Status.update, h]

theorem Status.foldl_update_of_not_ok {s : Status} (h : s.ok = false) (statuses : List Status) :
    statuses.foldl Status.update s = s := by
  induction statuses with
  | nil => rfl
  | cons status statuses ih => rw [List.foldl_cons, Status.update_of_not_ok h, ih]

/-- `Update` over a sequence of statuses, from an OK one: the first error, or else the last
status, or the start when there is none. -/
theorem Status.foldl_update {s : Status} (hs : s.ok = true) (statuses : List Status) :
    statuses.foldl Status.update s =
      (statuses.find? fun status => !status.ok).getD (statuses.getLast?.getD s) := by
  induction statuses generalizing s with
  | nil => rfl
  | cons status statuses ih =>
    rw [List.foldl_cons, show s.update status = status from if_pos hs]
    cases h : status.ok
    · rw [Status.foldl_update_of_not_ok h, List.find?_cons_of_pos _ (by simp [h])]
      rfl
    · rw [ih h, List.find?_cons_of_neg _ (by simp [h]), List.getLast?_cons]
      rfl

end KvServer.Absl
