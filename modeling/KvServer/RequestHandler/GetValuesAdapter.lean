import KvServer.Absl
import KvServer.Protobuf
import Mathlib.Data.List.Perm.Basic

/-!
# The V1 to V2 adapter

`GetValuesAdapterImpl` (`components/data_server/request_handler/get_values_adapter.cc`) answers a
V1 request through the V2 handler (`CallV2Handler`, with the V2 handler a parameter).
`BuildV2Request` sends each non-empty key list of the V1 request as one argument, tagged
`"custom"` and the list's namespace. `ConvertToV1Response` reads the UDF's key groups back: a
group whose two tags are `"custom"` and a namespace fills that namespace of the V1 response with
its key values, raw.

* `findNamespace_eq_ok_iff`: `FindNamespace` names a namespace exactly for the tag lists that
  are `"custom"` and that namespace, in either order.
* `get?_processKeyValues`: `ProcessKeyValues` leaves each key with the group's raw value; the
  JSON parse it tries first is overwritten.
* `convertToV1Response_of_buildV2Request`: a V2 answer that has a group per argument of
  `BuildV2Request`, with exactly the argument's keys, plus any groups under other tags, converts
  to the V1 response that maps each requested key to the value its group returned.
  `convertToV1Response_extraKey`: a group with one key more puts that key in the V1 response.
* `callV2Handler_of_not_ok`: a `CallV2Handler` call that fails leaves the V1 response as it was.
  Its error is the V2 handler's, the one for a response with no single partition, the
  partition's status, or the parser's.
-/

namespace KvServer

open Absl Protobuf

namespace v1

/-- The fields of `v1::GetValuesRequest` that the adapter reads. -/
structure GetValuesRequest where
  subkey : String := ""
  keys : List String := []
  renderUrls : List String := []
  adComponentRenderUrls : List String := []
  kvInternal : List String := []

/-- `v1::GetValuesResponse`: one `Struct` per namespace. -/
structure GetValuesResponse where
  keys : Struct := []
  renderUrls : Struct := []
  adComponentRenderUrls : Struct := []
  kvInternal : Struct := []
  deriving Inhabited

end v1

namespace v2

/-- The status of a response partition: a code and a message. -/
structure PartitionStatus where
  code : Int
  message : String
  deriving DecidableEq, Repr

/-- The `output` oneof of `v2::ResponsePartition`. -/
inductive PartitionOutput where
  | notSet
  | stringOutput (output : String)
  | status (status : PartitionStatus)

/-- `v2::ResponsePartition`. -/
structure ResponsePartition where
  id : Int := 0
  output : PartitionOutput := .notSet

/-- `string_output()`: the string output, or `""` when the oneof holds something else. -/
def ResponsePartition.stringOutput (partition : ResponsePartition) : String :=
  match partition.output with
  | .stringOutput output => output
  | _ => ""

/-- The fields of `v2::GetValuesResponse` that the adapter reads. -/
structure GetValuesResponse where
  singlePartition : Option ResponsePartition := none

end v2

namespace ApplicationPa

/-- A value of a key group: `application_pa::ValueObject`, which wraps a
`google.protobuf.Value`. -/
structure ValueObject where
  value : Value

/-- `application_pa::KeyGroupOutput`: its tags and its `key_values` map, with distinct keys. -/
structure KeyGroupOutput where
  tags : List String
  keyValues : List (String × ValueObject)
  nodup : (keyValues.map Prod.fst).Nodup

/-- `application_pa::KeyGroupOutputs`. -/
structure KeyGroupOutputs where
  keyGroupOutputs : List KeyGroupOutput

end ApplicationPa

open ApplicationPa

namespace GetValuesAdapter

def kKeysTag : String := "keys"
def kRenderUrlsTag : String := "renderUrls"
def kAdComponentRenderUrlsTag : String := "adComponentRenderUrls"
def kKvInternalTag : String := "kvInternal"
def kCustomTag : String := "custom"

/-- `BuildArgument`: the keys as a list value, tagged `"custom"` and the namespace. -/
def buildArgument (keys : List String) (namespaceTag : String) : UDFArgument :=
  { tags := [.stringValue kCustomTag, .stringValue namespaceTag]
    data := keys.foldl (fun data key => data.addListValue (.stringValue key)) (.listValue []) }

/-- One `if (v1_request.<list>_size() > 0)` block of `BuildV2Request`. -/
def addArgument (keys : List String) (namespaceTag : String)
    (arguments : List UDFArgument) : List UDFArgument :=
  if keys.length > 0 then arguments ++ [buildArgument keys namespaceTag] else arguments

/-- `BuildV2Request`. -/
def buildV2Request (v1Request : v1.GetValuesRequest) : v2.GetValuesRequest :=
  let arguments := addArgument v1Request.kvInternal kKvInternalTag <|
    addArgument v1Request.adComponentRenderUrls kAdComponentRenderUrlsTag <|
    addArgument v1Request.renderUrls kRenderUrlsTag <|
    addArgument v1Request.keys kKeysTag []
  { metadata := Struct.set [] "hostname" (.stringValue v1Request.subkey)
    partitions := [{ arguments }] }

section Convert

variable (jsonStringToValue : String → Except Status Value)

/-- The body of the loop of `ProcessKeyValues`: the value is parsed as JSON when it is a string,
and then overwritten by the raw value. -/
def processKeyValue (resultStruct : Struct) (kv : String × ValueObject) : Struct :=
  let resultStruct :=
    match kv.2.value with
    | .stringValue s =>
      match jsonStringToValue s with
      | .ok valueProto => Struct.set resultStruct kv.1 valueProto
      | .error _ => resultStruct
    | _ => resultStruct
  Struct.set resultStruct kv.1 kv.2.value

/-- `ProcessKeyValues`. -/
def processKeyValues (keyGroupOutput : KeyGroupOutput) (resultStruct : Struct) : Struct :=
  keyGroupOutput.keyValues.foldl (processKeyValue jsonStringToValue) resultStruct

/-- The loop of `FindNamespace`: whether a tag is `"custom"`, and the last tag that is not. -/
def findNamespaceLoop (tags : List String) : Bool × String :=
  tags.foldl
    (fun acc tag => if tag = kCustomTag then (true, acc.2) else (acc.1, tag)) (false, "")

/-- `FindNamespace`. -/
def findNamespace (tags : List String) : Except Status String :=
  if tags.length ≠ 2 then
    .error (invalidArgumentError ("Expected 2 tags, found " ++ toString tags.length))
  else if (findNamespaceLoop tags).1 then .ok (findNamespaceLoop tags).2
  else .error (invalidArgumentError "No namespace tags found")

/-- `ProcessKeyGroupOutput`. -/
def processKeyGroupOutput (keyGroupOutput : KeyGroupOutput) (v1Response : v1.GetValuesResponse) :
    v1.GetValuesResponse :=
  match findNamespace keyGroupOutput.tags with
  | .error _ => v1Response
  | .ok tag =>
    let v1Response := if tag = kKeysTag then
      { v1Response with keys := processKeyValues jsonStringToValue keyGroupOutput v1Response.keys }
      else v1Response
    let v1Response := if tag = kRenderUrlsTag then
      { v1Response with
        renderUrls := processKeyValues jsonStringToValue keyGroupOutput v1Response.renderUrls }
      else v1Response
    let v1Response := if tag = kAdComponentRenderUrlsTag then
      { v1Response with
        adComponentRenderUrls :=
          processKeyValues jsonStringToValue keyGroupOutput v1Response.adComponentRenderUrls }
      else v1Response
    if tag = kKvInternalTag then
      { v1Response with
        kvInternal := processKeyValues jsonStringToValue keyGroupOutput v1Response.kvInternal }
      else v1Response

/-- `ConvertToV1Response`, with `KeyGroupOutputsFromJson` (not in the sources) a parameter. -/
def convertToV1Response (keyGroupOutputsFromJson : String → Except Status KeyGroupOutputs)
    (v2Response : v2.GetValuesResponse) (v1Response : v1.GetValuesResponse) :
    Status × v1.GetValuesResponse :=
  match v2Response.singlePartition with
  | none =>
    (internalError
      "Bug in KV server! response does not have single_partition set for V1 response.",
      v1Response)
  | some partition =>
    match partition.output with
    | .status status => (Status.make status.code status.message, v1Response)
    | _ =>
      match keyGroupOutputsFromJson partition.stringOutput with
      | .error status => (status, v1Response)
      | .ok outputs =>
        (okStatus, outputs.keyGroupOutputs.foldl
          (fun v1Response keyGroupOutput =>
            processKeyGroupOutput jsonStringToValue keyGroupOutput v1Response) v1Response)

/-- `GetValuesAdapterImpl::CallV2Handler`, with the V2 handler's `GetValues` a parameter: the
status it returns and the V2 response it fills. `FromAbslStatus` keeps the code and message. -/
def callV2Handler (keyGroupOutputsFromJson : String → Except Status KeyGroupOutputs)
    (getValuesV2 : v2.GetValuesRequest → Status × v2.GetValuesResponse)
    (v1Request : v1.GetValuesRequest) (v1Response : v1.GetValuesResponse) :
    Status × v1.GetValuesResponse :=
  let (status, v2Response) := getValuesV2 (buildV2Request v1Request)
  if status.ok then
    convertToV1Response jsonStringToValue keyGroupOutputsFromJson v2Response v1Response
  else (status, v1Response)

end Convert

/-! ## Errors of `CallV2Handler` -/

/-- `absl::Status(code, message)` is an error exactly when the code is not OK, and then keeps
both. -/
theorem Status.make_of_not_ok {code : Int} {message : String}
    (h : (Status.make code message).ok = false) : Status.make code message = ⟨code, message⟩ :=
  if_neg fun hcode => by simp [Status.make, hcode] at h

/-- Whatever the V2 handler and the JSON parser do, a `CallV2Handler` call that fails leaves the
V1 response as it was. Its error is the V2 handler's,
the one for a response with no single partition, the partition's status, or the parser's. -/
theorem callV2Handler_of_not_ok (jsonStringToValue : String → Except Status Value)
    (keyGroupOutputsFromJson : String → Except Status KeyGroupOutputs)
    (getValuesV2 : v2.GetValuesRequest → Status × v2.GetValuesResponse)
    (v1Request : v1.GetValuesRequest) (v1Response : v1.GetValuesResponse)
    (h : (callV2Handler jsonStringToValue keyGroupOutputsFromJson getValuesV2 v1Request
      v1Response).1.ok = false) :
    let result := callV2Handler jsonStringToValue keyGroupOutputsFromJson getValuesV2 v1Request
      v1Response
    let v2Response := (getValuesV2 (buildV2Request v1Request)).2
    result.2 = v1Response ∧
      (result.1 = (getValuesV2 (buildV2Request v1Request)).1 ∨
        (v2Response.singlePartition = none ∧ result.1 = internalError
          "Bug in KV server! response does not have single_partition set for V1 response.") ∨
        (∃ partition status, v2Response.singlePartition = some partition ∧
          partition.output = .status status ∧ result.1 = ⟨status.code, status.message⟩) ∨
        ∃ partition, v2Response.singlePartition = some partition ∧
          keyGroupOutputsFromJson partition.stringOutput = .error result.1) := by
  revert h
  simp only [callV2Handler]
  rcases getValuesV2 (buildV2Request v1Request) with ⟨status, ⟨_ | partition⟩⟩ <;>
    dsimp only <;> split_ifs with hstatus <;> intro h
  · exact ⟨rfl, .inr (.inl ⟨rfl, rfl⟩)⟩
  · exact ⟨rfl, .inl rfl⟩
  · simp only [convertToV1Response] at h ⊢
    cases hout : partition.output with
    | status partitionStatus =>
      rw [hout] at h
      exact ⟨rfl, .inr (.inr (.inl ⟨partition, partitionStatus, rfl, hout,
        Status.make_of_not_ok h⟩))⟩
    | notSet | stringOutput _ =>
      rw [hout] at h
      cases hjson : keyGroupOutputsFromJson partition.stringOutput with
      | error error => exact ⟨rfl, .inr (.inr (.inr ⟨partition, rfl, hjson⟩))⟩
      | ok outputs =>
        rw [hjson] at h
        simp at h
  · exact ⟨rfl, .inl rfl⟩

/-! ## Namespaces and tags -/

/-- The four namespaces of a V1 request. -/
inductive Namespace where
  | keys
  | renderUrls
  | adComponentRenderUrls
  | kvInternal
  deriving DecidableEq

namespace Namespace

/-- The tag `BuildV2Request` sends a namespace under. -/
def tag : Namespace → String
  | keys => kKeysTag
  | renderUrls => kRenderUrlsTag
  | adComponentRenderUrls => kAdComponentRenderUrlsTag
  | kvInternal => kKvInternalTag

/-- The namespace's key list in a V1 request. -/
def requestKeys (v1Request : v1.GetValuesRequest) : Namespace → List String
  | keys => v1Request.keys
  | renderUrls => v1Request.renderUrls
  | adComponentRenderUrls => v1Request.adComponentRenderUrls
  | kvInternal => v1Request.kvInternal

/-- The namespace's field of a V1 response. -/
def field (v1Response : v1.GetValuesResponse) : Namespace → Struct
  | keys => v1Response.keys
  | renderUrls => v1Response.renderUrls
  | adComponentRenderUrls => v1Response.adComponentRenderUrls
  | kvInternal => v1Response.kvInternal

theorem tag_ne_custom (ns : Namespace) : ns.tag ≠ kCustomTag := by
  cases ns <;> decide

theorem tag_ne_empty (ns : Namespace) : ns.tag ≠ "" := by
  cases ns <;> decide

theorem tag_injective {ns ns' : Namespace} (h : ns.tag = ns'.tag) : ns = ns' := by
  cases ns <;> cases ns' <;> first | rfl | exact absurd h (by decide)

end Namespace

/-- The tag list is `[a, b]`, in either order. -/
def InEitherOrder (tags : List String) (a b : String) : Prop := tags = [a, b] ∨ tags = [b, a]

instance (tags : List String) (a b : String) : Decidable (InEitherOrder tags a b) :=
  inferInstanceAs (Decidable (_ ∨ _))

/-- `FindNamespace` names `t` (neither `"custom"` nor empty) exactly for the tag lists that are
`"custom"` and `t` in either order. -/
theorem findNamespace_eq_ok_iff {tags : List String} {t : String} (hc : t ≠ kCustomTag)
    (he : t ≠ "") : findNamespace tags = .ok t ↔ InEitherOrder tags kCustomTag t := by
  rcases tags with _ | ⟨a, _ | ⟨b, _ | ⟨c, rest⟩⟩⟩
  · simp [findNamespace, InEitherOrder]
  · simp [findNamespace, InEitherOrder]
  · by_cases ha : a = kCustomTag <;> by_cases hb : b = kCustomTag <;>
      simp [findNamespace, findNamespaceLoop, InEitherOrder, ha, hb, eq_comm, hc, he, Ne.symm hc]
  · simp [findNamespace, InEitherOrder]

/-- A tag list names at most one namespace. -/
theorem Namespace.eq_of_inEitherOrder {tags : List String} {ns ns' : Namespace}
    (h : InEitherOrder tags kCustomTag ns.tag) (h' : InEitherOrder tags kCustomTag ns'.tag) :
    ns = ns' := by
  have hfind := (findNamespace_eq_ok_iff ns.tag_ne_custom ns.tag_ne_empty).2 h
  rw [(findNamespace_eq_ok_iff ns'.tag_ne_custom ns'.tag_ne_empty).2 h', Except.ok.injEq] at hfind
  exact Namespace.tag_injective hfind.symm

/-! ## `ProcessKeyValues` -/

section ProcessKeyValues

variable (jsonStringToValue : String → Except Status Value)

/-- One step of `ProcessKeyValues` leaves its key with the raw value, whatever the JSON parse
gave. -/
theorem get?_processKeyValue (resultStruct : Struct) (kv : String × ValueObject) (k : String) :
    (processKeyValue jsonStringToValue resultStruct kv).get? k =
      if kv.1 = k then some kv.2.value else resultStruct.get? k := by
  unfold processKeyValue
  rw [Struct.get?_set]
  split_ifs with h
  · rfl
  · split
    · split <;> simp [Struct.get?_set, h]
    · rfl

theorem nodup_processKeyValue {resultStruct : Struct} (h : (resultStruct.map Prod.fst).Nodup)
    (kv : String × ValueObject) :
    ((processKeyValue jsonStringToValue resultStruct kv).map Prod.fst).Nodup := by
  unfold processKeyValue
  refine Struct.nodup_set ?_ _ _
  split
  · split
    · exact Struct.nodup_set h _ _
    · exact h
  · exact h

theorem nodup_processKeyValues {resultStruct : Struct} (h : (resultStruct.map Prod.fst).Nodup)
    (keyGroupOutput : KeyGroupOutput) :
    ((processKeyValues jsonStringToValue keyGroupOutput resultStruct).map Prod.fst).Nodup := by
  unfold processKeyValues
  induction keyGroupOutput.keyValues generalizing resultStruct with
  | nil => exact h
  | cons kv kvs ih => exact ih (nodup_processKeyValue jsonStringToValue h kv)

/-- After `ProcessKeyValues`, a key of the group holds the group's raw value, and any other key
what it held before. -/
theorem get?_processKeyValues (keyGroupOutput : KeyGroupOutput) (resultStruct : Struct)
    (k : String) :
    (processKeyValues jsonStringToValue keyGroupOutput resultStruct).get? k =
      (keyGroupOutput.keyValues.lookup k).elim (resultStruct.get? k) fun v => some v.value :=
  Struct.get?_foldl _ ValueObject.value (get?_processKeyValue jsonStringToValue)
    keyGroupOutput.nodup resultStruct k

end ProcessKeyValues

/-! ## The key groups of a response -/

section Groups

variable (jsonStringToValue : String → Except Status Value)

/-- A key group changes the field of a namespace exactly when its tags are `"custom"` and that
namespace's tag, in either order, and then it runs `ProcessKeyValues` on it. -/
theorem field_processKeyGroupOutput (g : KeyGroupOutput) (v1Response : v1.GetValuesResponse)
    (ns : Namespace) :
    ns.field (processKeyGroupOutput jsonStringToValue g v1Response) =
      if InEitherOrder g.tags kCustomTag ns.tag then
        processKeyValues jsonStringToValue g (ns.field v1Response)
      else ns.field v1Response := by
  have hiff := @findNamespace_eq_ok_iff g.tags _ ns.tag_ne_custom ns.tag_ne_empty
  unfold processKeyGroupOutput
  split
  · rename_i e h
    rw [if_neg fun hin => by rw [← hiff, h] at hin; cases hin]
  · rename_i t h
    rw [h, Except.ok.injEq] at hiff
    rw [if_congr hiff.symm rfl rfl]
    cases ns <;> simp only [Namespace.field, Namespace.tag, apply_ite v1.GetValuesResponse.keys,
      apply_ite v1.GetValuesResponse.renderUrls, apply_ite v1.GetValuesResponse.kvInternal,
      apply_ite v1.GetValuesResponse.adComponentRenderUrls, ite_self]

/-- Over a list of key groups, the field of a namespace goes through `ProcessKeyValues` for the
groups tagged with it, in order, and no other. -/
theorem field_foldl_processKeyGroupOutput (gs : List KeyGroupOutput)
    (v1Response : v1.GetValuesResponse) (ns : Namespace) :
    ns.field (gs.foldl (fun r g => processKeyGroupOutput jsonStringToValue g r) v1Response) =
      (gs.filter fun g => decide (InEitherOrder g.tags kCustomTag ns.tag)).foldl
        (fun s g => processKeyValues jsonStringToValue g s) (ns.field v1Response) := by
  induction gs generalizing v1Response with
  | nil => rfl
  | cons g gs ih =>
    rw [List.foldl_cons, ih, field_processKeyGroupOutput, List.filter_cons]
    split_ifs with h <;> simp_all

theorem nodup_foldl_processKeyValues (gs : List KeyGroupOutput) {s : Struct}
    (h : (s.map Prod.fst).Nodup) :
    ((gs.foldl (fun s g => processKeyValues jsonStringToValue g s) s).map Prod.fst).Nodup := by
  induction gs generalizing s with
  | nil => exact h
  | cons g gs ih => exact ih (nodup_processKeyValues jsonStringToValue h g)

/-- `ProcessKeyValues` with the same group once or more: its keys hold its raw values, and the
other keys what they held before. -/
theorem get?_foldl_processKeyValues_of_eq {g : KeyGroupOutput} {gs : List KeyGroupOutput}
    (hall : ∀ g' ∈ gs, g' = g) (hne : gs ≠ []) (s : Struct) (k : String) :
    (gs.foldl (fun s g => processKeyValues jsonStringToValue g s) s).get? k =
      (g.keyValues.lookup k).elim (s.get? k) fun v => some v.value := by
  induction gs generalizing s with
  | nil => exact absurd rfl hne
  | cons g' gs ih =>
    rw [hall g' (List.mem_cons_self _ _), List.foldl_cons]
    by_cases hgs : gs = []
    · subst hgs
      exact get?_processKeyValues jsonStringToValue g s k
    · rw [ih (fun g'' h => hall g'' (List.mem_cons_of_mem _ h)) hgs, get?_processKeyValues]
      cases g.keyValues.lookup k <;> rfl

end Groups

/-! ## The partition of `BuildV2Request` -/

/-- The strings among a list of values. -/
def stringsOf (values : List Value) : List String :=
  values.filterMap fun
    | .stringValue s => some s
    | _ => none

/-- The string tags of an argument. -/
def tagStrings (arg : UDFArgument) : List String := stringsOf arg.tags

/-- The strings of an argument's data list. -/
def dataStrings (arg : UDFArgument) : List String :=
  match arg.data with
  | .listValue values => stringsOf values
  | _ => []

theorem tagStrings_buildArgument (keys : List String) (t : String) :
    tagStrings (buildArgument keys t) = [kCustomTag, t] := rfl

theorem dataStrings_buildArgument (keys : List String) (t : String) :
    dataStrings (buildArgument keys t) = keys := by
  simp [dataStrings, buildArgument, Value.foldl_addListValue, stringsOf, List.filterMap_map,
    Function.comp_def]

theorem Namespace.exists_iff {p : Namespace → Prop} :
    (∃ ns, p ns) ↔ p .keys ∨ p .renderUrls ∨ p .adComponentRenderUrls ∨ p .kvInternal :=
  ⟨fun ⟨ns, h⟩ => by cases ns <;> simp [h], by rintro (h | h | h | h) <;> exact ⟨_, h⟩⟩

theorem mem_addArgument {keys : List String} {t : String} {arguments : List UDFArgument}
    {arg : UDFArgument} :
    arg ∈ addArgument keys t arguments ↔
      arg ∈ arguments ∨ keys ≠ [] ∧ arg = buildArgument keys t := by
  unfold addArgument
  split_ifs with h
  · simp [List.length_pos.1 h]
  · simp [List.length_pos.not.1 h]

/-- The arguments of the partition of `BuildV2Request`: one per non-empty key list. -/
theorem mem_arguments_buildV2Request {v1Request : v1.GetValuesRequest}
    {partition : v2.RequestPartition} (hP : (buildV2Request v1Request).partitions = [partition])
    {arg : UDFArgument} :
    arg ∈ partition.arguments ↔ ∃ ns : Namespace,
      ns.requestKeys v1Request ≠ [] ∧ arg = buildArgument (ns.requestKeys v1Request) ns.tag := by
  simp only [buildV2Request, List.cons.injEq, and_true] at hP
  rw [← hP, Namespace.exists_iff]
  simp only [mem_addArgument, List.not_mem_nil, false_or, Namespace.requestKeys, Namespace.tag,
    or_assoc]

/-! ## Answers to the partition of `BuildV2Request` -/

/-- A key group answers an argument: it carries the argument's tags, in either order, and its
keys are the strings of the argument's data list. -/
def AnswersArgument (arg : UDFArgument) (g : KeyGroupOutput) : Prop :=
  (g.tags = tagStrings arg ∨ g.tags = (tagStrings arg).reverse) ∧
    ∀ k, k ∈ g.keyValues.map Prod.fst ↔ k ∈ dataStrings arg

/-- A key group under tags that are not `"custom"` and a namespace tag. -/
def IsFurtherGroup (g : KeyGroupOutput) : Prop :=
  ∀ ns : Namespace, ¬ InEitherOrder g.tags kCustomTag ns.tag

/-- The UDF's key groups for a partition: one group for each argument, and further groups under
other tags, in any order. -/
structure AnswersPartition (partition : v2.RequestPartition) (outputs : KeyGroupOutputs) :
    Prop where
  groups : ∀ g ∈ outputs.keyGroupOutputs,
    (∃ arg ∈ partition.arguments, AnswersArgument arg g) ∨ IsFurtherGroup g
  answered : ∀ arg ∈ partition.arguments, ∃ g ∈ outputs.keyGroupOutputs, AnswersArgument arg g
  unique : ∀ arg ∈ partition.arguments, ∀ g ∈ outputs.keyGroupOutputs,
    ∀ g' ∈ outputs.keyGroupOutputs, AnswersArgument arg g → AnswersArgument arg g' → g = g'

section Answers

variable {v1Request : v1.GetValuesRequest} {partition : v2.RequestPartition}
  {outputs : KeyGroupOutputs}

/-- A group tagged with a namespace answers the argument of that namespace, which the request
has. -/
theorem answers_of_inEitherOrder (hP : (buildV2Request v1Request).partitions = [partition])
    (hanswers : AnswersPartition partition outputs) {g : KeyGroupOutput}
    (hg : g ∈ outputs.keyGroupOutputs) {ns : Namespace}
    (htags : InEitherOrder g.tags kCustomTag ns.tag) :
    ns.requestKeys v1Request ≠ [] ∧
      AnswersArgument (buildArgument (ns.requestKeys v1Request) ns.tag) g := by
  rcases hanswers.groups g hg with ⟨arg, harg, hanswer⟩ | hfurther
  · obtain ⟨ns', hne, rfl⟩ := (mem_arguments_buildV2Request hP).1 harg
    have htags' : InEitherOrder g.tags kCustomTag ns'.tag := by
      simpa [tagStrings_buildArgument] using hanswer.1
    obtain rfl := Namespace.eq_of_inEitherOrder htags htags'
    exact ⟨hne, hanswer⟩
  · exact absurd htags (hfurther ns)

/-- `ConvertToV1Response` on a partition with no status whose string output parses: OK, and the
key groups applied in order. -/
theorem convertToV1Response_eq_ok (jsonStringToValue : String → Except Status Value)
    {keyGroupOutputsFromJson : String → Except Status KeyGroupOutputs}
    {responsePartition : v2.ResponsePartition}
    (hstatus : ∀ status, responsePartition.output ≠ .status status)
    (hjson : keyGroupOutputsFromJson responsePartition.stringOutput = .ok outputs)
    (v1Response : v1.GetValuesResponse) :
    convertToV1Response jsonStringToValue keyGroupOutputsFromJson ⟨some responsePartition⟩
        v1Response =
      (okStatus, outputs.keyGroupOutputs.foldl
        (fun v1Response g => processKeyGroupOutput jsonStringToValue g v1Response) v1Response) := by
  simp only [convertToV1Response]
  cases hout : responsePartition.output with
  | status status => exact absurd hout (hstatus status)
  | notSet | stringOutput _ => simp only [hjson]

/-- No group is tagged with a namespace the request has no key of. -/
theorem filter_tagged_eq_nil (hP : (buildV2Request v1Request).partitions = [partition])
    (hanswers : AnswersPartition partition outputs) {ns : Namespace}
    (hne : ns.requestKeys v1Request = []) :
    outputs.keyGroupOutputs.filter (fun g => decide (InEitherOrder g.tags kCustomTag ns.tag)) =
      [] :=
  List.filter_eq_nil_iff.2 fun _ hg htags =>
    (answers_of_inEitherOrder hP hanswers hg (of_decide_eq_true htags)).1 hne

/-- The groups tagged with a namespace the request has keys of: the group that answers its
argument, once or more. -/
theorem filter_tagged_of_ne_nil (hP : (buildV2Request v1Request).partitions = [partition])
    (hanswers : AnswersPartition partition outputs) {ns : Namespace}
    (hne : ns.requestKeys v1Request ≠ []) :
    ∃ g₀, AnswersArgument (buildArgument (ns.requestKeys v1Request) ns.tag) g₀ ∧
      let tagged := outputs.keyGroupOutputs.filter
        fun g => decide (InEitherOrder g.tags kCustomTag ns.tag)
      tagged ≠ [] ∧ ∀ g ∈ tagged, g = g₀ := by
  have harg := (mem_arguments_buildV2Request hP).2 ⟨ns, hne, rfl⟩
  obtain ⟨g₀, hg₀, hanswer₀⟩ := hanswers.answered _ harg
  have htags₀ : InEitherOrder g₀.tags kCustomTag ns.tag := by
    simpa [tagStrings_buildArgument] using hanswer₀.1
  refine ⟨g₀, hanswer₀, List.ne_nil_of_mem (List.mem_filter.2 ⟨hg₀, decide_eq_true htags₀⟩),
    fun g hg => ?_⟩
  rw [List.mem_filter] at hg
  exact hanswers.unique _ harg g hg.1 g₀ hg₀
    (answers_of_inEitherOrder hP hanswers hg.1 (of_decide_eq_true hg.2)).2 hanswer₀

/-- **V1 through V2.** Let `P` be the partition of `BuildV2Request(R)`, and take a V2 response
whose single partition has no status and whose string output parses to key groups: one for each
argument of `P`, and any number of further groups under other tags. Then `ConvertToV1Response`
returns OK, and each namespace of the V1 response has exactly the distinct requested keys of
that namespace, each mapped to the raw value its group returned. -/
theorem convertToV1Response_of_buildV2Request
    (jsonStringToValue : String → Except Status Value)
    (keyGroupOutputsFromJson : String → Except Status KeyGroupOutputs)
    (responsePartition : v2.ResponsePartition)
    (hP : (buildV2Request v1Request).partitions = [partition])
    (hanswers : AnswersPartition partition outputs)
    (hstatus : ∀ status, responsePartition.output ≠ .status status)
    (hjson : keyGroupOutputsFromJson responsePartition.stringOutput = .ok outputs) :
    ∃ v1Response, convertToV1Response jsonStringToValue keyGroupOutputsFromJson
        ⟨some responsePartition⟩ {} = (okStatus, v1Response) ∧
      ∀ ns : Namespace, ((ns.field v1Response).map Prod.fst).Nodup ∧
        (∀ k, k ∈ (ns.field v1Response).map Prod.fst ↔ k ∈ ns.requestKeys v1Request) ∧
        ∀ g ∈ outputs.keyGroupOutputs, InEitherOrder g.tags kCustomTag ns.tag →
          ∀ kv ∈ g.keyValues, (ns.field v1Response).get? kv.1 = some kv.2.value := by
  refine ⟨_, convertToV1Response_eq_ok jsonStringToValue hstatus hjson {}, fun ns => ?_⟩
  have hnil : ns.field {} = [] := by cases ns <;> rfl
  rw [field_foldl_processKeyGroupOutput, hnil]
  refine ⟨nodup_foldl_processKeyValues jsonStringToValue _ List.nodup_nil, ?_⟩
  by_cases hne : ns.requestKeys v1Request = []
  · rw [filter_tagged_eq_nil hP hanswers hne, hne]
    exact ⟨by simp, fun g hg htags =>
      absurd hne (answers_of_inEitherOrder hP hanswers hg htags).1⟩
  · obtain ⟨g₀, hanswer₀, hfne, hall⟩ := filter_tagged_of_ne_nil hP hanswers hne
    have hget := get?_foldl_processKeyValues_of_eq jsonStringToValue hall hfne []
    refine ⟨fun k => ?_, fun g hg htags kv hkv => ?_⟩
    · rw [← not_iff_not, ← Struct.get?_eq_none_iff, hget, ← dataStrings_buildArgument
        (ns.requestKeys v1Request) ns.tag, ← hanswer₀.2, ← lookup_eq_none_iff]
      cases g₀.keyValues.lookup k <;> simp
    · obtain rfl := hall g (List.mem_filter.2 ⟨hg, decide_eq_true htags⟩)
      rw [hget, lookup_of_mem g.nodup hkv]
      rfl

end Answers

/-- A V1 request for the one key `"a"`. -/
def oneKeyRequest : v1.GetValuesRequest := { keys := ["a"] }

/-- The partition `BuildV2Request` makes of `oneKeyRequest`. -/
def oneKeyPartition : v2.RequestPartition := { arguments := [buildArgument ["a"] kKeysTag] }

/-- The UDF's answer: `"a"` maps to the string `"x"`. -/
def oneKeyGroup : KeyGroupOutput :=
  ⟨[kCustomTag, kKeysTag], [("a", ⟨.stringValue "x"⟩)], by simp⟩

def oneKeyOutputs : KeyGroupOutputs := ⟨[oneKeyGroup]⟩

theorem convertToV1Response_oneKeyRequest :
    (buildV2Request oneKeyRequest).partitions = [oneKeyPartition] ∧
      AnswersPartition oneKeyPartition oneKeyOutputs ∧
      ∃ v1Response, convertToV1Response (fun _ => .ok .nullValue) (fun _ => .ok oneKeyOutputs)
          ⟨some { output := .stringOutput "" }⟩ {} = (okStatus, v1Response) ∧
        v1Response.keys.get? "a" = some (.stringValue "x") := by
  have hP : (buildV2Request oneKeyRequest).partitions = [oneKeyPartition] := rfl
  have hanswer : AnswersArgument (buildArgument ["a"] kKeysTag) oneKeyGroup :=
    ⟨.inl rfl, fun k => by simp [dataStrings_buildArgument, oneKeyGroup]⟩
  have hanswers : AnswersPartition oneKeyPartition oneKeyOutputs :=
    { groups := fun g hg => .inl ⟨_, List.mem_singleton_self _, List.mem_singleton.1 hg ▸ hanswer⟩
      answered := fun arg harg =>
        ⟨oneKeyGroup, List.mem_singleton_self _, List.mem_singleton.1 harg ▸ hanswer⟩
      unique := fun _ _ g hg g' hg' _ _ => (List.mem_singleton.1 hg).trans
        (List.mem_singleton.1 hg').symm }
  obtain ⟨v1Response, hconv, hns⟩ := convertToV1Response_of_buildV2Request
    (fun _ => .ok .nullValue) (fun _ => .ok oneKeyOutputs) { output := .stringOutput "" }
    hP hanswers (fun _ h => by cases h) rfl
  exact ⟨hP, hanswers, v1Response, hconv,
    (hns .keys).2.2 oneKeyGroup (List.mem_singleton_self _) (.inl rfl) _
      (List.mem_singleton_self _)⟩

/-- A group that answers the argument of `oneKeyRequest` with its key `"a"`, and also with a key
`"z"` that was not requested. -/
def extraKeyGroup : KeyGroupOutput :=
  ⟨[kCustomTag, kKeysTag], [("a", ⟨.stringValue "x"⟩), ("z", ⟨.stringValue "y"⟩)], by decide⟩

/-- The group of an argument must have exactly the argument's keys. A group that has the
argument's tags and maps every requested key, plus one key more, still converts with OK, and
`ProcessKeyValues` copies the extra key into the V1 response. -/
theorem convertToV1Response_extraKey :
    (buildV2Request oneKeyRequest).partitions = [oneKeyPartition] ∧
      (∀ arg ∈ oneKeyPartition.arguments, extraKeyGroup.tags = tagStrings arg ∧
        ∀ k ∈ dataStrings arg, k ∈ extraKeyGroup.keyValues.map Prod.fst) ∧
      ∃ v1Response, convertToV1Response (fun _ => .ok .nullValue)
          (fun _ => .ok ⟨[extraKeyGroup]⟩) ⟨some { output := .stringOutput "" }⟩ {} =
          (okStatus, v1Response) ∧
        v1Response.keys.get? "z" = some (.stringValue "y") ∧ "z" ∉ oneKeyRequest.keys := by
  refine ⟨rfl, fun arg harg => ?_, _, rfl, rfl, by decide⟩
  rw [List.mem_singleton.1 harg, tagStrings_buildArgument, dataStrings_buildArgument]
  exact ⟨rfl, by decide⟩

end GetValuesAdapter

end KvServer
