import Mathlib.Data.List.Basic

/-!
# Protocol buffer messages

The messages the modelled code builds and reads, as plain data. `google.protobuf.Value` is a
tree. A `Struct` is its `fields` map, kept as a list of pairs. A message field left unset reads as
its default: a `Value` whose `kind` is not set, an empty list, an empty map.

Serialization to the wire is not modelled. The modelled code compares messages, or hands them
to a serializer that is a parameter of the function that calls it.

`mapAssign` is `m[key] = value` on a map with string keys (a protobuf map field such as the
fields of a `Struct`, a `std::map`): it replaces the entry of `key` or adds one.
`lookup_mapAssign` says what a key reads after it, and `foldl_mapAssign_of_nodup` that
assigning the entries of a list with distinct keys, one after another, into an empty map builds
that list.
-/

namespace KvServer

/-- `m[key] = value`: replaces the entry of `key`, or adds one at the end. -/
def mapAssign {α : Type} : List (String × α) → String → α → List (String × α)
  | [], key, value => [(key, value)]
  | (k, v) :: rest, key, value =>
    if k = key then (key, value) :: rest else (k, v) :: mapAssign rest key value

section MapAssign

variable {α : Type}

@[simp] theorem lookup_cons_ite (k k' : String) (v : α) (rest : List (String × α)) :
    ((k', v) :: rest).lookup k = if k = k' then some v else rest.lookup k := by
  by_cases h : k = k'
  · subst h
    simp
  · rw [List.lookup_cons, show (k == k') = false by simpa using h, if_neg h]

theorem lookup_mapAssign (m : List (String × α)) (key k : String) (value : α) :
    (mapAssign m key value).lookup k = if k = key then some value else m.lookup k := by
  induction m with
  | nil => simp [mapAssign]
  | cons p rest ih =>
    obtain ⟨k', v'⟩ := p
    by_cases hk : k' = key
    · subst hk
      by_cases h : k = k' <;> simp [mapAssign, h]
    · by_cases h : k = k'
      · subst h
        simp [mapAssign, hk]
      · simp [mapAssign, hk, h, ih]

theorem mapAssign_of_not_mem {m : List (String × α)} {key : String} (h : key ∉ m.map Prod.fst)
    (value : α) : mapAssign m key value = m ++ [(key, value)] := by
  induction m with
  | nil => rfl
  | cons p rest ih =>
    rw [List.map_cons, List.mem_cons, not_or] at h
    simp only [mapAssign, if_neg (Ne.symm h.1), ih h.2, List.cons_append]

/-- Assigning entries of distinct keys, in order, appends them. -/
theorem foldl_mapAssign_of_nodup {β : Type} (f : β → α) {kvs : List (String × β)}
    (hnodup : (kvs.map Prod.fst).Nodup) (m : List (String × α))
    (hnew : ∀ kv ∈ kvs, kv.1 ∉ m.map Prod.fst) :
    kvs.foldl (fun m kv => mapAssign m kv.1 (f kv.2)) m =
      m ++ kvs.map fun kv => (kv.1, f kv.2) := by
  induction kvs generalizing m with
  | nil => simp
  | cons kv kvs ih =>
    rw [List.map_cons, List.nodup_cons] at hnodup
    rw [List.foldl_cons, mapAssign_of_not_mem (hnew kv (List.mem_cons_self _ _)), ih hnodup.2]
    · simp
    · intro kv' hkv' hmem
      rw [List.map_append, List.mem_append] at hmem
      rcases hmem with hmem | hmem
      · exact hnew kv' (List.mem_cons_of_mem _ hkv') hmem
      · rw [List.map_singleton, List.mem_singleton] at hmem
        exact hnodup.1 (hmem ▸ List.mem_map_of_mem _ hkv')

theorem lookup_eq_none_iff (m : List (String × α)) (k : String) :
    m.lookup k = none ↔ k ∉ m.map Prod.fst := by
  induction m with
  | nil => simp
  | cons p rest ih =>
    obtain ⟨k', v⟩ := p
    by_cases h : k = k' <;> simp [h, ih]

theorem lookup_of_mem {m : List (String × α)} (h : (m.map Prod.fst).Nodup) {kv : String × α}
    (hmem : kv ∈ m) : m.lookup kv.1 = some kv.2 := by
  induction m with
  | nil => cases hmem
  | cons kv' rest ih =>
    rw [List.map_cons, List.nodup_cons] at h
    obtain ⟨k', v'⟩ := kv'
    rcases List.mem_cons.1 hmem with rfl | hmem
    · simp
    · have hk : kv.1 ≠ k' := fun hk => h.1 (List.mem_map.2 ⟨kv, hmem, hk⟩)
      rw [lookup_cons_ite, if_neg hk]
      exact ih h.2 hmem

theorem nodup_mapAssign {m : List (String × α)} (h : (m.map Prod.fst).Nodup) (key : String)
    (value : α) : ((mapAssign m key value).map Prod.fst).Nodup := by
  induction m with
  | nil => simp [mapAssign]
  | cons p rest ih =>
    rw [List.map_cons, List.nodup_cons] at h
    by_cases hk : p.1 = key
    · simpa [mapAssign, hk] using h
    · have hmem : p.1 ∉ (mapAssign rest key value).map Prod.fst := by
        rw [← lookup_eq_none_iff, lookup_mapAssign, if_neg hk, lookup_eq_none_iff]
        exact h.1
      simp only [mapAssign, if_neg hk, List.map_cons, List.nodup_cons]
      exact ⟨hmem, ih h.2⟩

end MapAssign

namespace Protobuf

/-- `google.protobuf.Value`. `kindNotSet` is a value whose `kind` oneof is unset, such as the
default value of an unset `data` field. -/
inductive Value where
  | kindNotSet
  | nullValue
  | numberValue (n : Float)
  | stringValue (s : String)
  | boolValue (b : Bool)
  | structValue (fields : List (String × Value))
  | listValue (values : List Value)
  deriving Repr, Inhabited

/-- `google.protobuf.Struct`: the `fields` map. -/
abbrev Struct := List (String × Value)

namespace Struct

/-- `mutable_fields()[key] = value`. -/
def set (fields : Struct) (key : String) (value : Value) : Struct := mapAssign fields key value

/-- `fields().find(key)`. -/
def get? (fields : Struct) (key : String) : Option Value := fields.lookup key

@[simp] theorem get?_nil (key : String) : get? [] key = none := rfl

theorem get?_set (fields : Struct) (key k : String) (value : Value) :
    (set fields key value).get? k = if key = k then some value else fields.get? k :=
  (lookup_mapAssign fields key k value).trans (if_congr eq_comm rfl rfl)

theorem get?_eq_none_iff (fields : Struct) (k : String) :
    fields.get? k = none ↔ k ∉ fields.map Prod.fst :=
  lookup_eq_none_iff fields k

theorem nodup_set {fields : Struct} (h : (fields.map Prod.fst).Nodup) (key : String)
    (value : Value) : ((set fields key value).map Prod.fst).Nodup :=
  nodup_mapAssign h key value

/-- A loop over a map with distinct keys whose every step sets its own key, to a value taken
from the entry: afterwards each key of the map holds its value, and every other key what it held
before. -/
theorem get?_foldl {β : Type} (f : Struct → String × β → Struct) (val : β → Value)
    (hf : ∀ fields kv k, (f fields kv).get? k = if kv.1 = k then some (val kv.2) else fields.get? k)
    {kvs : List (String × β)} (hnodup : (kvs.map Prod.fst).Nodup) (fields : Struct)
    (k : String) :
    (kvs.foldl f fields).get? k = (kvs.lookup k).elim (fields.get? k) fun v => some (val v) := by
  induction kvs generalizing fields with
  | nil => rfl
  | cons kv kvs ih =>
    rw [List.map_cons, List.nodup_cons] at hnodup
    rw [List.foldl_cons, ih hnodup.2, hf]
    obtain ⟨k', v⟩ := kv
    by_cases hk : k' = k
    · subst hk
      rw [(lookup_eq_none_iff _ _).2 hnodup.1]
      simp
    · simp [hk, Ne.symm hk]

end Struct

namespace Value

/-- `mutable_struct_value()->mutable_fields()[key] = field`: the value becomes a struct (an
empty one if it held another kind), with `field` at `key`. -/
def setStructField (value : Value) (key : String) (field : Value) : Value :=
  match value with
  | .structValue fields => .structValue (Struct.set fields key field)
  | _ => .structValue (Struct.set [] key field)

/-- `mutable_list_value()->add_values()` set to `item`: the value becomes a list (an empty one if
it held another kind), with `item` at its end. -/
def addListValue (value : Value) (item : Value) : Value :=
  match value with
  | .listValue values => .listValue (values ++ [item])
  | _ => .listValue [item]

/-- Adding strings one after another to a list value appends them in order. -/
theorem foldl_addListValue (values : List Value) (items : List String) :
    items.foldl (fun (data : Value) item => data.addListValue (.stringValue item))
        (.listValue values) =
      .listValue (values ++ items.map .stringValue) := by
  induction items generalizing values with
  | nil => simp
  | cons item items ih =>
    rw [List.foldl_cons, show (Value.listValue values).addListValue (.stringValue item) =
      .listValue (values ++ [.stringValue item]) from rfl, ih]
    simp

end Value

end Protobuf

open Protobuf

/-- `UDFArgument`: a tag list (a `google.protobuf.ListValue`) and the data. -/
structure UDFArgument where
  tags : List Value := []
  data : Value := .kindNotSet
  deriving Repr, Inhabited

/-- `UDFExecutionMetadata`. -/
structure UDFExecutionMetadata where
  requestMetadata : Struct := []
  udfInterfaceVersion : Int := 0
  deriving Repr

namespace v2

/-- `v2::RequestPartition`. -/
structure RequestPartition where
  id : Int := 0
  compressionGroupId : Int := 0
  arguments : List UDFArgument := []
  deriving Repr, Inhabited

/-- `v2::GetValuesRequest`. -/
structure GetValuesRequest where
  clientVersion : String := ""
  metadata : Struct := []
  partitions : List RequestPartition := []
  deriving Repr

end v2

end KvServer
