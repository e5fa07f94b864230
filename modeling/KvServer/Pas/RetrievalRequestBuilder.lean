import KvServer.Protobuf

/-!
# `BuildRetrievalRequest`

The protected app signals retrieval request
(`public/applications/pas/retrieval_request_builder.cc`): one partition with four untagged
arguments, holding the protected signals, the device metadata, the contextual signals and the
ad ids.

The device metadata and the ad ids are written into their arguments only inside the loops over
them, so an empty map or an empty list leaves that argument's data unset
(`buildRetrievalRequest_eq`, `buildRetrievalRequest_empty`).
-/

namespace KvServer.ApplicationPas

open Protobuf

def kClient : String := "Retrieval.20231018"

/-- An `absl::flat_hash_map<std::string, std::string>`: its entries in iteration order, with
distinct keys. -/
structure FlatHashMap where
  entries : List (String × String)
  nodup : (entries.map Prod.fst).Nodup

/-- `BuildRetrievalRequest`. -/
def buildRetrievalRequest (protectedSignals : String) (deviceMetadata : FlatHashMap)
    (contextualSignals : String) (optionalAdIds : List String) : v2.GetValuesRequest :=
  let protectedSignalsArg : UDFArgument := { data := .stringValue protectedSignals }
  let deviceMetadataArg : UDFArgument :=
    { data := deviceMetadata.entries.foldl
        (fun data entry => data.setStructField entry.1 (.stringValue entry.2)) .kindNotSet }
  let contextualSignalsArg : UDFArgument := { data := .stringValue contextualSignals }
  let adIdArg : UDFArgument :=
    { data := optionalAdIds.foldl (fun data item => data.addListValue (.stringValue item))
        .kindNotSet }
  { clientVersion := kClient
    partitions :=
      [{ arguments := [protectedSignalsArg, deviceMetadataArg, contextualSignalsArg, adIdArg] }] }

/-- Setting fields one after another on a struct value assigns them in its fields. -/
theorem foldl_setStructField_structValue (fields : Struct) (entries : List (String × String)) :
    entries.foldl (fun (data : Value) (entry : String × String) =>
        data.setStructField entry.1 (.stringValue entry.2)) (.structValue fields) =
      .structValue (entries.foldl
        (fun fields entry => mapAssign fields entry.1 (.stringValue entry.2)) fields) := by
  induction entries generalizing fields with
  | nil => rfl
  | cons entry entries ih => exact ih _

/-- Setting fields of distinct new keys appends them in order. -/
theorem foldl_setStructField {fields : Struct} {entries : List (String × String)}
    (hnew : ∀ entry ∈ entries, entry.1 ∉ fields.map Prod.fst)
    (hnodup : (entries.map Prod.fst).Nodup) :
    entries.foldl (fun (data : Value) (entry : String × String) =>
        data.setStructField entry.1 (.stringValue entry.2)) (.structValue fields) =
      .structValue (fields ++ entries.map fun entry => (entry.1, .stringValue entry.2)) := by
  rw [foldl_setStructField_structValue,
    foldl_mapAssign_of_nodup Value.stringValue hnodup fields hnew]

/-- What `BuildRetrievalRequest` builds, for every input. The device metadata argument holds a
struct of the map's entries, and the ad id argument a list of the ids in order; on an empty map
or list, that argument's data kind is not set. -/
theorem buildRetrievalRequest_eq (protectedSignals : String) (deviceMetadata : FlatHashMap)
    (contextualSignals : String) (optionalAdIds : List String) :
    buildRetrievalRequest protectedSignals deviceMetadata contextualSignals optionalAdIds =
      { clientVersion := kClient
        partitions := [{ arguments := [
          { data := .stringValue protectedSignals },
          { data := match deviceMetadata.entries with
              | [] => .kindNotSet
              | entries => .structValue
                  (entries.map fun entry => (entry.1, .stringValue entry.2)) },
          { data := .stringValue contextualSignals },
          { data := match optionalAdIds with
              | [] => .kindNotSet
              | ids => .listValue (ids.map .stringValue) }] }] } := by
  obtain ⟨entries, hnodup⟩ := deviceMetadata
  simp only [buildRetrievalRequest]
  congr
  · cases entries with
    | nil => rfl
    | cons entry entries =>
      rw [List.map_cons, List.nodup_cons] at hnodup
      rw [List.foldl_cons]
      refine (@foldl_setStructField [(entry.1, .stringValue entry.2)] _ ?_ hnodup.2).trans
        rfl
      intro e he hmem
      rw [List.map_singleton, List.mem_singleton] at hmem
      exact hnodup.1 (hmem ▸ List.mem_map_of_mem _ he)
  · cases optionalAdIds with
    | nil => rfl
    | cons item items => exact Value.foldl_addListValue [.stringValue item] items

/-- On an empty device metadata map and an empty ad id list, the second and fourth arguments of
the request carry no data: their data kind is not set. -/
theorem buildRetrievalRequest_empty (protectedSignals contextualSignals : String) :
    buildRetrievalRequest protectedSignals ⟨[], List.nodup_nil⟩ contextualSignals [] =
      { clientVersion := kClient
        partitions := [{ arguments := [
          { data := .stringValue protectedSignals }, { data := .kindNotSet },
          { data := .stringValue contextualSignals }, { data := .kindNotSet }] }] } :=
  rfl

end KvServer.ApplicationPas
