import KvServer.Protobuf

/-!
# JSON values

The `nlohmann::json` values the getValues hook builds and reads. A JSON text is represented by
the tree it is the dump of: `dump()` is not modelled, and `parse` is a parameter of the code that
calls it. An object is its member list, a `std::map` assigned with `mapAssign` and read through
`get?`, so member order never matters.
-/

namespace KvServer

/-- A `nlohmann::json` value. -/
inductive Json where
  | null
  | boolean (b : Bool)
  | number (n : Int)
  | string (s : String)
  | array (items : List Json)
  | object (members : List (String × Json))
  deriving Repr, Inhabited

namespace Json

/-- `j.find(key)`: the member of an object. -/
def get? : Json → String → Option Json
  | object members, key => members.lookup key
  | _, _ => none

/-- `j[key] = value`. A `null` value first becomes an empty object; on any other kind that is
not an object `operator[]` throws a `type_error` (`none`). -/
def set (j : Json) (key : String) (value : Json) : Option Json :=
  match j with
  | null => some (object [(key, value)])
  | object members => some (object (mapAssign members key value))
  | _ => none

/-- `j[key][key'] = value`: `j[key]` is the member of `key`, or a new `null` member. -/
def setIn (j : Json) (key key' : String) (value : Json) : Option Json := do
  let member ← ((j.get? key).getD null).set key' value
  j.set key member

@[simp] theorem get?_object (members : List (String × Json)) (key : String) :
    (object members).get? key = members.lookup key := rfl

end Json

end KvServer
