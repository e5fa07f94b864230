import KvServer.Udf.GetValuesHook

/-!
# Server initialization

`GetServerInitializer` (`components/data_server/server/server_initializer.cc`) picks the
initializer of a server from its shard count, and `InitializeUdfHooks` finishes the UDF's
getValues hooks with the lookup that server serves from: a local lookup on the cache for a single
shard, and a sharded lookup over the shard manager for more.

The lookups (`CreateLocalLookup`, `CreateShardedLookup`), the shard manager and the cluster
mappings manager are not in the sources and are parameters. `TraceRetryUntilOk` retries
`ShardManager::Create` until it succeeds, so `CreateShardManager` only fails when
`ClusterMappingsManager::Start` does. The `runQuery` hook is not in the sources, and the remote
lookup server is not modelled.

* `initializeUdfHooks_getServerInitializer`: for every positive shard count, the calls a UDF makes
  after startup answer with the local lookup for one shard, and with the sharded lookup over the
  started shard manager for more. If the cluster mappings manager did not start,
  `InitializeUdfHooks` returns its error and every call answers "getValues has not been
  initialized yet".
-/

namespace KvServer

open Absl GetValuesHook

/-- The getValues hooks `InitializeUdfHooks` finishes. -/
structure UdfHooks where
  stringGetValuesHook : GetValuesHookImpl
  binaryGetValuesHook : GetValuesHookImpl

namespace UdfHooks

/-- The hooks as the server creates them, before it initializes them. -/
def create : UdfHooks := ⟨GetValuesHook.create .kString, GetValuesHook.create .kBinary⟩

/-- The hook of an output type. -/
def hook (hooks : UdfHooks) : OutputType → GetValuesHookImpl
  | .kString => hooks.stringGetValuesHook
  | .kBinary => hooks.binaryGetValuesHook

theorem hook_create (outputType : OutputType) :
    create.hook outputType = GetValuesHook.create outputType := by
  cases outputType <;> rfl

end UdfHooks

/-- `InitializeUdfHooksInternal`: each hook gets a lookup from the supplier. -/
def initializeUdfHooksInternal (getLookup : Lookup) (hooks : UdfHooks) : Status × UdfHooks :=
  (okStatus, ⟨hooks.stringGetValuesHook.finishInit getLookup,
    hooks.binaryGetValuesHook.finishInit getLookup⟩)

theorem hook_initializeUdfHooksInternal (getLookup : Lookup) (hooks : UdfHooks)
    (outputType : OutputType) :
    (initializeUdfHooksInternal getLookup hooks).2.hook outputType =
      (hooks.hook outputType).finishInit getLookup := by
  cases outputType <;> rfl

/-- The initializers `GetServerInitializer` returns. -/
inductive ServerInitializer where
  | nonsharded
  | sharded

/-- `GetServerInitializer`; `none` when `CHECK_GT(num_shards, 0)` aborts. -/
def getServerInitializer (numShards : Int) : Option ServerInitializer :=
  if numShards ≤ 0 then none
  else if numShards = 1 then some .nonsharded
  else some .sharded

namespace ServerInitializer

variable {σ : Type}

/-- `ShardedServerInitializer::CreateShardManager`: the shard manager `TraceRetryUntilOk` created,
once `ClusterMappingsManager::Start` has started with it. -/
def createShardManager (shardManager : σ) (startStatus : Status) : Except Status σ :=
  if startStatus.ok then .ok shardManager else .error startStatus

/-- `InitializeUdfHooks`: its result (the shard manager of a sharded server, in its
`ShardManagerState`) and the hooks after it. -/
def initializeUdfHooks (localLookup : Lookup) (shardManager : Except Status σ)
    (shardedLookup : σ → Lookup) :
    ServerInitializer → UdfHooks → Except Status (Option σ) × UdfHooks
  | .nonsharded, hooks => (.ok none, (initializeUdfHooksInternal localLookup hooks).2)
  | .sharded, hooks =>
    match shardManager with
    | .error status => (.error status, hooks)
    | .ok shardManager =>
      (.ok (some shardManager), (initializeUdfHooksInternal (shardedLookup shardManager) hooks).2)

end ServerInitializer

section Startup

variable {σ : Type} (messageToJsonString : InternalLookupResponse → Except Status String)
  (parse : String → Option Json)

/-- For every positive shard count, the calls a UDF makes on either getValues hook
after `InitializeUdfHooks` answer with the local lookup when there is one shard. When there are
more, they answer with the sharded lookup over the shard manager if the cluster mappings manager
started with it. If it did not, `InitializeUdfHooks` returns its error and every call answers
"getValues has not been initialized yet". -/
theorem initializeUdfHooks_getServerInitializer {numShards : Int} (hshards : 0 < numShards)
    (localLookup : Lookup) (shardManager : σ) (startStatus : Status) (shardedLookup : σ → Lookup)
    (outputType : OutputType) (inputs : List Input) :
    ∃ initializer, getServerInitializer numShards = some initializer ∧
      let startup := initializer.initializeUdfHooks localLookup
        (ServerInitializer.createShardManager shardManager startStatus) shardedLookup
        UdfHooks.create
      let calls := ((startup.2.hook outputType).run messageToJsonString parse
        (inputs.map .call)).2
      if numShards = 1 then
        startup.1 = .ok none ∧
          calls = inputs.map (((create outputType).finishInit localLookup).call
            messageToJsonString parse)
      else if startStatus.ok then
        startup.1 = .ok (some shardManager) ∧
          calls = inputs.map (((create outputType).finishInit (shardedLookup shardManager)).call
            messageToJsonString parse)
      else
        startup.1 = .error startStatus ∧
          calls = inputs.map fun _ => ⟨[], setStatus outputType StatusCode.kInternal
            "getValues has not been initialized yet"⟩ := by
  simp only [getServerInitializer, not_le.2 hshards, if_false]
  split_ifs with hone hstart <;> refine ⟨_, rfl, ?_⟩
  · simp [ServerInitializer.initializeUdfHooks, GetValuesHookImpl.run_calls,
      hook_initializeUdfHooksInternal, UdfHooks.hook_create]
  · simp [ServerInitializer.initializeUdfHooks, ServerInitializer.createShardManager, hstart,
      GetValuesHookImpl.run_calls, hook_initializeUdfHooksInternal, UdfHooks.hook_create]
  · simp only [ServerInitializer.initializeUdfHooks, ServerInitializer.createShardManager, hstart,
      Bool.false_eq_true, ↓reduceIte, GetValuesHookImpl.run_calls, UdfHooks.hook_create, true_and]
    rfl

end Startup

end KvServer
