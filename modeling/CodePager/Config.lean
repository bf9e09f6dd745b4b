import CodePager.Json.Value

/-! # Configuration

Where the backend is, how long to wait for it, and what is cached. A configuration is fixed at the
start; `Config.validate` refuses the values with which the cache or the backend could not be
used. -/

namespace CodePager

/-- Where the backend listens and how long a request to it may take. -/
structure BackendConfig where
  host : String
  port : UInt16
  timeoutSecs : UInt64
  deriving DecidableEq

/-- The backend of a decompiler that runs on the same machine. -/
def BackendConfig.default : BackendConfig := ⟨"127.0.0.1", 8656, 60⟩

/-- The address that every route of the backend is below. -/
def BackendConfig.baseUrl (c : BackendConfig) : String :=
  "http://" ++ c.host ++ ":" ++ toString c.port

/-- What is cached: results of at least `threshold` units, at most `maxEntries` of them, in pages of
`defaultPageSize` units unless a caller asks for another size. -/
structure CacheConfig where
  threshold : UInt64
  maxEntries : UInt64
  defaultPageSize : UInt64
  deriving DecidableEq

/-- Results from 200 units on, 64 of them, in pages of 200. -/
def CacheConfig.default : CacheConfig := ⟨200, 64, 200⟩

/-- The whole configuration. -/
structure Config where
  backend : BackendConfig
  cache : CacheConfig
  deriving DecidableEq

/-- The configuration of a bridge that is started without options. -/
def Config.default : Config := ⟨.default, .default⟩

/-- A setting that must not be zero and is. -/
structure ConfigError where
  field : String
  deriving DecidableEq

/-- The wording of a refused configuration. -/
def ConfigError.message (e : ConfigError) : String :=
  "invalid configuration: " ++ e.field ++ " must be at least 1"

/-- The settings that must not be zero, in the order in which they are checked. -/
def Config.counts (c : Config) : List (String × Nat) :=
  [("port", c.backend.port.toNat), ("timeout_secs", c.backend.timeoutSecs.toNat),
   ("cache_threshold", c.cache.threshold.toNat), ("cache_capacity", c.cache.maxEntries.toNat),
   ("page_size", c.cache.defaultPageSize.toNat)]

/-- Accepts a configuration **without a zero**, and names the first one of any other. -/
def Config.validate (c : Config) : Except ConfigError Config :=
  match c.counts.find? fun setting => setting.2 == 0 with
  | some setting => .error ⟨setting.1⟩
  | none => .ok c

/-- A configuration as a value. -/
def Config.toJson (c : Config) : Json :=
  .obj
    [("backend", .obj
        [("host", .str c.backend.host), ("port", .ofNat c.backend.port.toNat),
         ("timeout_secs", .ofNat c.backend.timeoutSecs.toNat)]),
     ("cache", .obj
        [("threshold", .ofNat c.cache.threshold.toNat),
         ("max_entries", .ofNat c.cache.maxEntries.toNat),
         ("default_page_size", .ofNat c.cache.defaultPageSize.toNat)])]

end CodePager
