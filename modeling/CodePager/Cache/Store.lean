import CodePager.Cache.Page
import CodePager.Config

/-! # The page cache

The table of cached results and the slot for the last method source. Results are stored when they
have enough units; the oldest are evicted when there are too many. `entries` is the table, `order`
lists the same results by the time of their storing, and the counters tell what has happened.
`CacheOp` names the operations, each of which is one indivisible step, and `CacheOp.run` says what
they do. -/

namespace CodePager

/-- The state of the cache. -/
structure PageCache where
  config : CacheConfig
  /-- The cached results by the text of their key. -/
  entries : List (String × Entry)
  /-- The keys by the number of their storing, the oldest first. -/
  order : List (Nat × String)
  /-- The most recently fetched method source. -/
  lastMethodSource : Option Entry
  /-- The last number given to a stored result. -/
  lastSeq : Nat
  hits : Nat
  misses : Nat
  evictions : Nat
  invalidations : Nat
  /-- The present time, for the results that are stored now. -/
  now : String

/-- What storing a result comes to: it is cached, or it is too small and handed back. -/
inductive Stored where
  | cached (entry : Entry)
  | inline (units : Units)

/-- What the cache tells about itself. -/
structure CacheStats where
  entries : Nat
  capacity : Nat
  threshold : Nat
  defaultPageSize : Nat
  hits : Nat
  misses : Nat
  evictions : Nat
  invalidations : Nat
  /-- The cached results, the oldest first. -/
  live : List Entry
  lastMethodSource : Option Entry

/-- The statistics as clients see them. -/
def CacheStats.toJson (s : CacheStats) : Json :=
  .obj
    [("entries", .ofNat s.entries), ("capacity", .ofNat s.capacity),
     ("threshold", .ofNat s.threshold), ("default_page_size", .ofNat s.defaultPageSize),
     ("hits", .ofNat s.hits), ("misses", .ofNat s.misses), ("evictions", .ofNat s.evictions),
     ("invalidations", .ofNat s.invalidations), ("live", .arr (s.live.map Entry.summary)),
     ("slots", .obj (s.lastMethodSource.toList.map fun e => ("last_method_source", e.summary)))]

/-- Page numbers and sizes start at one. -/
def validatePage (index size : UInt64) : Except Failure Unit :=
  if index < 1 then .error (.invalidArgument "page_index must be at least 1")
  else if size < 1 then .error (.invalidArgument "page_size must be at least 1")
  else .ok ()

namespace PageCache

/-- A cache in which nothing has happened yet. -/
def empty (config : CacheConfig) (now : String) : PageCache :=
  { config := config
    entries := []
    order := []
    lastMethodSource := none
    lastSeq := 0
    hits := 0
    misses := 0
    evictions := 0
    invalidations := 0
    now := now }

/-- Counts a search that found something or not. -/
def count (c : PageCache) (found : Bool) : PageCache :=
  if found then { c with hits := c.hits + 1 } else { c with misses := c.misses + 1 }

/-- The cached result under a key. -/
def get? (c : PageCache) (key : String) : Option Entry := Fields.get? key c.entries

/-- Takes the result under a key out of the table and of the order. -/
def remove (c : PageCache) (key : String) : PageCache :=
  match c.get? key with
  | none => c
  | some e =>
    { c with
      entries := Fields.erase key c.entries
      order := c.order.filter fun o => o.1 ≠ e.createdAt }

/-- Evicts the oldest results, which `order` names, until at most `capacity` are left. -/
def evictOldest (capacity : Nat) :
    List (Nat × String) → List (String × Entry) → Nat →
      List (Nat × String) × List (String × Entry) × Nat
  | [], entries, evicted => ([], entries, evicted)
  | oldest :: order, entries, evicted =>
    if entries.length > capacity then
      evictOldest capacity order (Fields.erase oldest.2 entries) (evicted + 1)
    else (oldest :: order, entries, evicted)

/-- Evicts what is beyond the capacity. -/
def trim (c : PageCache) : PageCache :=
  let (order, entries, evictions) :=
    evictOldest c.config.maxEntries.toNat c.order c.entries c.evictions
  { c with order := order, entries := entries, evictions := evictions }

/-- A result that is stored now. -/
def newEntry (c : PageCache) (key : CacheKey) (units : Units) : Entry :=
  { key := key, units := units, createdAt := c.lastSeq + 1, cachedAt := c.now }

/-- Puts a result into the table, as the youngest. -/
def insert (c : PageCache) (e : Entry) : PageCache :=
  { c with
    entries := Fields.put e.key.text e c.entries
    order := c.order ++ [(e.createdAt, e.key.text)]
    lastSeq := e.createdAt }

/-- Stores a result of at least `threshold` units **in the place of the one under its key**, and
evicts what is beyond the capacity. A smaller result is handed back and nothing changes. -/
def storeIfLarge (c : PageCache) (key : CacheKey) (units : Units) (threshold : UInt64) :
    Stored × PageCache :=
  if units.length < threshold.toNat then (.inline units, c)
  else
    let e := c.newEntry key units
    (.cached e, ((c.remove key.text).insert e).trim)

/-- Looks for the result under a key. -/
def lookup (c : PageCache) (key : String) : Option Entry × PageCache :=
  let found := c.get? key
  (found, c.count found.isSome)

/-- A page of the result under a key. -/
def getPage (c : PageCache) (key : String) (index size : UInt64) :
    Except Failure Page × PageCache :=
  match validatePage index size with
  | .error e => (.error e, c)
  | .ok () =>
    let (found, c) := c.lookup key
    match found with
    | some e => (.ok (e.page index size), c)
    | none => (.error (.notFound ("no cached entry for key '" ++ key ++ "'")), c)

/-- Drops the result under a key and tells whether there was one. -/
def invalidate (c : PageCache) (key : String) : Bool × PageCache :=
  match c.get? key with
  | none => (false, c)
  | some _ =>
    let c := c.remove key
    (true, { c with invalidations := c.invalidations + 1 })

/-- Drops every result and the last method source, and tells how many that were. -/
def clear (c : PageCache) : Nat × PageCache :=
  let removed := c.entries.length + c.lastMethodSource.toList.length
  (removed,
    { c with
      entries := []
      order := []
      lastMethodSource := none
      invalidations := c.invalidations + removed })

/-- Keeps a method source, of whatever size, as the last one, and tells its number of units. -/
def remember (c : PageCache) (key : CacheKey) (units : Units) : Nat × PageCache :=
  let e := c.newEntry key units
  (units.length, { c with lastMethodSource := some e, lastSeq := e.createdAt })

/-- Forgets the last method source and tells whether there was one. -/
def forget (c : PageCache) : Bool × PageCache :=
  (c.lastMethodSource.isSome, { c with lastMethodSource := none })

/-- A page of the last method source. -/
def slotPage (c : PageCache) (index size : UInt64) : Except Failure Page × PageCache :=
  match validatePage index size with
  | .error e => (.error e, c)
  | .ok () =>
    let c := c.count c.lastMethodSource.isSome
    match c.lastMethodSource with
    | some e => (.ok (e.page index size), c)
    | none => (.error (.notFound "no method source has been fetched yet"), c)

/-- What the cache tells about itself. -/
def stats (c : PageCache) : CacheStats :=
  { entries := c.entries.length
    capacity := c.config.maxEntries.toNat
    threshold := c.config.threshold.toNat
    defaultPageSize := c.config.defaultPageSize.toNat
    hits := c.hits
    misses := c.misses
    evictions := c.evictions
    invalidations := c.invalidations
    live := (c.entries.map Prod.snd).mergeSort fun a b => a.createdAt ≤ b.createdAt
    lastMethodSource := c.lastMethodSource }

end PageCache

/-! ### Operations as data -/

/-- An operation on the cache. -/
inductive CacheOp where
  | store (key : CacheKey) (units : Units) (threshold : UInt64)
  | lookup (key : String)
  | getPage (key : String) (index size : UInt64)
  | invalidate (key : String)
  | clear
  | remember (key : CacheKey) (units : Units)
  | forget
  | slotPage (index size : UInt64)
  | stats

namespace CacheOp

/-- What an operation tells. -/
def Result : CacheOp → Type
  | .store _ _ _ => Stored
  | .lookup _ => Option Entry
  | .getPage _ _ _ => Except Failure Page
  | .invalidate _ => Bool
  | .clear => Nat
  | .remember _ _ => Nat
  | .forget => Bool
  | .slotPage _ _ => Except Failure Page
  | .stats => CacheStats

/-- **What an operation does** to the cache, and what it tells. -/
def run : (op : CacheOp) → PageCache → op.Result × PageCache
  | .store key units threshold, c => c.storeIfLarge key units threshold
  | .lookup key, c => c.lookup key
  | .getPage key index size, c => c.getPage key index size
  | .invalidate key, c => c.invalidate key
  | .clear, c => c.clear
  | .remember key units, c => c.remember key units
  | .forget, c => c.forget
  | .slotPage index size, c => c.slotPage index size
  | .stats, c => (c.stats, c)

end CacheOp

end CodePager
