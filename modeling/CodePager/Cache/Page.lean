import CodePager.Cache.Key
import CodePager.Cache.Units

/-! # Pages

A cached result and its pages. Page numbers start at one; a page is computed in 64-bit arithmetic
that stops at the largest word instead of wrapping (`Saturating`), so every number and size that a
caller can give has a page, empty if it lies behind the end. -/

namespace CodePager

namespace Saturating

/-- The largest 64-bit word. -/
def top : UInt64 := 0xFFFFFFFFFFFFFFFF

/-- Subtraction that stops at zero. -/
def sub (a b : UInt64) : UInt64 := if a < b then 0 else a - b

/-- Addition that stops at the largest word. -/
def add (a b : UInt64) : UInt64 := if a.toNat + b.toNat ≤ maxCount then a + b else top

/-- Multiplication that stops at the largest word. -/
def mul (a b : UInt64) : UInt64 := if a.toNat * b.toNat ≤ maxCount then a * b else top

end Saturating

/-- A page of a cached result. The bounds, counted from one and both included, are absent when the
page is empty. -/
structure Page where
  key : CacheKey
  index : UInt64
  size : UInt64
  totalPages : Nat
  totalUnits : Nat
  startUnit : Option Nat
  endUnit : Option Nat
  hasMore : Bool
  kind : UnitKind
  content : Content

/-- The fields of a page as clients see them. -/
def Page.fields (p : Page) : List (String × Json) :=
  [("cache_key", .str p.key.text), ("current_page", .ofNat p.index.toNat),
   ("page_size", .ofNat p.size.toNat), ("total_pages", .ofNat p.totalPages),
   ("total_units", .ofNat p.totalUnits)] ++
  (p.startUnit.toList.map fun n => ("start_unit", .ofNat n)) ++
  (p.endUnit.toList.map fun n => ("end_unit", .ofNat n)) ++
  [("has_more", .bool p.hasMore), ("unit", .str p.kind.name), ("content", p.content.toJson)]

/-- A cached result: it is replaced as a whole and never changed. `createdAt` orders the results by
the time of their storing, `cachedAt` is that time for people. -/
structure Entry where
  key : CacheKey
  units : Units
  createdAt : Nat
  cachedAt : String

namespace Entry

/-- The number of units. -/
def totalUnits (e : Entry) : Nat := e.units.length

/-- **Page `index`** of pages of `size` units. Both are at least one. -/
def page (e : Entry) (index size : UInt64) : Page :=
  let total := UInt64.ofNat e.totalUnits
  let start := min (Saturating.mul (Saturating.sub index 1) size) total
  let stop := min (Saturating.add start size) total
  { key := e.key
    index := index
    size := size
    totalPages := e.totalUnits / size.toNat + (if e.totalUnits % size.toNat > 0 then 1 else 0)
    totalUnits := e.totalUnits
    startUnit := if start < stop then some (start.toNat + 1) else none
    endUnit := if start < stop then some stop.toNat else none
    hasMore := stop < total
    kind := e.units.kind
    content := e.units.slice start.toNat stop.toNat }

/-- What the statistics tell about a cached result. -/
def summary (e : Entry) : Json :=
  .obj
    [("key", .str e.key.text), ("unit", .str e.units.kind.name),
     ("total_units", .ofNat e.totalUnits), ("cached_at", .str e.cachedAt)]

end Entry

end CodePager
