import CodePager.Backend.Route
import CodePager.Backend.Target

/-! # Cache keys

The name under which a result is cached: the path of its route and the parts that identify what was
asked for, joined by colons. -/

namespace CodePager

/-- The name of a cached result. -/
structure CacheKey where
  text : String
  deriving DecidableEq

namespace CacheKey

/-- The key of a route that needs no identification. -/
def ofRoute (route : Route) : CacheKey := ⟨route.path⟩

/-- A key with one more part. -/
def part (key : CacheKey) (text : String) : CacheKey := ⟨key.text ++ ":" ++ text⟩

/-- A key with more parts, in their order. -/
def parts (key : CacheKey) (texts : List String) : CacheKey := texts.foldl part key

/-- A key for a class. -/
def ofClass (key : CacheKey) (owner : Resolved) : CacheKey := key.part owner.keyToken

/-- The key of a route that is asked about a member of a class. -/
def ofMember (route : Route) (member : ResolvedMember) : CacheKey :=
  (ofRoute route).parts member.keyTokens

end CacheKey

end CodePager
