import CodePager.Service.Gateway
import CodePager.Service.PageRequest
import CodePager.Service.ReadResult

/-! # Reading

The reads of the bridge. A later page is served from the cache while its result is there; the first
page, a refresh and everything else fetch the whole result once, keep it if it is large, and give
the page that was asked for. Method sources are also kept as the last method source, whatever their
size. -/

namespace CodePager

/-- The bridge: where its backend is and how it caches. -/
structure Service where
  config : Config

namespace Service

/-- The size of pages that a caller did not choose. -/
def defaultPageSize (s : Service) : UInt64 := s.config.cache.defaultPageSize

/-- A page from the cache, unless a fresh one is wanted or nothing is cached under the key. -/
def cachedPageFor? (s : Service) (key : CacheKey) (r : PageRequest) : Attempt (Option Page) :=
  if r.wantsFresh then pure none
  else do
    let found ← Attempt.onCache (.lookup key.text)
    pure (found.map fun e : Entry => e.page r.number (r.sizeOr s.defaultPageSize))

/-- Stores units and gives the page that was asked for, or all of them if they are few. -/
def store (s : Service) (key : CacheKey) (units : Units) (r : PageRequest) :
    Attempt ReadOutcome := do
  let stored : Stored ← Attempt.onCache (.store key units s.config.cache.threshold)
  match stored with
  | .cached e => pure (.paged (e.page r.number (r.sizeOr s.defaultPageSize)))
  | .inline units => pure (.inline (some (units.length, units.kind)) units.content.toJson)

/-- A **paged read**: from the cache if possible, else fetched and stored. -/
def paged (s : Service) (route : Route) (params : Params) (key : CacheKey) (r : PageRequest)
    (foundBy : Option Json) : Attempt ReadResult := do
  match ← s.cachedPageFor? key r with
  | some page => pure ⟨.paged page, foundBy⟩
  | none =>
    let payload ← Gateway.fetchAll s.config.backend route params
    let outcome ←
      match payload.shape with
      | .text text => s.store key (.ofText text) r
      | .records items => s.store key (.records items) r
      | .inline v => pure (.inline none v)
    pure ⟨outcome, foundBy⟩

/-- Reads a route that needs no identification. -/
def read (s : Service) (route : Route) (r : PageRequest) : Attempt ReadResult :=
  s.paged route .empty (.ofRoute route) r none

/-- Reads something of a class. -/
def readClass (s : Service) (route : Route) (target : ClassTarget) (r : PageRequest) :
    Attempt ReadResult := do
  let owner ← Attempt.ofExcept target.require
  s.paged route target.params ((CacheKey.ofRoute route).ofClass owner) r (some owner.foundByClass)

/-- Reads something of a method. -/
def readMethod (s : Service) (route : Route) (target : MethodTarget) (r : PageRequest) :
    Attempt ReadResult := do
  let member ← Attempt.ofExcept target.require
  s.paged route target.params (.ofMember route member) r (some member.foundByMember)

/-- Reads the source of a method. Each source that is fetched becomes **the last method source**; a
result without units leaves none. -/
def methodSource (s : Service) (target : MethodTarget) (r : PageRequest) : Attempt ReadResult := do
  let member ← Attempt.ofExcept target.require
  let key := CacheKey.ofMember .methodSource member
  let foundBy := some member.foundByMember
  let keep := fun (units : Units) => do
    let _ ← Attempt.onCache (.remember key units)
    let outcome ← s.store key units r
    pure (⟨outcome, foundBy⟩ : ReadResult)
  match ← s.cachedPageFor? key r with
  | some page => pure ⟨.paged page, foundBy⟩
  | none =>
    let payload ← Gateway.fetchAll s.config.backend .methodSource target.params
    match payload.shape with
    | .text text => keep (.ofText text)
    | .records items => keep (.records items)
    | .inline v =>
      let _ ← Attempt.onCache .forget
      pure ⟨.inline none v, foundBy⟩

/-- A page of the last method source. -/
def methodSourcePage (s : Service) (index linesPerPage : Option Int64) : Attempt Page := do
  let index ← Attempt.ofExcept (positive? "page_index" index)
  let size ← Attempt.ofExcept (positive? "lines_per_page" linesPerPage)
  let page : Except Failure Page ←
    Attempt.onCache (.slotPage (index.getD 1) (size.getD s.defaultPageSize))
  Attempt.ofExcept page

/-- Searches methods, in one class or everywhere. -/
def searchMethod (s : Service) (target : MethodTarget) (r : PageRequest) : Attempt ReadResult := do
  match target.resolveMethod? with
  | none => throw (.invalidArgument "provide method_name or method_original_name")
  | some query =>
    let owner := target.owner.resolve?
    let key := (CacheKey.ofRoute .searchMethod).parts <|
      (owner.toList.map Resolved.keyToken) ++ [query.keyToken] ++
        (nonBlank? target.signature).toList
    let foundBy := Json.obj <| ("member", .str query.foundBy) ::
      owner.toList.map fun c => ("class", .str c.foundBy)
    s.paged .searchMethod target.params key r (some foundBy)

/-- Reads a resource file. -/
def resourceFile (s : Service) (filename : String) (r : PageRequest) : Attempt ReadResult := do
  let name := Text.trim filename
  if name = "" then throw (.invalidArgument "filename must not be empty")
  s.paged .resourceFile (Params.empty.set "name" name)
    ((CacheKey.ofRoute .resourceFile).part name) r none

/-- A payload with the names that decided what was read: in the object if it is one, beside it
otherwise. -/
def withFoundBy (payload : Payload) (foundBy : Json) : Json :=
  match payload.toJson with
  | .obj fields => .obj (Fields.put "found_by" foundBy fields)
  | v => .obj [("content", v), ("found_by", foundBy)]

/-- Reads about a class; the answer is not paged. -/
def classInfo (s : Service) (target : ClassTarget) : Attempt Json := do
  let owner ← Attempt.ofExcept target.require
  let payload ← Gateway.fetch s.config.backend .classInfo target.params
  pure (withFoundBy payload owner.foundByClass)

/-- Reads about a method; the answer is not paged. -/
def methodInfo (s : Service) (target : MethodTarget) : Attempt Json := do
  let member ← Attempt.ofExcept target.require
  let payload ← Gateway.fetch s.config.backend .methodInfo target.params
  pure (withFoundBy payload member.foundByMember)

/-- A page of a cached result; the backend is not asked. -/
def cachedPage (s : Service) (key : String) (index size : Option Int64) : Attempt Page := do
  let index ← Attempt.ofExcept (positive? "page_index" index)
  let size ← Attempt.ofExcept (positive? "page_size" size)
  let page : Except Failure Page ←
    Attempt.onCache (.getPage key (index.getD 1) (size.getD s.defaultPageSize))
  Attempt.ofExcept page

/-- What the cache tells about itself. -/
def stats (_ : Service) : Dialogue CacheStats := Dialogue.onCache .stats

/-- Drops one cached result, or all of them, and tells how many that were. -/
def clear (_ : Service) (key : Option String) : Dialogue Nat :=
  match key with
  | some key => .cache (.invalidate key) fun (removed : Bool) => .done (if removed then 1 else 0)
  | none => Dialogue.onCache .clear

/-- How the backend is. -/
def health (s : Service) : Attempt Json := do
  let payload ← Gateway.health s.config.backend
  pure (.obj [("backend", .str s.config.backend.baseUrl), ("status", payload.toJson)])

end Service

end CodePager
