import CodePager.Proofs.Fetching
import CodePager.Service.Read

/-! # Paged reads

The six paged reads as data, and what each of them does. `PagedRead.plan` says what a read asks for
once its target is resolved: the identity of the result, the parameters of the request and the key
of the cache. `outcome_start` is **the one equation of reading**: a read that is not served from the
cache fetches the whole result, keeps the last method source if it is the read of one, stores the
units and gives the page. -/

namespace CodePager

/-! ### What a payload offers -/

namespace Shape

/-- The units of a payload, if it can be paged. -/
def units? : Shape → Option Units
  | .text s => some (.ofText s)
  | .records items => some (.records items)
  | .inline _ => none

/-- The whole of a payload as one value. -/
def toJson : Shape → Json
  | .text s => .str s
  | .records items => .arr items
  | .inline v => v

/-- The content of all units is the whole of the payload. -/
theorem content_toJson_of_units? {shape : Shape} {units : Units} (h : shape.units? = some units) :
    units.content.toJson = shape.toJson := by
  cases shape with
  | text s =>
    obtain rfl := Option.some.inj h
    rw [Units.content_ofText]; rfl
  | records items =>
    obtain rfl := Option.some.inj h
    rw [Units.content_records]; rfl
  | inline v => cases h

end Shape

/-! ### What a read asks for -/

/-- What a paged read asks for: a route, and the names that decided which class, member, signature
or file is meant. -/
structure Identity where
  route : Route
  owner : Option Resolved
  member : Option Resolved
  signature : Option String
  filename : Option String
  deriving DecidableEq

/-- A read whose target has been resolved. -/
structure ReadPlan where
  identity : Identity
  params : Params
  key : CacheKey
  foundBy : Option Json

/-- A paged read. -/
inductive PagedRead where
  | plain (route : Route)
  | ofClass (route : Route) (target : ClassTarget)
  | ofMethod (route : Route) (target : MethodTarget)
  | methodSource (target : MethodTarget)
  | search (target : MethodTarget)
  | resource (filename : String)

namespace ReadPlan

/-- The plan of a read about a member of a class. -/
def ofMember (route : Route) (target : MethodTarget) (member : ResolvedMember) : ReadPlan :=
  { identity := ⟨route, some member.owner, some member.member, member.signature, none⟩
    params := target.params
    key := .ofMember route member
    foundBy := some member.foundByMember }

/-- The plan of a search for a method, in one class or everywhere. -/
def ofSearch (target : MethodTarget) (query : Resolved) : ReadPlan :=
  let owner := target.owner.resolve?
  { identity := ⟨.searchMethod, owner, some query, nonBlank? target.signature, none⟩
    params := target.params
    key := (CacheKey.ofRoute .searchMethod).parts <|
      (owner.toList.map Resolved.keyToken) ++ [query.keyToken] ++
        (nonBlank? target.signature).toList
    foundBy := some <| Json.obj <| ("member", .str query.foundBy) ::
      owner.toList.map fun c => ("class", .str c.foundBy) }

/-- Fetches what a read asks for. -/
def fetch (p : ReadPlan) (s : Service) : Attempt Payload :=
  Gateway.fetchAll s.config.backend p.identity.route p.params

/-- The entry that a page is served from, if the read need not fetch. -/
def served? (p : ReadPlan) (r : PageRequest) (c : PageCache) : Option Entry :=
  if r.wantsFresh then none else c.get? p.key.text

end ReadPlan

namespace PagedRead

/-- What a read asks for, or the failure that its target cannot be resolved. -/
def plan : PagedRead → Except Failure ReadPlan
  | .plain route => .ok ⟨⟨route, none, none, none, none⟩, .empty, .ofRoute route, none⟩
  | .ofClass route target => target.require.map fun owner =>
    ⟨⟨route, some owner, none, none, none⟩, target.params,
      (CacheKey.ofRoute route).ofClass owner, some owner.foundByClass⟩
  | .ofMethod route target => target.require.map (ReadPlan.ofMember route target)
  | .methodSource target => target.require.map (ReadPlan.ofMember .methodSource target)
  | .search target =>
    match target.resolveMethod? with
    | some query => .ok (ReadPlan.ofSearch target query)
    | none => .error (.invalidArgument "provide method_name or method_original_name")
  | .resource filename =>
    if Text.trim filename = "" then .error (.invalidArgument "filename must not be empty")
    else .ok
      { identity := ⟨.resourceFile, none, none, none, some (Text.trim filename)⟩
        params := Params.empty.set "name" (Text.trim filename)
        key := (CacheKey.ofRoute .resourceFile).part (Text.trim filename)
        foundBy := none }

/-- Carries out a paged read. -/
def start (q : PagedRead) (s : Service) (r : PageRequest) : Attempt ReadResult :=
  match q with
  | .plain route => s.read route r
  | .ofClass route target => s.readClass route target r
  | .ofMethod route target => s.readMethod route target r
  | .methodSource target => s.methodSource target r
  | .search target => s.searchMethod target r
  | .resource filename => s.resourceFile filename r

/-- What a read does with the payload it has fetched. -/
def finish (q : PagedRead) (s : Service) (r : PageRequest) (p : ReadPlan) (shape : Shape) :
    Attempt ReadResult :=
  match q with
  | .methodSource _ =>
    let keep := fun (units : Units) => do
      let _ ← Attempt.onCache (.remember p.key units)
      let outcome ← s.store p.key units r
      pure (⟨outcome, p.foundBy⟩ : ReadResult)
    match shape with
    | .text text => keep (.ofText text)
    | .records items => keep (.records items)
    | .inline v => do
      let _ ← Attempt.onCache .forget
      pure ⟨.inline none v, p.foundBy⟩
  | _ => do
    let outcome ←
      match shape with
      | .text text => s.store p.key (.ofText text) r
      | .records items => s.store p.key (.records items) r
      | .inline v => pure (.inline none v)
    pure ⟨outcome, p.foundBy⟩

/-- What a read does once its target has been resolved: it serves a page from the cache, or fetches
and finishes. -/
def body (q : PagedRead) (s : Service) (r : PageRequest) (p : ReadPlan) : Attempt ReadResult := do
  match ← s.cachedPageFor? p.key r with
  | some page => pure ⟨.paged page, p.foundBy⟩
  | none =>
    let payload ← p.fetch s
    q.finish s r p payload.shape

/-- **All reads are one**, up to their plans and to what they do with a payload. -/
theorem start_eq (q : PagedRead) (s : Service) (r : PageRequest) :
    q.start s r =
      match q.plan with
      | .ok p => q.body s r p
      | .error e => throw e := by
  cases q with
  | plain route => rfl
  | ofClass route target =>
    simp only [start, plan, Service.readClass]
    cases target.require <;> rfl
  | ofMethod route target =>
    simp only [start, plan, Service.readMethod]
    cases target.require <;> rfl
  | methodSource target =>
    simp only [start, plan, Service.methodSource]
    cases target.require <;> rfl
  | search target =>
    simp only [start, plan, Service.searchMethod]
    cases target.resolveMethod? <;> rfl
  | resource filename =>
    simp only [start, plan, Service.resourceFile]
    by_cases h : Text.trim filename = ""
    · simp only [h, if_true]; rfl
    · simp only [h, if_false]; rfl

/-- What a read does to the last method source: the read of one replaces it, or leaves none if
nothing can be paged. -/
def keep (q : PagedRead) (key : CacheKey) (shape : Shape) (c : PageCache) : PageCache :=
  match q with
  | .methodSource _ =>
    match shape.units? with
    | some units => (c.remember key units).2
    | none => c.forget.2
  | _ => c

end PagedRead

/-- The cache after a read has found that it must fetch: it is only searched if no fresh result is
wanted. -/
def PageRequest.missed (r : PageRequest) (c : PageCache) : PageCache :=
  if r.wantsFresh then c else c.count false

/-- Stores what has been fetched and gives the page that was asked for, or everything. -/
def Service.settle (s : Service) (key : CacheKey) (r : PageRequest) (shape : Shape)
    (c : PageCache) : ReadOutcome × PageCache :=
  match shape.units? with
  | none => (.inline none shape.toJson, c)
  | some units =>
    match c.storeIfLarge key units s.config.cache.threshold with
    | (.cached e, c) => (.paged (e.page r.number (r.sizeOr s.defaultPageSize)), c)
    | (.inline units, c) => (.inline (some (units.length, units.kind)) units.content.toJson, c)

/-! ### Running a read -/

section Run

variable (s : Service) (backend : List Request → Request → Reply) (r : PageRequest)
  (c : PageCache) (sent : List Request)

/-- Storing gives what `Service.settle` says. -/
theorem outcome_store (key : CacheKey) (shape : Shape) {units : Units}
    (h : shape.units? = some units) :
    (s.store key units r).outcome backend c sent =
      ⟨.ok (s.settle key r shape c).1, (s.settle key r shape c).2, sent⟩ := by
  refine (Attempt.outcome_bind_ok
    (Attempt.outcome_onCache backend c sent (.store key units _))).trans ?_
  -- What is stored decides between a page and everything, here and in `settle`.
  simp only [CacheOp.run, Service.settle, h]
  rcases c.storeIfLarge key units s.config.cache.threshold with ⟨_ | _, _⟩ <;> rfl

/-- A page comes from the cache when `ReadPlan.served?` has an entry. -/
theorem outcome_cachedPageFor? (p : ReadPlan) :
    (s.cachedPageFor? p.key r).outcome backend c sent =
      match p.served? r c with
      | some e => ⟨.ok (some (e.page r.number (r.sizeOr s.defaultPageSize))), c.count true, sent⟩
      | none => ⟨.ok none, r.missed c, sent⟩ := by
  unfold Service.cachedPageFor? ReadPlan.served? PageRequest.missed
  by_cases hr : r.wantsFresh = true
  · simp [hr]
  · rw [if_neg hr, if_neg hr, if_neg hr]
    refine (Attempt.outcome_bind_ok
      (Attempt.outcome_onCache backend c sent (.lookup p.key.text))).trans ?_
    simp only [CacheOp.run, PageCache.lookup]
    cases c.get? p.key.text <;> rfl

/-- What a read that has found its target comes to. -/
def PagedRead.result (q : PagedRead) (p : ReadPlan) :
    Dialogue.Outcome (Except Failure ReadResult) :=
  match p.served? r c with
  | some e =>
    ⟨.ok ⟨.paged (e.page r.number (r.sizeOr s.defaultPageSize)), p.foundBy⟩, c.count true, sent⟩
  | none =>
    let fetched := (p.fetch s).outcome backend (r.missed c) sent
    match fetched.value with
    | .error e => ⟨.error e, r.missed c, fetched.requests⟩
    | .ok payload =>
      let settled := s.settle p.key r payload.shape (q.keep p.key payload.shape (r.missed c))
      ⟨.ok ⟨settled.1, p.foundBy⟩, settled.2, fetched.requests⟩

/-- Fetching as a step: the cache is as it was. -/
theorem outcome_fetch (p : ReadPlan) {value : Except Failure Payload}
    (h : ((p.fetch s).outcome backend c sent).value = value) :
    (p.fetch s).outcome backend c sent =
      ⟨value, c, ((p.fetch s).outcome backend c sent).requests⟩ := by
  rw [← h]
  exact Gateway.fetchAll_outcome _ _ _ _ _ _ c

/-- **Finishing** keeps the last method source if it is the read of one, and settles. -/
theorem outcome_finish (q : PagedRead) (p : ReadPlan) (shape : Shape) :
    (q.finish s r p shape).outcome backend c sent =
      ⟨.ok ⟨(s.settle p.key r shape (q.keep p.key shape c)).1, p.foundBy⟩,
        (s.settle p.key r shape (q.keep p.key shape c)).2, sent⟩ := by
  have hstore := fun c units (h : shape.units? = some units) =>
    outcome_store s backend r c sent p.key shape h
  cases q with
  | methodSource target =>
    cases shape with
    | text text => exact Attempt.outcome_bind_ok (hstore _ _ rfl)
    | records items => exact Attempt.outcome_bind_ok (hstore _ _ rfl)
    | inline v => rfl
  | plain route | ofClass route target | ofMethod route target | search target
  | resource filename =>
    cases shape with
    | text text => exact Attempt.outcome_bind_ok (hstore _ _ rfl)
    | records items => exact Attempt.outcome_bind_ok (hstore _ _ rfl)
    | inline v => rfl

/-- **The one equation of reading.** -/
theorem outcome_start (q : PagedRead) :
    (q.start s r).outcome backend c sent =
      match q.plan with
      | .ok p => q.result s backend r c sent p
      | .error e => ⟨.error e, c, sent⟩ := by
  rw [PagedRead.start_eq]
  cases q.plan with
  | error e => rfl
  | ok p =>
    -- One step at a time: search the cache, then fetch, then finish. Each gives its outcome in
    -- closed form, so the next one starts from a known cache.
    have hcached := outcome_cachedPageFor? s backend r c sent p
    simp only [PagedRead.result]
    cases hserved : p.served? r c with
    | some e =>
      rw [hserved] at hcached
      exact Attempt.outcome_bind_ok hcached
    | none =>
      rw [hserved] at hcached
      refine (Attempt.outcome_bind_ok hcached).trans ?_
      cases hvalue : ((p.fetch s).outcome backend (r.missed c) sent).value with
      | error e => exact Attempt.outcome_bind_error (outcome_fetch s backend _ sent p hvalue)
      | ok payload =>
        refine (Attempt.outcome_bind_ok (outcome_fetch s backend _ sent p hvalue)).trans ?_
        exact outcome_finish s backend r _ _ q p payload.shape

end Run

end CodePager
