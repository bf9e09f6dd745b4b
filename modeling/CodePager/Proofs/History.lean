import CodePager.Proofs.CacheInvariant
import CodePager.Proofs.Paging
import CodePager.Proofs.Reads
import CodePager.Service.Write

/-! # Histories

What happens when operations of the bridge follow each other. An `Operation` is what a client can
ask for, a `History` is what has come of all of them: the cache, the requests sent, and **the
payloads that reads have fetched**. `read_cases` says what a read does to the cache, `within_allows`
what everything else may do, and `History.step_cases` what one event does; from these the cache of
every history is well-formed (`History.Reachable.sound`). -/

namespace CodePager

/-! ### Operations -/

/-- An operation of the bridge. -/
inductive Operation where
  | read (q : PagedRead) (r : PageRequest)
  | methodSourcePage (index linesPerPage : Option Int64)
  | classInfo (target : ClassTarget)
  | methodInfo (target : MethodTarget)
  | cachedPage (key : String) (index size : Option Int64)
  | stats
  | clear (key : Option String)
  | mutate (route : Route) (params : Params)
  | health

/-- A dialogue without its value. -/
def Dialogue.ended {α : Type} (d : Dialogue α) : Dialogue Unit := d.bind fun _ => .done ()

/-- What an operation does; its answer is left out. -/
def Operation.carryOut (s : Service) : Operation → Dialogue Unit
  | .read q r => (q.start s r).run.ended
  | .methodSourcePage index size => (s.methodSourcePage index size).run.ended
  | .classInfo target => (s.classInfo target).run.ended
  | .methodInfo target => (s.methodInfo target).run.ended
  | .cachedPage key index size => (s.cachedPage key index size).run.ended
  | .stats => s.stats.ended
  | .clear key => (s.clear key).ended
  | .mutate route params => (s.mutate route params).run.ended
  | .health => s.health.run.ended

/-- A dialogue whose value is dropped comes to the same cache and the same requests. -/
theorem Dialogue.run_ended {α : Type} (backend : List Request → Request → Reply) (d : Dialogue α)
    (c : PageCache) (sent : List Request) :
    d.ended.run backend c sent =
      ⟨(), (d.run backend c sent).cache, (d.run backend c sent).requests⟩ :=
  run_bind backend d _ c sent

/-- An attempt whose value is dropped is within the same bounds. -/
theorem Attempt.Within.ended {α : Type} {P : CacheOp → Prop} {Q : Request → Prop} {x : Attempt α}
    (h : x.Within P Q) : (ExceptT.run x).ended.Within P Q :=
  Dialogue.Within.bind h fun _ => Dialogue.within_done _

/-- What an operation that is not a read may do to the cache. -/
def Operation.allows : Operation → CacheOp → Prop
  | .clear (some key), o => o = .invalidate key
  | .clear none, o => o = .clear
  | .mutate _ _, o => o = .clear
  | _, o => o.Looks

/-- An operation on the cache keeps units under a key, in the table or as the last method source. -/
def CacheOp.Keeps (key : CacheKey) (units : Units) : CacheOp → Prop
  | .store k u _ => k = key ∧ u = units
  | .remember k u => k = key ∧ u = units
  | _ => False

namespace Operation

/-- An operation that is not a read looks, or clears one result or all of them. -/
theorem cases_of_allows {op : Operation} {o : CacheOp} (h : op.allows o) :
    o.Looks ∨ (∃ key, op = .clear (some key) ∧ o = .invalidate key) ∨
      ((op = .clear none ∨ ∃ route params, op = .mutate route params) ∧ o = .clear) := by
  cases op with
  | clear key =>
    cases key with
    | some key => exact Or.inr (Or.inl ⟨key, rfl, h⟩)
    | none => exact Or.inr (Or.inr ⟨Or.inl rfl, h⟩)
  | mutate route params => exact Or.inr (Or.inr ⟨Or.inr ⟨route, params, rfl⟩, h⟩)
  | read q r => exact Or.inl h
  | methodSourcePage index size => exact Or.inl h
  | classInfo target => exact Or.inl h
  | methodInfo target => exact Or.inl h
  | cachedPage key index size => exact Or.inl h
  | stats => exact Or.inl h
  | health => exact Or.inl h

/-- Operations besides reads keep nothing. -/
theorem not_keeps_of_allows {op : Operation} {o : CacheOp} (h : op.allows o) (key : CacheKey)
    (units : Units) : ¬ o.Keeps key units := by
  intro hk
  rcases cases_of_allows h with hl | ⟨k, -, rfl⟩ | ⟨-, rfl⟩
  · cases o with
    | store k u threshold => exact hl
    | remember k u => exact hl
    | lookup k => exact hk
    | getPage k index size => exact hk
    | invalidate k => exact hk
    | clear => exact hk
    | forget => exact hk
    | slotPage index size => exact hk
    | stats => exact hk
  · exact hk
  · exact hk

end Operation

/-- The operations that change the project. -/
def Operation.IsWrite : Operation → Prop
  | .mutate _ _ => True
  | _ => False

section Within

variable (s : Service) {P : CacheOp → Prop} {Q : Request → Prop}

/-- Fetching is within bounds that allow its query. -/
theorem within_fetch (route : Route) (params : Params) (hQ : Q ⟨.get, route, params⟩) :
    (Gateway.fetch s.config.backend route params).Within P Q := Gateway.request_within _ _ _ hQ

/-- Changing the project is within bounds that allow to **clear everything and to submit** the
change. -/
theorem within_mutate (route : Route) (params : Params) (hP : P .clear)
    (hQ : Q ⟨.post, route, params⟩) : (s.mutate route params).Within P Q := by
  refine Dialogue.within_cache.mpr ⟨hP, fun _ => Dialogue.Within.bind ?_ fun _ => ?_⟩
  · exact Gateway.request_within _ _ _ hQ
  · exact Dialogue.within_cache.mpr ⟨hP, fun _ => Dialogue.within_done _⟩

/-- Asking for a page of the method source is within bounds that allow just that. -/
theorem within_methodSourcePage (index size : Option Int64)
    (hP : ∀ i n, P (.slotPage i n)) : (s.methodSourcePage index size).Within P Q := by
  unfold Service.methodSourcePage
  refine Attempt.Within.bind (Attempt.within_ofExcept _) fun index => ?_
  refine Attempt.Within.bind (Attempt.within_ofExcept _) fun size => ?_
  exact Attempt.Within.bind (Attempt.within_onCache (hP _ _)) fun _ => Attempt.within_ofExcept _

/-- Asking for a page of a cached result is within bounds that allow just that. -/
theorem within_cachedPage (key : String) (index size : Option Int64)
    (hP : ∀ i n, P (.getPage key i n)) : (s.cachedPage key index size).Within P Q := by
  unfold Service.cachedPage
  refine Attempt.Within.bind (Attempt.within_ofExcept _) fun index => ?_
  refine Attempt.Within.bind (Attempt.within_ofExcept _) fun size => ?_
  exact Attempt.Within.bind (Attempt.within_onCache (hP _ _)) fun _ => Attempt.within_ofExcept _

/-- Reading about a class is within bounds that allow queries. -/
theorem within_classInfo (target : ClassTarget) (hQ : ∀ route params, Q ⟨.get, route, params⟩) :
    (s.classInfo target).Within P Q := by
  unfold Service.classInfo
  refine Attempt.Within.bind (Attempt.within_ofExcept _) fun owner => ?_
  exact Attempt.Within.bind (within_fetch s _ _ (hQ _ _)) fun _ => Attempt.within_pure _

/-- Reading about a method is within bounds that allow queries. -/
theorem within_methodInfo (target : MethodTarget)
    (hQ : ∀ route params, Q ⟨.get, route, params⟩) : (s.methodInfo target).Within P Q := by
  unfold Service.methodInfo
  refine Attempt.Within.bind (Attempt.within_ofExcept _) fun member => ?_
  exact Attempt.Within.bind (within_fetch s _ _ (hQ _ _)) fun _ => Attempt.within_pure _

/-- Asking the backend how it is is within bounds that allow queries. -/
theorem within_health (hQ : ∀ route params, Q ⟨.get, route, params⟩) : s.health.Within P Q := by
  unfold Service.health Gateway.health
  exact Attempt.Within.bind (within_fetch s _ _ (hQ _ _)) fun _ => Attempt.within_pure _

/-- **What operations besides reads do**: they look, or clear what they are asked to clear, and only
those that change the project submit anything. -/
theorem Operation.within_allows {op : Operation} (h : ∀ q r, op ≠ .read q r) :
    (op.carryOut s).Within op.allows fun request => request.verb = .post → op.IsWrite := by
  have hget : ∀ route params, (⟨.get, route, params⟩ : Request).verb = .post → op.IsWrite :=
    fun _ _ hverb => by cases hverb
  cases op with
  | read q r => exact absurd rfl (h q r)
  | methodSourcePage index size =>
    exact Attempt.Within.ended (within_methodSourcePage s index size fun _ _ => trivial)
  | classInfo target => exact Attempt.Within.ended (within_classInfo s target hget)
  | methodInfo target => exact Attempt.Within.ended (within_methodInfo s target hget)
  | cachedPage key index size =>
    exact Attempt.Within.ended (within_cachedPage s key index size fun _ _ => trivial)
  | stats => exact Dialogue.within_cache.mpr ⟨trivial, fun _ => Dialogue.within_done _⟩
  | clear key =>
    cases key with
    | some key => exact Dialogue.within_cache.mpr ⟨rfl, fun _ => Dialogue.within_done _⟩
    | none => exact Dialogue.within_cache.mpr ⟨rfl, fun _ => Dialogue.within_done _⟩
  | mutate route params =>
    refine Attempt.Within.ended (within_mutate s route params ?_ ?_)
    · exact rfl
    · exact fun _ => trivial
  | health => exact Attempt.Within.ended (within_health s hget)

end Within

/-! ### What a read does -/

/-- The units of a payload, if there are at least `threshold`. -/
def Shape.large? (shape : Shape) (threshold : UInt64) : Option Units :=
  shape.units?.filter fun units => threshold.toNat ≤ units.length

/-- A payload is large if it has units, and **as many as the threshold** at least. -/
theorem Shape.large?_eq_some_iff {shape : Shape} {threshold : UInt64} {units : Units} :
    shape.large? threshold = some units ↔
      shape.units? = some units ∧ threshold.toNat ≤ units.length := by
  simp [large?, Option.filter_eq_some_iff]

/-- A payload that a read has fetched, and the key that it was fetched for. -/
structure Fetch where
  key : String
  shape : Shape

/-- What a read fetches, if it fetches anything. -/
def PagedRead.fetched? (q : PagedRead) (s : Service) (backend : List Request → Request → Reply)
    (r : PageRequest) (c : PageCache) (sent : List Request) : Option Fetch :=
  match q.plan with
  | .error _ => none
  | .ok p =>
    match p.served? r c with
    | some _ => none
    | none =>
      match ((p.fetch s).outcome backend (r.missed c) sent).value with
      | .error _ => none
      | .ok payload => some ⟨p.key.text, payload.shape⟩

section Read

variable (s : Service) (backend : List Request → Request → Reply) (q : PagedRead)
  (r : PageRequest) (c : PageCache) (sent : List Request)

/-- A miss leaves the cache as it is, or counts one search. -/
theorem PageRequest.missed_cases : r.missed c = c ∨ ∃ found, r.missed c = c.count found := by
  unfold missed
  split
  · exact Or.inl rfl
  · exact Or.inr ⟨false, rfl⟩

/-- **What a read does to the cache.** One that fetches nothing only counts; one that fetches keeps
the last method source if it is the read of one, and stores the units. -/
theorem read_cases :
    (q.fetched? s backend r c sent = none ∧
      (((q.start s r).outcome backend c sent).cache = c ∨
        ∃ found, ((q.start s r).outcome backend c sent).cache = c.count found)) ∨
    ∃ p payload, q.plan = .ok p ∧ p.served? r c = none ∧
      ((p.fetch s).outcome backend (r.missed c) sent).value = .ok payload ∧
      q.fetched? s backend r c sent = some ⟨p.key.text, payload.shape⟩ ∧
      ((q.start s r).outcome backend c sent).cache =
        (s.settle p.key r payload.shape (q.keep p.key payload.shape (r.missed c))).2 := by
  rw [outcome_start]
  -- `fetched?` and `result` take the same decisions, so one case split serves both.
  unfold PagedRead.fetched?
  cases hplan : q.plan with
  | error e => exact Or.inl ⟨rfl, Or.inl rfl⟩
  | ok p =>
    simp only
    unfold PagedRead.result
    cases hserved : p.served? r c with
    | some e => exact Or.inl ⟨rfl, Or.inr ⟨true, rfl⟩⟩
    | none =>
      cases hvalue : ((p.fetch s).outcome backend (r.missed c) sent).value with
      | error e =>
        refine Or.inl ⟨rfl, ?_⟩
        simp only [hvalue]
        exact r.missed_cases c
      | ok payload =>
        refine Or.inr ⟨p, payload, rfl, hserved, hvalue, rfl, ?_⟩
        simp only [hvalue]

section Settle

variable {s c r} {key : CacheKey} {shape : Shape}

/-- Settling what is not large leaves the cache as it is. -/
theorem settle_of_not_large (h : shape.large? s.config.cache.threshold = none) :
    (s.settle key r shape c).2 = c := by
  unfold Service.settle
  cases hunits : shape.units? with
  | none => rfl
  | some units =>
    have hsmall : units.length < s.config.cache.threshold.toNat := by
      by_contra hge
      have := Shape.large?_eq_some_iff.mpr ⟨hunits, Nat.le_of_not_lt hge⟩
      rw [h] at this
      cases this
    simp only [PageCache.storeIfLarge_of_lt key units hsmall]

/-- Settling what is large **stores it under its key**. -/
theorem settle_of_large {units : Units}
    (h : shape.large? s.config.cache.threshold = some units) :
    (s.settle key r shape c).2 =
      (c.storeIfLarge key units s.config.cache.threshold).2 := by
  unfold Service.settle
  rw [(Shape.large?_eq_some_iff.mp h).1]
  simp only
  split <;> simp_all

end Settle

section Keep

variable {c} (key : CacheKey) (shape : Shape)

/-- What a read does to the last method source: nothing, or it remembers units, or forgets. -/
theorem keep_cases :
    q.keep key shape c = c ∨ (∃ units, q.keep key shape c = (c.remember key units).2) ∨
      q.keep key shape c = c.forget.2 := by
  cases q with
  | methodSource target =>
    simp only [PagedRead.keep]
    cases shape.units? with
    | some units => exact Or.inr (Or.inl ⟨units, rfl⟩)
    | none => exact Or.inr (Or.inr rfl)
  | plain route | ofClass route target | ofMethod route target | search target
  | resource filename => exact Or.inl rfl

/-- What a read does to the last method source leaves the table alone. -/
theorem get?_keep (k : String) : (q.keep key shape c).get? k = c.get? k := by
  rcases keep_cases (c := c) q key shape with hc | ⟨units, hc⟩ | hc <;> rw [hc] <;> rfl

/-- Keeping the method source keeps the configuration. -/
theorem config_keep : (q.keep key shape c).config = c.config := by
  rcases keep_cases (c := c) q key shape with hc | ⟨units, hc⟩ | hc <;> rw [hc] <;> rfl

/-- Keeping the method source keeps a cache well formed. -/
theorem wellFormed_keep (h : c.WellFormed) : (q.keep key shape c).WellFormed := by
  rcases keep_cases (c := c) q key shape with hc | ⟨units, hc⟩ | hc <;> rw [hc]
  · exact h
  · exact h.remember key units
  · exact h.forget

/-- A miss keeps every entry: `(r.missed c).get? k = c.get? k`. -/
theorem get?_missed (k : String) : (r.missed c).get? k = c.get? k := by
  obtain hc | ⟨found, hc⟩ := r.missed_cases c <;> rw [hc]
  exact PageCache.get?_count found k

/-- A miss keeps the configuration. -/
theorem config_missed : (r.missed c).config = c.config := by
  obtain hc | ⟨found, hc⟩ := r.missed_cases c <;> rw [hc]
  exact PageCache.config_count found

/-- A miss keeps a cache well formed. -/
theorem wellFormed_missed (h : c.WellFormed) : (r.missed c).WellFormed := by
  obtain hc | ⟨found, hc⟩ := r.missed_cases c <;> rw [hc]
  · exact h
  · exact h.count found

end Keep

end Read

/-! ### Pages from the cache -/

section Paging

/-- A number from one on is accepted as it is: `.ok (some n.toUInt64)`. -/
theorem positive?_of_le (name : String) {n : Int64} (h : 1 ≤ n) :
    positive? name (some n) = .ok (some n.toUInt64) := if_pos h

/-- A number from one on is not zero without its sign either. -/
theorem one_le_toUInt64 {n : Int64} (h : 1 ≤ n) : ¬ n.toUInt64 < 1 := by
  intro hlt
  have hzero : n.toUInt64 = 0 := by
    have := UInt64.lt_iff_toNat_lt.mp hlt
    exact UInt64.toNat_inj.mp (Nat.lt_one_iff.mp this)
  obtain ⟨w⟩ := n
  obtain rfl : w = 0 := hzero
  exact absurd h (by decide)

/-- A number that has been accepted is not zero. -/
theorem not_lt_one_of_positive? {name : String} {value : Option Int64} {n : UInt64}
    (h : positive? name value = .ok (some n)) : ¬ n < 1 := by
  cases value with
  | none => cases h
  | some m =>
    rw [positive?] at h
    split at h
    · rename_i hm
      obtain rfl := Option.some.inj (Except.ok.inj h)
      exact one_le_toUInt64 hm
    · cases h

/-- Numbers that have been accepted make up a page, if there is a page size. -/
theorem validatePage_of_positive? {indexName sizeName : String} {index size : Option Int64}
    {i z : Option UInt64} {defaultSize : UInt64} (hindex : positive? indexName index = .ok i)
    (hsize : positive? sizeName size = .ok z) (hdefault : z = none → 0 < defaultSize.toNat) :
    validatePage (i.getD 1) (z.getD defaultSize) = .ok () := by
  have hi : ¬ i.getD 1 < 1 := by
    cases i with
    | none => decide
    | some n => exact not_lt_one_of_positive? hindex
  have hz : ¬ z.getD defaultSize < 1 := by
    cases z with
    | none =>
      intro hlt
      have hzero := UInt64.lt_iff_toNat_lt.mp hlt
      exact absurd (hdefault rfl) (Nat.not_lt.mpr (Nat.le_of_lt_succ hzero))
    | some n => exact not_lt_one_of_positive? hsize
  rw [validatePage, if_neg hi, if_neg hz]

/-- The page number and the page size that a call gives are **accepted**: they are from one on, and
so is the page size of the bridge if the call gives none. -/
structure Service.Accepts (s : Service) (index size : Option Int64) : Prop where
  index_pos : ∀ n, index = some n → 1 ≤ n
  size_pos : ∀ n, size = some n → 1 ≤ n
  default_pos : size = none → 0 < s.defaultPageSize.toNat

/-- A number that is left out or from one on is accepted. -/
theorem positive?_of_forall_le (name : String) {value : Option Int64}
    (h : ∀ n, value = some n → 1 ≤ n) : positive? name value = .ok (value.map Int64.toUInt64) := by
  cases value with
  | none => rfl
  | some n => exact positive?_of_le name (h n rfl)

/-- What is accepted makes up a page. -/
theorem Service.Accepts.valid {s : Service} {index size : Option Int64}
    (h : s.Accepts index size) :
    validatePage ((index.map Int64.toUInt64).getD 1)
      ((size.map Int64.toUInt64).getD s.defaultPageSize) = .ok () := by
  refine validatePage_of_positive? (positive?_of_forall_le "page_index" h.index_pos)
    (positive?_of_forall_le "page_size" h.size_pos) fun hnone => ?_
  exact h.default_pos (Option.map_eq_none_iff.mp hnone)

end Paging

section CachedPage

variable {s : Service} {backend : List Request → Request → Reply} {c : PageCache}
  {sent : List Request}

/-- What asking for a page of a cached result comes to. -/
theorem outcome_cachedPage {key : String} {index size : Option Int64} {i z : Option UInt64}
    (hindex : positive? "page_index" index = .ok i) (hsize : positive? "page_size" size = .ok z) :
    (s.cachedPage key index size).outcome backend c sent =
      ⟨(c.getPage key (i.getD 1) (z.getD s.defaultPageSize)).1,
        (c.getPage key (i.getD 1) (z.getD s.defaultPageSize)).2, sent⟩ := by
  unfold Service.cachedPage
  rw [hindex, hsize]
  rfl

/-- What asking for a page of the last method source comes to. -/
theorem outcome_methodSourcePage {index size : Option Int64} {i z : Option UInt64}
    (hindex : positive? "page_index" index = .ok i)
    (hsize : positive? "lines_per_page" size = .ok z) :
    (s.methodSourcePage index size).outcome backend c sent =
      ⟨(c.slotPage (i.getD 1) (z.getD s.defaultPageSize)).1,
        (c.slotPage (i.getD 1) (z.getD s.defaultPageSize)).2, sent⟩ := by
  unfold Service.methodSourcePage
  rw [hindex, hsize]
  rfl

/-- A read of a later page is served with the page of what is cached. -/
theorem outcome_start_of_get? {e : Entry} {q : PagedRead} {p : ReadPlan} {r : PageRequest}
    (hplan : q.plan = .ok p) (hfresh : r.wantsFresh = false)
    (he : c.get? p.key.text = some e) (hkey : e.key = p.key) :
    (q.start s r).outcome backend c sent =
      ⟨.ok ⟨.paged (e.units.page p.key r.number (r.sizeOr s.defaultPageSize)), p.foundBy⟩,
        c.count true, sent⟩ := by
  have hserved : p.served? r c = some e := by
    rw [ReadPlan.served?, hfresh]
    exact he
  rw [outcome_start, hplan]
  simp only [PagedRead.result, hserved, Entry.page_eq, hkey]

/-- Asking for a page of a cached result gives the page of what is cached. -/
theorem outcome_cachedPage_of_get? {key : CacheKey} {e : Entry} {index size : Option Int64}
    {i z : Option UInt64} (hindex : positive? "page_index" index = .ok i)
    (hsize : positive? "page_size" size = .ok z)
    (hvalid : validatePage (i.getD 1) (z.getD s.defaultPageSize) = .ok ())
    (he : c.get? key.text = some e) (hkey : e.key = key) :
    (s.cachedPage key.text index size).outcome backend c sent =
      ⟨.ok (e.units.page key (i.getD 1) (z.getD s.defaultPageSize)), c.count true, sent⟩ := by
  rw [outcome_cachedPage hindex hsize]
  simp only [PageCache.getPage, PageCache.lookup, hvalid, he, Entry.page_eq, hkey]
  rfl

/-- A read that is not served sends what its fetch sends. -/
theorem requests_of_not_served {q : PagedRead} {p : ReadPlan} {r : PageRequest}
    (hplan : q.plan = .ok p) (hserved : p.served? r c = none) :
    ((q.start s r).outcome backend c sent).requests =
      ((p.fetch s).outcome backend (r.missed c) sent).requests := by
  rw [outcome_start, hplan]
  simp only [PagedRead.result, hserved]
  cases ((p.fetch s).outcome backend (r.missed c) sent).value <;> rfl

/-- A page of a cached result is a page of the entry under its key. -/
theorem entry_of_cachedPage {key : String} {index size : Option Int64} {page : Page}
    (h : ((s.cachedPage key index size).outcome backend c sent).value = .ok page) :
    ∃ e, c.get? key = some e ∧ page = e.page page.index page.size := by
  cases hindex : positive? "page_index" index with
  | error e => simp [Service.cachedPage, hindex, Attempt.outcome_bind] at h
  | ok i =>
    cases hsize : positive? "page_size" size with
    | error e => simp [Service.cachedPage, hindex, hsize, Attempt.outcome_bind] at h
    | ok z =>
      rw [outcome_cachedPage hindex hsize] at h
      simp only [PageCache.getPage, PageCache.lookup] at h
      cases hvalid : validatePage (i.getD 1) (z.getD s.defaultPageSize) with
      | error e => simp [hvalid] at h
      | ok u =>
        cases he : c.get? key with
        | none => simp [hvalid, he] at h
        | some e =>
          simp only [hvalid, he, Except.ok.injEq] at h
          exact ⟨e, rfl, h ▸ rfl⟩

/-- A read that gives a page **and sends nothing** gives a page of the entry under its key. -/
theorem entry_of_read {q : PagedRead} {p : ReadPlan} {r : PageRequest} {page : Page}
    {foundBy : Option Json} (hplan : q.plan = .ok p)
    (hvalue : ((q.start s r).outcome backend c sent).value = .ok ⟨.paged page, foundBy⟩)
    (hsent : ((q.start s r).outcome backend c sent).requests = sent) :
    ∃ e, c.get? p.key.text = some e ∧ page = e.page page.index page.size := by
  rw [outcome_start, hplan] at hvalue hsent
  simp only [PagedRead.result] at hvalue hsent
  cases hserved : p.served? r c with
  | some e =>
    simp only [hserved, Except.ok.injEq, ReadResult.mk.injEq, ReadOutcome.paged.injEq] at hvalue
    refine ⟨e, ?_, hvalue.1 ▸ rfl⟩
    unfold ReadPlan.served? at hserved
    split at hserved
    · cases hserved
    · exact hserved
  | none =>
    simp only [hserved] at hvalue hsent
    cases hfetch : ((p.fetch s).outcome backend (r.missed c) sent).value with
    | error e => simp [hfetch] at hvalue
    | ok payload =>
      simp only [hfetch] at hsent
      -- It would have fetched, and then it would have sent a request.
      have hlt := Gateway.fetchAll_sends _ _ _ backend (r.missed c) sent hfetch
      exact absurd (congrArg List.length hsent) (Nat.ne_of_gt hlt)

end CachedPage

/-! ### Histories -/

/-- Something that happens: an operation, or time goes on. -/
inductive Event where
  | call (op : Operation)
  | clock (now : String)

/-- What has come of all events so far. -/
structure History where
  cache : PageCache
  requests : List Request
  /-- What reads have fetched, the most recent first. -/
  fetches : List Fetch

namespace History

variable (s : Service) (backend : List Request → Request → Reply)

/-- What an operation fetches for the cache. -/
def fetched? (h : History) : Operation → Option Fetch
  | .read q r => q.fetched? s backend r h.cache h.requests
  | _ => none

/-- One more event. -/
def step (h : History) : Event → History
  | .call op =>
    let done := (op.carryOut s).run backend h.cache h.requests
    ⟨done.cache, done.requests, (h.fetched? s backend op).toList ++ h.fetches⟩
  | .clock now => { h with cache := { h.cache with now := now } }

/-- More events, in their order. -/
def after (h : History) (events : List Event) : History := events.foldl (step s backend) h

/-- Before the first event. -/
def start (now : String) : History := ⟨.empty s.config.cache now, [], []⟩

/-- A history that the bridge can have. -/
def Reachable (h : History) : Prop := ∃ now events, h = (start s now).after s backend events

variable {h : History}

/-- Events one after the other happen one after the other. -/
theorem after_append (events more : List Event) :
    h.after s backend (events ++ more) = (h.after s backend events).after s backend more :=
  List.foldl_append ..

/-- The first event happens first: `(h.step s backend e).after s backend events`. -/
theorem after_cons (e : Event) (events : List Event) :
    h.after s backend (e :: events) = (h.step s backend e).after s backend events := rfl

/-- What every event preserves holds in the end. -/
theorem after_preserves {I : History → Prop} (hstep : ∀ h e, I h → I (h.step s backend e))
    (hI : I h) (events : List Event) : I (h.after s backend events) := by
  induction events generalizing h with
  | nil => exact hI
  | cons e events ih => exact ih (hstep h e hI)

variable {s backend}

/-- What events lead to from a reachable history is **reachable**. -/
theorem Reachable.after (hr : h.Reachable s backend) (events : List Event) :
    (h.after s backend events).Reachable s backend := by
  obtain ⟨now, before, rfl⟩ := hr
  exact ⟨now, before ++ events, (after_append s backend before events).symm⟩

/-- **A property of the cache is kept** by an operation that is not a read if what the operation may
do keeps it. -/
theorem step_preserves_of_allows (s : Service) (backend : List Request → Request → Reply)
    {I : PageCache → Prop} {op : Operation}
    (hop : ∀ q r, op ≠ .read q r) (hallows : ∀ o c, op.allows o → I c → I (o.run c).2)
    (hI : I h.cache) : I (h.step s backend (.call op)).cache :=
  Dialogue.run_preserves backend (op.within_allows s hop) hallows hI h.requests

/-- An operation that carries out an attempt does what the attempt comes to. -/
theorem step_attempt (h : History) (op : Operation) {α : Type} {x : Attempt α}
    (hx : op.carryOut s = x.run.ended) :
    (h.step s backend (.call op)).cache = (x.outcome backend h.cache h.requests).cache ∧
      (h.step s backend (.call op)).requests =
        (x.outcome backend h.cache h.requests).requests := by
  simp only [step, hx, Dialogue.run_ended, Attempt.outcome, and_self]

/-- The step of a read leaves the cache that the read leaves. -/
theorem step_read_cache (q : PagedRead) (r : PageRequest) :
    (h.step s backend (.call (.read q r))).cache =
      ((q.start s r).outcome backend h.cache h.requests).cache :=
  (step_attempt h (.read q r) rfl).1

/-- The step of a read adds what the read fetches, if it fetches anything. -/
theorem step_read_fetches (q : PagedRead) (r : PageRequest) :
    (h.step s backend (.call (.read q r))).fetches =
      (q.fetched? s backend r h.cache h.requests).toList ++ h.fetches := rfl

/-- Operations besides reads fetch nothing that is noted. -/
theorem fetched?_of_not_read {op : Operation} (hop : ∀ q r, op ≠ .read q r) :
    h.fetched? s backend op = none := by
  cases op with
  | read q r => exact absurd rfl (hop q r)
  | methodSourcePage index size => rfl
  | classInfo target => rfl
  | methodInfo target => rfl
  | cachedPage key index size => rfl
  | stats => rfl
  | clear key => rfl
  | mutate route params => rfl
  | health => rfl

/-- The step of an operation that is not a read adds no fetch. -/
theorem step_fetches_of_not_read {op : Operation} (hop : ∀ q r, op ≠ .read q r) :
    (h.step s backend (.call op)).fetches = h.fetches := by
  show (h.fetched? s backend op).toList ++ h.fetches = _
  rw [fetched?_of_not_read hop]
  rfl

/-- What a read fetches does not depend on whether its search has been counted. -/
theorem fetch_value_missed (p : ReadPlan) (r : PageRequest) (c : PageCache)
    (sent : List Request) :
    ((p.fetch s).outcome backend (r.missed c) sent).value =
      ((p.fetch s).outcome backend c sent).value :=
  congrArg (·.value) (Gateway.fetchAll_outcome _ _ _ backend (r.missed c) sent c)

/-- **What one event does.** Time goes on, or something else than a read is carried out; a read that
fetches nothing leaves what is held, and a read that fetches settles what it has fetched. -/
theorem step_cases (s : Service) (backend : List Request → Request → Reply) (h : History)
    (e : Event) :
    (∃ now, e = .clock now) ∨ (∃ op, e = .call op ∧ ∀ q r, op ≠ .read q r) ∨
    (∃ q r, e = .call (.read q r) ∧ h.fetched? s backend (.read q r) = none ∧
      (∀ key, (h.step s backend e).cache.get? key = h.cache.get? key) ∧
      (h.step s backend e).cache.lastMethodSource = h.cache.lastMethodSource) ∨
    ∃ q r p payload, e = .call (.read q r) ∧ q.plan = .ok p ∧ p.served? r h.cache = none ∧
      ((p.fetch s).outcome backend h.cache h.requests).value = .ok payload ∧
      h.fetched? s backend (.read q r) = some ⟨p.key.text, payload.shape⟩ ∧
      (h.step s backend e).cache =
        (s.settle p.key r payload.shape (q.keep p.key payload.shape (r.missed h.cache))).2 := by
  cases e with
  | clock now => exact Or.inl ⟨now, rfl⟩
  | call op =>
    by_cases hop : ∃ q r, op = .read q r
    · obtain ⟨q, r, rfl⟩ := hop
      have hstep : (h.step s backend (.call (.read q r))).cache = _ := step_read_cache q r
      rcases read_cases s backend q r h.cache h.requests with
        ⟨hnone, hcache⟩ | ⟨p, payload, hplan, hserved, hvalue, hsome, hcache⟩
      · refine Or.inr (Or.inr (Or.inl ⟨q, r, rfl, hnone, ?_⟩))
        obtain hcache | ⟨found, hcache⟩ := hcache <;> rw [hstep, hcache]
        · exact ⟨fun _ => rfl, rfl⟩
        · exact ⟨PageCache.get?_count found, PageCache.lastMethodSource_count found⟩
      · rw [fetch_value_missed] at hvalue
        exact Or.inr (Or.inr (Or.inr ⟨q, r, p, payload, rfl, hplan, hserved, hvalue, hsome,
          hstep.trans hcache⟩))
    · exact Or.inr (Or.inl ⟨op, rfl, fun q r heq => hop ⟨q, r, heq⟩⟩)

/-- What holds of the cache in every history. -/
structure Sound (s : Service) (h : History) : Prop where
  wellFormed : h.cache.WellFormed
  config_eq : h.cache.config = s.config.cache

/-- **One event** keeps a history sound. -/
theorem Sound.step (hs : h.Sound s) (e : Event) : (h.step s backend e).Sound s := by
  cases e with
  | clock now => exact ⟨hs.wellFormed.of_eq rfl rfl rfl rfl rfl, hs.config_eq⟩
  | call op =>
    have hany := Dialogue.within_any (op.carryOut s)
    constructor
    · exact Dialogue.run_preserves backend hany (fun o c _ hc => PageCache.wellFormed_run o hc)
        hs.wellFormed h.requests
    · exact Dialogue.run_preserves backend (I := fun c => c.config = s.config.cache) hany
        (fun o c _ hc => (PageCache.config_run o).trans hc) hs.config_eq h.requests

/-- The table after an operation that is not a read has nothing new. -/
theorem get?_of_step_of_not_read (hs : h.Sound s) {op : Operation}
    (hop : ∀ q r, op ≠ .read q r) {key : String} {e : Entry}
    (he : (h.step s backend (.call op)).cache.get? key = some e) : h.cache.get? key = some e := by
  -- That nothing is new is carried along together with well-formedness, which every single
  -- operation needs.
  have hkeeps := step_preserves_of_allows (h := h) s backend
    (I := fun c => c.WellFormed ∧ ∀ key e, c.get? key = some e → h.cache.get? key = some e)
    hop (fun o c ho hc => ⟨PageCache.wellFormed_run o hc.1, fun key e he => ?_⟩)
    ⟨hs.wellFormed, fun _ _ he => he⟩
  · exact hkeeps.2 key e he
  · rcases PageCache.get?_run hc.1 o he with hold | ⟨k, units, threshold, rfl, -⟩
    · exact hc.2 key e hold
    · exact absurd ⟨rfl, rfl⟩ (Operation.not_keeps_of_allows ho k units)

/-- The last method source after an operation that is not a read is not a new one. -/
theorem lastMethodSource_of_step_of_not_read {op : Operation} (hop : ∀ q r, op ≠ .read q r)
    {e : Entry} (he : (h.step s backend (.call op)).cache.lastMethodSource = some e) :
    h.cache.lastMethodSource = some e := by
  have hkeeps := step_preserves_of_allows (h := h) s backend
    (I := fun c => ∀ e, c.lastMethodSource = some e → h.cache.lastMethodSource = some e)
    hop (fun o c ho hc e he => ?_) fun _ he => he
  · exact hkeeps e he
  · rcases PageCache.lastMethodSource_run o he with hold | ⟨k, units, rfl, -⟩
    · exact hc e hold
    · exact absurd ⟨rfl, rfl⟩ (Operation.not_keeps_of_allows ho k units)

/-- **The cache of every history is well-formed.** -/
theorem Reachable.sound (hr : h.Reachable s backend) : h.Sound s := by
  obtain ⟨now, events, rfl⟩ := hr
  have hstart : (start s now).Sound s := ⟨PageCache.wellFormed_empty _ _, rfl⟩
  exact after_preserves s backend (fun _ e hs => hs.step e) hstart events

end History

end CodePager
