import CodePager.Proofs.Fetching
import CodePager.Proofs.History

/-! # Independence of the page

A caller chooses a page, and the choice decides two things: whether the backend is asked
(`goesToBackend_iff_sends`), and what part of the result is given. It decides nothing else. Two
reads of the same thing that both ask the backend send the same requests and store the same units,
whatever pages they are for (`reads_alike`). The caches that they leave differ in the misses alone,
because only a read that could have been served searches first; this is `PageCache.Alike`, and every
step of storing keeps it. -/

namespace CodePager

/-! ### Which reads ask the backend -/

/-- A read **goes to the backend**: what it is about has been resolved and no page of it can be
served from the cache. -/
def PagedRead.GoesToBackend (q : PagedRead) (r : PageRequest) (c : PageCache) : Prop :=
  ∃ p, q.plan = .ok p ∧ p.served? r c = none

/-- A read goes to the backend exactly **if it sends something**, given an address to send it to. -/
theorem goesToBackend_iff_sends (s : Service) (backend : List Request → Request → Reply)
    (ha : s.config.backend.isAddressable = true) (q : PagedRead) (r : PageRequest)
    (c : PageCache) (sent : List Request) :
    q.GoesToBackend r c ↔
      sent.length < ((q.start s r).outcome backend c sent).requests.length := by
  rw [outcome_start]
  cases hplan : q.plan with
  | error e => simp [PagedRead.GoesToBackend, hplan]
  | ok p =>
    cases hserved : p.served? r c with
    | some e => simp [PagedRead.GoesToBackend, PagedRead.result, hplan, hserved]
    | none =>
      refine ⟨fun _ => ?_, fun _ => ⟨p, hplan, hserved⟩⟩
      obtain ⟨first, -, hprefix⟩ := Gateway.fetchAll_asks s.config.backend p.identity.route
        p.params backend (r.missed c) sent ha
      have hlength : sent.length <
          ((p.fetch s).outcome backend (r.missed c) sent).requests.length := by
        refine Nat.lt_of_lt_of_le ?_ hprefix.length_le
        rw [List.length_append]
        exact Nat.lt_succ_self _
      simp only [PagedRead.result, hserved]
      cases ((p.fetch s).outcome backend (r.missed c) sent).value with
      | ok payload => exact hlength
      | error e => exact hlength

/-! ### Caches up to their misses

Looking counts a miss, and nothing that a read does afterwards depends on how many there are. -/

/-- Two caches are **alike** if they differ in nothing but the misses that they have counted. -/
def PageCache.Alike (c d : PageCache) : Prop := ∃ n, d = { c with misses := n }

namespace PageCache.Alike

variable {s : Service} {c d : PageCache}

/-- Caches are alike after a miss of one of two reads, of both or of none. -/
theorem missed (r r' : PageRequest) (c : PageCache) : (r.missed c).Alike (r'.missed c) := by
  unfold PageRequest.missed
  split <;> split <;> exact ⟨_, rfl⟩

/-- Keeping the method source keeps caches alike. -/
theorem keep (h : c.Alike d) (q : PagedRead) (key : CacheKey) (shape : Shape) :
    (q.keep key shape c).Alike (q.keep key shape d) := by
  obtain ⟨n, rfl⟩ := h
  cases q with
  | methodSource target =>
    simp only [PagedRead.keep]
    cases shape.units? with
    | some units => exact ⟨n, rfl⟩
    | none => exact ⟨n, rfl⟩
  | plain route | ofClass route target | ofMethod route target | search target
  | resource filename => exact ⟨n, rfl⟩

/-- Dropping a key keeps caches alike. -/
theorem remove (h : c.Alike d) (key : String) : (c.remove key).Alike (d.remove key) := by
  obtain ⟨n, rfl⟩ := h
  have hget : ({ c with misses := n } : PageCache).get? key = c.get? key := rfl
  unfold PageCache.remove
  rw [hget]
  cases c.get? key with
  | none => exact ⟨n, rfl⟩
  | some e => exact ⟨n, rfl⟩

/-- Storing keeps caches alike. -/
theorem storeIfLarge (h : c.Alike d) (key : CacheKey) (units : Units) (threshold : UInt64) :
    (c.storeIfLarge key units threshold).2.Alike (d.storeIfLarge key units threshold).2 := by
  obtain ⟨n, hn⟩ := h.remove key.text
  obtain ⟨m, rfl⟩ := h
  unfold PageCache.storeIfLarge
  split
  · exact ⟨m, rfl⟩
  · refine ⟨n, ?_⟩
    simp only [hn]
    rfl

/-- The page that is asked for has no part in settling. -/
theorem settle (h : c.Alike d) (r r' : PageRequest) (key : CacheKey) (shape : Shape) :
    (s.settle key r shape c).2.Alike (s.settle key r' shape d).2 := by
  cases hlarge : shape.large? s.config.cache.threshold with
  | none =>
    rw [settle_of_not_large hlarge, settle_of_not_large hlarge]
    exact h
  | some units =>
    rw [settle_of_large hlarge, settle_of_large hlarge]
    exact h.storeIfLarge key units s.config.cache.threshold

end PageCache.Alike

/-! ### Main result -/

/-- **The page is not seen by the backend or by the cache.** Two reads of the same thing that both
go to the backend from one state send the same requests, fail in the same way or both succeed, and
leave the same cache but for the misses. -/
theorem reads_alike (s : Service) (backend : List Request → Request → Reply) (c : PageCache)
    (sent : List Request) {q : PagedRead} {r r' : PageRequest} (h : q.GoesToBackend r c)
    (h' : q.GoesToBackend r' c) :
    let one := (q.start s r).outcome backend c sent
    let other := (q.start s r').outcome backend c sent
    one.requests = other.requests ∧
      ((∃ e, one.value = .error e ∧ other.value = .error e) ∨
        ∃ a b, one.value = .ok a ∧ other.value = .ok b) ∧
      ∃ n, other.cache = { one.cache with misses := n } := by
  obtain ⟨p, hplan, hserved⟩ := h
  obtain ⟨p', hplan', hserved'⟩ := h'
  obtain rfl : p = p' := Except.ok.inj (hplan.symm.trans hplan')
  -- Neither fetch depends on the cache, so both are the one from `c`.
  have hfetch : ∀ r : PageRequest, (p.fetch s).outcome backend (r.missed c) sent =
      ⟨((p.fetch s).outcome backend c sent).value, r.missed c,
        ((p.fetch s).outcome backend c sent).requests⟩ :=
    fun r => Gateway.fetchAll_outcome _ _ _ backend (r.missed c) sent c
  have hmissed := PageCache.Alike.missed r r' c
  simp only [outcome_start, hplan, PagedRead.result, hserved, hserved', hfetch]
  cases ((p.fetch s).outcome backend c sent).value with
  | error e => exact ⟨rfl, Or.inl ⟨e, rfl, rfl⟩, hmissed⟩
  | ok payload =>
    exact ⟨rfl, Or.inr ⟨_, _, rfl, rfl⟩, (hmissed.keep q p.key payload.shape).settle r r' _ _⟩

namespace FullCache

/-- A bridge that caches one result, whatever its size. -/
def service : Service := ⟨⟨.default, ⟨1, 1, 1⟩⟩⟩

/-- Its cache, in which another result is held. -/
def cache : PageCache :=
  (PageCache.empty service.config.cache "").insert ⟨.ofRoute .strings, .lines ["x"], 1, ""⟩

/-- A backend that answers with two lines. -/
def backend (_ : List Request) (_ : Request) : Reply := .answer 200 "a\nb".toUTF8.toList

/-- The read of a method source. -/
def source : PagedRead := .methodSource ⟨⟨none, some "C"⟩, none, some "f", none⟩

end FullCache

/-- A later page that is not in a full cache and a fresh page far behind the end: **the same result
is evicted** for either, and only the first is a miss. -/
theorem reads_alike_full_cache :
    let one := (FullCache.source.start FullCache.service ⟨some 2, none, false⟩).outcome
      FullCache.backend FullCache.cache []
    let other := (FullCache.source.start FullCache.service ⟨some 7, some 9, true⟩).outcome
      FullCache.backend FullCache.cache []
    one.cache.misses = 1 ∧ one.cache.evictions = 1 ∧ one.requests.length = 1 ∧
      other.requests = one.requests ∧ other.cache = { one.cache with misses := 0 } := by
  intro one other
  have hseen : one.cache.misses = 1 ∧ one.cache.evictions = 1 ∧ one.requests.length = 1 ∧
      other.cache.misses = 0 := by decide +kernel
  have hgoes : ∀ r : PageRequest, (r = ⟨some 2, none, false⟩ ∨ r = ⟨some 7, some 9, true⟩) →
      FullCache.source.GoesToBackend r FullCache.cache := by
    rintro r (rfl | rfl)
    · exact ⟨_, rfl, rfl⟩
    · exact ⟨_, rfl, rfl⟩
  obtain ⟨hrequests, -, n, hcache⟩ := reads_alike FullCache.service FullCache.backend
    FullCache.cache [] (hgoes _ (Or.inl rfl)) (hgoes _ (Or.inr rfl))
  refine ⟨hseen.1, hseen.2.1, hseen.2.2.1, hrequests.symm, ?_⟩
  obtain rfl : n = 0 := (congrArg PageCache.misses hcache).symm.trans hseen.2.2.2
  exact hcache

end CodePager
