import CodePager.Proofs.Fields
import CodePager.Proofs.Provenance

/-! # Reading method sources

The source of a method is read by a flow of its own, which beside serving, fetching and storing
keeps what it has fetched as the last method source. But for that slot, and for the number that
filling it takes, **it is the ordinary read** of the same route (`methodSource_alike_readMethod`).
Caches are compared without the slot and without numbers (`PageCache.unnumbered`): storing and
evicting look at keys and lengths alone, so they do the same to caches that are the same in this
way. -/

namespace CodePager

/-- A result without the number of its storing. -/
def Entry.unnumbered (e : Entry) : Entry := { e with createdAt := 0 }

namespace PageCache

/-! ### Caches without slot and numbers -/

/-- A cache **without its slot and its numbers**: the table, the order of eviction and the
counters. -/
def unnumbered (c : PageCache) : PageCache :=
  { c with
    entries := c.entries.map fun f => (f.1, f.2.unnumbered)
    order := c.order.map fun o => (0, o.2)
    lastMethodSource := none
    lastSeq := 0 }

/-- Inserting does not go by numbers:
`(c.insert e).unnumbered = c.unnumbered.insert e.unnumbered`. -/
theorem unnumbered_insert (c : PageCache) (e : Entry) :
    (c.insert e).unnumbered = c.unnumbered.insert e.unnumbered := by
  simp only [unnumbered, insert, Fields.map_put, List.map_append, List.map_cons, List.map_nil]
  rfl

/-- Evicting goes by keys and by the length of the table. -/
theorem evictOldest_unnumbered (capacity : Nat) (order : List (Nat × String))
    (entries : List (String × Entry)) (evicted : Nat) :
    evictOldest capacity (order.map fun o => (0, o.2))
        (entries.map fun f => (f.1, f.2.unnumbered)) evicted =
      ((evictOldest capacity order entries evicted).1.map fun o => (0, o.2),
        (evictOldest capacity order entries evicted).2.1.map fun f => (f.1, f.2.unnumbered),
        (evictOldest capacity order entries evicted).2.2) := by
  induction order generalizing entries evicted with
  | nil => rfl
  | cons oldest rest ih =>
    simp only [List.map_cons, evictOldest, List.length_map]
    split
    · rw [← Fields.map_erase, ih]
    · rfl

/-- Trimming does not go by numbers: `c.trim.unnumbered = c.unnumbered.trim`. -/
theorem unnumbered_trim (c : PageCache) : c.trim.unnumbered = c.unnumbered.trim := by
  simp only [unnumbered, trim, evictOldest_unnumbered]

/-! ### Caches that differ in the slot -/

/-- A cache **differs from another in the slot** alone, and in the last number that was given. -/
def DiffersInSlot (c d : PageCache) : Prop :=
  ∃ slot n, d = { c with lastMethodSource := slot, lastSeq := n }

namespace DiffersInSlot

variable {c d : PageCache}

/-- A cache differs in nothing from itself. -/
theorem refl (c : PageCache) : c.DiffersInSlot c := ⟨c.lastMethodSource, c.lastSeq, rfl⟩

/-- Caches that differ in the slot alone are **the same without it**. -/
theorem unnumbered_eq (h : c.DiffersInSlot d) : d.unnumbered = c.unnumbered := by
  obtain ⟨slot, n, rfl⟩ := h
  rfl

/-- Dropping a key makes no other difference than the slot. -/
theorem remove (h : c.DiffersInSlot d) (key : String) :
    (c.remove key).DiffersInSlot (d.remove key) := by
  obtain ⟨slot, n, rfl⟩ := h
  have hget : ({ c with lastMethodSource := slot, lastSeq := n } : PageCache).get? key =
      c.get? key := rfl
  unfold PageCache.remove
  rw [hget]
  cases c.get? key with
  | none => exact ⟨slot, n, rfl⟩
  | some e => exact ⟨slot, n, rfl⟩

/-- A new result is the same but for its number. -/
theorem newEntry (h : c.DiffersInSlot d) (key : CacheKey) (units : Units) :
    (d.newEntry key units).unnumbered = (c.newEntry key units).unnumbered := by
  obtain ⟨slot, n, rfl⟩ := h
  rfl

/-- What is stored gets another number, and **nothing else is different afterwards**. -/
theorem storeIfLarge (h : c.DiffersInSlot d) (key : CacheKey) (units : Units)
    (threshold : UInt64) :
    (d.storeIfLarge key units threshold).2.unnumbered =
      (c.storeIfLarge key units threshold).2.unnumbered := by
  by_cases hsmall : units.length < threshold.toNat
  · simp only [PageCache.storeIfLarge, hsmall, if_true]
    exact h.unnumbered_eq
  · simp only [PageCache.storeIfLarge, hsmall, if_false]
    rw [unnumbered_trim, unnumbered_trim, unnumbered_insert, unnumbered_insert,
      (h.remove key.text).unnumbered_eq, h.newEntry]

/-- The page that is given does not depend on the slot, nor on the number of what was stored. -/
theorem settle (h : c.DiffersInSlot d) (s : Service) (key : CacheKey) (r : PageRequest)
    (shape : Shape) :
    (s.settle key r shape d).1 = (s.settle key r shape c).1 ∧
      (s.settle key r shape d).2.unnumbered = (s.settle key r shape c).2.unnumbered := by
  unfold Service.settle
  cases shape.units? with
  | none => exact ⟨rfl, h.unnumbered_eq⟩
  | some units =>
    have hunits := h.storeIfLarge key units s.config.cache.threshold
    by_cases hsmall : units.length < s.config.cache.threshold.toNat
    · simp only [PageCache.storeIfLarge, hsmall, if_true]
      exact ⟨trivial, h.unnumbered_eq⟩
    · simp only [PageCache.storeIfLarge, hsmall, if_false] at hunits ⊢
      refine ⟨?_, hunits⟩
      obtain ⟨slot, n, rfl⟩ := h
      rfl

/-- Keeping a method source changes the slot and takes a number. -/
theorem keep (q : PagedRead) (key : CacheKey) (shape : Shape) (c : PageCache) :
    c.DiffersInSlot (q.keep key shape c) := by
  cases q with
  | methodSource target =>
    simp only [PagedRead.keep]
    cases shape.units? with
    | some units => exact ⟨some (c.newEntry key units), c.lastSeq + 1, rfl⟩
    | none => exact ⟨none, c.lastSeq, rfl⟩
  | plain route | ofClass route target | ofMethod route target | search target
  | resource filename => exact refl c

end DiffersInSlot

/-- What is kept of a method source is all that can be paged of it. -/
theorem lastMethodSource_keep (target : MethodTarget) (key : CacheKey) (shape : Shape)
    (c : PageCache) :
    ((PagedRead.methodSource target).keep key shape c).lastMethodSource.map Entry.units =
      shape.units? := by
  simp only [PagedRead.keep]
  cases shape.units? with
  | some units => rfl
  | none => rfl

end PageCache

/-! ### Main result -/

/-- **Reading a method source is the ordinary read** of its route. From any state of the cache and
with any backend, the two send the same requests, fail alike or give the same page or payload with
the same names, and leave the same table with the same order of eviction and the same counters; they
differ in the slot and in numbers. The ordinary read leaves the slot as it was, and the other puts
into it what it has fetched, or nothing if that cannot be paged. -/
theorem methodSource_alike_readMethod (s : Service) (backend : List Request → Request → Reply)
    (target : MethodTarget) (r : PageRequest) (c : PageCache) (sent : List Request) :
    let source := (s.methodSource target r).outcome backend c sent
    let read := (s.readMethod .methodSource target r).outcome backend c sent
    source.requests = read.requests ∧ source.value = read.value ∧
      source.cache.unnumbered = read.cache.unnumbered ∧
      read.cache.lastMethodSource = c.lastMethodSource ∧
      ∀ p payload, (PagedRead.methodSource target).plan = .ok p → p.served? r c = none →
        ((p.fetch s).outcome backend c sent).value = .ok payload →
        source.cache.lastMethodSource.map Entry.units = payload.shape.units? := by
  intro source read
  have hsource : source = _ := outcome_start s backend r c sent (.methodSource target)
  have hread : read = _ := outcome_start s backend r c sent (.ofMethod .methodSource target)
  rw [hsource, hread]
  -- Both have the plan of a read about a member of a class.
  have hplans : (PagedRead.ofMethod .methodSource target).plan =
      (PagedRead.methodSource target).plan := rfl
  rw [hplans]
  cases hplan : (PagedRead.methodSource target).plan with
  | error e => exact ⟨rfl, rfl, rfl, rfl, fun p payload hp => by cases hp⟩
  | ok p =>
    simp only [PagedRead.result]
    cases hserved : p.served? r c with
    | some e =>
      refine ⟨rfl, rfl, rfl, rfl, fun p' payload hp hnone => ?_⟩
      obtain rfl := Except.ok.inj hp
      rw [hserved] at hnone
      cases hnone
    | none =>
      have hmissed := History.lastMethodSource_missed r c
      -- A miss is counted, which the backend cannot tell.
      have hfetched : ((p.fetch s).outcome backend (r.missed c) sent).value =
          ((p.fetch s).outcome backend c sent).value := History.fetch_value_missed p r c sent
      cases hvalue : ((p.fetch s).outcome backend (r.missed c) sent).value with
      | error e =>
        refine ⟨rfl, rfl, rfl, hmissed, fun p' payload hp _ hfetch => ?_⟩
        obtain rfl := Except.ok.inj hp
        rw [← hfetched, hvalue] at hfetch
        cases hfetch
      | ok payload =>
        have hkept := PageCache.DiffersInSlot.keep (.methodSource target) p.key payload.shape
          (r.missed c)
        obtain ⟨hfirst, hsecond⟩ := hkept.settle s p.key r payload.shape
        refine ⟨rfl, ?_, hsecond, ?_, ?_⟩
        · exact congrArg (fun outcome => Except.ok (ReadResult.mk outcome p.foundBy)) hfirst
        · exact (History.lastMethodSource_settle p.key r payload.shape _).trans hmissed
        · intro p' payload' hp _ hfetch
          obtain rfl := Except.ok.inj hp
          rw [← hfetched, hvalue] at hfetch
          obtain rfl := Except.ok.inj hfetch
          rw [History.lastMethodSource_settle]
          exact PageCache.lastMethodSource_keep target p.key payload.shape (r.missed c)

end CodePager
