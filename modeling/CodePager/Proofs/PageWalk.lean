import CodePager.Proofs.Eviction
import CodePager.Proofs.History

/-! # Walking through the pages of a result

A large result that has been read once can be paged through from the table: what is cached under its
key stays there until it is cleared, read anew, or **pushed out by as many younger keys as the table
has room for** (`holds_step`). `page_walk` puts this together with the tiling of a result by its
pages. -/

namespace CodePager

/-! ### What is held under a key -/

/-- The table holds units under a key, and whatever has been stored after them is under one of the
keys in `since`. -/
def Holds (key : CacheKey) (units : Units) (since : Finset String) (c : PageCache) : Prop :=
  ∃ e, c.get? key.text = some e ∧ e.units = units ∧
    ∀ other e', c.get? other = some e' → e.createdAt < e'.createdAt → other ∈ since

namespace Holds

variable {key : CacheKey} {units : Units} {since since' : Finset String} {c c' : PageCache}

/-- What may have been stored after the units may be more: `Holds` is monotone in `since`. -/
theorem mono (hh : Holds key units since c) (hsub : since ⊆ since') :
    Holds key units since' c := by
  obtain ⟨e, he, hunits, hyounger⟩ := hh
  exact ⟨e, he, hunits, fun other e' he' hlt => hsub (hyounger other e' he' hlt)⟩

/-- What is held stays held when only other keys lose their results. -/
theorem of_get? (hh : Holds key units since c) (hkey : c'.get? key.text = c.get? key.text)
    (hother : ∀ other e, c'.get? other = some e → c.get? other = some e) :
    Holds key units since c' := by
  obtain ⟨e, he, hunits, hyounger⟩ := hh
  exact ⟨e, hkey.trans he, hunits, fun other e' he' => hyounger other e' (hother other e' he')⟩

/-- What is held is a result whose younger ones are under the keys in `since`. -/
theorem iff_youngerThan (h : c.Consistent) :
    Holds key units since c ↔
      ∃ e, c.get? key.text = some e ∧ e.units = units ∧ c.youngerThan e ⊆ since := by
  constructor
  · rintro ⟨e, he, hunits, hyounger⟩
    refine ⟨e, he, hunits, fun other hother => ?_⟩
    obtain ⟨e', he', hlt⟩ := h.mem_youngerThan.mp hother
    exact hyounger other e' he' hlt
  · rintro ⟨e, he, hunits, hsub⟩
    exact ⟨e, he, hunits, fun other e' he' hlt => hsub (h.mem_youngerThan.mpr ⟨e', he', hlt⟩)⟩

/-- A large result that is stored is held, and nothing is younger. -/
theorem of_storeIfLarge (h : c.WellFormed) {threshold : UInt64}
    (hlarge : threshold.toNat ≤ units.length) (hroom : 0 < c.config.maxEntries.toNat) :
    Holds key units ∅ (c.storeIfLarge key units threshold).2 := by
  have hstored := h.livesBeside_newEntry (k := key) hlarge
  have hconfig := PageCache.config_run (c := c) (.store key units threshold)
  obtain ⟨hlive, hyounger⟩ := hstored.lives (hconfig ▸ hroom)
  rw [iff_youngerThan (h.storeIfLarge key units threshold).toConsistent]
  exact ⟨_, hlive, rfl, Finset.subset_of_eq hyounger⟩

/-- What is held stays held when **another key** is stored and there is room. -/
theorem storeIfLarge (h : c.WellFormed) (hh : Holds key units since c) {other : CacheKey}
    (hne : other.text ≠ key.text) (new : Units) {threshold : UInt64}
    (hlarge : threshold.toNat ≤ new.length)
    (hroom : (insert other.text since).card < c.config.maxEntries.toNat) :
    Holds key units (insert other.text since) (c.storeIfLarge other new threshold).2 := by
  obtain ⟨e, he, rfl, hsub⟩ := (iff_youngerThan h.toConsistent).mp hh
  have hstores : ¬ CacheOp.Stores key.text (.store other new threshold) := fun hs => hne hs.1
  have hlives := h.livesBeside_run he hstores id
  have hconfig := PageCache.config_run (c := c) (.store other new threshold)
  rw [CacheOp.run, CacheOp.tally, if_pos hlarge] at hlives
  have hinsert := Finset.insert_subset_insert other.text hsub
  have hless := Nat.lt_of_le_of_lt (Finset.card_le_card hinsert) hroom
  obtain ⟨hlive, hyounger⟩ := hlives.lives (hconfig ▸ hless)
  rw [iff_youngerThan (h.storeIfLarge other new threshold).toConsistent]
  exact ⟨e, hlive, rfl, (Finset.subset_of_eq hyounger).trans hinsert⟩

end Holds

/-! ### What may happen in between -/

/-- An event **leaves a key alone**: it neither clears what is cached under it, nor changes the
project, nor reads anew under it. -/
def Event.Spares (key : String) : Event → Prop
  | .clock _ => True
  | .call (.read q r) => ∀ p, q.plan = .ok p → p.key.text = key → r.wantsFresh = false
  | .call (.clear (some k)) => k ≠ key
  | .call (.clear none) => False
  | .call (.mutate _ _) => False
  | .call _ => True

/-- The keys under which large payloads have been fetched. -/
def Fetch.largeKeys (threshold : UInt64) (fetches : List Fetch) : Finset String :=
  (fetches.filterMap fun f => (f.shape.large? threshold).map fun _ => f.key).toFinset

/-- The large keys of two runs of fetches are **those of either**. -/
theorem Fetch.largeKeys_append (threshold : UInt64) (fetches more : List Fetch) :
    largeKeys threshold (fetches ++ more) =
      largeKeys threshold fetches ∪ largeKeys threshold more := by
  rw [largeKeys, List.filterMap_append, List.toFinset_append]
  rfl

/-- A fetch of a large payload adds its key to those that were stored before. -/
theorem Fetch.largeKeys_of_large {f : Fetch} {threshold : UInt64} {units : Units}
    (h : f.shape.large? threshold = some units) (since : Finset String) :
    largeKeys threshold [f] ∪ since = insert f.key since := by
  simp [largeKeys, h]

namespace History

variable (s : Service) (backend : List Request → Request → Reply) {h : History}

/-- What an event fetches. -/
def fetchedBy (h : History) : Event → List Fetch
  | .call op => (h.fetched? s backend op).toList
  | .clock _ => []

/-- What events fetch that follow each other. -/
def fetchedDuring (h : History) : List Event → List Fetch
  | [] => []
  | e :: events => h.fetchedBy s backend e ++ (h.step s backend e).fetchedDuring events

variable {s backend} {key : CacheKey} {units : Units} {since : Finset String}

/-- An operation that is not a read and leaves a key alone leaves what is held. -/
theorem holds_of_allows {op : Operation} (hspares : (Event.call op).Spares key.text)
    {o : CacheOp} (ho : op.allows o) {c : PageCache} (hh : Holds key units since c) :
    Holds key units since (o.run c).2 := by
  rcases Operation.cases_of_allows ho with hl | ⟨k, rfl, rfl⟩ | ⟨rfl | ⟨route, params, rfl⟩, rfl⟩
  · refine hh.of_get? (PageCache.get?_of_looks hl key.text) fun other _ he => ?_
    exact (PageCache.get?_of_looks hl other).symm.trans he
  · refine hh.of_get? ?_ fun other e he => ?_
    · exact (PageCache.get?_invalidate k key.text).trans (if_neg hspares.symm)
    · have he := (PageCache.get?_invalidate k other).symm.trans he
      split at he
      · cases he
      · exact he
  · exact hspares.elim
  · exact hspares.elim

/-- A read does not fetch under a key that is held, unless it wants a fresh result. -/
theorem key_ne_of_served? (hh : Holds key units since h.cache) {q : PagedRead} {p : ReadPlan}
    {r : PageRequest} (hplan : q.plan = .ok p) (hspares : (Event.call (.read q r)).Spares key.text)
    (hserved : p.served? r h.cache = none) : p.key.text ≠ key.text := by
  intro heq
  obtain ⟨e, he, -⟩ := hh
  have hfresh := hspares p hplan heq
  rw [ReadPlan.served?, hfresh, heq, he] at hserved
  cases hserved

/-- **One event** that leaves a key alone keeps what is held under it, while there is room, and
fetches nothing under it. -/
theorem holds_step (hs : h.Sound s) (hh : Holds key units since h.cache) {e : Event}
    (hspares : e.Spares key.text)
    (hroom : (Fetch.largeKeys s.config.cache.threshold (h.fetchedBy s backend e) ∪ since).card <
      s.config.cache.maxEntries.toNat) :
    Holds key units (Fetch.largeKeys s.config.cache.threshold (h.fetchedBy s backend e) ∪ since)
        (h.step s backend e).cache ∧
      ∀ f ∈ h.fetchedBy s backend e, f.key ≠ key.text := by
  have hsub : since ⊆
      Fetch.largeKeys s.config.cache.threshold (h.fetchedBy s backend e) ∪ since :=
    Finset.subset_union_right
  -- Reads are the only operations that store; they store at most what they have just fetched.
  rcases step_cases s backend h e with
    ⟨now, rfl⟩ | ⟨op, rfl, hop⟩ | ⟨q, r, rfl, hnone, hget, -⟩ |
      ⟨q, r, p, payload, rfl, hplan, hserved, -, hsome, hcache⟩
  · exact ⟨hh.mono hsub, by simp [fetchedBy]⟩
  · refine ⟨Holds.mono ?_ hsub, by simp [fetchedBy, fetched?_of_not_read hop]⟩
    exact step_preserves_of_allows s backend hop (fun o c ho => holds_of_allows hspares ho) hh
  · refine ⟨Holds.mono ?_ hsub, by simp [fetchedBy, hnone]⟩
    exact hh.of_get? (hget key.text) fun other e he => (hget other).symm.trans he
  · -- A read that fetches does so under another key: under this one it would have been served.
    have hne := key_ne_of_served? hh hplan hspares hserved
    have hfetched : h.fetchedBy s backend (.call (.read q r)) =
        [⟨p.key.text, payload.shape⟩] := by
      simp [fetchedBy, hsome]
    rw [hfetched] at hroom hsub ⊢
    rw [hcache]
    have hget : ∀ k, (q.keep p.key payload.shape (r.missed h.cache)).get? k = h.cache.get? k :=
      fun k => (get?_keep q p.key payload.shape k).trans (get?_missed r k)
    have hkept : Holds key units since (q.keep p.key payload.shape (r.missed h.cache)) :=
      hh.of_get? (hget key.text) fun other e he => (hget other).symm.trans he
    have hwf := wellFormed_keep q p.key payload.shape (wellFormed_missed r hs.wellFormed)
    refine ⟨?_, by simpa using hne⟩
    cases hlarge : payload.shape.large? s.config.cache.threshold with
    | none =>
      rw [settle_of_not_large hlarge]
      exact hkept.mono hsub
    | some new =>
      obtain ⟨-, hle⟩ := Shape.large?_eq_some_iff.mp hlarge
      rw [Fetch.largeKeys_of_large hlarge] at hroom ⊢
      have hconfig : (q.keep p.key payload.shape (r.missed h.cache)).config = h.cache.config :=
        (config_keep q p.key payload.shape).trans (config_missed r)
      rw [settle_of_large hlarge]
      refine hkept.storeIfLarge hwf hne new hle ?_
      rwa [hconfig, hs.config_eq]

/-- **Any events** that leave a key alone keep what is held under it, while there is room, and fetch
nothing under it. -/
theorem holds_after (hs : h.Sound s) (hh : Holds key units since h.cache) {events : List Event}
    (hspares : ∀ e ∈ events, e.Spares key.text)
    (hroom : (Fetch.largeKeys s.config.cache.threshold (h.fetchedDuring s backend events) ∪
      since).card < s.config.cache.maxEntries.toNat) :
    (∃ since, Holds key units since (h.after s backend events).cache) ∧
      ∀ f ∈ h.fetchedDuring s backend events, f.key ≠ key.text := by
  induction events generalizing h since with
  | nil => exact ⟨⟨since, hh⟩, by simp [fetchedDuring]⟩
  | cons e events ih =>
    -- The keys of the first event join `since`, and the later ones are counted on top of them.
    rw [fetchedDuring, Fetch.largeKeys_append, Finset.union_assoc,
      Finset.union_left_comm] at hroom
    have hfits := Nat.lt_of_le_of_lt (Finset.card_le_card Finset.subset_union_right) hroom
    obtain ⟨hstep, hother⟩ := holds_step hs hh (hspares e List.mem_cons_self) hfits
    obtain ⟨hafter, hothers⟩ :=
      ih (hs.step e) hstep (fun e' he' => hspares e' (List.mem_cons_of_mem e he')) hroom
    refine ⟨hafter, fun f hf => ?_⟩
    rcases List.mem_append.mp hf with hf | hf
    · exact hother f hf
    · exact hothers f hf

/-- **Every page is served**: units are given page by page, to reads under their key that need not
be fresh and to those who ask for a page of a cached result, and nothing is sent for it. -/
structure Serving (s : Service) (backend : List Request → Request → Reply) (key : CacheKey)
    (units : Units) (h : History) : Prop where
  read : ∀ (q : PagedRead) (p : ReadPlan) (r : PageRequest), q.plan = .ok p → p.key = key →
    r.wantsFresh = false → ∃ cache,
      (q.start s r).outcome backend h.cache h.requests =
        ⟨.ok ⟨.paged (units.page key r.number (r.sizeOr s.defaultPageSize)), p.foundBy⟩, cache,
          h.requests⟩
  cachedPage : ∀ index size : Int64, 1 ≤ index → 1 ≤ size → ∃ cache,
    (s.cachedPage key.text (some index) (some size)).outcome backend h.cache h.requests =
      ⟨.ok (units.page key index.toUInt64 size.toUInt64), cache, h.requests⟩

/-- What is held is served. -/
theorem serving_of_holds (hs : h.Sound s) (hh : Holds key units since h.cache) :
    h.Serving s backend key units := by
  obtain ⟨e, he, rfl, -⟩ := hh
  have hkey := hs.wellFormed.key_eq_of_get? he
  constructor
  · rintro q p r hplan rfl hfresh
    exact ⟨h.cache.count true, outcome_start_of_get? hplan hfresh he hkey⟩
  · intro index size hindex hsize
    have hi := positive?_of_le "page_index" hindex
    have hz := positive?_of_le "page_size" hsize
    refine ⟨h.cache.count true, outcome_cachedPage_of_get? hi hz ?_ he hkey⟩
    exact validatePage_of_positive? hi hz fun hnone => nomatch hnone

end History

/-! ### The first read -/

/-- A configuration that has been validated holds no zero. -/
theorem Config.pos_of_mem_counts {config : Config} (h : config.validate = .ok config)
    {name : String} {n : Nat} (hn : (name, n) ∈ config.counts) : 0 < n := by
  unfold validate at h
  split at h
  · cases h
  · rename_i hnone
    have hzero := List.find?_eq_none.mp hnone (name, n) hn
    rw [beq_iff_eq] at hzero
    exact Nat.pos_of_ne_zero hzero

/-- A configuration that has been validated has a threshold and room for a result. -/
theorem Config.pos_of_validate {config : Config} (h : config.validate = .ok config) :
    0 < config.cache.threshold.toNat ∧ 0 < config.cache.maxEntries.toNat := by
  have hthreshold : ("cache_threshold", config.cache.threshold.toNat) ∈ config.counts := by
    simp [counts]
  have hentries : ("cache_capacity", config.cache.maxEntries.toNat) ∈ config.counts := by
    simp [counts]
  exact ⟨pos_of_mem_counts h hthreshold, pos_of_mem_counts h hentries⟩

section First

variable {s : Service} {key : CacheKey} {r : PageRequest} {shape : Shape} {units : Units}
  {c : PageCache}

/-- **Below the threshold** a payload is answered inline, as it is, with the number of its units. -/
theorem settle_fst_of_lt (hunits : shape.units? = some units)
    (hsmall : units.length < s.config.cache.threshold.toNat) :
    (s.settle key r shape c).1 =
      .inline (some (units.length, units.kind)) shape.toJson := by
  rw [Service.settle, hunits, ← Shape.content_toJson_of_units? hunits]
  simp only [PageCache.storeIfLarge_of_lt key units hsmall]

/-- **From the threshold on** a payload is answered with the page that was asked for. -/
theorem settle_fst_of_le (hc : c.WellFormed) (hunits : shape.units? = some units)
    (hlarge : s.config.cache.threshold.toNat ≤ units.length) :
    (s.settle key r shape c).1 =
      .paged (units.page key r.number (r.sizeOr s.defaultPageSize)) := by
  rw [Service.settle, hunits]
  simp only [PageCache.storeIfLarge_of_le key units hc hlarge]
  rfl

/-- A fresh read fetches and settles what it has fetched. -/
theorem outcome_start_of_fresh {backend : List Request → Request → Reply} {sent : List Request}
    {q : PagedRead} {p : ReadPlan} {payload : Payload} (hplan : q.plan = .ok p)
    (hfresh : r.wantsFresh = true)
    (hfetch : ((p.fetch s).outcome backend c sent).value = .ok payload) :
    ((q.start s r).outcome backend c sent).value =
        .ok ⟨(s.settle p.key r payload.shape (q.keep p.key payload.shape c)).1, p.foundBy⟩ ∧
      ((q.start s r).outcome backend c sent).cache =
        (s.settle p.key r payload.shape (q.keep p.key payload.shape c)).2 := by
  have hserved : p.served? r c = none := by rw [ReadPlan.served?, if_pos hfresh]
  have hmissed : r.missed c = c := by rw [PageRequest.missed, if_pos hfresh]
  rw [outcome_start, hplan]
  simp only [PagedRead.result, hserved, hmissed, hfetch]
  exact ⟨trivial, trivial⟩

end First

/-! ### Main results -/

/-- **Walking through a result.** The first page of a result that has few units is all of it.
Otherwise the pages tile the units of the result, whose content `payload.shape.toJson` is all of it,
and after the first has been read each of them is served as often as it is asked for, whatever
happens in between, as long as what happens leaves the key alone and brings fewer large results of
other keys than the table has room for. Nothing more is fetched under the key. -/
theorem page_walk {s : Service} {backend : List Request → Request → Reply} {h : History}
    (hr : h.Reachable s backend) (hconfig : s.config.validate = .ok s.config) {q : PagedRead}
    {p : ReadPlan} (hplan : q.plan = .ok p) {r : PageRequest} (hfirst : r.number = 1)
    (hsize : 0 < (r.sizeOr s.defaultPageSize).toNat) {payload : Payload}
    (hfetch : ((p.fetch s).outcome backend h.cache h.requests).value = .ok payload) {units : Units}
    (hunits : payload.shape.units? = some units) (hn : units.length ≤ maxCount) :
    let size := r.sizeOr s.defaultPageSize
    let first := ((q.start s r).outcome backend h.cache h.requests).value
    let next := h.step s backend (.call (.read q r))
    (units.length < s.config.cache.threshold.toNat →
      first = .ok ⟨.inline (some (units.length, units.kind)) payload.shape.toJson, p.foundBy⟩) ∧
    (s.config.cache.threshold.toNat ≤ units.length →
      first = .ok ⟨.paged (units.page p.key 1 size), p.foundBy⟩ ∧
      Tiling units
        (units.pages p.key size ((units.length + size.toNat - 1) / size.toNat)) ∧
      units.content.toJson = payload.shape.toJson ∧
      ∀ events, (∀ e ∈ events, e.Spares p.key.text) →
        (Fetch.largeKeys s.config.cache.threshold (next.fetchedDuring s backend events)).card <
          s.config.cache.maxEntries.toNat →
        (next.after s backend events).Serving s backend p.key units ∧
          ∀ f ∈ next.fetchedDuring s backend events, f.key ≠ p.key.text) := by
  intro size first next
  have hs := hr.sound
  obtain ⟨hthreshold, hentries⟩ := Config.pos_of_validate hconfig
  have hfresh : r.wantsFresh = true := by simp [PageRequest.wantsFresh, hfirst]
  obtain ⟨hvalue, hcache⟩ := outcome_start_of_fresh hplan hfresh hfetch
  have hwf := wellFormed_keep q p.key payload.shape hs.wellFormed
  refine ⟨fun hsmall => ?_, fun hlarge =>
    ⟨?_, ?_, Shape.content_toJson_of_units? hunits, fun events hspares hroom => ?_⟩⟩
  · exact hvalue.trans (by rw [settle_fst_of_lt hunits hsmall])
  · exact hvalue.trans (by rw [settle_fst_of_le hwf hunits hlarge, hfirst])
  · rw [← pageCount_eq_div hsize]
    exact Units.tiling_pages hn p.key size (Nat.lt_of_lt_of_le hthreshold hlarge) hsize
  · -- The first read starts the walk: its result is held and nothing is younger.
    have hheld : Holds p.key units ∅ next.cache := by
      rw [History.step_read_cache, hcache, settle_of_large (Shape.large?_eq_some_iff.mpr
        ⟨hunits, hlarge⟩)]
      refine Holds.of_storeIfLarge hwf hlarge ?_
      rw [config_keep, hs.config_eq]
      exact hentries
    obtain ⟨⟨since, hstill⟩, hothers⟩ :=
      History.holds_after (hs.step _) hheld hspares (by rwa [Finset.union_empty])
    exact ⟨History.serving_of_holds (hr.after (.call (.read q r) :: events)).sound hstill, hothers⟩

namespace ThreeLines

/-- A bridge that caches two results, from two units on. -/
def service : Service := ⟨⟨.default, ⟨2, 2, 1⟩⟩⟩

/-- A backend that always gives three lines. -/
def backend (_ : List Request) (_ : Request) : Reply := .answer 200 "a\nb\nc".toUTF8.toList

/-- The read of the first page of all strings, in pages of two. -/
def strings : ReadPlan := ⟨⟨.strings, none, none, none, none⟩, .empty, .ofRoute .strings, none⟩

/-- The history in which the strings have been read. -/
def history : History :=
  (History.start service "").step service backend
    (.call (.read (.plain .strings) ⟨none, some 2, false⟩))

/-- The manifest is read, which is as large. -/
def between : List Event := [.call (.read (.plain .manifest) ⟨none, none, false⟩)]

/-- Reading the manifest leaves the strings alone. -/
theorem spares_between : ∀ e ∈ between, e.Spares strings.key.text := by
  intro e he
  obtain rfl := List.mem_singleton.mp he
  intro p hp hkey
  obtain rfl := Except.ok.inj hp
  exact absurd hkey (by decide)

end ThreeLines

/-- The second page of three lines is still served after **another large result** has been read. -/
theorem page_walk_three_lines :
    ∃ units, units.length = 3 ∧
      (ThreeLines.history.after ThreeLines.service ThreeLines.backend ThreeLines.between).Serving
        ThreeLines.service ThreeLines.backend ThreeLines.strings.key units := by
  have hthree : ((ThreeLines.strings.fetch ThreeLines.service).outcome ThreeLines.backend
      (History.start ThreeLines.service "").cache []).value.toOption.bind
        (fun payload => payload.shape.units?.map Units.length) = some 3 := by decide +kernel
  obtain ⟨payload, hpayload, hunits⟩ := Option.bind_eq_some_iff.mp hthree
  obtain ⟨units, hunits, hlength⟩ := Option.map_eq_some_iff.mp hunits
  have hwalk := page_walk (h := History.start ThreeLines.service "") (q := .plain .strings)
    (r := ⟨none, some 2, false⟩) ⟨"", [], rfl⟩ rfl (p := ThreeLines.strings) rfl rfl (by decide)
    (eq_ok_of_toOption hpayload) hunits (hlength ▸ by decide)
  obtain ⟨-, -, -, hserving⟩ := hwalk.2 (hlength ▸ by decide)
  exact ⟨units, hlength,
    (hserving ThreeLines.between ThreeLines.spares_between (by decide +kernel)).1⟩

end CodePager
