import CodePager.Proofs.History

/-! # Freshness of cached pages

Which fetch a page from the table comes from. A fetch is stored if it is large, and a smaller one
leaves the table as it was, so what is served under a key comes from the **most recent large fetch**
under it (`Traced`). That is the most recent fetch exactly when this one was large
(`served_page_of_last_fetch_iff`). -/

namespace CodePager

/-! ### What was fetched last -/

namespace Fetch

variable {threshold : UInt64} {fetches : List Fetch} {key : String}

/-- The payload of the **most recent fetch** under a key. -/
def last? (fetches : List Fetch) (key : String) : Option Shape :=
  fetches.findSome? fun f => if f.key = key then some f.shape else none

/-- The units of the **most recent large fetch** under a key. -/
def lastLarge? (threshold : UInt64) (fetches : List Fetch) (key : String) : Option Units :=
  fetches.findSome? fun f => if f.key = key then f.shape.large? threshold else none

/-- The newest fetch is the last one of its key. -/
theorem last?_cons (f : Fetch) (fetches : List Fetch) (key : String) :
    last? (f :: fetches) key = if f.key = key then some f.shape else last? fetches key := by
  by_cases hf : f.key = key <;> simp [last?, hf]

/-- The newest fetch is the last large one of its key **if it is large**, and leaves the others as
they are. -/
theorem lastLarge?_cons (f : Fetch) (fetches : List Fetch) (key : String) :
    lastLarge? threshold (f :: fetches) key =
      if f.key = key then (f.shape.large? threshold).or (lastLarge? threshold fetches key)
      else lastLarge? threshold fetches key := by
  by_cases hf : f.key = key
  · simp only [lastLarge?, List.findSome?_cons, hf, if_true]
    cases f.shape.large? threshold <;> rfl
  · simp [lastLarge?, hf]

/-- A large fetch that is the last one is the last large one. -/
theorem lastLarge?_of_last? {shape : Shape} {units : Units} (hlast : last? fetches key = some shape)
    (hlarge : shape.large? threshold = some units) :
    lastLarge? threshold fetches key = some units := by
  induction fetches with
  | nil => cases hlast
  | cons f fetches ih =>
    rw [last?_cons] at hlast
    rw [lastLarge?_cons]
    split
    · rename_i hf
      rw [if_pos hf] at hlast
      rw [Option.some.inj hlast, hlarge, Option.some_or]
    · rename_i hf
      rw [if_neg hf] at hlast
      exact ih hlast

/-- A key with a large fetch has a last one. -/
theorem exists_last? {units : Units} (hlarge : lastLarge? threshold fetches key = some units) :
    ∃ shape, last? fetches key = some shape := by
  induction fetches with
  | nil => cases hlarge
  | cons f fetches ih =>
    rw [lastLarge?_cons] at hlarge
    rw [last?_cons]
    split
    · exact ⟨_, rfl⟩
    · rename_i hf
      rw [if_neg hf] at hlarge
      exact ih hlarge

/-- The last large fetch has been large. -/
theorem le_length_of_lastLarge? {units : Units}
    (hlarge : lastLarge? threshold fetches key = some units) :
    threshold.toNat ≤ units.length := by
  obtain ⟨f, -, hf⟩ := List.exists_of_findSome?_eq_some hlarge
  split at hf
  · exact (Shape.large?_eq_some_iff.mp hf).2
  · cases hf

end Fetch

/-! ### The invariant -/

/-- Every entry of the table holds the most recent large fetch under its key. -/
def Traced (s : Service) (fetches : List Fetch) (c : PageCache) : Prop :=
  ∀ key e, c.get? key = some e →
    Fetch.lastLarge? s.config.cache.threshold fetches key = some e.units

/-- Settling a fetch **keeps the table traced**: a large one is the only entry under its key, a
smaller one is not the last large one. -/
theorem Traced.settle {s : Service} {fetches : List Fetch} {c : PageCache}
    (ht : Traced s fetches c) (hc : c.WellFormed) (key : CacheKey) (r : PageRequest)
    (shape : Shape) :
    Traced s (⟨key.text, shape⟩ :: fetches) (s.settle key r shape c).2 := by
  intro k e he
  rw [Fetch.lastLarge?_cons]
  -- A small fetch changes neither the table nor which large fetch was last; a large one replaces
  -- what its key had, and no other key is touched.
  cases hlarge : shape.large? s.config.cache.threshold with
  | none =>
    rw [settle_of_not_large hlarge] at he
    rw [Option.none_or, ite_self]
    exact ht k e he
  | some units =>
    obtain ⟨-, hle⟩ := Shape.large?_eq_some_iff.mp hlarge
    rw [settle_of_large hlarge] at he
    rcases PageCache.get?_storeIfLarge_of_le key units hc hle he with ⟨rfl, rfl⟩ | ⟨hne, hold⟩
    · rw [if_pos rfl, Option.some_or]
      rfl
    · rw [if_neg (Ne.symm hne)]
      exact ht k e hold

namespace History

variable {s : Service} {backend : List Request → Request → Reply} {h : History}

/-- **One event** keeps the cache traced to the fetches. -/
theorem traced_step (hs : h.Sound s) (ht : Traced s h.fetches h.cache) (e : Event) :
    Traced s (h.step s backend e).fetches (h.step s backend e).cache := by
  rcases step_cases s backend h e with
    ⟨now, rfl⟩ | ⟨op, rfl, hop⟩ | ⟨q, r, rfl, hnone, hget, -⟩ |
      ⟨q, r, p, payload, rfl, -, -, -, hsome, hcache⟩
  · exact ht
  · rw [step_fetches_of_not_read hop]
    exact fun key e he => ht key e (get?_of_step_of_not_read hs hop he)
  · rw [step_read_fetches, show q.fetched? s backend r h.cache h.requests = none from hnone]
    exact fun key e he => ht key e ((hget key).symm.trans he)
  · rw [hcache, step_read_fetches, show q.fetched? s backend r h.cache h.requests = _ from hsome]
    have hwf := wellFormed_keep q p.key payload.shape (wellFormed_missed r hs.wellFormed)
    refine Traced.settle (fun key e he => ?_) hwf p.key r payload.shape
    rw [get?_keep, get?_missed] at he
    exact ht key e he

/-- **Every history is traced.** -/
theorem Reachable.traced (hr : h.Reachable s backend) : Traced s h.fetches h.cache := by
  obtain ⟨now, events, rfl⟩ := hr
  have hboth := after_preserves s backend
    (I := fun h => h.Sound s ∧ Traced s h.fetches h.cache)
    (fun h e hi => ⟨hi.1.step e, traced_step hi.1 hi.2 e⟩) (h := start s now)
    ⟨⟨PageCache.wellFormed_empty _ _, rfl⟩, fun _ _ he => by cases he⟩ events
  exact hboth.2

/-! ### What is served -/

/-- A page that is **served from the table** under a key: by a read that sends nothing, or by asking
for a page of a cached result. -/
inductive Serves (s : Service) (backend : List Request → Request → Reply) (h : History) :
    String → Page → Prop
  | read {q : PagedRead} {p : ReadPlan} {r : PageRequest} {page : Page} {foundBy : Option Json}
      (hplan : q.plan = .ok p)
      (hvalue : ((q.start s r).outcome backend h.cache h.requests).value =
        .ok ⟨.paged page, foundBy⟩)
      (hsent : ((q.start s r).outcome backend h.cache h.requests).requests = h.requests) :
      Serves s backend h p.key.text page
  | cachedPage {key : String} {index size : Option Int64} {page : Page}
      (hvalue : ((s.cachedPage key index size).outcome backend h.cache h.requests).value =
        .ok page) :
      Serves s backend h key page

/-- A page that is served is cut from **the entry under its key**: `e.page page.index page.size`. -/
theorem Serves.entry {key : String} {page : Page} (hp : Serves s backend h key page) :
    ∃ e, h.cache.get? key = some e ∧ page = e.page page.index page.size := by
  cases hp with
  | read hplan hvalue hsent => exact entry_of_read hplan hvalue hsent
  | cachedPage hvalue => exact entry_of_cachedPage hvalue

end History

/-- A page is one of a payload: their numbers of units agree, and so does its content. -/
def Page.IsOf (page : Page) (shape : Shape) : Prop :=
  ∃ units, shape.units? = some units ∧ page.totalUnits = units.length ∧
    page.content = (units.page page.key page.index page.size).content

/-! ### A payload that shrinks -/

namespace Shrinking

/-- A bridge that caches results from two units on, in pages of one. -/
def service : Service := ⟨⟨.default, ⟨2, 4, 1⟩⟩⟩

/-- A backend that gives two lines the first time and **one line** from then on. -/
def backend (sent : List Request) (_ : Request) : Reply :=
  .answer 200 (if sent.isEmpty then "a\nb".toUTF8.toList else "c".toUTF8.toList)

/-- The read of the first page of all strings. -/
def read : Event := .call (.read (.plain .strings) ⟨none, none, false⟩)

/-- The history in which the strings are read several times. -/
def history (times : Nat) : History :=
  (History.start service "").after service backend (List.replicate times read)

/-- The histories of the example are reachable. -/
theorem reachable (times : Nat) : (history times).Reachable service backend := ⟨"", _, rfl⟩

/-- However often the strings have been read, their second page has the number of units that
evaluation finds. -/
theorem serves_of_totalUnits (times n : Nat)
    (h : ((service.cachedPage "get-strings" (some 2) (some 1)).outcome backend
      (history times).cache (history times).requests).value.toOption.map Page.totalUnits = some n) :
    ∃ page, (history times).Serves service backend "get-strings" page ∧ page.totalUnits = n := by
  obtain ⟨page, hpage, hn⟩ := Option.map_eq_some_iff.mp h
  exact ⟨page, .cachedPage (eq_ok_of_toOption hpage), hn⟩

end Shrinking

/-! ### Main results -/

/-- **Where a served page comes from.** It is a page of the most recent large fetch under its key,
and it is one of the most recent fetch exactly if this was large. -/
theorem served_page_of_last_fetch_iff {s : Service} {backend : List Request → Request → Reply}
    {h : History} (hr : h.Reachable s backend) {key : String} {page : Page}
    (hp : h.Serves s backend key page) :
    ∃ units last,
      Fetch.lastLarge? s.config.cache.threshold h.fetches key = some units ∧
      Fetch.last? h.fetches key = some last ∧
      page = units.page ⟨key⟩ page.index page.size ∧
      (page.IsOf last ↔ (last.large? s.config.cache.threshold).isSome) := by
  obtain ⟨e, he, hpage⟩ := hp.entry
  have hlarge := hr.traced key e he
  obtain ⟨last, hlast⟩ := Fetch.exists_last? hlarge
  have hkey : e.key = ⟨key⟩ := hr.sound.wellFormed.key_eq_of_get? he
  rw [Entry.page_eq, hkey] at hpage
  refine ⟨e.units, last, hlarge, hlast, hpage, fun hof => ?_, fun hsome => ?_⟩
  · -- If the page is one of the last fetch, this has as many units as the last large one.
    obtain ⟨units, hunits, htotal, -⟩ := hof
    have hlength : page.totalUnits = e.units.length := by rw [hpage]; rfl
    have hle := Fetch.le_length_of_lastLarge? hlarge
    rw [← hlength, htotal] at hle
    rw [Shape.large?_eq_some_iff.mpr ⟨hunits, hle⟩]
    rfl
  · obtain ⟨units, hunits⟩ := Option.isSome_iff_exists.mp hsome
    obtain rfl : e.units = units :=
      Option.some.inj (hlarge.symm.trans (Fetch.lastLarge?_of_last? hlast hunits))
    refine ⟨e.units, (Shape.large?_eq_some_iff.mp hunits).1, ?_, ?_⟩
    · rw [hpage]; rfl
    · rw [hpage]; rfl

/-- After one read of two lines their second page is served, and it is one of what was fetched
last. -/
theorem served_page_of_last_fetch_once :
    ∃ page last,
      (Shrinking.history 1).Serves Shrinking.service Shrinking.backend "get-strings" page ∧
      Fetch.last? (Shrinking.history 1).fetches "get-strings" = some last ∧ page.IsOf last := by
  obtain ⟨page, hserves, -⟩ := Shrinking.serves_of_totalUnits 1 2 (by decide +kernel)
  obtain ⟨units, last, -, hlast, -, hiff⟩ :=
    served_page_of_last_fetch_iff (Shrinking.reachable 1) hserves
  have hlarge : ((Fetch.last? (Shrinking.history 1).fetches "get-strings").bind
      (Shape.large? · Shrinking.service.config.cache.threshold)).isSome := by decide +kernel
  rw [hlast] at hlarge
  exact ⟨page, last, hserves, hlast, hiff.mpr hlarge⟩

/-- After a second read, of one line, the second page **still has the two lines of the first**. -/
theorem served_page_outlives_last_fetch :
    Shrinking.service.config.validate = .ok Shrinking.service.config ∧
    ∃ page last,
      (Shrinking.history 2).Serves Shrinking.service Shrinking.backend "get-strings" page ∧
      Fetch.last? (Shrinking.history 2).fetches "get-strings" = some last ∧ ¬ page.IsOf last := by
  refine ⟨rfl, ?_⟩
  obtain ⟨page, hserves, htotal⟩ := Shrinking.serves_of_totalUnits 2 2 (by decide +kernel)
  have hone : ((Fetch.last? (Shrinking.history 2).fetches "get-strings").bind
      fun last => last.units?.map Units.length) = some 1 := by decide +kernel
  obtain ⟨last, hlast, hunits⟩ := Option.bind_eq_some_iff.mp hone
  refine ⟨page, last, hserves, hlast, ?_⟩
  rintro ⟨units, hunits', hlength, -⟩
  rw [hunits', Option.map_some, ← hlength, htotal] at hunits
  exact absurd hunits (by decide)

end CodePager
