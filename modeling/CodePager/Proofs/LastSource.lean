import CodePager.Proofs.Agreement

/-! # The last method source

What is held as the last method source, **told from the history alone**. `History.lastSource?` finds
the last call for a method source that the backend has answered, and what came after it. The slot
holds the units of that answer unless a flush came later (`History.holdsSource_after_iff`), so a
page of it is given exactly then (`methodSourcePage_iff_lastSource`). Whatever else happens leaves
the slot as it was (`History.lastMethodSource_step_of_not_source`). -/

namespace CodePager

namespace PageCache

variable {c : PageCache}

/-- Clearing one key keeps the last method source. -/
theorem lastMethodSource_invalidate (key : String) :
    (c.invalidate key).2.lastMethodSource = c.lastMethodSource := by
  unfold invalidate
  split
  · rfl
  · exact lastMethodSource_remove key

/-- The last method source is held with its key and its units. -/
def HoldsSource (c : PageCache) (key : CacheKey) (units : Units) : Prop :=
  ∃ x, c.lastMethodSource = some x ∧ x.key = key ∧ x.units = units

/-- What is held as the last method source is told by the slot alone. -/
theorem HoldsSource.congr {c' : PageCache} (h : c'.lastMethodSource = c.lastMethodSource)
    {key : CacheKey} {units : Units} : c'.HoldsSource key units ↔ c.HoldsSource key units := by
  unfold HoldsSource
  rw [h]

/-- An empty slot holds nothing. -/
theorem not_holdsSource (h : c.lastMethodSource = none) (key : CacheKey) (units : Units) :
    ¬ c.HoldsSource key units := by
  rintro ⟨x, hx, -⟩
  rw [h] at hx
  cases hx

end PageCache

/-- A page of the last method source is one of the units that are held, and is not found if none
are. -/
theorem methodSourcePage_eq_ok_iff {s : Service} {backend : List Request → Request → Reply}
    {c : PageCache} {sent : List Request} {index size : Option Int64}
    (haccepts : s.Accepts index size) {page : Page} :
    ((s.methodSourcePage index size).outcome backend c sent).value = .ok page ↔
      ∃ key units, c.HoldsSource key units ∧
        page = units.page key ((index.map Int64.toUInt64).getD 1)
          ((size.map Int64.toUInt64).getD s.defaultPageSize) := by
  have hi := positive?_of_forall_le "page_index" haccepts.index_pos
  have hz := positive?_of_forall_le "lines_per_page" haccepts.size_pos
  rw [outcome_methodSourcePage hi hz]
  simp only [PageCache.slotPage, haccepts.valid, PageCache.lastMethodSource_count]
  cases hslot : c.lastMethodSource with
  | none =>
    refine ⟨fun hok => (by cases hok), ?_⟩
    rintro ⟨key, units, hheld, -⟩
    exact absurd hheld (PageCache.not_holdsSource hslot key units)
  | some x =>
    simp only [Except.ok.injEq, Entry.page_eq]
    constructor
    · rintro rfl
      exact ⟨x.key, x.units, ⟨x, hslot, rfl, rfl⟩, rfl⟩
    · rintro ⟨key, units, ⟨y, hy, rfl, rfl⟩, rfl⟩
      obtain rfl := Option.some.inj (hslot.symm.trans hy)
      rfl

namespace History

variable (s : Service) (backend : List Request → Request → Reply)

/-! ### Calls that fetch a method source -/

/-- What an event fetches **as a method source**: the payload of a call for one that is not served
from the cache and that the backend has answered. -/
def source? (h : History) : Event → Option Fetch
  | .call (.read (.methodSource target) r) => h.fetched? s backend (.read (.methodSource target) r)
  | _ => none

/-- What the **last** of some events that fetches a method source has fetched, and the events that
come after it. -/
def lastSource? (h : History) : List Event → Option (Fetch × List Event)
  | [] => none
  | e :: events =>
    ((h.step s backend e).lastSource? events).or
      ((h.source? s backend e).map fun f => (f, events))

variable {s backend} {h : History}

/-- Only a call for a method source fetches one. -/
theorem exists_of_source? {e : Event} {f : Fetch} (hf : h.source? s backend e = some f) :
    ∃ target r, e = .call (.read (.methodSource target) r) := by
  unfold source? at hf
  split at hf
  · exact ⟨_, _, rfl⟩
  · cases hf

/-- A call that fails, or that sends nothing, fetches nothing. -/
theorem source?_eq_none {target : MethodTarget} {r : PageRequest}
    (hidle :
      let call := (s.methodSource target r).outcome backend h.cache h.requests
      (∃ failure, call.value = .error failure) ∨ call.requests = h.requests) :
    h.source? s backend (.call (.read (.methodSource target) r)) = none := by
  rcases read_cases s backend (.methodSource target) r h.cache h.requests with
    ⟨hnone, -⟩ | ⟨p, payload, hplan, hserved, hvalue, -, -⟩
  · exact hnone
  · -- A call that fetches succeeds, and has sent at least one request.
    have hcall : (s.methodSource target r).outcome backend h.cache h.requests = _ :=
      outcome_start s backend r h.cache h.requests (.methodSource target)
    rw [hplan] at hcall
    simp only [PagedRead.result, hserved, hvalue] at hcall
    rw [hcall] at hidle
    rcases hidle with ⟨failure, hfailure⟩ | hsent
    · cases hfailure
    · have hlt := Gateway.fetchAll_sends _ _ _ backend (r.missed h.cache) h.requests hvalue
      exact absurd (congrArg List.length hsent) (Nat.ne_of_gt hlt)

/-! ### One event -/

/-- **Whatever neither fetches a method source nor flushes** leaves the last method source as it
was. -/
theorem lastMethodSource_step_of_not_source {e : Event} (hnone : h.source? s backend e = none)
    (hflush : ¬ e.Flushes) :
    (h.step s backend e).cache.lastMethodSource = h.cache.lastMethodSource := by
  rcases step_cases s backend h e with
    ⟨now, rfl⟩ | ⟨op, rfl, hop⟩ | ⟨q, r, rfl, -, -, hslot⟩ |
      ⟨q, r, p, payload, rfl, -, -, -, hsome, hcache⟩
  · rfl
  · -- Besides flushing, the other operations look, or drop a single result of the table.
    refine step_preserves_of_allows s backend
      (I := fun c => c.lastMethodSource = h.cache.lastMethodSource) hop (fun o c ho hc => ?_) rfl
    rcases Operation.cases_of_allows ho with hl | ⟨key, -, rfl⟩ | ⟨rfl | ⟨route, params, rfl⟩, -⟩
    · exact (PageCache.lastMethodSource_of_looks hl).trans hc
    · exact (PageCache.lastMethodSource_invalidate key).trans hc
    · exact absurd trivial hflush
    · exact absurd trivial hflush
  · exact hslot
  · rw [hcache, lastMethodSource_settle]
    cases q with
    | methodSource target => exact absurd (hsome.symm.trans hnone) (Option.some_ne_none _)
    | plain route | ofClass route target | ofMethod route target | search target
    | resource filename => exact lastMethodSource_missed r h.cache

/-- An event that brings no method source **keeps what is held unless it flushes**. -/
theorem holdsSource_step_of_not_source {e : Event} (hnone : h.source? s backend e = none)
    {key : CacheKey} {units : Units} :
    (h.step s backend e).cache.HoldsSource key units ↔
      h.cache.HoldsSource key units ∧ ¬ e.Flushes := by
  by_cases hflush : e.Flushes
  · have hslot := lastMethodSource_step_of_flushes s backend h hflush
    exact ⟨fun hheld => absurd hheld (PageCache.not_holdsSource hslot key units),
      fun hheld => absurd hflush hheld.2⟩
  · rw [PageCache.HoldsSource.congr (lastMethodSource_step_of_not_source hnone hflush)]
    exact (and_iff_left hflush).symm

/-- **A call that fetches a method source** leaves its units, or nothing if it cannot be paged. -/
theorem holdsSource_step_of_source {e : Event} {f : Fetch} (hf : h.source? s backend e = some f)
    {key : CacheKey} {units : Units} :
    (h.step s backend e).cache.HoldsSource key units ↔
      (⟨f.key⟩ : CacheKey) = key ∧ f.shape.units? = some units := by
  obtain ⟨target, r, rfl⟩ := exists_of_source? hf
  rcases step_cases s backend h (.call (.read (.methodSource target) r)) with
    ⟨now, heq⟩ | ⟨op, heq, hop⟩ | ⟨q, r', heq, hnone, -, -⟩ |
      ⟨q, r', p, payload, heq, -, -, -, hsome, hcache⟩
  · cases heq
  · cases heq
    exact absurd rfl (hop _ _)
  · cases heq
    exact absurd (hf.symm.trans hnone) (Option.some_ne_none f)
  · cases heq
    obtain rfl : f = ⟨p.key.text, payload.shape⟩ := Option.some.inj (hf.symm.trans hsome)
    rw [hcache, PageCache.HoldsSource.congr (lastMethodSource_settle ..)]
    -- What is left are the two ways in which the call ends: it remembers units or forgets.
    simp only [PagedRead.keep, PageCache.HoldsSource]
    cases hunits : payload.shape.units? with
    | none =>
      refine ⟨?_, fun hheld => by cases hheld.2⟩
      rintro ⟨x, hx, -⟩
      cases hx
    | some fetched =>
      constructor
      · rintro ⟨x, hx, rfl, rfl⟩
        obtain rfl := Option.some.inj hx
        exact ⟨rfl, rfl⟩
      · rintro ⟨rfl, heq⟩
        obtain rfl := Option.some.inj heq
        exact ⟨_, rfl, rfl, rfl⟩

/-! ### Any events -/

/-- **The last method source after any events**: the units of the last call among them that fetched
one, if no flush came after it; if no call fetched one, what was held before, if nothing flushed
it. -/
theorem holdsSource_after_iff (events : List Event) {key : CacheKey} {units : Units} :
    (h.after s backend events).cache.HoldsSource key units ↔
      match h.lastSource? s backend events with
      | some (f, later) => ((⟨f.key⟩ : CacheKey) = key ∧ f.shape.units? = some units) ∧
          ∀ e ∈ later, ¬ e.Flushes
      | none => h.cache.HoldsSource key units ∧ ∀ e ∈ events, ¬ e.Flushes := by
  -- On the events: the first of them only matters if none of the others fetches a method source.
  induction events generalizing h with
  | nil => simp [lastSource?, after]
  | cons e events ih =>
    rw [after_cons, ih, lastSource?]
    cases (h.step s backend e).lastSource? s backend events with
    | some found => rw [Option.some_or]
    | none =>
      rw [Option.none_or]
      cases hsource : h.source? s backend e with
      | some f => simp only [Option.map_some, holdsSource_step_of_source hsource]
      | none =>
        simp only [Option.map_none, holdsSource_step_of_not_source hsource, List.forall_mem_cons,
          and_assoc]

end History

/-! ### Main result -/

/-- **The last method source follows the history.** After any events a page of it is given exactly
if some call for a method source has been answered by the backend, the last such answer can be paged
and no flush came after it; it is then the page of the units of that answer, under the key of that
call, however few they are. Otherwise no method source is found. Every event that is neither a flush
nor a call for a method source leaves the slot as it was, and so does such a call that fails or is
not sent to the backend. -/
theorem methodSourcePage_iff_lastSource {s : Service} {index size : Option Int64}
    (haccepts : s.Accepts index size) (backend : List Request → Request → Reply) (now : String)
    (events : List Event) :
    let start := History.start s now
    let h := start.after s backend events
    let answer := ((s.methodSourcePage index size).outcome backend h.cache h.requests).value
    (∀ page, answer = .ok page ↔
      ∃ f later units, start.lastSource? s backend events = some (f, later) ∧
        f.shape.units? = some units ∧ (∀ e ∈ later, ¬ e.Flushes) ∧
        page = units.page ⟨f.key⟩ ((index.map Int64.toUInt64).getD 1)
          ((size.map Int64.toUInt64).getD s.defaultPageSize)) ∧
    ((∀ page, answer ≠ .ok page) →
      answer = .error (.notFound "no method source has been fetched yet")) ∧
    ∀ e : Event, ¬ e.Flushes →
      (∀ target r, e = .call (.read (.methodSource target) r) →
        let call := (s.methodSource target r).outcome backend h.cache h.requests
        (∃ failure, call.value = .error failure) ∨ call.requests = h.requests) →
      (h.step s backend e).cache.lastMethodSource = h.cache.lastMethodSource := by
  intro start h answer
  refine ⟨fun page => ?_, fun hnone => ?_, fun e hflush hidle => ?_⟩
  · rw [methodSourcePage_eq_ok_iff haccepts]
    simp only [h, History.holdsSource_after_iff]
    cases hlast : start.lastSource? s backend events with
    | none =>
      -- Nothing is held before the first event.
      have hstart := PageCache.not_holdsSource (c := start.cache) rfl
      simp [hstart]
    | some found =>
      obtain ⟨f, later⟩ := found
      constructor
      · rintro ⟨key, units, ⟨⟨rfl, hunits⟩, hkept⟩, hpage⟩
        exact ⟨f, later, units, rfl, hunits, hkept, hpage⟩
      · rintro ⟨f', later', units, heq, hunits, hkept, hpage⟩
        obtain ⟨rfl, rfl⟩ := Prod.mk.inj (Option.some.inj heq)
        exact ⟨_, units, ⟨⟨rfl, hunits⟩, hkept⟩, hpage⟩
  · refine History.methodSourcePage_of_lastMethodSource ?_ haccepts
    by_contra hsome
    obtain ⟨x, hx⟩ := Option.ne_none_iff_exists'.mp hsome
    exact hnone _ ((methodSourcePage_eq_ok_iff haccepts).mpr
      ⟨x.key, x.units, ⟨x, hx, rfl, rfl⟩, rfl⟩)
  · refine History.lastMethodSource_step_of_not_source ?_ hflush
    by_contra hsome
    obtain ⟨f, hf⟩ := Option.ne_none_iff_exists'.mp hsome
    obtain ⟨target, r, rfl⟩ := History.exists_of_source? hf
    exact hsome (History.source?_eq_none (hidle target r rfl))

namespace TwoSources

/-- A bridge that caches results from three units on, in pages of one. -/
def service : Service := ⟨⟨.default, ⟨3, 4, 1⟩⟩⟩

/-- A backend that gives three lines the first time and **two lines** from then on. -/
def backend (sent : List Request) (_ : Request) : Reply :=
  .answer 200 (if sent.isEmpty then "a\nb\nc".toUTF8.toList else "x\ny".toUTF8.toList)

/-- A call for the source of a method. -/
def call (name : String) (index : Option UInt64) : Event :=
  .call (.read (.methodSource ⟨⟨none, some "C"⟩, none, some name, none⟩) ⟨index, none, false⟩)

/-- Before the first event. -/
def start : History := .start service ""

/-- After the first method source, which is large enough to be cached. -/
def large : History := start.step service backend (call "f" none)

/-- After the second method source, which is too small to be cached. -/
def small : History := large.step service backend (call "g" none)

/-- What comes after the two: a page of the first that is served from the cache, and the clearing of
it. -/
def later : List Event := [call "f" (some 2), .call (.clear (some "get-method-source:C:f"))]

/-- All that happens. -/
def events : List Event := call "f" none :: call "g" none :: later

/-- The second method source is the last one that has been fetched. -/
theorem lastSource?_events : ∃ f, start.lastSource? service backend events = some (f, later) ∧
    f.key = "get-method-source:C:g" ∧
    f.shape.units?.bind ThreeLines.lines? = some ["x\n", "y"] := by
  have hsecond : (large.source? service backend (call "g" none)).map
      (fun f => (f.key, f.shape.units?.bind ThreeLines.lines?)) =
        some ("get-method-source:C:g", some ["x\n", "y"]) := by decide +kernel
  have hserved : (small.source? service backend (call "f" (some 2))).isNone := by decide +kernel
  obtain ⟨f, hf, hview⟩ := Option.map_eq_some_iff.mp hsecond
  obtain ⟨hkey, hlines⟩ := Prod.mk.inj hview
  refine ⟨f, ?_, hkey, hlines⟩
  have hnone := Option.isNone_iff_eq_none.mp hserved
  have hclear : ∀ (h : History) key, h.source? service backend (.call (.clear key)) = none :=
    fun _ _ => rfl
  unfold large at hf
  unfold small large at hnone
  simp [events, later, History.lastSource?, hf, hnone, hclear]

end TwoSources

/-- The second line of the last method source is given although it was too small to be cached. -/
theorem methodSourcePage_iff_lastSource_small :
    let h := TwoSources.start.after TwoSources.service TwoSources.backend TwoSources.events
    ∃ page,
      ((TwoSources.service.methodSourcePage (some 2) none).outcome TwoSources.backend h.cache
        h.requests).value = .ok page ∧
      page.key.text = "get-method-source:C:g" ∧ page.totalUnits = 2 := by
  intro h
  have haccepts : TwoSources.service.Accepts (some 2) none := by
    refine ⟨fun n hn => ?_, fun n hn => ?_, fun _ => by decide⟩
    · obtain rfl := Option.some.inj hn
      decide
    · cases hn
  obtain ⟨f, hlast, hkey, hlines⟩ := TwoSources.lastSource?_events
  obtain ⟨units, hunits, hlines⟩ := Option.bind_eq_some_iff.mp hlines
  obtain ⟨hpages, -, -⟩ := methodSourcePage_iff_lastSource haccepts TwoSources.backend ""
    TwoSources.events
  have hkept : ∀ e ∈ TwoSources.later, ¬ e.Flushes := by
    simp [TwoSources.later, TwoSources.call, Event.Flushes]
  refine ⟨_, (hpages _).mpr ⟨f, _, units, hlast, hunits, hkept, rfl⟩, hkey, ?_⟩
  have hlines' : ThreeLines.lines? (.lines ["x\n", "y"]) = some ["x\n", "y"] := rfl
  obtain rfl := ThreeLines.eq_of_lines? hlines hlines'
  rfl

end CodePager
