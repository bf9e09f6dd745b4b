import CodePager.Proofs.Freshness
import CodePager.Proofs.Provenance

/-! # The cache agrees with the backend

A page of a cached result can be had in three ways: a read gives it from the table, a read that
refreshes fetches the result and stores it again, and it can be asked for under the key. As long as
the backend has what is cached, **all three give the same page** (`pages_agree`). It rests on the
invariant that whatever is in the table is large enough to be stored again. -/

namespace CodePager

variable {s : Service} {backend : List Request → Request → Reply} {c : PageCache}
  {sent : List Request} {key : CacheKey} {e : Entry}

/-! ### The three ways to a page -/

/-- A later page may come from the table. -/
theorem not_wantsFresh_of_later {index : UInt64} (h : 2 ≤ index) (size : Option UInt64) :
    (⟨some index, size, false⟩ : PageRequest).wantsFresh = false := by
  have hne : index ≠ 1 := by
    rintro rfl
    exact absurd h (by decide)
  simp [PageRequest.wantsFresh, PageRequest.number, hne]

/-- **From the backend**: a read that refreshes gives the page of what it fetches and stores it. -/
theorem outcome_start_of_refresh {q : PagedRead} {p : ReadPlan} {r : PageRequest}
    {payload : Payload} {units : Units} (hc : c.WellFormed) (hroom : 0 < c.config.maxEntries.toNat)
    (hplan : q.plan = .ok p) (hfresh : r.wantsFresh = true)
    (hfetch : ((p.fetch s).outcome backend c sent).value = .ok payload)
    (hunits : payload.shape.units? = some units)
    (hlarge : s.config.cache.threshold.toNat ≤ units.length) :
    let again := (q.start s r).outcome backend c sent
    again.value =
        .ok ⟨.paged (units.page p.key r.number (r.sizeOr s.defaultPageSize)), p.foundBy⟩ ∧
      again.requests = ((p.fetch s).outcome backend c sent).requests ∧
      again.cache.get? p.key.text =
        some ((q.keep p.key payload.shape c).newEntry p.key units) := by
  intro again
  have hkept := wellFormed_keep q p.key payload.shape hc
  have hserved : p.served? r c = none := by rw [ReadPlan.served?, if_pos hfresh]
  have hmissed : r.missed c = c := by rw [PageRequest.missed, if_pos hfresh]
  obtain ⟨hvalue, hcache⟩ := outcome_start_of_fresh hplan hfresh hfetch
  refine ⟨?_, ?_, ?_⟩
  · rw [hvalue, settle_fst_of_le hkept hunits hlarge]
  · have hsent : again.requests = ((p.fetch s).outcome backend (r.missed c) sent).requests :=
      requests_of_not_served hplan hserved
    rwa [hmissed] at hsent
  · have hlives := hkept.livesBeside_newEntry (k := p.key) hlarge
    have hconfig := (PageCache.config_run (.store p.key units s.config.cache.threshold)).trans
      (config_keep (c := c) q p.key payload.shape)
    rw [hcache, settle_of_large (Shape.large?_eq_some_iff.mpr ⟨hunits, hlarge⟩)]
    refine (hlives.lives ?_).1
    rw [Finset.card_empty]
    exact hconfig ▸ hroom

/-! ### Main result -/

/-- **The cache agrees with the backend.** If the backend has what is cached under the key of a
read, a later page of it is the same whether the read serves it from the table, for which nothing is
sent, or refreshes, which stores the result again, or the page is asked for under the key, before or
after the refresh; both reads also tell the same names. -/
theorem pages_agree {h : History} (hr : h.Reachable s backend)
    (hconfig : s.config.validate = .ok s.config) {q : PagedRead} {p : ReadPlan}
    (hplan : q.plan = .ok p) (he : h.cache.get? p.key.text = some e) {payload : Payload}
    (hfetch : ((p.fetch s).outcome backend h.cache h.requests).value = .ok payload)
    (hunits : payload.shape.units? = some e.units) {index : UInt64} (hindex : 2 ≤ index)
    (size : Option UInt64) :
    ∃ page,
      let served := (q.start s ⟨some index, size, false⟩).outcome backend h.cache h.requests
      let again := (q.start s ⟨some index, size, true⟩).outcome backend h.cache h.requests
      (served.value = .ok ⟨.paged page, p.foundBy⟩ ∧ served.requests = h.requests) ∧
      (again.value = .ok ⟨.paged page, p.foundBy⟩ ∧
        again.requests = ((p.fetch s).outcome backend h.cache h.requests).requests ∧
        ∃ e', again.cache.get? p.key.text = some e' ∧ e'.units = e.units ∧
          e.createdAt < e'.createdAt) ∧
      ∀ i z, positive? "page_index" i = .ok (some index) → positive? "page_size" z = .ok size →
        ((s.cachedPage p.key.text i z).outcome backend h.cache h.requests).value = .ok page ∧
        ((s.cachedPage p.key.text i z).outcome backend again.cache again.requests).value =
          .ok page := by
  obtain ⟨-, hentries⟩ := Config.pos_of_validate hconfig
  have hsizes : ("page_size", s.defaultPageSize.toNat) ∈ s.config.counts := by
    simp [Config.counts, Service.defaultPageSize]
  have hdefault := Config.pos_of_mem_counts hconfig hsizes
  have hs := hr.sound
  have hkey := hs.wellFormed.key_eq_of_get? he
  -- What is in the table was stored, so it is large enough to be stored again.
  have hlarge := Fetch.le_length_of_lastLarge? (hr.traced p.key.text e he)
  have hroom : 0 < h.cache.config.maxEntries.toNat := by rwa [hs.config_eq]
  have hserved : (q.start s ⟨some index, size, false⟩).outcome backend h.cache h.requests = _ :=
    outcome_start_of_get? hplan (not_wantsFresh_of_later hindex size) he hkey
  obtain ⟨hvalue, hsent, hstored⟩ := outcome_start_of_refresh (r := ⟨some index, size, true⟩)
    hs.wellFormed hroom hplan rfl hfetch hunits hlarge
  refine ⟨e.units.page p.key index (size.getD s.defaultPageSize), ?_, ?_, ?_⟩
  · rw [hserved]
    exact ⟨rfl, rfl⟩
  · refine ⟨hvalue, hsent, _, hstored, rfl, ?_⟩
    -- Keeping the last method source may take a number, but none below those in use.
    have hkept := (wellFormed_keep q p.key payload.shape hs.wellFormed).createdAt_le
      ((get?_keep q p.key payload.shape p.key.text).trans he)
    exact Nat.lt_succ_of_le hkept
  · intro i z hi hz
    have hvalid := validatePage_of_positive? hi hz fun _ => hdefault
    constructor
    · rw [outcome_cachedPage_of_get? hi hz hvalid he hkey]
      rfl
    · rw [outcome_cachedPage_of_get? hi hz hvalid hstored rfl]
      rfl

namespace ThreeLines

/-- The lines of a result that is paged by lines. -/
def lines? : Units → Option (List String)
  | .lines lines => some lines
  | .records _ => none

/-- Units with the same lines are the same. -/
theorem eq_of_lines? {units units' : Units} {lines : List String}
    (h : lines? units = some lines) (h' : lines? units' = some lines) : units = units' := by
  cases units with
  | records items => cases h
  | lines ls =>
    cases units' with
    | records items => cases h'
    | lines ls' =>
      obtain rfl := Option.some.inj h
      obtain rfl := Option.some.inj h'
      rfl

end ThreeLines

/-- The second page of three lines is the same from the table, from the backend and under the
key. -/
theorem pages_agree_three_lines :
    ∃ page,
      (((PagedRead.plain .strings).start ThreeLines.service ⟨some 2, some 2, false⟩).outcome
        ThreeLines.backend ThreeLines.history.cache ThreeLines.history.requests).value =
          .ok ⟨.paged page, none⟩ ∧
      (((PagedRead.plain .strings).start ThreeLines.service ⟨some 2, some 2, true⟩).outcome
        ThreeLines.backend ThreeLines.history.cache ThreeLines.history.requests).value =
          .ok ⟨.paged page, none⟩ ∧
      ((ThreeLines.service.cachedPage "get-strings" (some 2) (some 2)).outcome
        ThreeLines.backend ThreeLines.history.cache ThreeLines.history.requests).value =
          .ok page := by
  have hcached : (ThreeLines.history.cache.get? ThreeLines.strings.key.text).bind
      (fun e => ThreeLines.lines? e.units) = some ["a\n", "b\n", "c"] := by decide +kernel
  have hbackend : ((ThreeLines.strings.fetch ThreeLines.service).outcome ThreeLines.backend
      ThreeLines.history.cache ThreeLines.history.requests).value.toOption.bind
        (fun payload => payload.shape.units?.bind ThreeLines.lines?) =
          some ["a\n", "b\n", "c"] := by decide +kernel
  obtain ⟨e, he, hlines⟩ := Option.bind_eq_some_iff.mp hcached
  obtain ⟨payload, hpayload, hunits⟩ := Option.bind_eq_some_iff.mp hbackend
  obtain ⟨units, hunits, hlines'⟩ := Option.bind_eq_some_iff.mp hunits
  obtain rfl := ThreeLines.eq_of_lines? hlines' hlines
  obtain ⟨page, ⟨hserved, -⟩, ⟨hagain, -, -⟩, hkey⟩ := pages_agree (q := .plain .strings)
    ⟨"", [.call (.read (.plain .strings) ⟨none, some 2, false⟩)], rfl⟩ rfl
    (p := ThreeLines.strings) rfl he (eq_ok_of_toOption hpayload) hunits
    (by decide : (2 : UInt64) ≤ 2) (some 2)
  exact ⟨page, hserved, hagain, (hkey (some 2) (some 2) rfl rfl).1⟩

end CodePager
