import CodePager.Proofs.Eviction

/-! # Table, order and statistics

What the parts of the cache say about each other after **any operations** on a new one, whatever
room it has. The order is the inverse of the table, no number is used twice, not even by the last
method source, and the table fits (`PageCache.Indexed`). Evicting is told round by round
(`PageCache.Evicts`): a round takes a result that the order names, so the loop has no way to go on
without one, and after a store it takes **at most one round** (`PageCache.WellFormed.sparing`). The
statistics list what can be read, the oldest first (`PageCache.WellFormed.describes`). -/

namespace CodePager

namespace PageCache

variable {c : PageCache}

/-! ### Table and order -/

/-- The numbers of everything that is kept, the last method source included. -/
def numbers (c : PageCache) : List Nat :=
  (c.lastMethodSource.toList ++ c.entries.map Prod.snd).map Entry.createdAt

/-- **The order is the inverse of the table**, which has each key once and is not larger than it may
be. -/
structure Indexed (c : PageCache) : Prop where
  mem_order : ∀ q key, (q, key) ∈ c.order ↔ ∃ e, c.get? key = some e ∧ e.createdAt = q
  order_sorted : c.order.Pairwise fun a b => a.1 < b.1
  keys_nodup : (c.entries.map Prod.fst).Nodup
  key_text : ∀ key e, c.get? key = some e → e.key.text = key
  numbers_nodup : c.numbers.Nodup
  numbers_le : ∀ q ∈ c.numbers, q ≤ c.lastSeq
  length_le : c.entries.length ≤ c.config.maxEntries.toNat

namespace Consistent

/-- The numbers of the table are those of the order. -/
theorem order_numbers_perm (h : c.Consistent) :
    (c.order.map Prod.fst).Perm ((c.entries.map Prod.snd).map Entry.createdAt) := by
  have hperm := h.order_perm.map Prod.fst
  rw [stamps, List.map_map] at hperm
  rw [List.map_map]
  exact hperm

/-- No two results of the table have the same number. -/
theorem table_numbers_nodup (h : c.Consistent) :
    ((c.entries.map Prod.snd).map Entry.createdAt).Nodup :=
  h.order_numbers_perm.nodup_iff.mp
    ((List.pairwise_map.mpr h.order_sorted).imp fun hlt => Nat.ne_of_lt hlt)

/-- No number is **given twice**, be it in the table or in the slot. -/
theorem numbers_nodup (h : c.Consistent) : c.numbers.Nodup := by
  rw [numbers, List.map_append]
  refine List.nodup_append.mpr ⟨?_, h.table_numbers_nodup, ?_⟩
  · cases c.lastMethodSource <;> simp
  · -- The last method source has a number of its own, which is not in the order.
    intro q hq q' hq'
    obtain ⟨slot, hslot, rfl⟩ := List.mem_map.mp hq
    obtain ⟨o, ho, rfl⟩ := List.mem_map.mp (h.order_numbers_perm.mem_iff.mpr hq')
    exact (h.slot_ne slot (Option.mem_toList.mp hslot) o ho).symm

/-- No number is larger than the last one: `q ≤ c.lastSeq`. -/
theorem numbers_le (h : c.Consistent) {q : Nat} (hq : q ∈ c.numbers) : q ≤ c.lastSeq := by
  rw [numbers, List.map_append] at hq
  rcases List.mem_append.mp hq with hq | hq
  · obtain ⟨slot, hslot, rfl⟩ := List.mem_map.mp hq
    exact h.slot_le slot (Option.mem_toList.mp hslot)
  · obtain ⟨o, ho, rfl⟩ := List.mem_map.mp (h.order_numbers_perm.mem_iff.mpr hq)
    exact h.order_le o ho

end Consistent

/-- A well-formed cache is indexed: each property is one of the invariant. -/
theorem WellFormed.indexed (h : c.WellFormed) : c.Indexed where
  mem_order := fun _ _ => h.mem_order_iff
  order_sorted := h.order_sorted
  keys_nodup := h.keys_nodup
  key_text := fun _ _ => h.key_of_get?
  numbers_nodup := h.numbers_nodup
  numbers_le := fun _ => h.numbers_le
  length_le := h.length_le

/-! ### Evicting, round by round -/

/-- Evicting takes some **rounds** to make a table fit. Each of them finds a result in the order:
there is no way for a table to be too large and the order to be empty. -/
inductive Evicts (capacity : Nat) :
    Nat → List (Nat × String) × List (String × Entry) →
      List (Nat × String) × List (String × Entry) → Prop
  | fits {order entries} (hfits : entries.length ≤ capacity) :
      Evicts capacity 0 (order, entries) (order, entries)
  | round {n oldest order entries left} (hfull : capacity < entries.length)
      (hrest : Evicts capacity n (order, Fields.erase oldest.2 entries) left) :
      Evicts capacity (n + 1) (oldest :: order, entries) left

/-- The rounds are those of the eviction loop, and it counts them. -/
theorem Evicts.evictOldest_eq {capacity n : Nat} {order left : List (Nat × String)}
    {entries kept : List (String × Entry)} (h : Evicts capacity n (order, entries) (left, kept))
    (counted : Nat) : evictOldest capacity order entries counted = (left, kept, counted + n) := by
  generalize hfrom : (order, entries) = found at h
  generalize hto : (left, kept) = rest at h
  induction h generalizing order entries counted with
  | fits hfits =>
    cases hfrom
    cases hto
    exact evictOldest_of_le hfits _ counted
  | round hfull hrest ih =>
    cases hfrom
    rw [evictOldest, if_pos hfull, ih (counted + 1) rfl hto, Nat.add_assoc, Nat.add_comm 1]

/-- Trimming leaves what the rounds leave, and **counts them**. -/
theorem Evicts.trim_eq {n : Nat} {left : List (Nat × String)} {kept : List (String × Entry)}
    (h : Evicts c.config.maxEntries.toNat n (c.order, c.entries) (left, kept)) :
    c.trim = { c with order := left, entries := kept, evictions := c.evictions + n } := by
  rw [trim, h.evictOldest_eq]

/-- A consistent table with at most one result too many fits after **at most one round**. -/
theorem Consistent.exists_evicts (h : c.Consistent)
    (hlength : c.entries.length ≤ c.config.maxEntries.toNat + 1) :
    ∃ rounds ≤ 1, ∃ left kept,
      Evicts c.config.maxEntries.toNat rounds (c.order, c.entries) (left, kept) := by
  by_cases hfits : c.entries.length ≤ c.config.maxEntries.toNat
  · exact ⟨0, Nat.zero_le 1, _, _, .fits hfits⟩
  · -- The table is not empty, so the order is not either.
    obtain ⟨oldest, order, horder⟩ := h.exists_oldest (by omega)
    have herase := Fields.length_erase_of_mem h.keys_nodup
      (h.mem_keys_of_order (horder ▸ List.mem_cons_self))
    rw [horder]
    exact ⟨1, Nat.le_refl 1, _, _, .round (by omega) (.fits (by omega))⟩

/-- Putting a new result in evicts nothing yet. -/
@[simp] theorem evictions_withNew (key : CacheKey) (units : Units) :
    (c.withNew key units).evictions = c.evictions := by
  show (c.remove key.text).evictions = c.evictions
  unfold remove; split <;> rfl

/-- Storing in a cache is **sparing**: a small result changes nothing, and after a large one has
been put in at most one round of evicting is needed. -/
structure Sparing (c : PageCache) : Prop where
  small : ∀ key units threshold, units.length < threshold.toNat →
    (c.storeIfLarge key units threshold).2 = c
  large : ∀ key units threshold, threshold.toNat ≤ units.length →
    let full := c.withNew key units
    let left := (c.storeIfLarge key units threshold).2
    ∃ rounds ≤ 1, left.evictions = c.evictions + rounds ∧
      Evicts c.config.maxEntries.toNat rounds (full.order, full.entries) (left.order, left.entries)

/-- A well-formed cache is sparing: with a new result it has **one too many at most**. -/
theorem WellFormed.sparing (h : c.WellFormed) : c.Sparing where
  small := fun key units threshold hsmall => by rw [storeIfLarge_of_lt key units hsmall]
  large := by
    intro key units threshold hlarge full left
    have hleft : left = full.trim :=
      congrArg Prod.snd (if_neg (Nat.not_lt.mpr hlarge) : c.storeIfLarge key units threshold = _)
    have hconfig : full.config = c.config := config_withNew key units
    have hevictions : full.evictions = c.evictions := evictions_withNew key units
    obtain ⟨rounds, hrounds, order, entries, hevicts⟩ :=
      (h.toConsistent.withNew key units).exists_evicts
        (by rw [config_withNew]; exact length_withNew_le key units h)
    rw [hleft, hevicts.trim_eq, ← hconfig, ← hevictions]
    exact ⟨rounds, hrounds, rfl, hevicts⟩

end PageCache

/-! ### Statistics -/

/-- Statistics **describe** a cache: they list each of its keys once, the oldest result first, and
they tell of a result what every page of it tells. -/
structure CacheStats.Describes (s : CacheStats) (c : PageCache) : Prop where
  keys_nodup : (s.live.map fun e => e.key.text).Nodup
  mem_keys : ∀ key, key ∈ (s.live.map fun e => e.key.text) ↔ ∃ e, c.get? key = some e
  oldest_first : s.live.Pairwise fun a b => a.createdAt < b.createdAt
  entries_eq : s.entries = s.live.length
  summary_eq : ∀ e ∈ s.live, ∀ index size : UInt64, 1 ≤ index → 1 ≤ size →
    ∃ page, (c.getPage e.key.text index size).1 = .ok page ∧
      e.summary = .obj
        [("key", .str page.key.text), ("unit", .str page.kind.name),
         ("total_units", .ofNat page.totalUnits), ("cached_at", .str e.cachedAt)]

namespace PageCache

variable {c : PageCache}

/-- The statistics list **exactly the results of the table**, sorted. -/
theorem live_perm (c : PageCache) : c.stats.live.Perm (c.entries.map Prod.snd) :=
  List.mergeSort_perm _ _

namespace Consistent

/-- The keys of the statistics are those of the table. -/
theorem live_keys_perm (h : c.Consistent) :
    (c.stats.live.map fun e => e.key.text).Perm (c.entries.map Prod.fst) := by
  have hkeys : (c.entries.map Prod.snd).map (fun e => e.key.text) = c.entries.map Prod.fst := by
    rw [List.map_map]
    exact List.map_congr_left h.key_text
  exact hkeys ▸ c.live_perm.map fun e => e.key.text

/-- No number is used twice, so the results that are sorted by it are sorted strictly. -/
theorem live_sorted (h : c.Consistent) :
    c.stats.live.Pairwise fun a b => a.createdAt < b.createdAt := by
  have hle : c.stats.live.Pairwise fun a b => a.createdAt ≤ b.createdAt := by
    have htrans : ∀ a b d : Entry, decide (a.createdAt ≤ b.createdAt) = true →
        decide (b.createdAt ≤ d.createdAt) = true → decide (a.createdAt ≤ d.createdAt) = true := by
      simp only [decide_eq_true_eq]
      exact fun _ _ _ => Nat.le_trans
    have htotal : ∀ a b : Entry,
        (decide (a.createdAt ≤ b.createdAt) || decide (b.createdAt ≤ a.createdAt)) = true := by
      simp only [Bool.or_eq_true, decide_eq_true_eq]
      exact fun _ _ => Nat.le_total _ _
    exact (List.pairwise_mergeSort htrans htotal _).imp of_decide_eq_true
  have hne : (c.stats.live.map Entry.createdAt).Nodup :=
    (c.live_perm.map Entry.createdAt).nodup_iff.mpr h.table_numbers_nodup
  exact hle.imp₂ (fun _ _ hle hne => Nat.lt_of_le_of_ne hle hne) (List.pairwise_map.mp hne)

/-- The statistics of a consistent cache describe it. -/
theorem describes (h : c.Consistent) : c.stats.Describes c where
  keys_nodup := h.live_keys_perm.nodup_iff.mpr h.keys_nodup
  mem_keys := fun key => by
    rw [h.live_keys_perm.mem_iff, ← List.mem_toFinset]
    exact h.mem_keys
  oldest_first := h.live_sorted
  entries_eq := by rw [c.live_perm.length_eq, List.length_map]; rfl
  summary_eq := by
    intro e he index size hindex hsize
    obtain ⟨⟨key, e⟩, hf, rfl⟩ := List.mem_map.mp (c.live_perm.mem_iff.mp he)
    have hkey : e.key.text = key := h.key_text _ hf
    have hget : c.get? e.key.text = some e :=
      (Fields.get?_eq_some_iff h.keys_nodup).mpr (hkey ▸ hf)
    refine ⟨e.page index size, ?_, rfl⟩
    rw [getPage_of_get? hget (validatePage_eq_ok_iff.mpr ⟨hindex, hsize⟩)]

end Consistent

end PageCache

/-! ### Main result -/

/-- **After any operations** the order is the inverse of the table, storing evicts at most one
result, and the statistics describe the cache. -/
theorem indexed_after (config : CacheConfig) (now : String) (ops : List CacheOp) :
    let c := (PageCache.empty config now).after ops
    c.Indexed ∧ c.Sparing ∧ c.stats.Describes c := by
  have h := (PageCache.wellFormed_empty config now).after ops
  exact ⟨h.indexed, h.sparing, h.describes⟩

/-- Without any room a stored result is evicted at once. -/
example :
    let c := (PageCache.empty ⟨1, 0, 1⟩ "").after [.store ⟨"a"⟩ (.lines ["x"]) 1]
    c.order.isEmpty = true ∧ c.entries.isEmpty = true ∧ c.evictions = 1 ∧ c.lastSeq = 1 := by
  decide

end CodePager
