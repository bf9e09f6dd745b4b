import CodePager.Cache.Store
import CodePager.Proofs.Fields
import Mathlib.Data.List.Perm.Basic
import Mathlib.Data.List.Pairwise

/-! # The invariant of the page cache

The cache keeps its results twice: in the table by their keys, and in the order of their storing.
`PageCache.Consistent` says that the two list the same results, that the order is strict and that no
number is used twice, and `PageCache.WellFormed` adds that the table is not larger than it may be.
Every operation keeps it (`wellFormed_run`), so it holds whatever is done to an empty cache. Storing
evicts **at most one** result, the oldest (`Consistent.trim_eq`). -/

namespace CodePager

/-- A page is accepted exactly if neither number is zero: `1 ≤ index ∧ 1 ≤ size`. -/
theorem validatePage_eq_ok_iff {index size : UInt64} :
    validatePage index size = .ok () ↔ 1 ≤ index ∧ 1 ≤ size := by
  unfold validatePage
  simp only [← UInt64.not_lt]
  split
  · simp_all
  · split <;> simp_all

/-- The operations that look into the cache and change nothing but its counters. -/
def CacheOp.Looks : CacheOp → Prop
  | .lookup _ | .getPage _ _ _ | .slotPage _ _ | .stats => True
  | _ => False

namespace PageCache

/-! ### The invariant -/

/-- The table as the order should list it. -/
def stamps (c : PageCache) : List (Nat × String) := c.entries.map fun f => (f.2.createdAt, f.1)

/-- **Table and order agree.** -/
structure Consistent (c : PageCache) : Prop where
  keys_nodup : (c.entries.map Prod.fst).Nodup
  key_text : ∀ f ∈ c.entries, f.2.key.text = f.1
  order_perm : c.order.Perm c.stamps
  order_sorted : c.order.Pairwise fun a b => a.1 < b.1
  order_le : ∀ o ∈ c.order, o.1 ≤ c.lastSeq
  slot_le : ∀ e ∈ c.lastMethodSource, e.createdAt ≤ c.lastSeq
  slot_ne : ∀ e ∈ c.lastMethodSource, ∀ o ∈ c.order, o.1 ≠ e.createdAt

/-- Table and order agree, and the table is not larger than it may be. -/
structure WellFormed (c : PageCache) : Prop extends c.Consistent where
  length_le : c.entries.length ≤ c.config.maxEntries.toNat

/-- The empty cache is well formed: `(empty config now).WellFormed`. -/
theorem wellFormed_empty (config : CacheConfig) (now : String) : (empty config now).WellFormed where
  keys_nodup := List.nodup_nil
  key_text := by simp [empty]
  order_perm := List.Perm.nil
  order_sorted := List.Pairwise.nil
  order_le := by simp [empty]
  slot_le := by simp [empty]
  slot_ne := by simp [empty]
  length_le := Nat.zero_le _

namespace Consistent

variable {c : PageCache}

/-- The order lists **just the keys of the table**, each with its number: `(q, key) ∈ c.order`
exactly if an entry of number `q` is under `key`. -/
theorem mem_order_iff (h : c.Consistent) {q : Nat} {key : String} :
    (q, key) ∈ c.order ↔ ∃ e, c.get? key = some e ∧ e.createdAt = q := by
  rw [h.order_perm.mem_iff, stamps, List.mem_map]
  constructor
  · rintro ⟨⟨k, e⟩, hf, heq⟩
    obtain ⟨rfl, rfl⟩ := Prod.mk.inj heq
    exact ⟨e, (Fields.get?_eq_some_iff h.keys_nodup).mpr hf, rfl⟩
  · rintro ⟨e, he, rfl⟩
    exact ⟨(key, e), Fields.mem_of_get? he, rfl⟩

/-- An entry stands under the text of its key: `e.key.text = key`. -/
theorem key_of_get? (h : c.Consistent) {key : String} {e : Entry} (he : c.get? key = some e) :
    e.key.text = key := h.key_text _ (Fields.mem_of_get? he)

/-- An entry is stored under its own key. -/
theorem key_eq_of_get? (h : c.Consistent) {key : CacheKey} {e : Entry}
    (he : c.get? key.text = some e) : e.key = key := by
  have htext := h.key_of_get? he
  cases hk : e.key
  rw [hk] at htext
  exact congrArg CacheKey.mk htext

/-- No entry has a number beyond the last one: `e.createdAt ≤ c.lastSeq`. -/
theorem createdAt_le (h : c.Consistent) {key : String} {e : Entry} (he : c.get? key = some e) :
    e.createdAt ≤ c.lastSeq := h.order_le _ (h.mem_order_iff.mpr ⟨e, he, rfl⟩)

/-- The keys of the order are those of the table. -/
theorem order_keys_perm (h : c.Consistent) :
    (c.order.map Prod.snd).Perm (c.entries.map Prod.fst) := by
  have := h.order_perm.map Prod.snd
  rwa [stamps, List.map_map] at this

/-- The order lists no key twice: `(c.order.map Prod.snd).Nodup`. -/
theorem order_keys_nodup (h : c.Consistent) : (c.order.map Prod.snd).Nodup :=
  h.order_keys_perm.nodup_iff.mpr h.keys_nodup

/-- The order is as long as the table: `c.order.length = c.entries.length`. -/
theorem length_order (h : c.Consistent) : c.order.length = c.entries.length := by
  simpa [stamps] using h.order_perm.length_eq

/-- There is an oldest result if there is any. -/
theorem exists_oldest (h : c.Consistent) (hpos : 0 < c.entries.length) :
    ∃ oldest rest, c.order = oldest :: rest :=
  List.exists_cons_of_length_pos (h.length_order ▸ hpos)

/-- A number stands for one key. -/
theorem createdAt_injective (h : c.Consistent) {key key' : String} {e e' : Entry}
    (he : c.get? key = some e) (he' : c.get? key' = some e') (hq : e.createdAt = e'.createdAt) :
    key = key' := by
  have hm := h.mem_order_iff.mpr ⟨e, he, rfl⟩
  have hm' := h.mem_order_iff.mpr ⟨e', he', hq.symm⟩
  have hn : (c.order.map Prod.fst).Nodup :=
    (List.pairwise_map.mpr h.order_sorted).imp fun hlt => Nat.ne_of_lt hlt
  exact (Prod.mk.inj (List.inj_on_of_nodup_map hn hm hm' rfl)).2

end Consistent

/-! ### Taking results out -/

section Remove

variable {c : PageCache} (key : String)

/-- Removing a key takes **its entry and no other**: `(c.remove key).get? other` is `none` for `key`
and `c.get? other` otherwise. -/
theorem get?_remove (other : String) :
    (c.remove key).get? other = if other = key then none else c.get? other := by
  unfold remove
  cases h : c.get? key with
  | none =>
    by_cases ho : other = key
    · simp [ho, h]
    · simp [ho]
  | some e => exact Fields.get?_erase key other c.entries

/-- A key that has been removed is no key of the table. -/
theorem not_mem_keys_remove : key ∉ (c.remove key).entries.map Prod.fst := by
  rw [← Fields.get?_eq_none_iff]
  exact (get?_remove key key).trans (if_pos rfl)

/-- Removing a key keeps the configuration. -/
@[simp] theorem config_remove : (c.remove key).config = c.config := by
  unfold remove; split <;> rfl

/-- Removing a key keeps the last number. -/
@[simp] theorem lastSeq_remove : (c.remove key).lastSeq = c.lastSeq := by
  unfold remove; split <;> rfl

/-- Removing a key keeps the last method source. -/
@[simp] theorem lastMethodSource_remove :
    (c.remove key).lastMethodSource = c.lastMethodSource := by
  unfold remove; split <;> rfl

/-- Removing a key makes no table longer: `(c.remove key).entries.length ≤ c.entries.length`. -/
theorem length_remove_le : (c.remove key).entries.length ≤ c.entries.length := by
  unfold remove
  split
  · exact Nat.le_refl _
  · exact List.length_filter_le _ _

/-- The numbers in the order of a result that is taken out are those of the others. -/
theorem Consistent.remove (h : c.Consistent) : (c.remove key).Consistent := by
  unfold PageCache.remove
  cases he : c.get? key with
  | none => exact h
  | some e =>
    -- The table is filtered by key and the order by number; numbers are injective, so both lose
    -- the same result.
    have hiff : ∀ f ∈ c.entries, (f.2.createdAt ≠ e.createdAt ↔ f.1 ≠ key) := by
      intro f hf
      have hget := (Fields.get?_eq_some_iff h.keys_nodup).mpr hf
      refine not_congr ⟨fun hq => h.createdAt_injective hget he hq, ?_⟩
      rintro rfl
      rw [Option.some.inj (hget.symm.trans he)]
    refine ⟨Fields.nodup_keys_erase key h.keys_nodup, ?_, ?_, ?_, ?_, h.slot_le, ?_⟩
    · exact fun f hf => h.key_text f (List.mem_of_mem_filter hf)
    · have hperm := h.order_perm.filter fun o => o.1 ≠ e.createdAt
      rw [stamps, List.filter_map] at hperm
      refine hperm.trans (List.Perm.of_eq (congrArg _ (List.filter_congr fun f hf => ?_)))
      exact decide_eq_decide.mpr (hiff f hf)
    · exact h.order_sorted.sublist List.filter_sublist
    · exact fun o ho => h.order_le o (List.mem_of_mem_filter ho)
    · exact fun s hs o ho => h.slot_ne s hs o (List.mem_of_mem_filter ho)

end Remove

/-! ### Evicting -/

/-- A cache without its oldest result. -/
def evict (c : PageCache) : PageCache :=
  match c.order with
  | [] => c
  | o :: rest =>
    { c with order := rest, entries := Fields.erase o.2 c.entries, evictions := c.evictions + 1 }

/-- Where the order starts with `o`, evicting takes `o` from it and the entry of `o` from the table,
and counts one eviction. -/
theorem evict_of_order {c : PageCache} {o : Nat × String} {rest : List (Nat × String)}
    (h : c.order = o :: rest) :
    c.evict =
      { c with
        order := rest
        entries := Fields.erase o.2 c.entries
        evictions := c.evictions + 1 } := by
  rw [evict, h]

/-- Evicting keeps a cache consistent: `c.evict.Consistent`. -/
theorem Consistent.evict {c : PageCache} (h : c.Consistent) : c.evict.Consistent := by
  unfold PageCache.evict
  cases ho : c.order with
  | nil => exact h
  | cons o rest =>
    have hkeys := h.order_keys_nodup
    rw [ho, List.map_cons, List.nodup_cons] at hkeys
    have hsorted := h.order_sorted
    rw [ho] at hsorted
    -- The order loses its head and the table the key of it, which no other result of the order has.
    have hmem : ∀ o' ∈ rest, o' ∈ c.order := fun o' h' => ho ▸ List.mem_cons_of_mem o h'
    refine ⟨Fields.nodup_keys_erase o.2 h.keys_nodup, ?_, ?_, hsorted.of_cons, ?_, h.slot_le, ?_⟩
    · exact fun f hf => h.key_text f (List.mem_of_mem_filter hf)
    · have hperm := h.order_perm.filter fun o' => o'.2 ≠ o.2
      have hrest : rest.filter (fun o' => o'.2 ≠ o.2) = rest :=
        List.filter_eq_self.mpr fun o' h' => by
          have : o'.2 ≠ o.2 := fun e => hkeys.1 (e ▸ List.mem_map_of_mem h')
          simpa using this
      rw [ho, List.filter_cons_of_neg (by simp), hrest, stamps, List.filter_map] at hperm
      exact hperm
    · exact fun o' h' => h.order_le o' (hmem o' h')
    · exact fun s hs o' h' => h.slot_ne s hs o' (hmem o' h')

/-- Evicting takes **the entry of the oldest key and no other**: `c.evict.get? key` is `none` for
the head of the order and `c.get? key` otherwise. -/
theorem get?_evict (c : PageCache) (key : String) :
    c.evict.get? key = if (c.order.head?.map Prod.snd) = some key then none else c.get? key := by
  unfold evict
  cases c.order with
  | nil => simp
  | cons o rest =>
    simp only [List.head?_cons, Option.map_some, Option.some.injEq, eq_comm (a := o.2)]
    exact Fields.get?_erase o.2 key c.entries

/-- What is there after an eviction was there before it. -/
theorem get?_of_evict {c : PageCache} {key : String} {e : Entry}
    (h : c.evict.get? key = some e) : c.get? key = some e := by
  rw [get?_evict] at h
  split at h
  · cases h
  · exact h

/-- Evicting keeps the configuration. -/
@[simp] theorem config_evict (c : PageCache) : c.evict.config = c.config := by
  unfold evict; split <;> rfl

/-- A key of the order is a key of the table. -/
theorem Consistent.mem_keys_of_order {c : PageCache} (h : c.Consistent) {o : Nat × String}
    (ho : o ∈ c.order) : o.2 ∈ c.entries.map Prod.fst :=
  h.order_keys_perm.mem_iff.mp (List.mem_map_of_mem ho)

/-- Evicting from a table that is not empty takes one entry:
`c.evict.entries.length + 1 = c.entries.length`. -/
theorem Consistent.length_evict {c : PageCache} (h : c.Consistent) (hpos : 0 < c.entries.length) :
    c.evict.entries.length + 1 = c.entries.length := by
  obtain ⟨o, rest, ho⟩ := h.exists_oldest hpos
  rw [evict_of_order ho]
  exact Fields.length_erase_of_mem h.keys_nodup (h.mem_keys_of_order (ho ▸ List.mem_cons_self))

/-- A table within its capacity loses nothing. -/
theorem evictOldest_of_le {capacity : Nat} {entries : List (String × Entry)}
    (h : entries.length ≤ capacity) (order : List (Nat × String)) (n : Nat) :
    evictOldest capacity order entries n = (order, entries, n) := by
  cases order with
  | nil => rfl
  | cons o rest => exact if_neg (Nat.not_lt.mpr h)

/-- Trimming a table with at most one result too many evicts **at most the oldest**. -/
theorem Consistent.trim_eq {c : PageCache} (h : c.Consistent)
    (hlen : c.entries.length ≤ c.config.maxEntries.toNat + 1) :
    c.trim = if c.entries.length ≤ c.config.maxEntries.toNat then c else c.evict := by
  by_cases hle : c.entries.length ≤ c.config.maxEntries.toNat
  · rw [if_pos hle, trim, evictOldest_of_le hle]
  · -- One too many: evicting once makes the table fit, so the loop stops after its first round.
    have hevict := h.length_evict (by omega)
    obtain ⟨o, rest, ho⟩ := h.exists_oldest (by omega)
    rw [if_neg hle, trim, ho]
    rw [evict_of_order ho] at hevict ⊢
    have herase : (Fields.erase o.2 c.entries).length + 1 = c.entries.length := hevict
    rw [evictOldest, if_pos (Nat.lt_of_not_le hle), evictOldest_of_le (by omega)]

/-! ### Putting results in -/

section Insert

variable {c : PageCache} {e : Entry}

/-- Inserting an entry puts it **under its key**, and nothing else changes. -/
theorem get?_insert (key : String) :
    (c.insert e).get? key = if key = e.key.text then some e else c.get? key := by
  by_cases h : key = e.key.text
  · rw [if_pos h, h]
    exact Fields.get?_put_self _ _ _
  · rw [if_neg h]
    exact Fields.get?_put_of_ne h _ _

/-- Inserting an entry of the next number under a new key keeps a cache consistent. -/
theorem Consistent.insert (h : c.Consistent) (hkey : e.key.text ∉ c.entries.map Prod.fst)
    (hseq : e.createdAt = c.lastSeq + 1) : (c.insert e).Consistent := by
  -- The key is new, so table and order both grow at the end, and the new number is above all.
  have hput := Fields.put_of_not_mem hkey e
  refine ⟨?_, ?_, ?_, ?_, ?_, ?_, ?_⟩ <;> simp only [PageCache.insert, stamps, hput]
  · rw [List.map_append, List.nodup_append]
    refine ⟨h.keys_nodup, by simp, ?_⟩
    rintro k hk k' hk' rfl
    simp only [List.map_cons, List.map_nil, List.mem_singleton] at hk'
    exact hkey (hk' ▸ hk)
  · intro f hf
    rcases List.mem_append.mp hf with hf | hf
    · exact h.key_text f hf
    · rw [List.mem_singleton.mp hf]
  · rw [List.map_append]
    exact h.order_perm.append (List.Perm.refl _)
  · refine List.pairwise_append.mpr ⟨h.order_sorted, List.pairwise_singleton _ _, ?_⟩
    intro o ho o' ho'
    have := h.order_le o ho
    rw [List.mem_singleton.mp ho']
    simp only [hseq]; omega
  · intro o ho
    rcases List.mem_append.mp ho with ho | ho
    · have := h.order_le o ho; omega
    · obtain rfl := List.mem_singleton.mp ho
      exact Nat.le_refl _
  · intro s hs
    have := h.slot_le s hs; omega
  · intro s hs o ho
    have hle := h.slot_le s hs
    rcases List.mem_append.mp ho with ho | ho
    · exact h.slot_ne s hs o ho
    · rw [List.mem_singleton.mp ho]
      simp only [hseq]; omega

/-- Inserting under a new key makes the table longer by one. -/
theorem length_insert (hkey : e.key.text ∉ c.entries.map Prod.fst) :
    (c.insert e).entries.length = c.entries.length + 1 := by
  simp [insert, Fields.put_of_not_mem hkey]

end Insert

/-! ### Storing -/

section Store

variable {c : PageCache} (key : CacheKey) (units : Units)

/-- A cache with a new result, before anything is evicted. -/
def withNew (c : PageCache) (key : CacheKey) (units : Units) : PageCache :=
  (c.remove key.text).insert (c.newEntry key units)

/-- With new units of a key there is **a new entry under it**: `c.newEntry key units`, and nothing
else changes. -/
theorem get?_withNew (other : String) :
    (c.withNew key units).get? other =
      if other = key.text then some (c.newEntry key units) else c.get? other := by
  rw [withNew, get?_insert, get?_remove]
  simp only [newEntry]
  split <;> rfl

/-- New units keep the configuration. -/
@[simp] theorem config_withNew : (c.withNew key units).config = c.config := config_remove key.text

/-- New units keep a cache consistent: `(c.withNew key units).Consistent`. -/
theorem Consistent.withNew (h : c.Consistent) : (c.withNew key units).Consistent :=
  (h.remove key.text).insert (not_mem_keys_remove key.text) (by simp [newEntry])

/-- New units take a well-formed cache to **one entry too many at most**. -/
theorem length_withNew_le (h : c.WellFormed) :
    (c.withNew key units).entries.length ≤ c.config.maxEntries.toNat + 1 := by
  have hle := length_remove_le (c := c) key.text
  have hlen := h.length_le
  rw [PageCache.withNew, length_insert (not_mem_keys_remove key.text)]
  omega

/-- **Storing** a large result puts it into the table and evicts at most the oldest one. -/
theorem storeIfLarge_of_le (h : c.WellFormed) {threshold : UInt64}
    (hlarge : threshold.toNat ≤ units.length) :
    c.storeIfLarge key units threshold =
      (.cached (c.newEntry key units),
        if (c.withNew key units).entries.length ≤ c.config.maxEntries.toNat then c.withNew key units
        else (c.withNew key units).evict) := by
  have htrim := (h.toConsistent.withNew key units).trim_eq
    (by rw [config_withNew]; exact length_withNew_le key units h)
  rw [config_withNew] at htrim
  rw [storeIfLarge, if_neg (Nat.not_lt.mpr hlarge), ← htrim, PageCache.withNew]

/-- Units below the threshold are given inline, and the cache stays as it is. -/
theorem storeIfLarge_of_lt {threshold : UInt64} (hsmall : units.length < threshold.toNat) :
    c.storeIfLarge key units threshold = (.inline units, c) := if_pos hsmall

/-- Storing keeps a cache well formed, whatever the threshold. -/
theorem WellFormed.storeIfLarge (h : c.WellFormed) (threshold : UInt64) :
    (c.storeIfLarge key units threshold).2.WellFormed := by
  rcases Nat.lt_or_ge units.length threshold.toNat with hsmall | hlarge
  · rw [storeIfLarge_of_lt key units hsmall]
    exact h
  · rw [storeIfLarge_of_le key units h hlarge]
    have hnew := h.toConsistent.withNew key units
    have hlen := length_withNew_le key units h
    split
    · rename_i hfits
      refine ⟨hnew, ?_⟩
      rw [config_withNew]
      exact hfits
    · rename_i hfull
      have hevict := hnew.length_evict (Nat.zero_lt_of_lt (Nat.lt_of_not_le hfull))
      refine ⟨hnew.evict, ?_⟩
      rw [config_evict, config_withNew]
      exact Nat.le_of_succ_le_succ (Nat.le_trans (Nat.le_of_eq hevict) hlen)

/-- After a large result has been stored, **its key has no other**, and nothing else is new. -/
theorem get?_storeIfLarge_of_le (h : c.WellFormed) {threshold : UInt64}
    (hlarge : threshold.toNat ≤ units.length) {other : String} {e : Entry}
    (he : (c.storeIfLarge key units threshold).2.get? other = some e) :
    (other = key.text ∧ e = c.newEntry key units) ∨
      (other ≠ key.text ∧ c.get? other = some e) := by
  -- An eviction on the way only takes results out.
  have hnew : (c.withNew key units).get? other = some e := by
    rw [storeIfLarge_of_le key units h hlarge] at he
    split at he
    · exact he
    · exact get?_of_evict he
  rw [get?_withNew] at hnew
  split at hnew
  · rename_i ho
    exact Or.inl ⟨ho, (Option.some.inj hnew).symm⟩
  · rename_i ho
    exact Or.inr ⟨ho, hnew⟩

end Store

/-! ### Every operation -/

section Run

variable {c : PageCache}

/-- Counting a search keeps the configuration. -/
@[simp] theorem config_count (found : Bool) : (c.count found).config = c.config := by
  cases found <;> rfl

/-- Counting a search keeps the last method source. -/
@[simp] theorem lastMethodSource_count (found : Bool) :
    (c.count found).lastMethodSource = c.lastMethodSource := by
  cases found <;> rfl

/-- Counting a search keeps every entry: `(c.count found).get? key = c.get? key`. -/
@[simp] theorem get?_count (found : Bool) (key : String) :
    (c.count found).get? key = c.get? key := by
  cases found <;> rfl

/-- The counters and the time have no part in the invariant. -/
theorem WellFormed.of_eq {c' : PageCache} (h : c.WellFormed) (hconfig : c'.config = c.config)
    (hentries : c'.entries = c.entries) (horder : c'.order = c.order)
    (hslot : c'.lastMethodSource = c.lastMethodSource) (hseq : c'.lastSeq = c.lastSeq) :
    c'.WellFormed := by
  obtain ⟨config, entries, order, slot, seq, _, _, _, _, _⟩ := c'
  simp only at hconfig hentries horder hslot hseq
  subst hconfig hentries horder hslot hseq
  exact ⟨⟨h.keys_nodup, h.key_text, h.order_perm, h.order_sorted, h.order_le, h.slot_le,
    h.slot_ne⟩, h.length_le⟩

/-- Counting a search keeps a cache well formed. -/
theorem WellFormed.count (h : c.WellFormed) (found : Bool) : (c.count found).WellFormed := by
  cases found <;> exact h.of_eq rfl rfl rfl rfl rfl

/-- Removing a key keeps a cache well formed. -/
theorem WellFormed.remove (h : c.WellFormed) (key : String) : (c.remove key).WellFormed := by
  refine ⟨h.toConsistent.remove key, ?_⟩
  rw [config_remove]
  exact Nat.le_trans (length_remove_le key) h.length_le

/-- A cleared cache is well formed. -/
theorem wellFormed_clear (c : PageCache) : c.clear.2.WellFormed :=
  ⟨⟨List.nodup_nil, by simp [PageCache.clear], List.Perm.nil, List.Pairwise.nil,
    by simp [PageCache.clear], by simp [PageCache.clear], by simp [PageCache.clear]⟩, Nat.zero_le _⟩

/-- Remembering a method source keeps a cache well formed. -/
theorem WellFormed.remember (h : c.WellFormed) (key : CacheKey) (units : Units) :
    (c.remember key units).2.WellFormed := by
  refine ⟨⟨h.keys_nodup, h.key_text, h.order_perm, h.order_sorted, ?_, ?_, ?_⟩, h.length_le⟩
  · exact fun o ho => Nat.le_succ_of_le (h.order_le o ho)
  · intro e he
    obtain rfl := Option.some.inj he
    exact Nat.le_refl _
  · intro e he o ho
    obtain rfl := Option.some.inj he
    exact Nat.ne_of_lt (Nat.lt_succ_of_le (h.order_le o ho))

/-- Forgetting the method source keeps a cache well formed. -/
theorem WellFormed.forget (h : c.WellFormed) : c.forget.2.WellFormed :=
  ⟨⟨h.keys_nodup, h.key_text, h.order_perm, h.order_sorted, h.order_le, by simp [PageCache.forget],
    by simp [PageCache.forget]⟩, h.length_le⟩

/-- An operation that looks only counts. -/
theorem run_of_looks {op : CacheOp} (h : op.Looks) (c : PageCache) :
    (op.run c).2 = c ∨ ∃ found, (op.run c).2 = c.count found := by
  cases op with
  | lookup key => exact Or.inr ⟨_, rfl⟩
  | getPage key index size =>
    simp only [CacheOp.run, getPage, lookup]
    cases validatePage index size with
    | error e => exact Or.inl rfl
    | ok u =>
      -- Invalid bounds are refused before the table is searched, so only here something is counted.
      refine Or.inr ⟨(c.get? key).isSome, ?_⟩
      cases c.get? key <;> rfl
  | slotPage index size =>
    simp only [CacheOp.run, slotPage]
    cases validatePage index size with
    | error e => exact Or.inl rfl
    | ok u =>
      refine Or.inr ⟨c.lastMethodSource.isSome, ?_⟩
      cases hslot : c.lastMethodSource <;> simp only [lastMethodSource_count, hslot]
  | stats => exact Or.inl rfl
  | store key units threshold => exact h.elim
  | invalidate key => exact h.elim
  | clear => exact h.elim
  | remember key units => exact h.elim
  | forget => exact h.elim

/-- A page of a result that the table has. -/
theorem getPage_of_get? {key : String} {e : Entry} (he : c.get? key = some e) {index size : UInt64}
    (hvalid : validatePage index size = .ok ()) :
    c.getPage key index size = (.ok (e.page index size), c.count true) := by
  simp only [getPage, hvalid, lookup, he, Option.isSome_some]

/-- A page of the last method source. -/
theorem slotPage_of_slot {e : Entry} (he : c.lastMethodSource = some e) {index size : UInt64}
    (hvalid : validatePage index size = .ok ()) :
    c.slotPage index size = (.ok (e.page index size), c.count true) := by
  simp only [slotPage, hvalid, lastMethodSource_count, he, Option.isSome_some]

/-- Looking at a cache keeps it well formed. -/
theorem WellFormed.of_looks (h : c.WellFormed) {op : CacheOp} (hl : op.Looks) :
    (op.run c).2.WellFormed := by
  obtain hc | ⟨found, hc⟩ := run_of_looks hl c <;> rw [hc]
  · exact h
  · exact h.count found

/-- Looking at a cache keeps its configuration. -/
theorem config_of_looks {op : CacheOp} (hl : op.Looks) : (op.run c).2.config = c.config := by
  obtain hc | ⟨found, hc⟩ := run_of_looks hl c <;> rw [hc]
  exact config_count found

/-- Looking at a cache keeps every entry: `(op.run c).2.get? key = c.get? key`. -/
theorem get?_of_looks {op : CacheOp} (hl : op.Looks) (key : String) :
    (op.run c).2.get? key = c.get? key := by
  obtain hc | ⟨found, hc⟩ := run_of_looks hl c <;> rw [hc]
  exact get?_count found key

/-- Looking at a cache keeps its last method source. -/
theorem lastMethodSource_of_looks {op : CacheOp} (hl : op.Looks) :
    (op.run c).2.lastMethodSource = c.lastMethodSource := by
  obtain hc | ⟨found, hc⟩ := run_of_looks hl c <;> rw [hc]
  exact lastMethodSource_count found

/-- Clearing one key keeps a cache well formed. -/
theorem WellFormed.invalidate (h : c.WellFormed) (key : String) :
    (c.invalidate key).2.WellFormed := by
  unfold PageCache.invalidate
  cases c.get? key with
  | none => exact h
  | some e => exact (h.remove key).of_eq rfl rfl rfl rfl rfl

/-- **Every operation keeps the invariant.** -/
theorem wellFormed_run (op : CacheOp) (h : c.WellFormed) : (op.run c).2.WellFormed := by
  cases op with
  | store key units threshold => exact h.storeIfLarge key units threshold
  | invalidate key => exact h.invalidate key
  | clear => exact wellFormed_clear c
  | remember key units => exact h.remember key units
  | forget => exact h.forget
  | lookup key | getPage key index size | slotPage index size | stats => exact h.of_looks trivial

/-- **No operation changes the configuration**: `(op.run c).2.config = c.config`. -/
@[simp] theorem config_run (op : CacheOp) : (op.run c).2.config = c.config := by
  cases op with
  | store key units threshold =>
    simp only [CacheOp.run, storeIfLarge]
    split
    · rfl
    · exact config_remove key.text
  | invalidate key =>
    simp only [CacheOp.run, PageCache.invalidate]
    split
    · rfl
    · exact config_remove key
  | clear => rfl
  | remember key units => rfl
  | forget => rfl
  | lookup key | getPage key index size | slotPage index size | stats =>
    exact config_of_looks trivial

/-- Clearing one key takes **its entry and no other**. -/
theorem get?_invalidate (key other : String) :
    (c.invalidate key).2.get? other = if other = key then none else c.get? other := by
  rw [← get?_remove]
  unfold PageCache.invalidate PageCache.remove
  cases c.get? key <;> rfl

/-- **What is in the table after an operation** was there before, or has just been stored. -/
theorem get?_run (h : c.WellFormed) (op : CacheOp) {key : String} {e : Entry}
    (he : (op.run c).2.get? key = some e) :
    c.get? key = some e ∨ ∃ k units threshold, op = .store k units threshold ∧ k.text = key ∧
      threshold.toNat ≤ units.length ∧ e = c.newEntry k units := by
  cases op with
  | store k units threshold =>
    rcases Nat.lt_or_ge units.length threshold.toNat with hsmall | hlarge
    · simp only [CacheOp.run, storeIfLarge_of_lt k units hsmall] at he
      exact Or.inl he
    · rcases get?_storeIfLarge_of_le k units h hlarge he with ⟨rfl, hnew⟩ | ⟨-, hold⟩
      · exact Or.inr ⟨k, units, threshold, rfl, rfl, hlarge, hnew⟩
      · exact Or.inl hold
  | invalidate k =>
    have hif := (get?_invalidate k key).symm.trans he
    split at hif
    · cases hif
    · exact Or.inl hif
  | clear => cases he
  | remember k units => exact Or.inl he
  | forget => exact Or.inl he
  | lookup k | getPage k index size | slotPage index size | stats =>
    rw [get?_of_looks] at he
    · exact Or.inl he
    · exact trivial

/-- The last method source after an operation was it before, or has just been remembered. -/
theorem lastMethodSource_run (op : CacheOp) {e : Entry}
    (he : (op.run c).2.lastMethodSource = some e) :
    c.lastMethodSource = some e ∨
      ∃ key units, op = .remember key units ∧ e = c.newEntry key units := by
  cases op with
  | store k units threshold =>
    simp only [CacheOp.run, storeIfLarge] at he
    split at he
    · exact Or.inl he
    · exact Or.inl ((lastMethodSource_remove k.text).symm.trans he)
  | invalidate k =>
    simp only [CacheOp.run, PageCache.invalidate] at he
    split at he
    · exact Or.inl he
    · exact Or.inl ((lastMethodSource_remove k).symm.trans he)
  | clear => cases he
  | remember k units => exact Or.inr ⟨k, units, rfl, (Option.some.inj he).symm⟩
  | forget => cases he
  | lookup k | getPage k index size | slotPage index size | stats =>
    rw [lastMethodSource_of_looks] at he
    · exact Or.inl he
    · exact trivial

end Run

end PageCache

end CodePager
