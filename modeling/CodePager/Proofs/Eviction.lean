import CodePager.Proofs.CacheInvariant
import Mathlib.Data.Finset.Card

/-! # Eviction

Which results the table holds, told from **what has been done** to the cache alone. A result that
has been stored lives until it is dropped, replaced, or as many keys have been stored after it as
the table has room for. `PageCache.youngerThan` counts those keys in the table, `CacheOp.tally`
counts them from the operations; that the two agree while the result lives
(`PageCache.WellFormed.livesBeside_run`) decides when it is the oldest one and must go. -/

namespace CodePager

namespace PageCache

variable {c : PageCache} {key : String} {e : Entry}

/-! ### The oldest result -/

/-- The keys of the table. -/
def keys (c : PageCache) : Finset String := (c.entries.map Prod.fst).toFinset

/-- The keys of the results that have been stored **after** a result. -/
def youngerThan (c : PageCache) (e : Entry) : Finset String :=
  ((c.entries.filter fun f => e.createdAt < f.2.createdAt).map Prod.fst).toFinset

namespace Consistent

/-- There are as many keys as entries: `c.keys.card = c.entries.length`. -/
theorem card_keys (h : c.Consistent) : c.keys.card = c.entries.length := by
  rw [keys, List.toFinset_card_of_nodup h.keys_nodup, List.length_map]

/-- The keys are those under which there is an entry. -/
theorem mem_keys (h : c.Consistent) {other : String} :
    other ∈ c.keys ↔ ∃ e, c.get? other = some e := by
  rw [keys, List.mem_toFinset]
  constructor
  · intro hmem
    obtain ⟨⟨k, e⟩, hf, rfl⟩ := List.mem_map.mp hmem
    exact ⟨e, (Fields.get?_eq_some_iff h.keys_nodup).mpr hf⟩
  · rintro ⟨e, he⟩
    exact List.mem_map_of_mem (Fields.mem_of_get? he)

/-- The younger keys are those with an entry of a **higher number**:
`e.createdAt < e'.createdAt`. -/
theorem mem_youngerThan (h : c.Consistent) {other : String} :
    other ∈ c.youngerThan e ↔ ∃ e', c.get? other = some e' ∧ e.createdAt < e'.createdAt := by
  rw [youngerThan, List.mem_toFinset, List.mem_map]
  constructor
  · rintro ⟨⟨k, e'⟩, hf, rfl⟩
    obtain ⟨hmem, hlt⟩ := List.mem_filter.mp hf
    exact ⟨e', (Fields.get?_eq_some_iff h.keys_nodup).mpr hmem, of_decide_eq_true hlt⟩
  · rintro ⟨e', he', hlt⟩
    exact ⟨(other, e'), List.mem_filter.mpr ⟨Fields.mem_of_get? he', decide_eq_true hlt⟩, rfl⟩

/-- The younger results are others of the table. -/
theorem youngerThan_subset (h : c.Consistent) (he : c.get? key = some e) :
    c.youngerThan e ⊆ c.keys.erase key := by
  intro other hmem
  obtain ⟨e', he', hlt⟩ := h.mem_youngerThan.mp hmem
  refine Finset.mem_erase.mpr ⟨?_, h.mem_keys.mpr ⟨e', he'⟩⟩
  rintro rfl
  rw [he] at he'
  obtain rfl := Option.some.inj he'
  exact absurd hlt (Nat.lt_irrefl _)

/-- The other keys are one less than the entries:
`(c.keys.erase key).card + 1 = c.entries.length`. -/
theorem card_erase_keys (h : c.Consistent) (he : c.get? key = some e) :
    (c.keys.erase key).card + 1 = c.entries.length := by
  rw [Finset.card_erase_add_one (h.mem_keys.mpr ⟨e, he⟩), h.card_keys]

/-- There are fewer younger keys than entries: `(c.youngerThan e).card < c.entries.length`. -/
theorem card_youngerThan_lt (h : c.Consistent) (he : c.get? key = some e) :
    (c.youngerThan e).card < c.entries.length := by
  have hcard := Finset.card_le_card (h.youngerThan_subset he)
  have hkeys := h.card_erase_keys he
  omega

/-- Every other result of the table is younger than the one that the order starts with. -/
theorem createdAt_lt_of_head (h : c.Consistent) {o : Nat × String} {rest : List (Nat × String)}
    (horder : c.order = o :: rest) {other : String} {e' : Entry} (he' : c.get? other = some e')
    (hne : other ≠ o.2) : o.1 < e'.createdAt := by
  have hmem := h.mem_order_iff.mpr ⟨e', he', rfl⟩
  have hsorted := h.order_sorted
  rw [horder] at hmem hsorted
  rcases List.mem_cons.mp hmem with heq | hrest
  · exact absurd (congrArg Prod.snd heq) hne
  · exact List.rel_of_pairwise_cons hsorted hrest

/-- A result is **the oldest** exactly if all others of the table are younger. -/
theorem head_eq_iff (h : c.Consistent) (he : c.get? key = some e) :
    c.order.head?.map Prod.snd = some key ↔ c.entries.length = (c.youngerThan e).card + 1 := by
  cases horder : c.order with
  | nil =>
    have hmem := h.mem_order_iff.mpr ⟨e, he, rfl⟩
    rw [horder] at hmem
    cases hmem
  | cons o rest =>
    obtain ⟨e₀, he₀, hseq⟩ :=
      h.mem_order_iff.mp (horder ▸ List.mem_cons_self : (o.1, o.2) ∈ c.order)
    rw [List.head?_cons, Option.map_some, Option.some.injEq, ← h.card_erase_keys he,
      Nat.add_right_cancel_iff]
    constructor
    · rintro rfl
      obtain rfl : e₀ = e := Option.some.inj (he₀.symm.trans he)
      refine congrArg Finset.card (Finset.Subset.antisymm ?_ (h.youngerThan_subset he))
      intro other hother
      obtain ⟨hne, hmem⟩ := Finset.mem_erase.mp hother
      obtain ⟨e', he'⟩ := h.mem_keys.mp hmem
      have hlt := h.createdAt_lt_of_head horder he' hne
      exact h.mem_youngerThan.mpr ⟨e', he', hseq ▸ hlt⟩
    · -- If the head were another result it would have to be a younger one, but none is older.
      intro hcard
      have hall := Finset.eq_of_subset_of_card_le (h.youngerThan_subset he) (Nat.le_of_eq hcard)
      by_contra hne
      have hhead : o.2 ∈ c.youngerThan e := by
        rw [hall]
        exact Finset.mem_erase.mpr ⟨hne, h.mem_keys.mpr ⟨e₀, he₀⟩⟩
      obtain ⟨e', he', hlt⟩ := h.mem_youngerThan.mp hhead
      obtain rfl : e₀ = e' := Option.some.inj (he₀.symm.trans he')
      have := h.createdAt_lt_of_head horder he (Ne.symm hne)
      omega

/-- Evicting spares every result but the oldest, and the results that are younger than it. -/
theorem youngerThan_evict (h : c.Consistent) (he : c.get? key = some e)
    (hhead : c.order.head?.map Prod.snd ≠ some key) :
    c.evict.get? key = some e ∧ c.evict.youngerThan e = c.youngerThan e := by
  refine ⟨by rw [get?_evict, if_neg hhead, he], ?_⟩
  ext other
  rw [h.evict.mem_youngerThan, h.mem_youngerThan, get?_evict]
  split
  · rename_i hother
    -- What is evicted is older than any other result, so it was not among the younger ones.
    constructor
    · rintro ⟨e', he', -⟩
      cases he'
    · rintro ⟨e', he', hlt⟩
      cases horder : c.order with
      | nil => rw [horder] at hother; cases hother
      | cons o rest =>
        rw [horder] at hother hhead
        obtain rfl : o.2 = other := Option.some.inj hother
        have hne : key ≠ o.2 := fun heq => hhead (congrArg some heq.symm)
        have hlt' := h.createdAt_lt_of_head horder he hne
        obtain ⟨e₀, he₀, hseq⟩ :=
          h.mem_order_iff.mp (horder ▸ List.mem_cons_self : (o.1, o.2) ∈ c.order)
        obtain rfl : e₀ = e' := Option.some.inj (he₀.symm.trans he')
        omega
  · exact Iff.rfl

end Consistent

/-! ### Living and being evicted -/

/-- A result that has these younger ones **lives if the table has room for all of them** beside it,
and has been evicted if not. -/
structure LivesBeside (c : PageCache) (key : String) (e : Entry) (younger : Finset String) :
    Prop where
  lives : younger.card < c.config.maxEntries.toNat →
    c.get? key = some e ∧ c.youngerThan e = younger
  evicted : c.config.maxEntries.toNat ≤ younger.card → c.get? key = none

/-- Whatever is in the table has room there. -/
theorem WellFormed.livesBeside (h : c.WellFormed) (he : c.get? key = some e) :
    c.LivesBeside key e (c.youngerThan e) where
  lives := fun _ => ⟨he, rfl⟩
  evicted := by
    intro hfull
    have hlt := h.card_youngerThan_lt he
    have hle := h.length_le
    omega

/-- Storing a large result evicts at most the oldest of the table, the new one included. -/
theorem WellFormed.livesBeside_storeIfLarge (h : c.WellFormed) {new : CacheKey} {units : Units}
    {threshold : UInt64} (hlarge : threshold.toNat ≤ units.length)
    (he : (c.withNew new units).get? key = some e) :
    (c.storeIfLarge new units threshold).2.LivesBeside key e
      ((c.withNew new units).youngerThan e) := by
  have hnew := h.toConsistent.withNew new units
  have hlength := length_withNew_le new units h
  have hhead := hnew.head_eq_iff he
  rw [storeIfLarge_of_le new units h hlarge]
  split
  · rename_i hfits
    exact WellFormed.livesBeside ⟨hnew, by rwa [config_withNew]⟩ he
  · -- There is exactly one result too many, so the oldest one has all the room behind it.
    rename_i hfull
    constructor <;> rw [config_evict, config_withNew]
    · intro hroom
      exact hnew.youngerThan_evict he fun holdest => by
        have := hhead.mp holdest
        omega
    · intro hroom
      have hlt := hnew.card_youngerThan_lt he
      rw [get?_evict, if_pos (hhead.mpr (by omega))]

end PageCache

/-! ### Counting by the operations -/

namespace CacheOp

/-- An operation **stores** a large result under a key. -/
def Stores (key : String) : CacheOp → Prop
  | .store k units threshold => k.text = key ∧ threshold.toNat ≤ units.length
  | _ => False

/-- An operation **drops** what is stored under a key. -/
def Drops (key : String) : CacheOp → Prop
  | .invalidate k => k = key
  | .clear => True
  | _ => False

/-- The operations that have to do with the table only by looking into it. -/
def LeavesTable : CacheOp → Prop
  | .store _ _ _ | .invalidate _ | .clear => False
  | _ => True

/-- The keys under which large results have been stored and that have **not been dropped since**,
after one more operation. -/
def tally (keys : Finset String) : CacheOp → Finset String
  | .store key units threshold =>
    if threshold.toNat ≤ units.length then insert key.text keys else keys
  | .invalidate key => keys.erase key
  | .clear => ∅
  | _ => keys

/-- The keys under which large results have been stored and that have not been dropped since, after
more operations. -/
def stored (keys : Finset String) (ops : List CacheOp) : Finset String := ops.foldl tally keys

/-- What is stored under a key **outlives** some operations if none of them drops it and at no
moment as many keys have been stored after it as there is room for. -/
structure Outlived (capacity : Nat) (key : String) (ops : List CacheOp) : Prop where
  not_dropped : ∀ op ∈ ops, ¬ op.Drops key
  room : ∀ part, part <+: ops → (stored ∅ part).card < capacity

/-- **What remains** under a key of some operations: the last of them that stored a large result
under it stored these units, and they outlived the rest. -/
def Remain (capacity : Nat) (ops : List CacheOp) (key : String) (units : Units) : Prop :=
  ∃ before k threshold after, ops = before ++ .store k units threshold :: after ∧ k.text = key ∧
    threshold.toNat ≤ units.length ∧ (∀ op ∈ after, ¬ op.Stores key) ∧ Outlived capacity key after

end CacheOp

namespace PageCache

variable {c : PageCache} {key : String} {e : Entry} {op : CacheOp}

/-- Looking at a cache changes neither its table nor the order of it. -/
theorem table_of_looks (hl : op.Looks) :
    (op.run c).2.entries = c.entries ∧ (op.run c).2.order = c.order := by
  obtain hc | ⟨found, hc⟩ := run_of_looks hl c
  · rw [hc]
    exact ⟨rfl, rfl⟩
  · rw [hc]
    cases found <;> exact ⟨rfl, rfl⟩

/-- An operation that leaves the table changes neither what it holds nor the order of it. -/
theorem table_of_leavesTable (hop : op.LeavesTable) :
    (op.run c).2.entries = c.entries ∧ (op.run c).2.order = c.order := by
  cases op with
  | store k units threshold => exact hop.elim
  | invalidate k => exact hop.elim
  | clear => exact hop.elim
  | remember k units => exact ⟨rfl, rfl⟩
  | forget => exact ⟨rfl, rfl⟩
  | lookup k | getPage k index size | slotPage index size | stats => exact table_of_looks trivial

/-- An operation that leaves the table leaves every result in it, **beside the same younger
ones**. -/
theorem livesBeside_of_leavesTable (h : c.WellFormed) (he : c.get? key = some e)
    (hop : op.LeavesTable) : (op.run c).2.LivesBeside key e (op.tally (c.youngerThan e)) := by
  obtain ⟨hentries, -⟩ := table_of_leavesTable hop (c := c)
  have hget : (op.run c).2.get? key = some e := by rw [get?, hentries]; exact he
  have hyounger : (op.run c).2.youngerThan e = c.youngerThan e := by
    rw [youngerThan, hentries, youngerThan]
  have htally : op.tally (c.youngerThan e) = c.youngerThan e := by
    cases op with
    | store k units threshold => exact hop.elim
    | invalidate k => exact hop.elim
    | clear => exact hop.elim
    | _ => rfl
  rw [htally, ← hyounger]
  exact (wellFormed_run op h).livesBeside hget

/-- A new result joins the younger ones of every other result. -/
theorem Consistent.withNew_of_ne (h : c.Consistent) (he : c.get? key = some e) {new : CacheKey}
    (hne : new.text ≠ key) (units : Units) :
    (c.withNew new units).get? key = some e ∧
      (c.withNew new units).youngerThan e = Insert.insert new.text (c.youngerThan e) := by
  refine ⟨by rw [get?_withNew, if_neg hne.symm, he], ?_⟩
  ext other
  rw [(h.withNew new units).mem_youngerThan, Finset.mem_insert, h.mem_youngerThan, get?_withNew]
  by_cases hother : other = new.text
  · -- The number of the new result is above all others.
    have hle := h.createdAt_le he
    simp only [hother, if_true, true_or, iff_true]
    exact ⟨c.newEntry new units, rfl, Nat.lt_succ_of_le hle⟩
  · simp only [hother, if_false, false_or]

/-- Nothing is younger than a new result. -/
theorem Consistent.youngerThan_newEntry (h : c.Consistent) (new : CacheKey) (units : Units) :
    (c.withNew new units).youngerThan (c.newEntry new units) = ∅ := by
  refine Finset.eq_empty_of_forall_notMem fun other hmem => ?_
  obtain ⟨e', he', hlt⟩ := (h.withNew new units).mem_youngerThan.mp hmem
  rw [get?_withNew] at he'
  split at he'
  · obtain rfl := Option.some.inj he'
    exact absurd hlt (Nat.lt_irrefl _)
  · have hle := h.createdAt_le he'
    exact absurd hlt (Nat.not_lt.mpr (Nat.le_succ_of_le hle))

/-- **A large result that has just been stored** is there if there is room at all, and nothing is
younger; without any room it is gone at once. -/
theorem WellFormed.livesBeside_newEntry (h : c.WellFormed) {k : CacheKey} {units : Units}
    {threshold : UInt64} (hlarge : threshold.toNat ≤ units.length) :
    (c.storeIfLarge k units threshold).2.LivesBeside k.text (c.newEntry k units) ∅ := by
  have hnew : (c.withNew k units).get? k.text = some (c.newEntry k units) := by
    rw [get?_withNew, if_pos rfl]
  rw [← h.youngerThan_newEntry k units]
  exact h.livesBeside_storeIfLarge hlarge hnew

/-- **One operation** that neither stores under a key nor drops what is under it: the younger ones
of the result under the key are tallied, and there is room for them or it is evicted. -/
theorem WellFormed.livesBeside_run (h : c.WellFormed) (he : c.get? key = some e)
    (hstores : ¬ op.Stores key) (hdrops : ¬ op.Drops key) :
    (op.run c).2.LivesBeside key e (op.tally (c.youngerThan e)) := by
  cases op with
  | store k units threshold =>
    simp only [CacheOp.run, CacheOp.tally]
    split
    · rename_i hlarge
      have hne : k.text ≠ key := fun hk => hstores ⟨hk, hlarge⟩
      obtain ⟨hnew, hyounger⟩ := h.toConsistent.withNew_of_ne he hne units
      rw [← hyounger]
      exact h.livesBeside_storeIfLarge hlarge hnew
    · rename_i hsmall
      rw [storeIfLarge_of_lt k units (Nat.lt_of_not_le hsmall)]
      exact h.livesBeside he
  | invalidate k =>
    have hwf := h.invalidate k
    have hget : (c.invalidate k).2.get? key = some e := by
      rw [get?_invalidate, if_neg (Ne.symm hdrops), he]
    have hyounger : (c.invalidate k).2.youngerThan e = (c.youngerThan e).erase k := by
      ext other
      rw [hwf.mem_youngerThan, Finset.mem_erase, h.mem_youngerThan, get?_invalidate]
      by_cases hother : other = k <;> simp [hother]
    simp only [CacheOp.run, CacheOp.tally]
    rw [← hyounger]
    exact hwf.livesBeside hget
  | clear => exact absurd trivial hdrops
  | remember k units => exact livesBeside_of_leavesTable h he trivial
  | forget => exact livesBeside_of_leavesTable h he trivial
  | lookup k | getPage k index size | slotPage index size | stats =>
    exact livesBeside_of_leavesTable h he trivial

/-- Nothing is under a key after it has been dropped. -/
theorem get?_run_of_drops (hdrops : op.Drops key) : (op.run c).2.get? key = none := by
  cases op with
  | invalidate k =>
    obtain rfl := hdrops
    exact (get?_invalidate k k).trans (if_pos rfl)
  | clear => rfl
  | _ => exact hdrops.elim

/-! ### Runs -/

/-- The cache after more operations. -/
def after (c : PageCache) (ops : List CacheOp) : PageCache :=
  ops.foldl (fun c op => (op.run c).2) c

/-- Operations one after the other are carried out one after the other:
`(c.after ops).after more`. -/
theorem after_append (c : PageCache) (ops more : List CacheOp) :
    c.after (ops ++ more) = (c.after ops).after more := List.foldl_append ..

/-- The first operation is carried out first: `(op.run c).2.after ops`. -/
theorem after_cons (c : PageCache) (op : CacheOp) (ops : List CacheOp) :
    c.after (op :: ops) = (op.run c).2.after ops := rfl

variable {ops : List CacheOp}

/-- **Any operations** keep a cache well formed: `(c.after ops).WellFormed`. -/
theorem WellFormed.after (h : c.WellFormed) (ops : List CacheOp) : (c.after ops).WellFormed := by
  induction ops generalizing c with
  | nil => exact h
  | cons op ops ih => exact ih (wellFormed_run op h)

/-- No operations change the configuration: `(c.after ops).config = c.config`. -/
theorem config_after (c : PageCache) (ops : List CacheOp) : (c.after ops).config = c.config := by
  induction ops generalizing c with
  | nil => rfl
  | cons op ops ih => rw [after_cons, ih, config_run]

/-- What is not there comes only by being stored. -/
theorem WellFormed.get?_after_eq_none (h : c.WellFormed) (hnone : c.get? key = none)
    (hstores : ∀ op ∈ ops, ¬ op.Stores key) : (c.after ops).get? key = none := by
  induction ops generalizing c with
  | nil => exact hnone
  | cons op ops ih =>
    rw [after_cons]
    refine ih (wellFormed_run op h) ?_ fun op' hop' => hstores op' (List.mem_cons_of_mem op hop')
    by_contra hsome
    obtain ⟨e, he⟩ := Option.ne_none_iff_exists'.mp hsome
    rcases get?_run h op he with hold | ⟨k, units, threshold, rfl, hk, hlarge, -⟩
    · rw [hnone] at hold
      cases hold
    · exact hstores _ List.mem_cons_self ⟨hk, hlarge⟩

/-- **A run** that neither stores under a key nor drops what is under it leaves the result there
exactly if there has been room at every moment. -/
theorem WellFormed.get?_after (h : c.WellFormed) (he : c.get? key = some e)
    (hstores : ∀ op ∈ ops, ¬ op.Stores key) (hdrops : ∀ op ∈ ops, ¬ op.Drops key) :
    ((∀ part, part <+: ops →
        (CacheOp.stored (c.youngerThan e) part).card < c.config.maxEntries.toNat) ∧
      (c.after ops).get? key = some e) ∨
    ((∃ part, part <+: ops ∧
        c.config.maxEntries.toNat ≤ (CacheOp.stored (c.youngerThan e) part).card) ∧
      (c.after ops).get? key = none) := by
  induction ops generalizing c with
  | nil =>
    refine Or.inl ⟨fun part hpart => ?_, he⟩
    obtain rfl := List.prefix_nil.mp hpart
    exact Nat.lt_of_lt_of_le (h.card_youngerThan_lt he) h.length_le
  | cons op ops ih =>
    have hwf := wellFormed_run op h
    have hop := h.livesBeside_run he (hstores op List.mem_cons_self) (hdrops op List.mem_cons_self)
    have hstores' := fun op' hop' => hstores op' (List.mem_cons_of_mem op hop')
    have hdrops' := fun op' hop' => hdrops op' (List.mem_cons_of_mem op hop')
    rw [after_cons]
    rcases Nat.lt_or_ge (op.tally (c.youngerThan e)).card c.config.maxEntries.toNat with
      hroom | hfull
    · obtain ⟨hlive, hyounger⟩ := hop.lives (by rwa [config_run])
      have hrest := ih hwf hlive hstores' hdrops'
      rw [hyounger, config_run] at hrest
      rcases hrest with ⟨hparts, hget⟩ | ⟨⟨part, hpart, hcard⟩, hget⟩
      · refine Or.inl ⟨fun part hpart => ?_, hget⟩
        rcases List.prefix_cons_iff.mp hpart with rfl | ⟨rest, rfl, hrest⟩
        · exact Nat.lt_of_lt_of_le (h.card_youngerThan_lt he) h.length_le
        · exact hparts rest hrest
      · exact Or.inr ⟨⟨op :: part, List.prefix_cons_iff.mpr (Or.inr ⟨part, rfl, hpart⟩), hcard⟩,
          hget⟩
    · -- Evicted now, and nothing brings it back.
      have hgone := hop.evicted (by rwa [config_run])
      refine Or.inr ⟨⟨[op], List.prefix_append [op] ops, hfull⟩, ?_⟩
      exact hwf.get?_after_eq_none hgone hstores'

/-- **What has become of a stored result** after more operations, if nothing more has been stored
under its key: it is there if it has outlived them, and there is nothing if not. -/
theorem WellFormed.get?_after_store (h : c.WellFormed) {new : CacheKey} {units : Units}
    {threshold : UInt64} (hlarge : threshold.toNat ≤ units.length)
    (hstores : ∀ op ∈ ops, ¬ op.Stores new.text) :
    (CacheOp.Outlived c.config.maxEntries.toNat new.text ops ∧
      (c.after (.store new units threshold :: ops)).get? new.text =
        some (c.newEntry new units)) ∨
    (¬ CacheOp.Outlived c.config.maxEntries.toNat new.text ops ∧
      (c.after (.store new units threshold :: ops)).get? new.text = none) := by
  have hwf := h.storeIfLarge new units threshold
  have hstored := h.livesBeside_newEntry (k := new) hlarge
  have hconfig : (c.storeIfLarge new units threshold).2.config = c.config :=
    config_run (.store new units threshold)
  rw [after_cons]
  by_cases hdrops : ∀ op ∈ ops, ¬ op.Drops new.text
  · rcases Nat.eq_zero_or_pos c.config.maxEntries.toNat with hzero | hpos
    · -- Without any room the result is gone as soon as it is stored.
      have hgone := hstored.evicted (by rw [hconfig, hzero]; exact Nat.zero_le _)
      refine Or.inr ⟨fun hout => ?_, hwf.get?_after_eq_none hgone hstores⟩
      have := hout.room [] List.nil_prefix
      omega
    · obtain ⟨hlive, hyounger⟩ := hstored.lives (by rwa [hconfig])
      have hrun := hwf.get?_after hlive hstores hdrops
      rw [hyounger, hconfig] at hrun
      rcases hrun with ⟨hroom, hget⟩ | ⟨⟨part, hpart, hfull⟩, hget⟩
      · exact Or.inl ⟨⟨hdrops, hroom⟩, hget⟩
      · refine Or.inr ⟨fun hout => ?_, hget⟩
        exact absurd (hout.room part hpart) (Nat.not_lt.mpr hfull)
  · refine Or.inr ⟨fun hout => hdrops hout.not_dropped, ?_⟩
    push Not at hdrops
    obtain ⟨op, hmem, hop⟩ := hdrops
    obtain ⟨before, later, rfl⟩ := List.append_of_mem hmem
    rw [after_append, after_cons]
    refine (wellFormed_run op (hwf.after before)).get?_after_eq_none (get?_run_of_drops hop) ?_
    intro op' hop'
    exact hstores op' (List.mem_append_right _ (List.mem_cons_of_mem _ hop'))

end PageCache

/-- Either nothing in a list has a property, or there is a last one that has it. -/
theorem exists_last {α : Type} (P : α → Prop) (xs : List α) :
    (∀ x ∈ xs, ¬ P x) ∨ ∃ before x after, xs = before ++ x :: after ∧ P x ∧ ∀ y ∈ after, ¬ P y := by
  induction xs with
  | nil => exact Or.inl (by simp)
  | cons x xs ih =>
    rcases ih with hnone | ⟨before, y, after, rfl, hy, hafter⟩
    · by_cases hx : P x
      · exact Or.inr ⟨[], x, xs, rfl, hx, hnone⟩
      · refine Or.inl fun y hy => ?_
        rcases List.mem_cons.mp hy with rfl | hy
        · exact hx
        · exact hnone y hy
    · exact Or.inr ⟨x :: before, y, after, rfl, hy, hafter⟩

section Empty

variable {config : CacheConfig} {now key : String} {ops : List CacheOp}

/-- The cache after some operations, begun with an empty one, when the last large result under a key
is stored. -/
theorem get?_after_last_store (before later : List CacheOp) {new : CacheKey} {units : Units}
    {threshold : UInt64} (hlarge : threshold.toNat ≤ units.length)
    (hlater : ∀ op ∈ later, ¬ op.Stores new.text) {e : Entry} :
    ((PageCache.empty config now).after (before ++ .store new units threshold :: later)).get?
        new.text = some e ↔
      CacheOp.Outlived config.maxEntries.toNat new.text later ∧
        e = ((PageCache.empty config now).after before).newEntry new units := by
  have h0 := (PageCache.wellFormed_empty config now).after before
  have hfate := h0.get?_after_store hlarge hlater
  rw [← PageCache.after_append, PageCache.config_after] at hfate
  rcases hfate with ⟨hout, hget⟩ | ⟨hnot, hget⟩
  · rw [hget, Option.some.injEq, eq_comm]
    exact (and_iff_right hout).symm
  · rw [hget]
    constructor
    · intro h
      cases h
    · rintro ⟨hout, -⟩
      exact absurd hout hnot

/-- What remains of some operations **is in the table** after them. -/
theorem units_after_of_remain {units : Units}
    (h : CacheOp.Remain config.maxEntries.toNat ops key units) :
    (((PageCache.empty config now).after ops).get? key).map Entry.units = some units := by
  obtain ⟨before, k, threshold, later, rfl, rfl, hlarge, hlater, hout⟩ := h
  rw [(get?_after_last_store before later hlarge hlater).mpr ⟨hout, rfl⟩]
  rfl

/-- What is in the table after some operations **remains of them**. -/
theorem remain_of_get?_after {e : Entry}
    (he : ((PageCache.empty config now).after ops).get? key = some e) :
    CacheOp.Remain config.maxEntries.toNat ops key e.units := by
  rcases exists_last (CacheOp.Stores key) ops with
    hnone | ⟨before, op, later, rfl, hop, hlater⟩
  · -- Nothing has been stored under the key.
    rw [(PageCache.wellFormed_empty config now).get?_after_eq_none rfl hnone] at he
    cases he
  · cases op with
    | store k units threshold =>
      obtain ⟨rfl, hlarge⟩ := hop
      obtain ⟨hout, rfl⟩ := (get?_after_last_store before later hlarge hlater).mp he
      exact ⟨before, k, threshold, later, rfl, rfl, hlarge, hlater, hout⟩
    | _ => exact hop.elim

end Empty

/-! ### Main result -/

/-- **The operations decide what is cached.** After any of them, begun with an empty cache, a search
finds under every key exactly the units that remain of them, and nothing if none do. Searching,
paging, the statistics and the last method source leave the table as it is. -/
theorem lookup_after_iff_remain (config : CacheConfig) (now : String) (ops : List CacheOp) :
    let c := (PageCache.empty config now).after ops
    (∀ key units, (c.lookup key).1.map Entry.units = some units ↔
      CacheOp.Remain config.maxEntries.toNat ops key units) ∧
    ∀ op : CacheOp, op.LeavesTable →
      (op.run c).2.entries = c.entries ∧ (op.run c).2.order = c.order := by
  refine ⟨fun key units => ⟨fun hfound => ?_, fun h => units_after_of_remain h⟩, fun op hop =>
    PageCache.table_of_leavesTable hop⟩
  obtain ⟨e, he, rfl⟩ := Option.map_eq_some_iff.mp hfound
  exact remain_of_get?_after he

/-- With room for one result the older of two has gone, and looking at it has not saved it. -/
example :
    let c := (PageCache.empty ⟨1, 1, 1⟩ "").after
      [.store ⟨"a"⟩ (.lines ["x"]) 1, .lookup "a", .store ⟨"b"⟩ (.lines ["y"]) 1]
    (c.lookup "a").1.isNone = true ∧ (c.lookup "b").1.isSome = true := by decide

end CodePager
