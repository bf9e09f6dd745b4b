import CodePager.Proofs.Eviction

/-! # Accounting

Nothing that is kept gets lost. Every result that is cached and every method source that is
remembered is kept still, or it has come to **exactly one end**: it was evicted, dropped, replaced
or forgotten, and has been counted there once. `Balanced` is that equation, with those of the other
counters, between the beginning and the end of some operations; it holds of one operation by looking
at what the operation does, and of a run because balances add up (`Balanced.append`). -/

namespace CodePager

/-- An operation on the cache that it finds. -/
structure CacheAct where
  found : PageCache
  op : CacheOp

namespace CacheAct

/-- A store that caches. -/
@[simp] def caches : CacheAct → Bool
  | ⟨c, .store key units threshold⟩ =>
    match (c.storeIfLarge key units threshold).1 with
    | .cached _ => true
    | .inline _ => false
  | _ => false

/-- A method source is remembered. -/
@[simp] def remembers : CacheAct → Bool
  | ⟨_, .remember _ _⟩ => true
  | _ => false

/-- A store that caches where a result of its key is live. -/
@[simp] def replaces (act : CacheAct) : Bool :=
  match act with
  | ⟨c, .store key _ _⟩ => act.caches && (c.get? key.text).isSome
  | _ => false

/-- A method source is remembered in the place of another. -/
@[simp] def replacesSource : CacheAct → Bool
  | ⟨c, .remember _ _⟩ => c.lastMethodSource.isSome
  | _ => false

/-- A method source is forgotten, and that is told. -/
@[simp] def forgets : CacheAct → Bool
  | ⟨c, .forget⟩ => c.forget.1
  | _ => false

/-- A search that finds something. -/
@[simp] def finds : CacheAct → Bool
  | ⟨c, .lookup key⟩ => (c.lookup key).1.isSome
  | ⟨c, .getPage key index size⟩ => (c.getPage key index size).1.isOk
  | ⟨c, .slotPage index size⟩ => (c.slotPage index size).1.isOk
  | _ => false

/-- A search: a look into the table, or the request for a page that there can be. -/
@[simp] def searches : CacheAct → Bool
  | ⟨_, .lookup _⟩ => true
  | ⟨_, .getPage _ index size⟩ | ⟨_, .slotPage index size⟩ => (validatePage index size).isOk
  | _ => false

/-- How many results and method sources have been kept. -/
def created (acts : List CacheAct) : Nat := acts.countP caches + acts.countP remembers

/-- How many of them have been replaced or forgotten. -/
def replaced (acts : List CacheAct) : Nat :=
  acts.countP replaces + acts.countP replacesSource + acts.countP forgets

/-- What two runs keep adds up: `created acts + created more`. -/
theorem created_append (acts more : List CacheAct) :
    created (acts ++ more) = created acts + created more := by
  simp only [created, List.countP_append]
  omega

/-- What two runs replace or forget adds up: `replaced acts + replaced more`. -/
theorem replaced_append (acts more : List CacheAct) :
    replaced (acts ++ more) = replaced acts + replaced more := by
  simp only [replaced, List.countP_append]
  omega

/-- An operation that remembers a method source caches nothing. -/
theorem caches_eq_false_of_remembers {act : CacheAct} (h : act.remembers = true) :
    act.caches = false := by
  obtain ⟨c, op⟩ := act
  cases op with
  | remember key units => rfl
  | _ => cases h

/-- An operation keeps at most one thing. -/
theorem created_le_length (acts : List CacheAct) : created acts ≤ acts.length := by
  have hother : acts.countP remembers ≤ acts.countP fun act => !act.caches :=
    List.countP_mono_left fun act _ h => by rw [caches_eq_false_of_remembers h, Bool.not_false]
  have hlength := List.length_eq_countP_add_countP (l := acts) caches
  simp only [Bool.not_eq_true, Bool.decide_eq_false] at hlength
  unfold created
  omega

end CacheAct

namespace PageCache

variable {c : PageCache}

/-- The operations one after the other, each with the cache that it finds. -/
def acts : PageCache → List CacheOp → List CacheAct
  | _, [] => []
  | c, op :: ops => ⟨c, op⟩ :: acts (op.run c).2 ops

/-- There are as many acts as operations: `(c.acts ops).length = ops.length`. -/
theorem length_acts (c : PageCache) (ops : List CacheOp) : (c.acts ops).length = ops.length := by
  induction ops generalizing c with
  | nil => rfl
  | cons op ops ih => rw [acts, List.length_cons, ih, List.length_cons]

/-- How much is kept, in the table and as the last method source. -/
def held (c : PageCache) : Nat := c.entries.length + c.lastMethodSource.toList.length

/-! ### Balances -/

/-- **The books of some operations balance**: what was kept before or has been kept is kept still,
or counted at its end, and the other counters have gone on by what they count. -/
structure Balanced (c : PageCache) (acts : List CacheAct) (left : PageCache) : Prop where
  kept : c.held + c.evictions + c.invalidations + CacheAct.created acts =
    left.held + left.evictions + left.invalidations + CacheAct.replaced acts
  numbered : left.lastSeq = c.lastSeq + CacheAct.created acts
  hits : left.hits = c.hits + acts.countP CacheAct.finds
  searched : left.hits + left.misses = c.hits + c.misses + acts.countP CacheAct.searches

/-- The books of no operations balance. -/
theorem Balanced.refl (c : PageCache) : Balanced c [] c := ⟨rfl, rfl, rfl, rfl⟩

/-- **Balances add up**: from `c₁` to `c₂` and from there to `c₃` they balance from `c₁` to `c₃`. -/
theorem Balanced.append {c₁ c₂ c₃ : PageCache} {acts more : List CacheAct}
    (h : Balanced c₁ acts c₂) (h' : Balanced c₂ more c₃) : Balanced c₁ (acts ++ more) c₃ := by
  obtain ⟨hkept, hnumbered, hhits, hsearched⟩ := h
  obtain ⟨hkept', hnumbered', hhits', hsearched'⟩ := h'
  constructor <;>
    simp only [CacheAct.created_append, CacheAct.replaced_append, List.countP_append] <;> omega

/-! ### What becomes of the table -/

/-- Taking out what is under a key makes the table shorter by that. -/
theorem Consistent.remove_books (h : c.Consistent) (key : String) :
    ∃ entries order, c.remove key = { c with entries := entries, order := order } ∧
      entries.length + (c.get? key).isSome.toNat = c.entries.length := by
  unfold PageCache.remove
  cases hget : c.get? key with
  | none => exact ⟨c.entries, c.order, rfl, rfl⟩
  | some e =>
    have hmem := List.mem_map_of_mem (f := Prod.fst) (Fields.mem_of_get? hget)
    exact ⟨_, _, rfl, Fields.length_erase_of_mem h.keys_nodup hmem⟩

/-- A new result is one more, unless it takes the place of another. -/
theorem Consistent.withNew_books (h : c.Consistent) (key : CacheKey) (units : Units) :
    ∃ entries order, c.withNew key units =
        { c with entries := entries, order := order, lastSeq := c.lastSeq + 1 } ∧
      entries.length + (c.get? key.text).isSome.toNat = c.entries.length + 1 := by
  obtain ⟨entries, order, hremove, hlength⟩ := h.remove_books key.text
  have hnew := length_insert (e := c.newEntry key units) (not_mem_keys_remove (c := c) key.text)
  refine ⟨(c.withNew key units).entries, (c.withNew key units).order, ?_, ?_⟩
  · rw [PageCache.withNew, hremove]
    rfl
  · have hremoved : (c.remove key.text).entries.length = entries.length := by rw [hremove]
    rw [PageCache.withNew, hnew, hremoved]
    omega

/-- Evicting makes the table shorter by one, and counts it. -/
theorem Consistent.evict_books (h : c.Consistent) (hpos : 0 < c.entries.length) :
    ∃ entries order, c.evict =
        { c with entries := entries, order := order, evictions := c.evictions + 1 } ∧
      entries.length + 1 = c.entries.length := by
  have hevict := h.length_evict hpos
  obtain ⟨oldest, rest, horder⟩ := h.exists_oldest hpos
  rw [evict_of_order horder] at hevict ⊢
  exact ⟨_, _, rfl, hevict⟩

/-- **What storing does to the books**: a number is given, and beside the new result are those that
have neither been replaced nor evicted. -/
theorem WellFormed.store_books (h : c.WellFormed) (key : CacheKey) (units : Units)
    {threshold : UInt64} (hlarge : threshold.toNat ≤ units.length) :
    ∃ entries order evicted, c.storeIfLarge key units threshold =
        (.cached (c.newEntry key units),
          { c with
            entries := entries
            order := order
            lastSeq := c.lastSeq + 1
            evictions := c.evictions + evicted }) ∧
      entries.length + (c.get? key.text).isSome.toNat + evicted = c.entries.length + 1 := by
  obtain ⟨entries, order, hnew, hlength⟩ := h.toConsistent.withNew_books key units
  rw [storeIfLarge_of_le key units h hlarge]
  split
  -- Either the new table fits, or it is one too large and its oldest result goes.
  · exact ⟨entries, order, 0, by rw [hnew]; rfl, hlength⟩
  · rename_i hfull
    obtain ⟨left, order', hevict, hleft⟩ :=
      (h.toConsistent.withNew key units).evict_books (Nat.zero_lt_of_lt (Nat.lt_of_not_le hfull))
    refine ⟨left, order', 1, by rw [hevict, hnew], ?_⟩
    rw [hnew] at hleft
    simp only at hleft
    omega

/-! ### One operation -/

section Act

variable {act : CacheAct}

/-- An operation that does not search. -/
theorem balanced_unsearched {left : PageCache} (hsearches : act.searches = false)
    (hfinds : act.finds = false) (hhits : left.hits = c.hits) (hmisses : left.misses = c.misses)
    (hnumbered : left.lastSeq = c.lastSeq + CacheAct.created [act])
    (hkept : c.held + c.evictions + c.invalidations + CacheAct.created [act] =
      left.held + left.evictions + left.invalidations + CacheAct.replaced [act]) :
    Balanced c [act] left where
  kept := hkept
  numbered := hnumbered
  hits := by rw [List.countP_singleton, hfinds, hhits]; rfl
  searched := by rw [List.countP_singleton, hsearches, hhits, hmisses]; rfl

variable (hcreated : CacheAct.created [act] = 0)
  (hreplaced : CacheAct.replaced [act] = 0)

include hcreated hreplaced

/-- An operation that keeps nothing, ends nothing and does not search. -/
theorem balanced_idle (hsearches : act.searches = false) (hfinds : act.finds = false) :
    Balanced c [act] c :=
  balanced_unsearched hsearches hfinds rfl rfl (by rw [hcreated]; rfl)
    (by rw [hcreated, hreplaced])

/-- An operation that only searches. -/
theorem balanced_count (hsearches : act.searches = true) {found : Bool}
    (hfinds : act.finds = found) : Balanced c [act] (c.count found) where
  kept := by rw [hcreated, hreplaced]; cases found <;> rfl
  numbered := by rw [hcreated]; cases found <;> rfl
  hits := by rw [List.countP_singleton, hfinds]; cases found <;> rfl
  searched := by
    rw [List.countP_singleton, hsearches, if_pos rfl]
    cases found
    · exact (Nat.add_assoc _ _ 1).symm
    · exact Nat.add_right_comm _ 1 _

/-- An operation that asks for a page: **it searches if there can be such a page**, and then it is
counted by what it finds. -/
theorem balanced_page {index size : UInt64} {result : Except Failure Page × PageCache}
    (hsearches : act.searches = (validatePage index size).isOk)
    (hfinds : act.finds = result.1.isOk)
    (hresult : match validatePage index size with
      | .error _ => result.1.isOk = false ∧ result.2 = c
      | .ok () => result.2 = c.count result.1.isOk) : Balanced c [act] result.2 := by
  cases hvalid : validatePage index size with
  | error e =>
    rw [hvalid] at hsearches hresult
    rw [hresult.2]
    exact balanced_idle hcreated hreplaced hsearches (hfinds.trans hresult.1)
  | ok u =>
    rw [hvalid] at hsearches hresult
    rw [hresult]
    exact balanced_count hcreated hreplaced hsearches hfinds

end Act

/-- The books of asking for a page of a cached result balance. -/
theorem balanced_getPage (key : String) (index size : UInt64) :
    Balanced c [⟨c, .getPage key index size⟩] (c.getPage key index size).2 := by
  refine balanced_page rfl rfl rfl rfl ?_
  cases hvalid : validatePage index size with
  | error e => simp only [getPage, hvalid, and_true]; rfl
  | ok u => simp only [getPage, hvalid, lookup]; cases c.get? key <;> rfl

/-- The books of asking for a page of the method source balance. -/
theorem balanced_slotPage (index size : UInt64) :
    Balanced c [⟨c, .slotPage index size⟩] (c.slotPage index size).2 := by
  refine balanced_page rfl rfl rfl rfl ?_
  cases hvalid : validatePage index size with
  | error e => simp only [slotPage, hvalid, and_true]; rfl
  | ok u => simp only [slotPage, hvalid, lastMethodSource_count]; cases c.lastMethodSource <;> rfl

/-- The books of **storing** balance: what is cached is kept, or replaces what was there, and what
has to go for it is counted as evicted. -/
theorem WellFormed.balanced_store (h : c.WellFormed) (key : CacheKey) (units : Units)
    (threshold : UInt64) :
    Balanced c [⟨c, .store key units threshold⟩] (c.storeIfLarge key units threshold).2 := by
  rcases Nat.lt_or_ge units.length threshold.toNat with hsmall | hlarge
  · have hstore := storeIfLarge_of_lt (c := c) key units hsmall
    rw [hstore]
    exact balanced_idle (by simp [CacheAct.created, hstore]) (by simp [CacheAct.replaced, hstore])
      rfl rfl
  · obtain ⟨entries, order, evicted, hstore, hlength⟩ := h.store_books key units hlarge
    have hcreated : CacheAct.created [⟨c, .store key units threshold⟩] = 1 := by
      simp [CacheAct.created, hstore]
    have hreplaced : CacheAct.replaced [⟨c, .store key units threshold⟩] =
        (c.get? key.text).isSome.toNat := by
      cases hget : c.get? key.text <;> simp [CacheAct.replaced, hstore, hget]
    rw [hstore]
    refine balanced_unsearched rfl rfl rfl rfl (by rw [hcreated]) ?_
    rw [hcreated, hreplaced]
    simp only [held]
    omega

/-- The books of clearing one key balance: the entry is counted as dropped if there was one. -/
theorem Consistent.balanced_invalidate (h : c.Consistent) (key : String) :
    Balanced c [⟨c, .invalidate key⟩] (c.invalidate key).2 := by
  obtain ⟨entries, order, hremove, hlength⟩ := h.remove_books key
  unfold PageCache.invalidate
  cases hget : c.get? key with
  | none => exact balanced_idle rfl rfl rfl rfl
  | some e =>
    have hone : entries.length + 1 = c.entries.length := by
      rw [hget] at hlength
      exact hlength
    rw [hremove]
    refine balanced_unsearched rfl rfl rfl rfl rfl ?_
    show c.held + c.evictions + c.invalidations =
      entries.length + c.lastMethodSource.toList.length + c.evictions + (c.invalidations + 1)
    simp only [held]
    omega

/-- The books of clearing everything balance: all entries and the method source are counted as
dropped. -/
theorem balanced_clear (c : PageCache) : Balanced c [⟨c, .clear⟩] c.clear.2 := by
  refine balanced_unsearched rfl rfl rfl rfl rfl ?_
  show c.held + c.evictions + c.invalidations = 0 + c.evictions + (c.invalidations + c.held)
  omega

/-- The books of remembering a method source balance: the one before it is counted as replaced. -/
theorem balanced_remember (key : CacheKey) (units : Units) :
    Balanced c [⟨c, .remember key units⟩] (c.remember key units).2 := by
  have hreplaced : CacheAct.replaced [⟨c, .remember key units⟩] =
      c.lastMethodSource.toList.length := by
    cases hslot : c.lastMethodSource <;> simp [CacheAct.replaced, hslot]
  refine balanced_unsearched rfl rfl rfl rfl rfl ?_
  rw [hreplaced]
  show c.held + c.evictions + c.invalidations + 1 = c.entries.length + 1 + c.evictions +
    c.invalidations + c.lastMethodSource.toList.length
  simp only [held]
  omega

/-- The books of forgetting the method source balance. -/
theorem balanced_forget (c : PageCache) : Balanced c [⟨c, .forget⟩] c.forget.2 := by
  have hreplaced : CacheAct.replaced [⟨c, .forget⟩] = c.lastMethodSource.toList.length := by
    cases hslot : c.lastMethodSource <;> simp [CacheAct.replaced, forget, hslot]
  refine balanced_unsearched rfl rfl rfl rfl rfl ?_
  rw [hreplaced]
  show c.held + c.evictions + c.invalidations =
    c.entries.length + c.evictions + c.invalidations + c.lastMethodSource.toList.length
  simp only [held]
  omega

/-- **The books of one operation balance.** -/
theorem WellFormed.balanced_run (h : c.WellFormed) (op : CacheOp) :
    Balanced c [⟨c, op⟩] (op.run c).2 := by
  cases op with
  | store key units threshold => exact h.balanced_store key units threshold
  | lookup key => exact balanced_count rfl rfl rfl rfl
  | getPage key index size => exact balanced_getPage key index size
  | invalidate key => exact h.balanced_invalidate key
  | clear => exact balanced_clear c
  | remember key units => exact balanced_remember key units
  | forget => exact balanced_forget c
  | slotPage index size => exact balanced_slotPage index size
  | stats => exact balanced_idle rfl rfl rfl rfl

/-- **The books of a run balance.** -/
theorem WellFormed.balanced_after (h : c.WellFormed) (ops : List CacheOp) :
    Balanced c (c.acts ops) (c.after ops) := by
  induction ops generalizing c with
  | nil => exact .refl c
  | cons op ops ih => exact (h.balanced_run op).append (ih (wellFormed_run op h))

end PageCache

/-! ### Main result -/

/-- **After any operations on a new cache** everything that has been kept is still there or has come
to one end; the last number counts it, the other counters count searches, and a clearing tells how
much goes. No counter is above the number of operations, so counting in words gives the same as long
as the operations can be counted by a word. -/
theorem accounts_balance (config : CacheConfig) (now : String) (ops : List CacheOp) :
    let start := PageCache.empty config now
    let c := start.after ops
    let acts := start.acts ops
    (acts.countP CacheAct.caches + acts.countP CacheAct.remembers =
      c.entries.length + c.lastMethodSource.toList.length + c.evictions + c.invalidations +
        acts.countP CacheAct.replaces + acts.countP CacheAct.replacesSource +
        acts.countP CacheAct.forgets) ∧
    c.lastSeq = acts.countP CacheAct.caches + acts.countP CacheAct.remembers ∧
    c.hits = acts.countP CacheAct.finds ∧
    c.hits + c.misses = acts.countP CacheAct.searches ∧
    (∀ before later, ops = before ++ .clear :: later →
      (start.after before).clear.1 = (start.after before).held ∧
        (start.after (before ++ [.clear])).held = 0) ∧
    c.lastSeq ≤ ops.length ∧ c.hits + c.misses ≤ ops.length ∧
      c.evictions + c.invalidations ≤ ops.length := by
  intro start c acts
  have hbalanced : PageCache.Balanced start acts c :=
    (PageCache.wellFormed_empty config now).balanced_after ops
  obtain ⟨hkept, hnumbered, hhits, hsearched⟩ := hbalanced
  have hcreated : CacheAct.created acts ≤ ops.length :=
    Nat.le_trans (CacheAct.created_le_length acts) (Nat.le_of_eq (start.length_acts ops))
  have hsearches : acts.countP CacheAct.searches ≤ ops.length :=
    Nat.le_trans List.countP_le_length (Nat.le_of_eq (start.length_acts ops))
  -- Nothing is held and counted by a new cache, so its balance is that of what has been done.
  have hstart : start.held + start.evictions + start.invalidations = 0 := rfl
  have hseq : start.lastSeq = 0 := rfl
  have hsearch : start.hits = 0 ∧ start.misses = 0 := ⟨rfl, rfl⟩
  refine ⟨?_, ?_, ?_, ?_, ?_, ?_, ?_, ?_⟩
  · simp only [CacheAct.created, CacheAct.replaced, PageCache.held] at hkept hstart
    omega
  · simp only [CacheAct.created] at hnumbered
    omega
  · omega
  · omega
  · rintro before later -
    refine ⟨rfl, ?_⟩
    rw [PageCache.after_append]
    rfl
  · omega
  · omega
  · omega

end CodePager
