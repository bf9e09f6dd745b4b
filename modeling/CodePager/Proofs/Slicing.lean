import CodePager.Proofs.Paging
import Mathlib.Data.Rat.Floor

/-! # Pages in exact arithmetic

A page told without words that stop: its units by their positions, and the number of pages as a
rounded-up quotient. **Every page of every size is exactly that** (`Entry.page_exact`), also where
the product of its number and its size goes beyond the largest word. -/

namespace CodePager

/-! ### Positions -/

/-- The elements of a list at the positions, counted from zero, that satisfy `P`, in their order. -/
def elementsAt {α : Type} (P : Nat → Prop) [DecidablePred P] (xs : List α) : List α :=
  (xs.zipIdx.filter fun x => P x.2).map Prod.fst

/-- The content of the units at the positions that satisfy `P`. -/
def Units.contentAt (units : Units) (P : Nat → Prop) [DecidablePred P] : Content :=
  match units with
  | .lines ls => .text (String.join (elementsAt P ls))
  | .records items => .records (elementsAt P items)

/-- A content without anything in it. -/
def Content.empty : UnitKind → Content
  | .line => .text ""
  | .record => .records []

/-- Of a list whose positions are counted from `k`, those between two bounds are a range of it. -/
theorem filter_zipIdx_eq_take_drop {α : Type} (xs : List α) (a b k : Nat) :
    ((xs.zipIdx k).filter fun x => decide (a ≤ x.2 ∧ x.2 < b)).map Prod.fst =
      (xs.drop (a - k)).take (b - max a k) := by
  induction xs generalizing k with
  | nil => simp
  | cons x xs ih =>
    rw [List.zipIdx_cons, List.filter_cons]
    by_cases ha : a ≤ k
    · have hzero : a - k = 0 := Nat.sub_eq_zero_of_le ha
      have hnext : a - (k + 1) = 0 := by omega
      by_cases hb : k < b
      · -- Between the bounds: `x` is the first element of what is left of the range.
        have hcount : b - max a k = b - max a (k + 1) + 1 := by omega
        rw [if_pos (decide_eq_true ⟨ha, hb⟩), List.map_cons, ih, hzero, hnext, hcount,
          List.drop_zero, List.drop_zero, List.take_succ_cons]
      · have hcount : b - max a k = 0 := by omega
        have hcount' : b - max a (k + 1) = 0 := by omega
        rw [if_neg fun h => hb (of_decide_eq_true h).2, ih, hcount, hcount', List.take_zero,
          List.take_zero]
    · have hdrop : a - k = a - (k + 1) + 1 := by omega
      have hmax : max a k = max a (k + 1) := by omega
      rw [if_neg fun h => ha (of_decide_eq_true h).1, ih, hdrop, hmax, List.drop_succ_cons]

/-- The elements **between two positions** are a range: `(xs.drop a).take (b - a)`. -/
theorem elementsAt_eq_take_drop {α : Type} (xs : List α) (a b : Nat) :
    elementsAt (fun p => a ≤ p ∧ p < b) xs = (xs.drop a).take (b - a) := by
  have h := filter_zipIdx_eq_take_drop xs a b 0
  rwa [Nat.sub_zero, Nat.max_eq_left (Nat.zero_le a)] at h

/-- A range does not change when its bounds are cut off at the end of the list. -/
theorem take_drop_min {α : Type} (xs : List α) (a b : Nat) :
    (xs.drop (min a xs.length)).take (min b xs.length - min a xs.length) =
      (xs.drop a).take (b - a) := by
  rcases Nat.le_total xs.length a with ha | ha
  · rw [Nat.min_eq_right ha, List.drop_of_length_le ha, List.drop_length, List.take_nil,
      List.take_nil]
  · rw [Nat.min_eq_left ha]
    rcases Nat.le_total xs.length b with hb | hb
    · have hlen : (xs.drop a).length = xs.length - a := List.length_drop
      rw [Nat.min_eq_right hb, List.take_of_length_le hlen.le,
        List.take_of_length_le (by omega)]
    · rw [Nat.min_eq_left hb]

namespace Units

variable (units : Units) (a b : Nat)

/-- A slice within the units is **what stands at the positions** between its bounds. -/
theorem slice_min_eq_contentAt :
    units.slice (min a units.length) (min b units.length) =
      units.contentAt fun p => a ≤ p ∧ p < b := by
  cases units with
  | lines ls =>
    exact congrArg (Content.text ∘ String.join)
      ((take_drop_min ls a b).trans (elementsAt_eq_take_drop ls a b).symm)
  | records items =>
    exact congrArg Content.records
      ((take_drop_min items a b).trans (elementsAt_eq_take_drop items a b).symm)

/-- Behind the last unit there is nothing. -/
theorem contentAt_of_length_le (h : units.length ≤ a) :
    (units.contentAt fun p => a ≤ p ∧ p < b) = Content.empty units.kind := by
  cases units with
  | lines ls =>
    rw [contentAt, elementsAt_eq_take_drop, List.drop_of_length_le h, List.take_nil]
    rfl
  | records items =>
    rw [contentAt, elementsAt_eq_take_drop, List.drop_of_length_le h, List.take_nil]
    rfl

end Units

/-! ### Main result -/

/-- The number of pages is **the quotient rounded up**. -/
theorem pageCount_eq_ceil {total size : Nat} (hs : 0 < size) :
    pageCount total size = ⌈(total / size : ℚ)⌉₊ := by
  refine eq_of_forall_lt_iff fun i => ?_
  have hpos : (0 : ℚ) < size := Nat.cast_pos.mpr hs
  rw [lt_pageCount_iff hs, Nat.lt_ceil, lt_div_iff₀ hpos, ← Nat.cast_mul, Nat.cast_lt]

/-- **Pages are exact on all words.** Page `i` in pages of `s` of `n` units holds the units at the
positions from `(i - 1) * s` up to `i * s`; its bounds are there if it is one of the `n / s` pages,
rounded up, and more follow if it is none of the last. Behind the last page there is nothing, and
the totals are still right. -/
theorem Entry.page_exact (e : Entry) {index size : UInt64} (hn : e.totalUnits < 2 ^ 64)
    (hi : 1 ≤ index.toNat) (hs : 1 ≤ size.toNat) :
    let n := e.totalUnits
    let i := index.toNat
    let s := size.toNat
    let count := ⌈(n / s : ℚ)⌉₊
    let page := e.page index size
    page.totalPages = count ∧ page.totalUnits = n ∧
      (page.content = e.units.contentAt fun p => (i - 1) * s ≤ p ∧ p < i * s) ∧
      page.startUnit = (if i ≤ count then some ((i - 1) * s + 1) else none) ∧
      page.endUnit = (if i ≤ count then some (min (i * s) n) else none) ∧
      (page.hasMore = true ↔ i < count) ∧
      (count < i → page.content = Content.empty e.units.kind) := by
  intro n i s count page
  obtain ⟨before, hbefore⟩ : ∃ before, i = before + 1 := ⟨i - 1, by omega⟩
  have hprevious : i - 1 = before := by omega
  have hcount : pageCount n s = count := pageCount_eq_ceil hs
  -- The page is one of the counted ones exactly if the pages before it leave a unit.
  have hcounted : i ≤ count ↔ before * s < n := by
    rw [hbefore, Nat.succ_le_iff, ← hcount]
    exact lt_pageCount_iff hs before
  have hfilled : e.units.upTo s before < e.units.upTo s (before + 1) ↔ i ≤ count := by
    have hunits : e.units.length = n := rfl
    rw [hcounted, Units.upTo, Units.upTo, Nat.succ_mul, hunits]
    omega
  have hpage : page = _ :=
    (e.page_eq index size).trans (Units.page_eq (Nat.le_of_lt_succ hn) e.key hbefore)
  have hcontent : page.content = e.units.contentAt fun p => (i - 1) * s ≤ p ∧ p < i * s := by
    rw [hpage, hprevious, hbefore]
    exact e.units.slice_min_eq_contentAt (before * s) ((before + 1) * s)
  refine ⟨?totalPages, ?totalUnits, hcontent, ?startUnit, ?endUnit, ?hasMore, ?pastTheEnd⟩
  case totalPages =>
    rw [hpage]
    exact hcount
  case totalUnits =>
    rw [hpage]
    rfl
  case startUnit =>
    rw [hpage, hprevious]
    refine if_ctx_congr hfilled (fun hi => ?_) fun _ => rfl
    have hstart : e.units.upTo s before = before * s := Nat.min_eq_left (hcounted.mp hi).le
    exact congrArg (fun start => some (start + 1)) hstart
  case endUnit =>
    rw [hpage, hbefore]
    exact if_congr (hbefore ▸ hfilled) rfl rfl
  case hasMore =>
    rw [hpage, ← hcount, lt_pageCount_iff hs, hbefore]
    exact decide_eq_true_iff
  case pastTheEnd =>
    intro hpast
    have hbehind : n ≤ before * s :=
      Nat.le_of_not_lt fun h => Nat.not_le.mpr hpast (hcounted.mpr h)
    rw [hcontent, hprevious]
    exact e.units.contentAt_of_length_le _ _ hbehind

/-- The page with the largest number and the largest size is **empty**, and tells that all three
lines are on one page. -/
theorem Entry.page_exact_largest :
    let e : Entry := ⟨.ofRoute .strings, .lines ["a\n", "b\n", "c"], 1, ""⟩
    let top : UInt64 := Saturating.top
    (e.totalUnits < 2 ^ 64 ∧ 1 ≤ top.toNat) ∧
      (e.page top top).totalPages = 1 ∧ (e.page top top).startUnit = none ∧
      (e.page top top).content = .text "" := by
  intro e top
  have hn : e.totalUnits < 2 ^ 64 := by decide
  have htop : 1 ≤ top.toNat := by decide
  have hcount : pageCount e.totalUnits top.toNat = 1 := by decide
  have hone : ⌈(e.totalUnits / top.toNat : ℚ)⌉₊ = 1 := (pageCount_eq_ceil htop).symm.trans hcount
  have hpast : 1 < top.toNat := by decide
  obtain ⟨hpages, -, -, hstart, -, -, hempty⟩ := e.page_exact hn htop htop
  rw [hone] at hpages hstart hempty
  exact ⟨⟨hn, htop⟩, hpages, hstart.trans (if_neg (Nat.not_le.mpr hpast)), hempty hpast⟩

end CodePager
