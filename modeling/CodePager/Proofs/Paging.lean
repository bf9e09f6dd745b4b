import CodePager.Cache.Store
import Mathlib.Data.List.Basic
import Mathlib.Order.Monotone.Basic
import Mathlib.Tactic.Common

/-! # Pages as ranges of units

What a page is in plain arithmetic: page `i` of pages of `s` units starts behind the first
`(i - 1) * s` units and ends with the first `i * s`, or with the last unit (`Units.page_eq`). Words
that stop at the largest one give nothing else as long as the units can be counted by a word. From
this it follows that **the pages of a result tile it** (`Units.tiling_pages`). -/

namespace CodePager

/-! ### Arithmetic that stops -/

namespace Saturating

variable (a b : UInt64)

/-- A difference stops at zero: `(sub a b).toNat = a.toNat - b.toNat`. -/
theorem toNat_sub : (sub a b).toNat = a.toNat - b.toNat := by
  unfold sub
  split
  · rename_i h
    have := UInt64.lt_iff_toNat_lt.mp h
    simp only [UInt64.toNat_zero]
    omega
  · rename_i h
    exact UInt64.toNat_sub_of_le a b (UInt64.not_lt.mp h)

/-- A sum stops at the largest word: `(add a b).toNat = min (a.toNat + b.toNat) maxCount`. -/
theorem toNat_add : (add a b).toNat = min (a.toNat + b.toNat) maxCount := by
  unfold add
  split
  · rename_i h
    rw [Nat.min_eq_left h, UInt64.toNat_add]
    exact Nat.mod_eq_of_lt (Nat.lt_succ_of_le h)
  · rename_i h
    exact (Nat.min_eq_right (Nat.le_of_not_le h)).symm

/-- A product stops at the largest word: `(mul a b).toNat = min (a.toNat * b.toNat) maxCount`. -/
theorem toNat_mul : (mul a b).toNat = min (a.toNat * b.toNat) maxCount := by
  unfold mul
  split
  · rename_i h
    rw [Nat.min_eq_left h, UInt64.toNat_mul]
    exact Nat.mod_eq_of_lt (Nat.lt_succ_of_le h)
  · rename_i h
    exact (Nat.min_eq_right (Nat.le_of_not_le h)).symm

end Saturating

/-- The smaller of two words is the smaller number. -/
theorem toNat_min (a b : UInt64) : (min a b).toNat = min a.toNat b.toNat := by
  show (if a ≤ b then a else b).toNat = _
  by_cases h : a ≤ b
  · rw [if_pos h]
    exact (Nat.min_eq_left (UInt64.le_iff_toNat_le.mp h)).symm
  · rw [if_neg h]
    have hlt := UInt64.lt_iff_toNat_lt.mp (UInt64.not_le.mp h)
    exact (Nat.min_eq_right (Nat.le_of_lt hlt)).symm

/-! ### One page -/

/-- The number of pages of `size` units. -/
def pageCount (total size : Nat) : Nat := total / size + if total % size > 0 then 1 else 0

/-- A page is among the counted ones **if a unit is left** behind the pages before it. -/
theorem lt_pageCount_iff {total size : Nat} (hs : 0 < size) (i : Nat) :
    i < pageCount total size ↔ i * size < total := by
  have hdiv := Nat.div_add_mod total size
  have hmod := Nat.mod_lt total hs
  unfold pageCount
  generalize total / size = q at hdiv ⊢
  generalize total % size = r at hdiv hmod ⊢
  subst hdiv
  rw [Nat.mul_comm size q]
  -- Multiplied out, `total` is `q * size + r`; only for `i = q` the remainder decides.
  rcases Nat.lt_trichotomy i q with h | rfl | h
  · have := Nat.mul_le_mul_right size h
    rw [Nat.succ_mul] at this
    constructor <;> intro <;> [omega; (split <;> omega)]
  · split <;> omega
  · have := Nat.mul_le_mul_right size h
    rw [Nat.succ_mul] at this
    constructor
    · intro hlt
      split at hlt <;> omega
    · intro hlt
      omega

/-- The number of pages is `(total + size - 1) / size`: the quotient, **rounded up**. -/
theorem pageCount_eq_div {total size : Nat} (hs : 0 < size) :
    pageCount total size = (total + size - 1) / size := by
  refine eq_of_forall_lt_iff fun i => ?_
  rw [lt_pageCount_iff hs, Nat.lt_div_iff_mul_lt hs]
  omega

/-- Something makes up a page at least. -/
theorem pageCount_pos {total size : Nat} (hs : 0 < size) (ht : 0 < total) :
    0 < pageCount total size := (lt_pageCount_iff hs 0).mpr (by omega)

/-- The pages have **room for everything**: `total ≤ pageCount total size * size`. -/
theorem le_pageCount_mul {total size : Nat} (hs : 0 < size) :
    total ≤ pageCount total size * size :=
  Nat.le_of_not_lt fun h => Nat.lt_irrefl _ ((lt_pageCount_iff hs _).mpr h)

/-- There are not more pages than units: `pageCount total size ≤ total`. -/
theorem pageCount_le {total size : Nat} (hs : 0 < size) : pageCount total size ≤ total := by
  refine Nat.le_of_not_lt fun h => ?_
  have hlt := (lt_pageCount_iff hs total).mp h
  exact absurd (Nat.le_mul_of_pos_right total hs) (Nat.not_le.mpr hlt)

/-- A page of units that are cached under a key. -/
def Units.page (units : Units) (key : CacheKey) (index size : UInt64) : Page :=
  Entry.page ⟨key, units, 0, ""⟩ index size

/-- Nothing of a cached result but its key and its units shows in a page. -/
theorem Entry.page_eq (e : Entry) (index size : UInt64) :
    e.page index size = e.units.page e.key index size := rfl

namespace Units

variable {units : Units}

/-- How many units the first `i` pages of `size` units hold. -/
def upTo (units : Units) (size i : Nat) : Nat := min (i * size) units.length

/-- More pages hold no fewer units. -/
theorem monotone_upTo (units : Units) (size : Nat) : Monotone (units.upTo size) := by
  intro i j hij
  have := Nat.mul_le_mul_right size hij
  unfold upTo
  omega

/-- **What a page is.** Page `i + 1` holds the units of the first `i + 1` pages without those of
the first `i`. -/
theorem page_eq (hn : units.length ≤ maxCount) (key : CacheKey) {index size : UInt64} {i : Nat}
    (hi : index.toNat = i + 1) :
    units.page key index size =
      { key := key
        index := index
        size := size
        totalPages := pageCount units.length size.toNat
        totalUnits := units.length
        startUnit :=
          if units.upTo size.toNat i < units.upTo size.toNat (i + 1) then
            some (units.upTo size.toNat i + 1) else none
        endUnit :=
          if units.upTo size.toNat i < units.upTo size.toNat (i + 1) then
            some (units.upTo size.toNat (i + 1)) else none
        hasMore := (i + 1) * size.toNat < units.length
        kind := units.kind
        content := units.slice (units.upTo size.toNat i) (units.upTo size.toNat (i + 1)) } := by
  -- Every word below is cut off at the number of units, so stopping at the largest word is lost
  -- in the minimum.
  have htotal : (UInt64.ofNat units.length).toNat = units.length :=
    UInt64.toNat_ofNat_of_lt' (Nat.lt_succ_of_le hn)
  have hstart : (min (Saturating.mul (Saturating.sub index 1) size)
      (UInt64.ofNat units.length)).toNat = units.upTo size.toNat i := by
    have hsub : (Saturating.sub index 1).toNat = i := by
      rw [Saturating.toNat_sub, hi]; rfl
    rw [toNat_min, Saturating.toNat_mul, hsub, htotal, upTo]
    omega
  have hstop : (min (Saturating.add (min (Saturating.mul (Saturating.sub index 1) size)
      (UInt64.ofNat units.length)) size) (UInt64.ofNat units.length)).toNat =
      units.upTo size.toNat (i + 1) := by
    rw [toNat_min, Saturating.toNat_add, hstart, htotal, upTo, upTo, Nat.succ_mul]
    omega
  have hmore : units.upTo size.toNat (i + 1) < units.length ↔
      (i + 1) * size.toNat < units.length := by
    unfold upTo
    omega
  unfold page Entry.page
  simp only [Entry.totalUnits, UInt64.lt_iff_toNat_lt, hstart, hstop, htotal, hmore]
  rfl

end Units

/-! ### All pages -/

/-- A content and what follows it, if the two are of one kind. -/
def Content.append? : Content → Content → Option Content
  | .text s, .text t => some (.text (s ++ t))
  | .records xs, .records ys => some (.records (xs ++ ys))
  | _, _ => none

/-- Contents of one kind, one after the other. -/
def Content.join? (kind : UnitKind) : List Content → Option Content
  | [] =>
    match kind with
    | .line => some (.text "")
    | .record => some (.records [])
  | c :: rest => (join? kind rest).bind c.append?

/-- The numbers of the units of a page, as its bounds tell them. -/
def Page.numbers (p : Page) : List Nat :=
  match p.startUnit, p.endUnit with
  | some first, some last => List.range' first (last + 1 - first)
  | _, _ => []

/-- **Pages tile a result**: their contents one after the other are the whole content, their bounds
count every unit once and in order, all of them but the last say that more follow, and each tells
how many pages and units there are. -/
structure Tiling (units : Units) (pages : List Page) : Prop where
  contents : Content.join? units.kind (pages.map Page.content) = some units.content
  numbers : pages.flatMap Page.numbers = List.range' 1 units.length
  hasMore : pages.map Page.hasMore = List.replicate (pages.length - 1) true ++ [false]
  totals : ∀ page ∈ pages, page.totalPages = pages.length ∧ page.totalUnits = units.length

namespace Units

variable {units : Units}

/-- The first `count` pages of a result. -/
def pages (units : Units) (key : CacheKey) (size : UInt64) (count : Nat) : List Page :=
  (List.range count).map fun i => units.page key (UInt64.ofNat (i + 1)) size

/-- Two ranges that meet, `[a, b)` and `[b, c)`, make up the range `[a, c)`. -/
theorem drop_take_append {α : Type} (xs : List α) {a b c : Nat} (hab : a ≤ b) (hbc : b ≤ c) :
    (xs.drop a).take (b - a) ++ (xs.drop b).take (c - b) = (xs.drop a).take (c - a) := by
  have hdrop : xs.drop b = (xs.drop a).drop (b - a) := by
    rw [List.drop_drop, Nat.add_sub_cancel' hab]
  have hlen : c - a = (b - a) + (c - b) := by omega
  rw [hdrop, hlen, List.take_add]

/-- Two ranges of units that follow each other are one. -/
theorem append?_slice (units : Units) {a b c : Nat} (hab : a ≤ b) (hbc : b ≤ c) :
    (units.slice a b).append? (units.slice b c) = some (units.slice a c) := by
  cases units with
  | lines ls =>
    simp only [slice, Content.append?, ← String.join_append, drop_take_append ls hab hbc]
  | records items => simp only [slice, Content.append?, drop_take_append items hab hbc]

/-- Ranges of units that follow each other are one. -/
theorem join?_slices (units : Units) {bound : Nat → Nat} (hmono : Monotone bound)
    (first count : Nat) :
    Content.join? units.kind
        ((List.range' first count).map fun i => units.slice (bound i) (bound (i + 1))) =
      some (units.slice (bound first) (bound (first + count))) := by
  induction count generalizing first with
  | zero => cases units <;> simp [Content.join?, slice, kind]
  | succ count ih =>
    have hcount : first + (count + 1) = first + 1 + count := by omega
    rw [List.range'_succ, List.map_cons, Content.join?, ih, hcount]
    exact units.append?_slice (hmono (Nat.le_succ first)) (hmono (Nat.le_add_right _ count))

/-- Numbers between bounds that follow each other are those between the first and the last. -/
theorem flatMap_range'_bounds {bound : Nat → Nat} (hmono : Monotone bound) (first count : Nat) :
    (List.range' first count).flatMap
        (fun i => List.range' (bound i + 1) (bound (i + 1) - bound i)) =
      List.range' (bound first + 1) (bound (first + count) - bound first) := by
  induction count generalizing first with
  | zero => simp
  | succ count ih =>
    have hcount : first + (count + 1) = first + 1 + count := by omega
    have hnext : bound first ≤ bound (first + 1) := hmono (Nat.le_succ first)
    have hlast := hmono (Nat.le_add_right (first + 1) count)
    rw [List.range'_succ, List.flatMap_cons, ih, hcount]
    have hstart : bound (first + 1) + 1 = bound first + 1 + (bound (first + 1) - bound first) := by
      omega
    rw [hstart, List.range'_append_1]
    congr 1
    omega

section Pages

variable (hn : units.length ≤ maxCount) (key : CacheKey) (size : UInt64)

include hn

/-- The bounds of a page count the units that it holds. -/
theorem numbers_page {index : UInt64} {i : Nat} (hi : index.toNat = i + 1) :
    (units.page key index size).numbers =
      List.range' (units.upTo size.toNat i + 1)
        (units.upTo size.toNat (i + 1) - units.upTo size.toNat i) := by
  rw [page_eq hn key hi, Page.numbers]
  by_cases h : units.upTo size.toNat i < units.upTo size.toNat (i + 1)
  · simp only [h, if_true]
    congr 1
    omega
  · have hzero : units.upTo size.toNat (i + 1) - units.upTo size.toNat i = 0 := by omega
    simp only [h, if_false, hzero, List.range'_zero]

/-- The number of a page that is among the counted ones is a word. -/
theorem toNat_ofNat_of_lt_pageCount (hs : 0 < size.toNat) {i : Nat}
    (hi : i < pageCount units.length size.toNat) : (UInt64.ofNat (i + 1)).toNat = i + 1 := by
  have hle : pageCount units.length size.toNat ≤ units.length := pageCount_le hs
  exact UInt64.toNat_ofNat_of_lt' (by unfold maxCount at hn; show i + 1 < 2 ^ 64; omega)

/-- **The pages of a result tile it**, whatever their size. -/
theorem tiling_pages (hpos : 0 < units.length) (hs : 0 < size.toNat) :
    Tiling units (units.pages key size (pageCount units.length size.toNat)) := by
  have hword := fun i (hi : i ∈ List.range (pageCount units.length size.toNat)) =>
    toNat_ofNat_of_lt_pageCount hn size hs (List.mem_range.mp hi)
  have hfirst : units.upTo size.toNat 0 = 0 := by simp [upTo]
  have hlast : units.upTo size.toNat (0 + pageCount units.length size.toNat) = units.length := by
    rw [Nat.zero_add, upTo]
    exact Nat.min_eq_right (le_pageCount_mul hs)
  have hmono := units.monotone_upTo size.toNat
  refine ⟨?_, ?_, ?_, ?_⟩
  · -- Contents: page `i + 1` is the slice between two neighbouring bounds.
    have hslices := units.join?_slices hmono 0 (pageCount units.length size.toNat)
    rw [hfirst, hlast] at hslices
    rw [pages, List.map_map, content, ← hslices, List.range_eq_range']
    refine congrArg _ (List.map_congr_left fun i hi => ?_)
    rw [Function.comp_apply, page_eq hn key (hword i (List.range_eq_range' ▸ hi))]
  · -- Bounds: the numbers of the pages are the ranges between the same bounds.
    have hbounds := flatMap_range'_bounds hmono 0 (pageCount units.length size.toNat)
    rw [hfirst, hlast] at hbounds
    rw [pages, List.flatMap_map]
    refine Eq.trans ?_ hbounds
    rw [← List.range_eq_range']
    exact List.flatMap_congr fun i hi => numbers_page hn key size (hword i hi)
  · -- More follows behind all pages but the last one.
    have hmore : ∀ i ∈ List.range (pageCount units.length size.toNat),
        (units.page key (UInt64.ofNat (i + 1)) size).hasMore =
          decide (i + 1 < pageCount units.length size.toNat) := by
      intro i hi
      rw [page_eq hn key (hword i hi)]
      exact decide_eq_decide.mpr (lt_pageCount_iff hs (i + 1)).symm
    rw [pages, List.map_map, List.length_map, List.length_range, Function.comp_def,
      List.map_congr_left hmore]
    obtain ⟨last, hm⟩ := Nat.exists_eq_add_one.mpr (pageCount_pos hs hpos)
    have hinner : (List.range last).map (fun i => decide (i + 1 < last + 1)) =
        List.replicate last true := by
      refine List.eq_replicate_iff.mpr ⟨by simp, fun b hb => ?_⟩
      obtain ⟨i, hi, rfl⟩ := List.mem_map.mp hb
      exact decide_eq_true (Nat.succ_lt_succ (List.mem_range.mp hi))
    rw [hm, List.range_succ, List.map_append, Nat.add_sub_cancel, hinner]
    simp
  · intro page hpage
    obtain ⟨i, hi, rfl⟩ := List.mem_map.mp hpage
    rw [page_eq hn key (hword i hi), pages, List.length_map, List.length_range]
    exact ⟨rfl, rfl⟩

end Pages

end Units

end CodePager
