import CodePager.Proofs.Eviction
import CodePager.Proofs.Paging

/-! # A shared result

Writers that store results of their own, each followed by **one result that all of them share**, and
readers of the shared one, in any interleaving. Between two stores of the shared result by the same
writer there is one other result, so no more results are younger than the shared one than there are
writers halfway through a round (`Attended.younger_le`). With room for one result more than there
are writers it is therefore never the oldest, and nobody ever fails to read it
(`shared_result_survives`). With less room it can go. -/

namespace CodePager

/-- What becomes of programs that run at the same time: **one of them after the other** does its
next operation, until the run is stopped. -/
inductive Interleaving : List (List CacheOp) → List CacheOp → Prop
  | stop (programs : List (List CacheOp)) : Interleaving programs []
  | turn (before : List (List CacheOp)) (op : CacheOp) (rest : List CacheOp)
      (after : List (List CacheOp)) {run : List CacheOp}
      (hrun : Interleaving (before ++ rest :: after) run) :
      Interleaving (before ++ (op :: rest) :: after) (op :: run)

/-- A round of a writer: a result of its own, and the thresholds for it and for the shared one. -/
structure Round where
  key : CacheKey
  units : Units
  threshold : UInt64
  sharedThreshold : UInt64

/-- What a writer does in a round: it stores its own result and then the shared one again. -/
def Round.ops (key : CacheKey) (units : Units) (round : Round) : List CacheOp :=
  [.store round.key round.units round.threshold, .store key units round.sharedThreshold]

/-- A round stores under **another key**, and both results are large. -/
structure Round.Fits (key : CacheKey) (units : Units) (round : Round) : Prop where
  key_ne : round.key ≠ key
  large : round.threshold.toNat ≤ round.units.length
  shared_large : round.sharedThreshold.toNat ≤ units.length

/-- What a writer does in its rounds. -/
def writer (key : CacheKey) (units : Units) (rounds : List Round) : List CacheOp :=
  rounds.flatMap (Round.ops key units)

/-- What a reader does that asks for some pages of the shared result. -/
def reader (key : CacheKey) (pages : List (UInt64 × UInt64)) : List CacheOp :=
  pages.map fun page => .getPage key.text page.1 page.2

/-! ### Writers and readers under way -/

/-- Where a writer or a reader has got to. -/
inductive Worker where
  | writer (rounds : List Round)
  /-- The writer has stored its own result, and not yet the shared one. -/
  | midway (round : Round) (rounds : List Round)
  | reader (pages : List (UInt64 × UInt64))

namespace Worker

variable (key : CacheKey) (units : Units)

/-- What is left to do. -/
def ops : Worker → List CacheOp
  | .writer rounds => CodePager.writer key units rounds
  | .midway round rounds =>
    .store key units round.sharedThreshold :: CodePager.writer key units rounds
  | .reader pages => CodePager.reader key pages

/-- The rounds that are left, the one that has been begun included. -/
def rounds : Worker → List Round
  | .writer rounds => rounds
  | .midway round rounds => round :: rounds
  | .reader _ => []

/-- The worker is a writer. -/
def writes : Worker → Bool
  | .writer _ | .midway _ _ => true
  | .reader _ => false

/-- The worker is a writer in the middle of a round. -/
def isMidway : Worker → Bool
  | .midway _ _ => true
  | _ => false

/-- Only a writer is in the middle of a round. -/
theorem writes_of_isMidway {w : Worker} (h : w.isMidway = true) : w.writes = true := by
  cases w with
  | midway round rounds => rfl
  | writer rounds => cases h
  | reader pages => cases h

/-- One operation of a worker. -/
inductive Does : Worker → CacheOp → Worker → Prop
  | own (round : Round) (rounds : List Round) :
      Does (.writer (round :: rounds)) (.store round.key round.units round.threshold)
        (.midway round rounds)
  | shared (round : Round) (rounds : List Round) :
      Does (.midway round rounds) (.store key units round.sharedThreshold) (.writer rounds)
  | read (index size : UInt64) (pages : List (UInt64 × UInt64)) :
      Does (.reader ((index, size) :: pages)) (.getPage key.text index size) (.reader pages)

variable {key units}

/-- Whoever has something left to do does it. -/
theorem exists_does {w : Worker} {op : CacheOp} {rest : List CacheOp}
    (h : w.ops key units = op :: rest) :
    ∃ w', w'.ops key units = rest ∧ Does key units w op w' := by
  cases w with
  | writer rounds =>
    cases rounds with
    | nil => cases h
    | cons round rounds =>
      obtain ⟨rfl, rfl⟩ := List.cons.inj h
      exact ⟨.midway round rounds, rfl, .own round rounds⟩
  | midway round rounds =>
    obtain ⟨rfl, rfl⟩ := List.cons.inj h
    exact ⟨.writer rounds, rfl, .shared round rounds⟩
  | reader pages =>
    cases pages with
    | nil => cases h
    | cons page pages =>
      obtain ⟨rfl, rfl⟩ := List.cons.inj h
      exact ⟨.reader pages, rfl, .read page.1 page.2 pages⟩

/-- Who writes goes on as a writer, and who reads as a reader. -/
theorem Does.writes_eq {w w' : Worker} {op : CacheOp} (h : Does key units w op w') :
    w'.writes = w.writes := by
  cases h <;> rfl

/-- No rounds are added on the way: `w'.rounds ⊆ w.rounds`. -/
theorem Does.rounds_subset {w w' : Worker} {op : CacheOp} (h : Does key units w op w') :
    w'.rounds ⊆ w.rounds := by
  cases h with
  | own round rounds => exact List.Subset.refl _
  | shared round rounds => exact List.subset_cons_self round rounds
  | read index size pages => exact List.Subset.refl _

end Worker

/-! ### The invariant -/

section Attended

variable {key : CacheKey} {units : Units} {c : PageCache}

/-- The shared result is **attended to** by some workers: it is in the table, there are not more
younger ones than writers that still have to store it again, and there is room for one of each
writer beside it. -/
structure Attended (key : CacheKey) (units : Units) (c : PageCache) (workers : List Worker) :
    Prop where
  wellFormed : c.WellFormed
  fits : ∀ w ∈ workers, ∀ round ∈ w.rounds, round.Fits key units
  room : workers.countP Worker.writes < c.config.maxEntries.toNat
  younger_le : ∃ e, c.get? key.text = some e ∧ e.units = units ∧
    (c.youngerThan e).card ≤ workers.countP Worker.isMidway

/-- Whoever reads the shared result gets the page of it. -/
theorem Attended.getPage_eq {workers : List Worker} (h : Attended key units c workers)
    {index size : UInt64} (hindex : 1 ≤ index) (hsize : 1 ≤ size) :
    (c.getPage key.text index size).1 = .ok (units.page key index size) := by
  obtain ⟨e, he, rfl, -⟩ := h.younger_le
  have hkey := h.wellFormed.key_eq_of_get? he
  rw [PageCache.getPage_of_get? he (validatePage_eq_ok_iff.mpr ⟨hindex, hsize⟩), e.page_eq, hkey]

namespace Attended

variable {before after : List Worker} {w w' : Worker} {op : CacheOp}

/-- One worker among others counts as one, or as none: `(p w).toNat`. -/
theorem countP_replace (p : Worker → Bool) (before after : List Worker) (w : Worker) :
    (before ++ w :: after).countP p = before.countP p + after.countP p + (p w).toNat := by
  rw [List.countP_append, List.countP_cons]
  cases p w <;> simp [Nat.add_assoc]

/-- The rounds that are left after an operation are still such as fit. -/
theorem fits_replace (h : Attended key units c (before ++ w :: after))
    (hdoes : Worker.Does key units w op w') :
    ∀ v ∈ before ++ w' :: after, ∀ round ∈ v.rounds, round.Fits key units := by
  intro v hv round hround
  have hcases : v = w' ∨ v ∈ before ++ w :: after := by
    simp only [List.mem_append, List.mem_cons] at hv ⊢
    tauto
  rcases hcases with rfl | hv
  · exact h.fits w (by simp) round (hdoes.rounds_subset hround)
  · exact h.fits v hv round hround

/-- The room for all younger ones is there, since only writers in the middle of a round have one. -/
theorem isMidway_lt (h : Attended key units c (before ++ w :: after))
    (hdoes : Worker.Does key units w op w') :
    (before ++ w' :: after).countP Worker.isMidway < c.config.maxEntries.toNat := by
  have hroom := h.room
  have hle : (before ++ w' :: after).countP Worker.isMidway ≤
      (before ++ w' :: after).countP Worker.writes :=
    List.countP_mono_left fun _ _ => Worker.writes_of_isMidway
  have hwrites : (before ++ w' :: after).countP Worker.writes =
      (before ++ w :: after).countP Worker.writes := by
    rw [countP_replace, countP_replace, hdoes.writes_eq]
  omega

/-- **One operation of a worker** leaves the shared result attended to. -/
theorem does (h : Attended key units c (before ++ w :: after))
    (hdoes : Worker.Does key units w op w') :
    Attended key units (op.run c).2 (before ++ w' :: after) := by
  have hmidway := h.isMidway_lt hdoes
  obtain ⟨e, he, hunits, hyounger⟩ := h.younger_le
  refine ⟨PageCache.wellFormed_run op h.wellFormed, h.fits_replace hdoes, ?_, ?_⟩
  · rw [PageCache.config_run, countP_replace, hdoes.writes_eq, ← countP_replace]
    exact h.room
  · rw [countP_replace] at hyounger hmidway ⊢
    cases hdoes with
    | own round rounds =>
      -- The writer's own result may be one more that is younger, and the writer is midway now.
      have hfits := h.fits (.writer (round :: rounds)) (by simp) round (by simp [Worker.rounds])
      have hne : round.key.text ≠ key.text := fun heq => hfits.key_ne (congrArg CacheKey.mk heq)
      have hstores : ¬ (CacheOp.store round.key round.units round.threshold).Stores key.text :=
        fun hs => hne hs.1
      have hbeside := h.wellFormed.livesBeside_run he hstores not_false
      rw [CacheOp.tally, if_pos hfits.large] at hbeside
      have hcard := Finset.card_insert_le round.key.text (c.youngerThan e)
      simp only [Worker.isMidway, Bool.toNat_false, Bool.toNat_true] at hyounger hmidway ⊢
      obtain ⟨hget, heq⟩ := hbeside.lives (by rw [PageCache.config_run]; omega)
      exact ⟨e, hget, hunits, by rw [heq]; omega⟩
    | shared round rounds =>
      -- The shared result is the youngest again.
      have hfits := h.fits (.midway round rounds) (by simp) round (by simp [Worker.rounds])
      have hbeside := h.wellFormed.livesBeside_newEntry (k := key) hfits.shared_large
      obtain ⟨hget, heq⟩ := hbeside.lives (by
        rw [Finset.card_empty, ← CacheOp.run, PageCache.config_run]
        omega)
      exact ⟨_, hget, rfl, by rw [CacheOp.run, heq]; exact Nat.zero_le _⟩
    | read index size pages =>
      have hstores : ¬ (CacheOp.getPage key.text index size).Stores key.text := not_false
      have hbeside := h.wellFormed.livesBeside_run he hstores not_false
      simp only [Worker.isMidway] at hyounger hmidway ⊢
      obtain ⟨hget, heq⟩ := hbeside.lives (by
        rw [PageCache.config_run]
        exact Nat.lt_of_le_of_lt hyounger hmidway)
      exact ⟨e, hget, hunits, by rw [heq]; exact hyounger⟩

end Attended

/-- **A run** of workers that attend to the shared result: whoever reads it gets the page of it. -/
theorem Attended.getPage_after {workers : List Worker} {run : List CacheOp}
    (h : Attended key units c workers)
    (hrun : Interleaving (workers.map (Worker.ops key units)) run) {done later : List CacheOp}
    {index size : UInt64} (hsplit : run = done ++ .getPage key.text index size :: later)
    (hindex : 1 ≤ index) (hsize : 1 ≤ size) :
    ((c.after done).getPage key.text index size).1 = .ok (units.page key index size) := by
  generalize hprograms : workers.map (Worker.ops key units) = programs at hrun
  induction hrun generalizing c workers done with
  | stop programs => simp at hsplit
  | turn before op rest after hrun ih =>
    cases done with
    | nil => exact h.getPage_eq hindex hsize
    | cons op' done =>
      obtain ⟨rfl, hrest⟩ := List.cons.inj hsplit
      -- The worker whose turn it is stands between those of the programs before and after.
      obtain ⟨ws, ws', rfl, rfl, htail⟩ := List.map_eq_append_iff.mp hprograms
      obtain ⟨w, ws', rfl, hw, rfl⟩ := List.map_eq_cons_iff.mp htail
      obtain ⟨w', rfl, hdoes⟩ := Worker.exists_does hw
      exact ih (h.does hdoes) hrest (by rw [List.map_append, List.map_cons])

end Attended

/-! ### Main result -/

/-- **A shared result survives its writers.** It has just been stored, and there is room for one
result more than there are writers. Then in every interleaving of writers and readers every request
for a page of it is answered with that page of the shared units. -/
theorem shared_result_survives {config : CacheConfig} {now : String} {ops : List CacheOp}
    {key : CacheKey} {units : Units} {threshold : UInt64} {writers : List (List Round)}
    {readers : List (List (UInt64 × UInt64))} {run : List CacheOp}
    (hroom : writers.length + 1 ≤ config.maxEntries.toNat)
    (hlarge : threshold.toNat ≤ units.length)
    (hfits : ∀ rounds ∈ writers, ∀ round ∈ rounds, round.Fits key units)
    (hrun : Interleaving (writers.map (writer key units) ++ readers.map (reader key)) run) :
    let start := (((PageCache.empty config now).after ops).storeIfLarge key units threshold).2
    ∀ done index size later, run = done ++ .getPage key.text index size :: later →
      1 ≤ index → 1 ≤ size →
        ((start.after done).getPage key.text index size).1 = .ok (units.page key index size) := by
  intro start done index size later hsplit hindex hsize
  have hwf := (PageCache.wellFormed_empty config now).after ops
  have hconfig : start.config = config := by
    rw [show start = (CacheOp.run (.store key units threshold) _).2 from rfl,
      PageCache.config_run, PageCache.config_after]
    rfl
  -- At the start nothing is younger than the shared result, and no writer has begun a round.
  obtain ⟨hget, hyounger⟩ := (hwf.livesBeside_newEntry (k := key) hlarge).lives
    (by rw [Finset.card_empty, hconfig]; omega)
  let workers := writers.map Worker.writer ++ readers.map Worker.reader
  have hworkers : workers.map (Worker.ops key units) =
      writers.map (writer key units) ++ readers.map (reader key) := by
    simp [workers, Function.comp_def, Worker.ops]
  have hattended : Attended key units start workers := by
    refine ⟨hwf.storeIfLarge key units threshold, ?_, ?_, _, hget, rfl, ?_⟩
    · intro w hw round hround
      rcases List.mem_append.mp hw with hw | hw
      · obtain ⟨rounds, hrounds, rfl⟩ := List.mem_map.mp hw
        exact hfits rounds hrounds round hround
      · obtain ⟨pages, -, rfl⟩ := List.mem_map.mp hw
        cases hround
    · have hwrites : workers.countP Worker.writes ≤ writers.length := by
        simp [workers, List.countP_append, List.countP_map, Function.comp_def, Worker.writes]
      rw [hconfig]
      omega
    · rw [hyounger]
      exact Nat.zero_le _
  exact hattended.getPage_after (hworkers ▸ hrun) hsplit hindex hsize

/-- Two writers and a reader, with room for three results: the reader comes when both writers are
halfway through a round. -/
theorem shared_result_survives_two_writers :
    let start := (((PageCache.empty ⟨1, 3, 1⟩ "").after []).storeIfLarge ⟨"s"⟩ (.lines ["u"]) 1).2
    let own : List CacheOp :=
      [.store ⟨"a"⟩ (.lines ["x"]) 1, .store ⟨"b"⟩ (.lines ["y"]) 1]
    ((start.after own).getPage "s" 1 1).1 = .ok ((Units.lines ["u"]).page ⟨"s"⟩ 1 1) := by
  let own (key text : String) : Round := ⟨⟨key⟩, .lines [text], 1, 1⟩
  have hfits : ∀ rounds ∈ [[own "a" "x"], [own "b" "y"]], ∀ round ∈ rounds,
      round.Fits ⟨"s"⟩ (.lines ["u"]) := by
    simp only [List.mem_cons, List.not_mem_nil, or_false, forall_eq_or_imp, forall_eq]
    exact ⟨⟨by decide, by decide, by decide⟩, by decide, by decide, by decide⟩
  have hrun : Interleaving
      ([[own "a" "x"], [own "b" "y"]].map (writer ⟨"s"⟩ (.lines ["u"])) ++
        [[(1, 1)]].map (reader ⟨"s"⟩))
      [.store ⟨"a"⟩ (.lines ["x"]) 1, .store ⟨"b"⟩ (.lines ["y"]) 1, .getPage "s" 1 1] :=
    .turn [] _ _ _ (.turn [_] _ _ _ (.turn [_, _] _ _ _ (.stop _)))
  have hlarge : (1 : UInt64).toNat ≤ (Units.lines ["u"]).length := by decide
  have hroom : [[own "a" "x"], [own "b" "y"]].length + 1 ≤
      (⟨1, 3, 1⟩ : CacheConfig).maxEntries.toNat := by decide
  exact shared_result_survives hroom hlarge hfits hrun
    [.store ⟨"a"⟩ (.lines ["x"]) 1, .store ⟨"b"⟩ (.lines ["y"]) 1] 1 1 [] rfl
    (by decide) (by decide)

/-- With room for no more results than there are writers the shared one can go. -/
example :
    let start := ((PageCache.empty ⟨1, 1, 1⟩ "").storeIfLarge ⟨"s"⟩ (.lines ["u"]) 1).2
    let left := start.after [.store ⟨"a"⟩ (.lines ["x"]) 1]
    (left.getPage "s" 1 1).1.isOk = false := by decide

end CodePager
