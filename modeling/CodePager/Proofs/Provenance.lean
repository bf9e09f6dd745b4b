import CodePager.Proofs.PageWalk

/-! # Where cached results come from

Every result in the cache has been **fetched by a read of it since the last flush**. An event either
leaves what is held, and then it has not dropped it, or it is a read whose fetch has been answered
completely (`History.get?_step`, `History.lastMethodSource_step`); from this the origin of
everything that is held after a run follows by one induction (`History.ComesFromReads.after`). What
has been flushed is therefore asked for anew (`held_brought_since_flush`). -/

namespace CodePager

/-! ### What drops results -/

/-- An event **flushes** the cache: it clears everything, or changes the project. -/
def Event.Flushes : Event → Prop
  | .call (.clear none) | .call (.mutate _ _) => True
  | _ => False

/-- An event drops what is cached under a key: it clears the key, or flushes the cache. -/
def Event.Drops (key : String) (e : Event) : Prop := e = .call (.clear (some key)) ∨ e.Flushes

/-- The seven ways to change the project. -/
inductive Service.Changes (s : Service) : Route → Attempt Json → Prop
  | renameClass (target : ClassTarget) (name : Option String) :
      s.Changes .renameClass (s.renameClass target name)
  | renameMethod (target : MethodTarget) (name : Option String) :
      s.Changes .renameMethod (s.renameMethod target name)
  | renameField (target : FieldTarget) (name : Option String) :
      s.Changes .renameField (s.renameField target name)
  | renameMethodParameter (target : MethodTarget) (index : Int64) (name : Option String) :
      s.Changes .renameMethodParameter (s.renameMethodParameter target index name)
  | addClassComment (target : ClassTarget) (comment : String) (style : Option String) :
      s.Changes .addClassComment (s.addClassComment target comment style)
  | addMethodComment (target : MethodTarget) (comment : String) (style : Option String) :
      s.Changes .addMethodComment (s.addMethodComment target comment style)
  | addFieldComment (target : FieldTarget) (comment : String) (style : Option String) :
      s.Changes .addFieldComment (s.addFieldComment target comment style)

/-- Either an attempt fails with nothing done, or it submits a change between two flushes. -/
def Service.RefusesOrMutates (s : Service) (route : Route) (x : Attempt Json) : Prop :=
  (∃ e, x = throw e) ∨ ∃ params, x = s.mutate route params

/-- A check before a change refuses with nothing done, or leaves the rest to be done. -/
theorem Service.RefusesOrMutates.ofExcept {s : Service} {route : Route} {α : Type}
    (checked : Except Failure α) {f : α → Attempt Json}
    (h : ∀ a, s.RefusesOrMutates route (f a)) :
    s.RefusesOrMutates route (Attempt.ofExcept checked >>= f) := by
  cases checked with
  | error e => exact Or.inl ⟨e, rfl⟩
  | ok a => exact h a

/-- Every change is refused as it stands or is a `mutate`. -/
theorem Service.Changes.refusesOrMutates {s : Service} {route : Route} {x : Attempt Json}
    (h : s.Changes route x) : s.RefusesOrMutates route x := by
  cases h with
  | renameClass target name => exact .ofExcept _ fun _ => Or.inr ⟨_, rfl⟩
  | renameMethod target name => exact .ofExcept _ fun _ => Or.inr ⟨_, rfl⟩
  | renameField target name => exact .ofExcept _ fun _ => Or.inr ⟨_, rfl⟩
  | renameMethodParameter target index name =>
    refine .ofExcept _ fun _ => ?_
    by_cases hindex : index < 0
    · exact Or.inl ⟨_, by simp only [hindex, if_true]; rfl⟩
    · exact Or.inr ⟨_, by simp only [hindex, if_false]; rfl⟩
  | addClassComment target comment style =>
    exact .ofExcept _ fun _ => .ofExcept _ fun _ => Or.inr ⟨_, rfl⟩
  | addMethodComment target comment style =>
    exact .ofExcept _ fun _ => .ofExcept _ fun _ => Or.inr ⟨_, rfl⟩
  | addFieldComment target comment style =>
    exact .ofExcept _ fun _ => .ofExcept _ fun _ => Or.inr ⟨_, rfl⟩

namespace History

variable {s : Service} {backend : List Request → Request → Reply} {h : History} {key : String}

variable (s backend h)

/-- A change is submitted between two flushes, and nothing is done to the cache after the second. -/
theorem outcome_mutate (route : Route) (params : Params) (c : PageCache) (sent : List Request) :
    (s.mutate route params).outcome backend c sent =
      let submitted := (Gateway.submit s.config.backend route params).outcome backend c.clear.2 sent
      ⟨submitted.value.map Payload.toJson, submitted.cache.clear.2, submitted.requests⟩ := by
  unfold Attempt.outcome Service.mutate
  simp only [ExceptT.run_mk, Dialogue.run, CacheOp.run, Dialogue.run_bind]

/-- **A change is one event, or nothing has happened.** -/
theorem change_refused_or_event {route : Route} {x : Attempt Json} (hx : s.Changes route x) :
    (∃ e, x.outcome backend h.cache h.requests = ⟨.error e, h.cache, h.requests⟩) ∨
      ∃ params, let next := h.step s backend (.call (.mutate route params))
        next.cache = (x.outcome backend h.cache h.requests).cache ∧
          next.requests = (x.outcome backend h.cache h.requests).requests := by
  rcases hx.refusesOrMutates with ⟨e, rfl⟩ | ⟨params, rfl⟩
  · exact Or.inl ⟨e, rfl⟩
  · exact Or.inr ⟨params, step_attempt h (.mutate route params) rfl⟩

/-- A flush leaves a cache that has just been cleared. -/
theorem step_of_flushes {e : Event} (hflush : e.Flushes) :
    ∃ c : PageCache, (h.step s backend e).cache = c.clear.2 := by
  cases e with
  | clock now => exact hflush.elim
  | call op =>
    cases op with
    | clear k =>
      cases k with
      | none => exact ⟨h.cache, rfl⟩
      | some k => exact hflush.elim
    | mutate route params =>
      refine ⟨((Gateway.submit s.config.backend route params).outcome backend h.cache.clear.2
        h.requests).cache, ?_⟩
      rw [(step_attempt h (.mutate route params) rfl).1, outcome_mutate]
    | _ => exact hflush.elim

/-- An event that drops a key leaves **nothing under it**. -/
theorem get?_step_of_drops {e : Event} (hdrops : e.Drops key) :
    (h.step s backend e).cache.get? key = none := by
  rcases hdrops with rfl | hflush
  · exact (PageCache.get?_invalidate key key).trans (if_pos rfl)
  · obtain ⟨c, hc⟩ := step_of_flushes s backend h hflush
    rw [hc]
    rfl

/-- A flush leaves **no last method source**. -/
theorem lastMethodSource_step_of_flushes {e : Event} (hflush : e.Flushes) :
    (h.step s backend e).cache.lastMethodSource = none := by
  obtain ⟨c, hc⟩ := step_of_flushes s backend h hflush
  rw [hc]
  rfl

/-! ### What brings results -/

/-- A read **brings units under a key**: it is not served from the cache, and the payload that it
fetches, which is the whole of what the backend has, offers these units. -/
def Brings (q : PagedRead) (r : PageRequest) (key : CacheKey) (units : Units) : Prop :=
  ∃ p payload, q.plan = .ok p ∧ p.key = key ∧ p.served? r h.cache = none ∧
    ((p.fetch s).outcome backend h.cache h.requests).value = .ok payload ∧
    payload.shape.units? = some units

/-- During events a read brings units under a key, and these are the events **that come after
it**. -/
def BringsThen (events : List Event) (q : PagedRead) (key : CacheKey) (units : Units)
    (later : List Event) : Prop :=
  ∃ before r, events = before ++ .call (.read q r) :: later ∧
    (h.after s backend before).Brings s backend q r key units

variable {s backend h}

/-- What is brought after an event is brought by the events from it on. -/
theorem BringsThen.cons {e : Event} {events later : List Event} {q : PagedRead} {key : CacheKey}
    {units : Units} (hb : (h.step s backend e).BringsThen s backend events q key units later) :
    h.BringsThen s backend (e :: events) q key units later := by
  obtain ⟨before, r, rfl, hbrings⟩ := hb
  exact ⟨e :: before, r, rfl, hbrings⟩

/-- Settling a payload leaves the last method source. -/
theorem lastMethodSource_settle (key : CacheKey) (r : PageRequest) (shape : Shape)
    (c : PageCache) : (s.settle key r shape c).2.lastMethodSource = c.lastMethodSource := by
  cases hlarge : shape.large? s.config.cache.threshold with
  | none => rw [settle_of_not_large hlarge]
  | some units =>
    obtain ⟨-, hle⟩ := Shape.large?_eq_some_iff.mp hlarge
    rw [settle_of_large hlarge, PageCache.storeIfLarge, if_neg (Nat.not_lt.mpr hle)]
    exact PageCache.lastMethodSource_remove key.text

/-- Counting a miss leaves the last method source. -/
theorem lastMethodSource_missed (r : PageRequest) (c : PageCache) :
    (r.missed c).lastMethodSource = c.lastMethodSource := by
  obtain hc | ⟨found, hc⟩ := r.missed_cases c <;> rw [hc]
  exact PageCache.lastMethodSource_count found

/-! ### One event -/

/-- **The table after an event.** What it holds was there before and has not been dropped, or the
event is a read that has brought it, and has brought enough of it. -/
theorem get?_step (hs : h.Sound s) {e : Event} {held : Entry}
    (hheld : (h.step s backend e).cache.get? key = some held) :
    (h.cache.get? key = some held ∧ ¬ e.Drops key) ∨
      ∃ q r, e = .call (.read q r) ∧ h.Brings s backend q r held.key held.units ∧
        held.key.text = key ∧ s.config.cache.threshold.toNat ≤ held.units.length := by
  have hdrops : ¬ e.Drops key := by
    intro hdrops
    rw [get?_step_of_drops s backend h hdrops] at hheld
    cases hheld
  rcases step_cases s backend h e with
    ⟨now, rfl⟩ | ⟨op, rfl, hop⟩ | ⟨q, r, rfl, -, hget, -⟩ |
      ⟨q, r, p, payload, rfl, hplan, hserved, hvalue, -, hcache⟩
  · exact Or.inl ⟨hheld, hdrops⟩
  · exact Or.inl ⟨get?_of_step_of_not_read hs hop hheld, hdrops⟩
  · rw [hget] at hheld
    exact Or.inl ⟨hheld, hdrops⟩
  · rw [hcache] at hheld
    have hwf := wellFormed_keep q p.key payload.shape (wellFormed_missed r hs.wellFormed)
    cases hlarge : payload.shape.large? s.config.cache.threshold with
    | none =>
      rw [settle_of_not_large hlarge, get?_keep, get?_missed] at hheld
      exact Or.inl ⟨hheld, hdrops⟩
    | some units =>
      -- A large payload has the place under its own key, and no other place is new.
      obtain ⟨hunits, hle⟩ := Shape.large?_eq_some_iff.mp hlarge
      rw [settle_of_large hlarge] at hheld
      rcases PageCache.get?_storeIfLarge_of_le p.key units hwf hle hheld with
        ⟨rfl, rfl⟩ | ⟨-, hold⟩
      · exact Or.inr ⟨q, r, rfl, ⟨p, payload, hplan, rfl, hserved, hvalue, hunits⟩, rfl, hle⟩
      · rw [get?_keep, get?_missed] at hold
        exact Or.inl ⟨hold, hdrops⟩

/-- What a read leaves as the last method source was it before, or the read is one of a method
source and the units are those of its payload. -/
theorem lastMethodSource_keep {q : PagedRead} {key : CacheKey} {shape : Shape} {c : PageCache}
    {held : Entry} (hheld : (q.keep key shape c).lastMethodSource = some held) :
    c.lastMethodSource = some held ∨
      (∃ target, q = .methodSource target) ∧ held.key = key ∧ shape.units? = some held.units := by
  cases q with
  | methodSource target =>
    rw [PagedRead.keep] at hheld
    cases hunits : shape.units? with
    | none =>
      rw [hunits] at hheld
      cases hheld
    | some units =>
      rw [hunits] at hheld
      obtain rfl := Option.some.inj hheld
      exact Or.inr ⟨⟨target, rfl⟩, rfl, rfl⟩
  | plain route | ofClass route target | ofMethod route target | search target
  | resource filename => exact Or.inl hheld

/-- **The last method source after an event** was it before and has not been flushed, or the event
is a read of a method source that has brought it. -/
theorem lastMethodSource_step {e : Event} {held : Entry}
    (hheld : (h.step s backend e).cache.lastMethodSource = some held) :
    (h.cache.lastMethodSource = some held ∧ ¬ e.Flushes) ∨
      ∃ q r, e = .call (.read q r) ∧ h.Brings s backend q r held.key held.units ∧
        ∃ target, q = .methodSource target := by
  have hflush : ¬ e.Flushes := by
    intro hflush
    rw [lastMethodSource_step_of_flushes s backend h hflush] at hheld
    cases hheld
  rcases step_cases s backend h e with
    ⟨now, rfl⟩ | ⟨op, rfl, hop⟩ | ⟨q, r, rfl, -, -, hslot⟩ |
      ⟨q, r, p, payload, rfl, hplan, hserved, hvalue, -, hcache⟩
  · exact Or.inl ⟨hheld, hflush⟩
  · exact Or.inl ⟨lastMethodSource_of_step_of_not_read hop hheld, hflush⟩
  · rw [hslot] at hheld
    exact Or.inl ⟨hheld, hflush⟩
  · rw [hcache, lastMethodSource_settle] at hheld
    rcases lastMethodSource_keep hheld with hold | ⟨htarget, hkey, hunits⟩
    · rw [lastMethodSource_missed] at hold
      exact Or.inl ⟨hold, hflush⟩
    · exact Or.inr ⟨q, r, rfl, ⟨p, payload, hplan, hkey.symm, hserved, hvalue, hunits⟩, htarget⟩

/-! ### Any events -/

/-- What is held somewhere in the cache **comes from reads**: after each event it was there before
and has not been dropped, or the event is a read that has brought it. -/
def ComesFromReads (s : Service) (backend : List Request → Request → Reply)
    (held : PageCache → Option Entry) (Drops : Event → Prop)
    (Source : PagedRead → Entry → Prop) : Prop :=
  ∀ (h : History) (e : Event) (x : Entry), h.Sound s →
    held (h.step s backend e).cache = some x →
      (held h.cache = some x ∧ ¬ Drops e) ∨
        ∃ q r, e = .call (.read q r) ∧ h.Brings s backend q r x.key x.units ∧ Source q x

/-- **The origin of what is held** after any events: it was there before them and none of them has
dropped it, or a read among them has brought it and nothing that came later has dropped it. -/
theorem ComesFromReads.after {held : PageCache → Option Entry} {Drops : Event → Prop}
    {Source : PagedRead → Entry → Prop} (hc : ComesFromReads s backend held Drops Source)
    (hs : h.Sound s) {events : List Event} {x : Entry}
    (hx : held (h.after s backend events).cache = some x) :
    (held h.cache = some x ∧ ∀ e ∈ events, ¬ Drops e) ∨
      ∃ q later, h.BringsThen s backend events q x.key x.units later ∧ Source q x ∧
        ∀ e ∈ later, ¬ Drops e := by
  -- On the events; what was there before the rest of them has its origin in the first one or in
  -- the beginning.
  induction events generalizing h with
  | nil => exact Or.inl ⟨hx, by simp⟩
  | cons e events ih =>
    rcases ih (hs.step e) hx with ⟨hbefore, hkept⟩ | ⟨q, later, hbrings, hsource, hkept⟩
    · rcases hc h e x hs hbefore with ⟨hfirst, hnot⟩ | ⟨q, r, rfl, hbrings, hsource⟩
      · exact Or.inl ⟨hfirst, List.forall_mem_cons.mpr ⟨hnot, hkept⟩⟩
      · exact Or.inr ⟨q, events, ⟨[], r, rfl, hbrings⟩, hsource, hkept⟩
    · exact Or.inr ⟨q, later, hbrings.cons, hsource, hkept⟩

/-- The results of the table come from reads under their key. -/
theorem comesFromReads_get? (s : Service) (backend : List Request → Request → Reply)
    (key : String) :
    ComesFromReads s backend (fun c => c.get? key) (Event.Drops key) fun _ x =>
      x.key.text = key ∧ s.config.cache.threshold.toNat ≤ x.units.length :=
  fun _ _ _ hs hx => get?_step hs hx

/-- The last method source comes from reads of method sources. -/
theorem comesFromReads_lastMethodSource (s : Service)
    (backend : List Request → Request → Reply) :
    ComesFromReads s backend PageCache.lastMethodSource Event.Flushes fun q _ =>
      ∃ target, q = .methodSource target :=
  fun _ _ _ _ hx => lastMethodSource_step hx

/-! ### What is asked for anew -/

/-- **Nothing is served under a key**: a page of a cached result is not found, and a read asks the
backend. -/
structure AsksAnew (s : Service) (backend : List Request → Request → Reply) (key : String)
    (h : History) : Prop where
  cachedPage : ∀ index size, s.Accepts index size →
    ((s.cachedPage key index size).outcome backend h.cache h.requests).value =
      .error (.notFound ("no cached entry for key '" ++ key ++ "'"))
  read : ∀ (q : PagedRead) (p : ReadPlan) (r : PageRequest), q.plan = .ok p → p.key.text = key →
    s.config.backend.isAddressable = true → ∃ first, Gateway.IsQuery p.identity.route first ∧
      h.requests ++ [first] <+: ((q.start s r).outcome backend h.cache h.requests).requests

/-- What is not in the table is **asked for anew**. -/
theorem asksAnew_of_get? (hnone : h.cache.get? key = none) : h.AsksAnew s backend key where
  cachedPage := by
    intro index size haccepts
    have hi := positive?_of_forall_le "page_index" haccepts.index_pos
    have hz := positive?_of_forall_le "page_size" haccepts.size_pos
    rw [outcome_cachedPage hi hz]
    simp only [PageCache.getPage, PageCache.lookup, haccepts.valid, hnone]
  read := by
    intro q p r hplan hkey haddress
    have hserved : p.served? r h.cache = none := by
      rw [ReadPlan.served?, hkey, hnone]
      exact ite_self none
    rw [requests_of_not_served hplan hserved]
    exact Gateway.fetchAll_asks _ _ _ backend _ _ haddress

/-- Without a last method source **no page of it is found**. -/
theorem methodSourcePage_of_lastMethodSource (hnone : h.cache.lastMethodSource = none)
    {index size : Option Int64} (haccepts : s.Accepts index size) :
    ((s.methodSourcePage index size).outcome backend h.cache h.requests).value =
      .error (.notFound "no method source has been fetched yet") := by
  have hi := positive?_of_forall_le "page_index" haccepts.index_pos
  have hz := positive?_of_forall_le "lines_per_page" haccepts.size_pos
  rw [outcome_methodSourcePage hi hz]
  simp only [PageCache.slotPage, PageCache.lastMethodSource_count, haccepts.valid, hnone]

/-- What is not in the table is asked for anew **until a read has brought enough** of it. -/
theorem asksAnew_after (hs : h.Sound s) (hnone : h.cache.get? key = none) {events : List Event}
    (hsmall : ∀ q k units later, h.BringsThen s backend events q k units later → k.text = key →
      units.length < s.config.cache.threshold.toNat) :
    (h.after s backend events).AsksAnew s backend key := by
  apply asksAnew_of_get?
  by_contra hsome
  obtain ⟨x, hx⟩ := Option.ne_none_iff_exists'.mp hsome
  rcases (comesFromReads_get? s backend key).after hs hx with
    ⟨hold, -⟩ | ⟨q, later, hbrings, ⟨hkey, hle⟩, -⟩
  · rw [hnone] at hold
    cases hold
  · have hlt := hsmall q x.key x.units later hbrings hkey
    omega

/-- There is no last method source **until a read has brought one**. -/
theorem lastMethodSource_after_eq_none (hs : h.Sound s) (hnone : h.cache.lastMethodSource = none)
    {events : List Event}
    (hnot : ∀ target k units later,
      ¬ h.BringsThen s backend events (.methodSource target) k units later) :
    (h.after s backend events).cache.lastMethodSource = none := by
  by_contra hsome
  obtain ⟨x, hx⟩ := Option.ne_none_iff_exists'.mp hsome
  rcases (comesFromReads_lastMethodSource s backend).after hs hx with
    ⟨hold, -⟩ | ⟨q, later, hbrings, ⟨target, rfl⟩, -⟩
  · rw [hnone] at hold
    cases hold
  · exact hnot target x.key x.units later hbrings

end History

/-! ### Main result -/

/-- **Everything that is cached has been fetched since the last flush.** After any events a result
of the table has been brought by a read under its key that neither a flush nor a clearing of the key
has followed, and the last method source by a read of one that no flush has followed. So after a
change to the project, whatever has become of it, nothing is served under a key until a read has
brought enough units under it, and there is no last method source until a read has brought one. -/
theorem held_brought_since_flush (s : Service) (backend : List Request → Request → Reply)
    (now : String) (events : List Event) :
    let start := History.start s now
    let h := start.after s backend events
    (∀ key x, h.cache.get? key = some x → x.key.text = key ∧ ∃ q later,
      start.BringsThen s backend events q x.key x.units later ∧ ∀ e ∈ later, ¬ e.Drops key) ∧
    (∀ x, h.cache.lastMethodSource = some x → ∃ target later,
      start.BringsThen s backend events (.methodSource target) x.key x.units later ∧
        ∀ e ∈ later, ¬ e.Flushes) ∧
    ∀ before route params later, events = before ++ .call (.mutate route params) :: later →
      let written := start.after s backend (before ++ [.call (.mutate route params)])
      (∀ key, (∀ q k units rest, written.BringsThen s backend later q k units rest →
          k.text = key → units.length < s.config.cache.threshold.toNat) →
        h.AsksAnew s backend key) ∧
      ((∀ target k units rest,
          ¬ written.BringsThen s backend later (.methodSource target) k units rest) →
        ∀ index size, s.Accepts index size →
          ((s.methodSourcePage index size).outcome backend h.cache h.requests).value =
            .error (.notFound "no method source has been fetched yet")) := by
  intro start h
  have hstart : start.Sound s := ⟨PageCache.wellFormed_empty _ _, rfl⟩
  refine ⟨fun key x hx => ?_, fun x hx => ?_, fun before route params later hevents => ?_⟩
  · rcases (History.comesFromReads_get? s backend key).after hstart hx with
      ⟨hold, -⟩ | ⟨q, later, hbrings, ⟨hkey, -⟩, hkept⟩
    · cases hold
    · exact ⟨hkey, q, later, hbrings, hkept⟩
  · rcases (History.comesFromReads_lastMethodSource s backend).after hstart hx with
      ⟨hold, -⟩ | ⟨q, later, hbrings, ⟨target, rfl⟩, hkept⟩
    · cases hold
    · exact ⟨target, later, hbrings, hkept⟩
  · -- The run is cut at the change, which leaves nothing, and goes on from there.
    intro written
    have hlast : written = (start.after s backend before).step s backend
        (.call (.mutate route params)) := History.after_append ..
    have hwhole : h = written.after s backend later := by
      rw [hlast]
      show start.after s backend events = _
      rw [hevents, History.after_append, History.after_cons]
    have hwritten : written.Sound s := History.Reachable.sound ⟨now, _, rfl⟩
    rw [hwhole]
    constructor
    · intro key hsmall
      refine History.asksAnew_after hwritten ?_ hsmall
      rw [hlast]
      exact History.get?_step_of_drops s backend _ (Or.inr trivial)
    · intro hnot index size haccepts
      refine History.methodSourcePage_of_lastMethodSource ?_ haccepts
      refine History.lastMethodSource_after_eq_none hwritten ?_ hnot
      rw [hlast]
      exact History.lastMethodSource_step_of_flushes s backend _ trivial

end CodePager
