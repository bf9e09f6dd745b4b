import CodePager.Proofs.Conduct
import Mathlib.Logic.Function.Basic

/-! # Operations at the same time

What the cache holds when operations of many callers are interleaved and some of them change the
project. A `World` is the cache, the version of the project and the callers under way; a `Step` is
one operation on the cache, one answer of the backend, or one change that it makes. A change is
between two clearings, so no result that was stored before or during it stays
(`live_entry_after_writes`). A result that is stored **after** it may still be an old one: it is if
the read that stores it was answered before. -/

namespace CodePager

/-! ### Worlds -/

/-- An operation under way. -/
structure Caller where
  op : Operation
  /-- What is left to do. -/
  rest : Dialogue Unit
  /-- How often it has cleared the cache. -/
  clearings : Nat
  /-- The version of the project when the backend answered it first. -/
  answered : Option Nat

/-- An operation that has just been started. -/
def Caller.start (s : Service) (op : Operation) : Caller := ⟨op, op.carryOut s, 0, none⟩

/-- A change to the project is **between its clearings**. -/
def Caller.Writing (c : Caller) : Prop := c.op.IsWrite ∧ c.clearings = 1

/-- Where a stored result comes from. -/
structure Origin where
  /-- The version of the project when the read that stored it was first answered. -/
  answered : Nat
  /-- The version of the project when it was stored. -/
  stored : Nat
  /-- Whether a change was between its clearings then. -/
  writing : Prop

/-- The cache, the project and the operations under way. -/
structure World where
  cache : PageCache
  /-- How many changes the project has seen. -/
  version : Nat
  callers : List Caller
  /-- Where the result of each number comes from. -/
  origin : Nat → Origin

namespace World

/-- Some change is between its clearings. -/
def Writing (w : World) : Prop := ∃ c ∈ w.callers, c.Writing

/-- Before the first operation. -/
def start (s : Service) (now : String) : World :=
  ⟨.empty s.config.cache now, 0, [], fun _ => ⟨0, 0, False⟩⟩

/-- Where a result comes from that a caller stores now. -/
def originOf (w : World) (c : Caller) : Origin :=
  ⟨c.answered.getD w.version, w.version, w.Writing⟩

end World

/-- **One step.** An operation starts, or time goes on, or a caller does one operation on the cache,
or the backend answers a caller by the present version of the project, or it makes a change that has
been submitted. -/
inductive World.Step (s : Service) (answers : Nat → Request → Reply → Prop) : World → World → Prop
  | call (w : World) (op : Operation) :
      Step s answers w { w with callers := .start s op :: w.callers }
  | clock (w : World) (now : String) :
      Step s answers w { w with cache := { w.cache with now := now } }
  | operate {w : World} {before after : List Caller} {c : Caller} {op : CacheOp}
      {next : op.Result → Dialogue Unit} (hcallers : w.callers = before ++ c :: after)
      (hrest : c.rest = .cache op next) :
      Step s answers w
        { cache := (op.run w.cache).2
          version := w.version
          callers := before ++
            { c with
              rest := next (op.run w.cache).1
              clearings := c.clearings + op.clearings } :: after
          origin := Function.update w.origin (w.cache.lastSeq + 1) (w.originOf c) }
  | answer {w : World} {before after : List Caller} {c : Caller} {request : Request}
      {next : Reply → Dialogue Unit} {reply : Reply} (hcallers : w.callers = before ++ c :: after)
      (hrest : c.rest = .ask request next) (hreply : answers w.version request reply) :
      Step s answers w
        { w with
          callers := before ++
            { c with rest := next reply, answered := c.answered.or (some w.version) } :: after }
  | change {w : World} {before after : List Caller} {c : Caller} {request : Request}
      {next : Reply → Dialogue Unit} (hcallers : w.callers = before ++ c :: after)
      (hrest : c.rest = .ask request next) (hpost : request.verb = .post) :
      Step s answers w { w with version := w.version + 1 }

/-- The worlds that can come about. -/
inductive World.Reachable (s : Service) (answers : Nat → Request → Reply → Prop) : World → Prop
  | start (now : String) : Reachable s answers (.start s now)
  | step {w w' : World} (hw : Reachable s answers w) (hstep : World.Step s answers w w') :
      Reachable s answers w'

/-- A result that the cache holds, in the table or as the last method source. -/
def PageCache.Live (c : PageCache) (e : Entry) : Prop :=
  (∃ key, c.get? key = some e) ∨ c.lastMethodSource = some e

/-! ### The invariant -/

section Live

variable {c : PageCache} {e : Entry}

/-- No live result has a number beyond the last one: `e.createdAt ≤ c.lastSeq`. -/
theorem createdAt_le_of_live (h : c.WellFormed) (he : c.Live e) : e.createdAt ≤ c.lastSeq := by
  rcases he with ⟨key, he⟩ | he
  · exact h.createdAt_le he
  · exact h.slot_le e he

/-- What is live after an operation was live before, or is what the operation keeps. -/
theorem live_run (h : c.WellFormed) (op : CacheOp) (he : (op.run c).2.Live e) :
    c.Live e ∨ ∃ key units, op.Keeps key units ∧ e = c.newEntry key units := by
  rcases he with ⟨key, he⟩ | he
  · rcases PageCache.get?_run h op he with hold | ⟨k, units, threshold, rfl, -, -, hnew⟩
    · exact Or.inl (Or.inl ⟨key, hold⟩)
    · exact Or.inr ⟨k, units, ⟨rfl, rfl⟩, hnew⟩
  · rcases PageCache.lastMethodSource_run op he with hold | ⟨k, units, rfl, hnew⟩
    · exact Or.inl (Or.inr hold)
    · exact Or.inr ⟨k, units, ⟨rfl, rfl⟩, hnew⟩

/-- Nothing is live after an operation that clears. -/
theorem clearings_eq_zero_of_live {op : CacheOp} (he : (op.run c).2.Live e) : op.clearings = 0 := by
  cases op with
  | clear =>
    rcases he with ⟨key, he⟩ | he
    · cases he
    · cases he
  | store key units threshold => rfl
  | lookup key => rfl
  | getPage key index size => rfl
  | invalidate key => rfl
  | remember key units => rfl
  | forget => rfl
  | slotPage index size => rfl
  | stats => rfl

end Live

section Invariant

variable {s : Service} {answers : Nat → Request → Reply → Prop}

/-- What holds of an operation under way while the project has a version: what it keeps is what the
backend says **at this version**, if it has not been answered at another one. -/
structure Caller.Sound (s : Service) (answers : Nat → Request → Reply → Prop) (version : Nat)
    (c : Caller) : Prop where
  answered_le : ∀ v ∈ c.answered, v ≤ version
  keepsOnly : ∀ v, (∀ u ∈ c.answered, u = v ∧ v = version) →
    c.rest.KeepsOnly (answers v) (Current s (answers v))
  submitsWhen : c.rest.SubmitsWhen (fun n => c.op.IsWrite ∧ n = 1) c.clearings

/-- What holds of a live result: it is what the backend says now if it comes from an answer of the
present version, and **it has been stored since the last change** if no change is under way. -/
structure Entry.Sound (s : Service) (answers : Nat → Request → Reply → Prop) (w : World)
    (e : Entry) : Prop where
  answered_le : (w.origin e.createdAt).answered ≤ w.version
  current : (w.origin e.createdAt).answered = w.version →
    Current s (answers w.version) e.key e.units
  recent : w.Writing ∨
    (w.origin e.createdAt).stored = w.version ∧ ¬ (w.origin e.createdAt).writing

/-- What holds of every world. -/
structure World.Sound (s : Service) (answers : Nat → Request → Reply → Prop) (w : World) :
    Prop where
  wellFormed : w.cache.WellFormed
  callers : ∀ c ∈ w.callers, c.Sound s answers w.version
  entries : ∀ e, w.cache.Live e → e.Sound s answers w

/-- An operation that starts is sound, at any version. -/
theorem Caller.sound_start (op : Operation) (version : Nat) :
    (Caller.start s op).Sound s answers version where
  answered_le := by simp [Caller.start]
  keepsOnly := fun v _ => keepsOnly_carryOut s (answers v) op
  submitsWhen := submitsWhen_carryOut s op

namespace Caller.Sound

variable {version : Nat} {c : Caller}

/-- A sound caller stays sound when it operates on the cache. -/
theorem operate (hc : c.Sound s answers version) {op : CacheOp} {next : op.Result → Dialogue Unit}
    (hrest : c.rest = .cache op next) (result : op.Result) :
    Caller.Sound s answers version
      { c with rest := next result, clearings := c.clearings + op.clearings } where
  answered_le := hc.answered_le
  keepsOnly := fun v hv => by
    have := hc.keepsOnly v hv
    rw [hrest] at this
    exact this.2 result
  submitsWhen := by
    have := hc.submitsWhen
    rw [hrest] at this
    exact this result

/-- What a sound caller keeps now. -/
theorem keeps (hc : c.Sound s answers version) {op : CacheOp} {next : op.Result → Dialogue Unit}
    (hrest : c.rest = .cache op next) {key : CacheKey} {units : Units} (hk : op.Keeps key units)
    (hv : c.answered.getD version = version) : Current s (answers version) key units := by
  have hanswered : ∀ u ∈ c.answered, u = version ∧ version = version := by
    intro u hu
    rw [Option.mem_def.mp hu, Option.getD_some] at hv
    exact ⟨hv, rfl⟩
  have := hc.keepsOnly version hanswered
  rw [hrest] at this
  exact this.1 key units hk

/-- A sound caller stays sound when it is answered. -/
theorem answer (hc : c.Sound s answers version) {request : Request} {next : Reply → Dialogue Unit}
    {reply : Reply} (hrest : c.rest = .ask request next)
    (hreply : answers version request reply) :
    Caller.Sound s answers version
      { c with rest := next reply, answered := c.answered.or (some version) } where
  answered_le := by
    intro v hv
    cases hanswered : c.answered with
    | none =>
      rw [hanswered] at hv
      exact Nat.le_of_eq (Option.some.inj hv).symm
    | some u =>
      rw [hanswered] at hv
      exact hc.answered_le v (hanswered.trans hv)
  keepsOnly := fun v hv => by
    obtain ⟨hv, rfl⟩ : (∀ u ∈ c.answered, u = v ∧ v = version) ∧ v = version := by
      cases hanswered : c.answered with
      | none =>
        rw [hanswered] at hv
        exact ⟨by simp, (hv version rfl).2⟩
      | some u =>
        rw [hanswered] at hv
        refine ⟨fun u' hu' => ?_, (hv u rfl).2⟩
        obtain rfl := Option.some.inj hu'
        exact hv u rfl
    have := hc.keepsOnly v hv
    rw [hrest] at this
    exact this reply hreply
  submitsWhen := by
    have := hc.submitsWhen
    rw [hrest] at this
    exact this.2 reply

/-- A sound caller stays sound when the project changes. -/
theorem change (hc : c.Sound s answers version) : c.Sound s answers (version + 1) where
  answered_le := fun v hv => Nat.le_succ_of_le (hc.answered_le v hv)
  keepsOnly := fun v hv => by
    refine hc.keepsOnly v fun u hu => ?_
    have hle := hc.answered_le u hu
    obtain ⟨rfl, rfl⟩ := hv u hu
    exact absurd hle (Nat.not_succ_le_self _)
  submitsWhen := hc.submitsWhen

/-- A sound caller that submits something is between its clearings. -/
theorem writing (hc : c.Sound s answers version) {request : Request}
    {next : Reply → Dialogue Unit} (hrest : c.rest = .ask request next)
    (hpost : request.verb = .post) : c.Writing := by
  have := hc.submitsWhen
  rw [hrest] at this
  exact this.1 hpost

end Caller.Sound

section Replace

variable {before after : List Caller} {c c' x : Caller}

/-- Where one caller goes on, every caller is that one or has been there before. -/
theorem eq_or_mem_of_replace (h : x ∈ before ++ c' :: after) :
    x = c' ∨ x ∈ before ++ c :: after := by
  rcases List.mem_append.mp h with h | h
  · exact Or.inr (List.mem_append_left _ h)
  · rcases List.mem_cons.mp h with h | h
    · exact Or.inl h
    · exact Or.inr (List.mem_append_right _ (List.mem_cons_of_mem c h))

/-- A caller that goes on leaves a change between its clearings if it is left there itself. -/
theorem writing_of_replace (hc : c.Writing → c'.Writing)
    (h : ∃ x ∈ before ++ c :: after, x.Writing) : ∃ x ∈ before ++ c' :: after, x.Writing := by
  obtain ⟨x, hx, hwriting⟩ := h
  rcases List.mem_append.mp hx with hx | hx
  · exact ⟨x, List.mem_append_left _ hx, hwriting⟩
  · rcases List.mem_cons.mp hx with rfl | hx
    · exact ⟨c', List.mem_append_right _ List.mem_cons_self, hc hwriting⟩
    · exact ⟨x, List.mem_append_right _ (List.mem_cons_of_mem c' hx), hwriting⟩

end Replace

namespace World.Sound

variable {w w' : World}

/-- A sound world stays sound when **a caller operates on the cache**. -/
theorem operate (hw : w.Sound s answers) {before after : List Caller} {c : Caller} {op : CacheOp}
    {next : op.Result → Dialogue Unit} (hcallers : w.callers = before ++ c :: after)
    (hrest : c.rest = .cache op next) :
    World.Sound s answers
      { cache := (op.run w.cache).2
        version := w.version
        callers := before ++
          { c with
            rest := next (op.run w.cache).1
            clearings := c.clearings + op.clearings } :: after
        origin := Function.update w.origin (w.cache.lastSeq + 1) (w.originOf c) } := by
  have hc := hw.callers c (by rw [hcallers]; simp)
  refine ⟨PageCache.wellFormed_run op hw.wellFormed, fun x hx => ?_, fun e he => ?_⟩
  · rcases eq_or_mem_of_replace (c := c) hx with rfl | hx
    · exact hc.operate hrest _
    · exact hw.callers x (hcallers ▸ hx)
  · -- Something is live, so the operation has not cleared: a change between its clearings is there
    -- still.
    have hzero := clearings_eq_zero_of_live he
    have hwriting : w.Writing → ∃ x ∈ before ++ { c with
        rest := next (op.run w.cache).1
        clearings := c.clearings + op.clearings } :: after, x.Writing := by
      intro h
      refine writing_of_replace (c := c) (fun hcw => ?_) (by rwa [Writing, hcallers] at h)
      exact ⟨hcw.1, by rw [hzero]; exact hcw.2⟩
    -- An old result keeps its origin, since its number is not the next one; a new result comes from
    -- the caller, and is current if the caller has only been answered at this version.
    rcases live_run hw.wellFormed op he with hold | ⟨key, units, hk, rfl⟩
    · have hle := createdAt_le_of_live hw.wellFormed hold
      have horigin := Function.update_of_ne (Nat.ne_of_lt (Nat.lt_succ_of_le hle))
        (w.originOf c) w.origin
      obtain ⟨hanswered, hcurrent, hrecent⟩ := hw.entries e hold
      refine ⟨?_, ?_, ?_⟩ <;> simp only [horigin]
      · exact hanswered
      · exact hcurrent
      · exact hrecent.imp_left hwriting
    · have horigin : Function.update w.origin (w.cache.lastSeq + 1) (w.originOf c)
          (w.cache.newEntry key units).createdAt = w.originOf c := Function.update_self ..
      refine ⟨?_, ?_, ?_⟩ <;> simp only [horigin]
      · show c.answered.getD w.version ≤ w.version
        cases hanswered : c.answered with
        | none => exact Nat.le_refl _
        | some v => exact hc.answered_le v hanswered
      · exact fun hv => hc.keeps hrest hk hv
      · exact (Classical.em w.Writing).imp hwriting fun h => ⟨rfl, h⟩

/-- A sound world stays sound when **a caller is answered** by the present version. -/
theorem answer (hw : w.Sound s answers) {before after : List Caller} {c : Caller}
    {request : Request} {next : Reply → Dialogue Unit} {reply : Reply}
    (hcallers : w.callers = before ++ c :: after) (hrest : c.rest = .ask request next)
    (hreply : answers w.version request reply) :
    World.Sound s answers
      { w with
        callers := before ++
          { c with rest := next reply, answered := c.answered.or (some w.version) } :: after } := by
  have hc := hw.callers c (by rw [hcallers]; simp)
  refine ⟨hw.wellFormed, fun x hx => ?_, fun e he => ?_⟩
  · rcases eq_or_mem_of_replace (c := c) hx with rfl | hx
    · exact hc.answer hrest hreply
    · exact hw.callers x (hcallers ▸ hx)
  · obtain ⟨hanswered, hcurrent, hrecent⟩ := hw.entries e he
    refine ⟨hanswered, hcurrent, hrecent.imp_left fun h => ?_⟩
    exact writing_of_replace (c := c) id (by rwa [Writing, hcallers] at h)

/-- When the project changes **the change is between its clearings**. -/
theorem change (hw : w.Sound s answers) {before after : List Caller} {c : Caller}
    {request : Request} {next : Reply → Dialogue Unit}
    (hcallers : w.callers = before ++ c :: after) (hrest : c.rest = .ask request next)
    (hpost : request.verb = .post) :
    World.Sound s answers { w with version := w.version + 1 } := by
  have hmem : c ∈ w.callers := by rw [hcallers]; simp
  refine ⟨hw.wellFormed, fun x hx => (hw.callers x hx).change, fun e he => ?_⟩
  obtain ⟨hanswered, -, -⟩ := hw.entries e he
  refine ⟨Nat.le_succ_of_le hanswered, fun heq => ?_, ?_⟩
  · -- No answer so far is of the new version.
    exact absurd (heq ▸ hanswered) (Nat.not_succ_le_self _)
  · exact Or.inl ⟨c, hmem, (hw.callers c hmem).writing hrest hpost⟩

/-- **Every step** keeps the invariant. -/
theorem step (hw : w.Sound s answers) (hstep : World.Step s answers w w') :
    w'.Sound s answers := by
  cases hstep with
  | call op =>
    refine ⟨hw.wellFormed, fun x hx => ?_, fun e he => ?_⟩
    · rcases List.mem_cons.mp hx with rfl | hx
      · exact Caller.sound_start op w.version
      · exact hw.callers x hx
    · obtain ⟨hanswered, hcurrent, hrecent⟩ := hw.entries e he
      refine ⟨hanswered, hcurrent, hrecent.imp_left ?_⟩
      rintro ⟨x, hx, hwriting⟩
      exact ⟨x, List.mem_cons_of_mem _ hx, hwriting⟩
  | clock now =>
    refine ⟨hw.wellFormed.of_eq rfl rfl rfl rfl rfl, hw.callers, fun e he => ?_⟩
    obtain ⟨hanswered, hcurrent, hrecent⟩ := hw.entries e he
    exact ⟨hanswered, hcurrent, hrecent⟩
  | operate hcallers hrest => exact hw.operate hcallers hrest
  | answer hcallers hrest hreply => exact hw.answer hcallers hrest hreply
  | change hcallers hrest hpost => exact hw.change hcallers hrest hpost

end World.Sound

/-- **Every world is sound.** -/
theorem World.Reachable.sound {w : World} (hw : World.Reachable s answers w) :
    w.Sound s answers := by
  induction hw with
  | start now =>
    refine ⟨PageCache.wellFormed_empty _ _, (fun x hx => by cases hx), fun e he => ?_⟩
    rcases he with ⟨key, he⟩ | he <;> cases he
  | step _ hstep ih => exact ih.step hstep

end Invariant

/-! ### A read that a write overtakes -/

namespace Overtaking

/-- A bridge that caches every result. -/
def service : Service := ⟨⟨.default, ⟨1, 4, 1⟩⟩⟩

/-- A backend that answers `a` before the first change and `b` after it. -/
def tells (version : Nat) (_ : Request) (reply : Reply) : Prop :=
  reply = .answer 200 [if version = 0 then 97 else 98]

/-- The read of the first page of all strings. -/
def read : Operation := .read (.plain .strings) ⟨none, none, false⟩

/-- The change that overtakes it. -/
def write : Operation := .mutate .renameClass .empty

/-- After the change the backend says `b`, whatever it is asked for. -/
theorem eq_of_current {key : CacheKey} {units : Units}
    (h : Current service (tells 1) key units) : units = .ofText "b" := by
  obtain ⟨q, p, payload, -, -, hfetch, hunits⟩ := h
  have hrequest : ∀ {params : Params} {payload : Payload},
      (Gateway.fetch service.config.backend p.identity.route params).MayGive (tells 1) payload →
        payload = .text "b" := by
    intro params payload hgive
    obtain ⟨reply, rfl, hread⟩ := Gateway.mayGive_request hgive
    exact (Except.ok.inj hread).symm
  have hpayload : payload = .text "b" := by
    unfold ReadPlan.fetch Gateway.fetchAll at hfetch
    cases hpaging : p.identity.route.paging with
    | none =>
      rw [hpaging] at hfetch
      exact hrequest hfetch
    | some unit =>
      rw [hpaging] at hfetch
      obtain ⟨first, hfirst, hrest⟩ := Attempt.mayGive_bind hfetch
      obtain rfl := hrequest hfirst
      exact (Except.ok.inj hrest).symm
  rw [hpayload] at hunits
  exact (Option.some.inj hunits).symm

/-- A read is answered, a write clears, is carried out, answered and clears again, and **then the
read stores what it was answered**. -/
theorem reachable_stale : ∃ w e, World.Reachable service tells w ∧ ¬ w.Writing ∧
    w.cache.Live e ∧ ¬ Current service (tells w.version) e.key e.units := by
  obtain ⟨_, fetched, stored, hread, hfetched⟩ : ∃ request next next',
      read.carryOut service = .ask request next ∧ next (.answer 200 [97]) =
        .cache (.store ⟨"get-strings"⟩ (.ofText "a") 1) next' := ⟨_, _, _, rfl, rfl⟩
  obtain ⟨_, cleared, changed, done, hwrite, hcleared, hpost, hchanged⟩ :
      ∃ request next next' next'',
        write.carryOut service = .cache .clear next ∧ (∀ n, next n = .ask request next') ∧
        request.verb = .post ∧ next' (.answer 200 [98]) = .cache .clear next'' :=
    ⟨_, _, _, _, rfl, fun _ => rfl, rfl, rfl⟩
  let reader : Caller := ⟨read, fetched (.answer 200 [97]), 0, some 0⟩
  let writer : Caller := ⟨write, done (show Nat from 0), 2, some 1⟩
  -- The read starts and is answered; the write starts, clears, is applied, answered, and clears;
  -- only then the read stores.
  have h0 : World.Reachable service tells (.start service "") := .start ""
  have h1 := h0.step (.call _ read)
  have h2 := h1.step (.answer (List.nil_append [Caller.start service read]).symm hread rfl)
  have h3 := h2.step (.call _ write)
  have h4 := h3.step (.operate (List.nil_append [Caller.start service write, reader]).symm hwrite)
  have h5 := h4.step (.change (List.nil_append _).symm (hcleared _) hpost)
  have h6 := h5.step (.answer (List.nil_append _).symm (hcleared _) rfl)
  have h7 := h6.step (.operate (List.nil_append _).symm hchanged)
  have h8 := h7.step (.operate (rfl : _ = [writer] ++ reader :: []) hfetched)
  refine ⟨_, _, h8, ?_, Or.inl ⟨"get-strings", rfl⟩, ?_⟩
  · rintro ⟨c, hc, hwriting⟩
    rcases List.mem_cons.mp hc with rfl | hc
    · exact absurd (show (2 : Nat) = 1 from hwriting.2) (by decide)
    · obtain rfl := List.mem_singleton.mp hc
      exact hwriting.1
  · intro hcurrent
    have hcontent := congrArg Units.content
      (show Units.ofText "a" = Units.ofText "b" from eq_of_current hcurrent)
    rw [Units.content_ofText, Units.content_ofText] at hcontent
    exact absurd (Content.text.inj hcontent) (by decide)

end Overtaking

/-! ### Main results -/

/-- **What writes leave.** While no change is between its clearings, every result that the cache
holds has been stored since the last change and while none was under way; and it is what the backend
says since that change, unless the read that stored it was first answered before. -/
theorem live_entry_after_writes {s : Service} {answers : Nat → Request → Reply → Prop} {w : World}
    (hw : World.Reachable s answers w)
    (hquiet : ¬ w.Writing) {e : Entry} (he : w.cache.Live e) :
    (w.origin e.createdAt).stored = w.version ∧ ¬ (w.origin e.createdAt).writing ∧
      ((w.origin e.createdAt).answered < w.version ∨
        Current s (answers w.version) e.key e.units) := by
  obtain ⟨hanswered, hcurrent, hrecent⟩ := hw.sound.entries e he
  obtain ⟨hstored, hwriting⟩ := hrecent.resolve_left hquiet
  refine ⟨hstored, hwriting, ?_⟩
  rcases Nat.lt_or_eq_of_le hanswered with hlt | heq
  · exact Or.inl hlt
  · exact Or.inr (hcurrent heq)

/-- The result of a read that a write has overtaken is such a result: it has been stored since the
write, and **answered before it**. -/
theorem live_entry_after_overtaking_write :
    ∃ w e, World.Reachable Overtaking.service Overtaking.tells w ∧ ¬ w.Writing ∧ w.cache.Live e ∧
      (w.origin e.createdAt).stored = w.version ∧
      (w.origin e.createdAt).answered < w.version := by
  obtain ⟨w, e, hw, hquiet, he, hstale⟩ := Overtaking.reachable_stale
  obtain ⟨hstored, -, hanswered⟩ := live_entry_after_writes hw hquiet he
  exact ⟨w, e, hw, hquiet, he, hstored, hanswered.resolve_right hstale⟩

/-- It is **not** the case that, while no change is between its clearings, the cache only holds what
the backend has told since the last change. -/
theorem not_all_live_entries_current :
    ¬ ∀ (s : Service) (answers : Nat → Request → Reply → Prop) (w : World),
      s.config.validate = .ok s.config → World.Reachable s answers w → ¬ w.Writing →
        ∀ e, w.cache.Live e → Current s (answers w.version) e.key e.units := by
  intro hall
  obtain ⟨w, e, hw, hquiet, he, hstale⟩ := Overtaking.reachable_stale
  exact hstale (hall Overtaking.service Overtaking.tells w rfl hw hquiet e he)

end CodePager
