import CodePager.Proofs.PageWalk
import CodePager.Tools.Call

/-! # Faults

Tool calls as a machine with faults carries them out: it stops for good at a division by zero, at a
range that does not lie within the units, at a page without a number, and when the counter of the
pages leaves its word. A `Checked` computation does what the bridge does and **may stop there**.
Each checked step is the plain one where its guard holds, and the guards hold wherever the bridge
gets to: page numbers and sizes are checked where they are given, the page size of the bridge where
it is configured, and the bounds of a page are cut off at the number of units. So no call ever stops
for good (`session_faultless`). -/

namespace CodePager

/-- Why a computation stops for good. -/
inductive Fault where
  /-- A page is asked for by the number zero. -/
  | pageZero
  /-- Something is divided by zero. -/
  | zeroDivisor
  /-- A range does not lie within the units. -/
  | outOfRange
  /-- A counter is beyond the largest word. -/
  | overflow
  deriving DecidableEq

/-! ### Checked arithmetic and checked pages -/

/-- The number of parts of size `size`, the last one perhaps smaller. -/
def ceilDiv (total size : Nat) : Except Fault Nat :=
  if size = 0 then .error .zeroDivisor else .ok (pageCount total size)

/-- The next number of a counter. -/
def nextCount (n : Nat) : Except Fault Nat :=
  if n < maxCount then .ok (n + 1) else .error .overflow

/-- The content of a range of units, which must be one. -/
def Units.checkedSlice (units : Units) (start stop : Nat) : Except Fault Content :=
  if start ≤ stop ∧ stop ≤ units.length then .ok (units.slice start stop) else .error .outOfRange

/-- By a size that is not zero, the parts are counted without a fault:
`.ok (pageCount total size)`. -/
theorem ceilDiv_of_pos {size : Nat} (h : 0 < size) (total : Nat) :
    ceilDiv total size = .ok (pageCount total size) := if_neg (Nat.ne_of_gt h)

/-- Below the largest word a counter goes on without a fault: `.ok (n + 1)`. -/
theorem nextCount_of_lt {n : Nat} (h : n < maxCount) : nextCount n = .ok (n + 1) := if_pos h

/-- A range within the units is cut without a fault: `.ok (units.slice start stop)`. -/
theorem Units.checkedSlice_of_le {units : Units} {start stop : Nat} (hstart : start ≤ stop)
    (hstop : stop ≤ units.length) : units.checkedSlice start stop = .ok (units.slice start stop) :=
  if_pos ⟨hstart, hstop⟩

namespace Entry

variable {e : Entry} {index size : UInt64}

/-- The first unit of a page, counted from zero. -/
def pageStart (e : Entry) (index size : UInt64) : UInt64 :=
  min (Saturating.mul (Saturating.sub index 1) size) (UInt64.ofNat e.totalUnits)

/-- The unit behind a page, counted from zero. -/
def pageStop (e : Entry) (index size : UInt64) : UInt64 :=
  min (Saturating.add (e.pageStart index size) size) (UInt64.ofNat e.totalUnits)

/-- A page of a cached result, **step by step**: its number, the division, and the slice. -/
def checkedPage (e : Entry) (index size : UInt64) : Except Fault Page :=
  if index < 1 then .error .pageZero
  else do
    let totalPages ← ceilDiv e.totalUnits size.toNat
    let content ← e.units.checkedSlice (e.pageStart index size).toNat (e.pageStop index size).toNat
    pure { e.page index size with totalPages := totalPages, content := content }

/-- The bounds of every page are a range of units, whatever its number and its size. -/
theorem pageStart_le_pageStop (e : Entry) (index size : UInt64) :
    (e.pageStart index size).toNat ≤ (e.pageStop index size).toNat ∧
      (e.pageStop index size).toNat ≤ e.units.length := by
  -- As a word the number of units can only be smaller, so both bounds are cut off within them.
  have htotal : (UInt64.ofNat e.totalUnits).toNat ≤ e.units.length := by
    rw [UInt64.toNat_ofNat']
    exact Nat.mod_le _ _
  have hstart : (e.pageStart index size).toNat ≤ (UInt64.ofNat e.totalUnits).toNat := by
    rw [pageStart, toNat_min]
    exact Nat.min_le_right _ _
  have hword := (e.pageStart index size).toNat_lt
  rw [pageStop, toNat_min, Saturating.toNat_add]
  unfold maxCount
  omega

/-- **There is a page** of every number and every size from one on. -/
theorem checkedPage_eq (hvalid : validatePage index size = .ok ()) :
    e.checkedPage index size = .ok (e.page index size) := by
  obtain ⟨hindex, hsize⟩ := validatePage_eq_ok_iff.mp hvalid
  have hpos : 0 < size.toNat := UInt64.le_iff_toNat_le.mp hsize
  obtain ⟨hstart, hstop⟩ := e.pageStart_le_pageStop index size
  rw [checkedPage, if_neg (UInt64.not_lt.mpr hindex), ceilDiv_of_pos hpos,
    Units.checkedSlice_of_le hstart hstop]
  rfl

/-- And of no other: without a number or a size computing it is a fault. -/
theorem isOk_checkedPage_iff :
    (e.checkedPage index size).isOk = true ↔ 1 ≤ index ∧ 1 ≤ size := by
  refine ⟨fun h => ?_, fun h => by rw [checkedPage_eq (validatePage_eq_ok_iff.mpr h)]; rfl⟩
  rw [← UInt64.not_lt, ← UInt64.not_lt]
  refine ⟨fun hindex => ?_, fun hsize => ?_⟩
  · rw [checkedPage, if_pos hindex] at h
    cases h
  · have hzero : size.toNat = 0 := Nat.lt_one_iff.mp (UInt64.lt_iff_toNat_lt.mp hsize)
    rw [checkedPage, ceilDiv, if_pos hzero] at h
    split at h <;> cases h

end Entry

/-! ### Checked operations on the cache -/

/-- An operation on the cache; pages are computed step by step. -/
def CacheOp.checkedRun : (op : CacheOp) → PageCache → Except Fault (op.Result × PageCache)
  | .getPage key index size, c =>
    match validatePage index size, c.get? key with
    | .ok (), some e => (e.checkedPage index size).map fun page => (.ok page, c.count true)
    | _, _ => .ok (c.getPage key index size)
  | .slotPage index size, c =>
    match validatePage index size, c.lastMethodSource with
    | .ok (), some e => (e.checkedPage index size).map fun page => (.ok page, c.count true)
    | _, _ => .ok (c.slotPage index size)
  | op, c => .ok (op.run c)

/-- **No operation on the cache stops for good**: it asks for a page only if there can be one. -/
theorem CacheOp.checkedRun_eq (op : CacheOp) (c : PageCache) :
    op.checkedRun c = .ok (op.run c) := by
  cases op with
  | getPage key index size =>
    simp only [checkedRun, run]
    split
    · rename_i e hvalid hget
      rw [Entry.checkedPage_eq hvalid, PageCache.getPage_of_get? hget hvalid]
      rfl
    · rfl
  | slotPage index size =>
    simp only [checkedRun, run]
    split
    · rename_i e hvalid hslot
      rw [Entry.checkedPage_eq hvalid, PageCache.slotPage_of_slot hslot hvalid]
      rfl
    · rfl
  | _ => rfl

/-- Runs a dialogue to its end or to a fault. -/
def Dialogue.checkedRun {α : Type} (backend : List Request → Request → Reply) :
    Dialogue (Except Fault α) → PageCache → List Request → Except Fault (Dialogue.Outcome α)
  | .done result, c, sent => result.map fun value => ⟨value, c, sent⟩
  | .cache op next, c, sent => do
    let (result, c) ← op.checkedRun c
    checkedRun backend (next result) c sent
  | .ask request next, c, sent =>
    checkedRun backend (next (backend sent request)) c (sent ++ [request])

/-- A dialogue that never says to stop for good does not stop. -/
theorem Dialogue.checkedRun_bind_ok {α : Type} (backend : List Request → Request → Reply)
    (d : Dialogue α) (c : PageCache) (sent : List Request) :
    (d.bind fun a => .done (.ok a)).checkedRun backend c sent = .ok (d.run backend c sent) := by
  induction d generalizing c sent with
  | done a => rfl
  | cache op next ih =>
    rw [Dialogue.bind, checkedRun, CacheOp.checkedRun_eq]
    exact ih _ _ _
  | ask request next ih => exact ih _ _ _

/-! ### Checked attempts -/

/-- An attempt that may stop for good. -/
abbrev Checked (α : Type) := ExceptT Fault Attempt α

namespace Checked

/-- An attempt that does not. -/
def lift {α : Type} (x : Attempt α) : Checked α := ExceptT.lift x

/-- A checked step. -/
def check {α : Type} (x : Except Fault α) : Checked α := ExceptT.mk (pure x)

/-- A checked step whose guard holds is followed at once. -/
theorem check_ok_bind {α β : Type} (a : α) (f : α → Checked β) : (check (.ok a) >>= f) = f a := rfl

/-- What does not stop for good goes on with what does not. -/
theorem lift_bind {α β : Type} (x : Attempt α) (f : α → Attempt β) :
    lift (x >>= f) = lift x >>= fun a => lift (f a) :=
  monadLift_bind (n := ExceptT Fault Attempt) x f

/-- What an attempt comes to that does not stop for good. -/
theorem run_lift {α : Type} (x : Attempt α) :
    ExceptT.run (ExceptT.run (lift x)) =
      (ExceptT.run x).bind fun result => .done (result.map .ok) := by
  show (ExceptT.run x).bind _ = _
  refine congrArg _ (funext fun result => ?_)
  cases result <;> rfl

end Checked

/-! ### Checked fetching -/

namespace Envelope

/-- An envelope that is found is read from the fields of an object. -/
theorem eq_ofFields_of_find? {body : Json} {e : Envelope} (h : find? body = some e) :
    ∃ fields, e = ofFields fields := by
  cases body with
  | obj fields =>
    rw [find?] at h
    split at h
    · exact ⟨fields, (Option.some.inj h).symm⟩
    · obtain ⟨inner, -, rfl⟩ := Option.map_eq_some_iff.mp h
      exact ⟨inner, rfl⟩
  | _ => cases h

/-- The numbers of an envelope are words, and the one that stands for a missing number is. -/
theorem totalPages_ofFields_le (fields : List (String × Json)) :
    (ofFields fields).totalPages ≤ maxCount := by
  show (number? fields "total_pages").getD 1 ≤ maxCount
  cases hnumber : number? fields "total_pages" with
  | none => decide
  | some n => exact number?_le_maxCount hnumber

end Envelope

namespace Gateway

/-- Fetches the next `count` pages behind page `last`. The number of each is counted up from the
one before. -/
def checkedFetchPages (backend : BackendConfig) (route : Route) (params : Params) :
    Nat → Nat → List Json → Checked (List Json)
  | 0, _, items => pure items
  | count + 1, last, items => do
    let page ← Checked.check (nextCount last)
    let payload ← Checked.lift (fetch backend route (params.set "page_index" (toString page)))
    match envelope? payload with
    | some e => checkedFetchPages backend route params count page (items ++ e.items)
    | none =>
      Checked.lift
        (throw (.unexpected ("page " ++ toString page ++ " of " ++ route.path ++ " is not paged")))

/-- Fetches a whole result. -/
def checkedFetchAll (backend : BackendConfig) (route : Route) (params : Params) :
    Checked Payload :=
  match route.paging with
  | none => Checked.lift (fetch backend route params)
  | some unit => do
    let params := (params.setNum "page_index" 1).setNum "page_size" fullPageSize
    let payload ← Checked.lift (fetch backend route params)
    match envelope? payload with
    | none => pure payload
    | some first =>
      let followUp := params.setNum "page_size" (followUpPageSize first.pageSize)
      let items ← checkedFetchPages backend route followUp (first.totalPages - first.currentPage)
        first.currentPage first.items
      pure (.json (assemble unit items))

/-- The counter does not leave its word if the last page is numbered by one. -/
theorem checkedFetchPages_eq (backend : BackendConfig) (route : Route) (params : Params)
    {count last : Nat} (items : List Json) (h : 0 < count → last + count ≤ maxCount) :
    checkedFetchPages backend route params count last items =
      Checked.lift (fetchPages backend route params count (last + 1) items) := by
  -- On the pages that are left; where the counter ends, at `last + count`, never moves.
  induction count generalizing last items with
  | zero => rfl
  | succ count ih =>
    have hlast := h (Nat.succ_pos count)
    rw [checkedFetchPages, fetchPages, nextCount_of_lt (by omega), Checked.check_ok_bind,
      Checked.lift_bind]
    refine bind_congr fun payload => ?_
    cases envelope? payload with
    | none => rfl
    | some e => exact ih _ fun _ => by omega

/-- The number of pages that an answer tells is a word. -/
theorem totalPages_le_of_envelope? {payload : Payload} {first : Envelope}
    (h : envelope? payload = some first) : first.totalPages ≤ maxCount := by
  obtain ⟨fields, rfl⟩ : ∃ fields, first = .ofFields fields := by
    cases payload with
    | text body => cases h
    | json body => exact Envelope.eq_ofFields_of_find? h
  exact Envelope.totalPages_ofFields_le fields

/-- **Fetching never counts beyond a word**, whatever the backend answers. -/
theorem checkedFetchAll_eq (backend : BackendConfig) (route : Route) (params : Params) :
    checkedFetchAll backend route params = Checked.lift (fetchAll backend route params) := by
  unfold checkedFetchAll fetchAll
  cases route.paging with
  | none => rfl
  | some unit =>
    simp only [Checked.lift_bind]
    refine bind_congr fun payload => ?_
    cases hfirst : envelope? payload with
    | none => rfl
    | some first =>
      -- A backend that is at its last page or beyond it is asked for nothing more, so only the
      -- number of pages matters, not the number of the first.
      have htotal := totalPages_le_of_envelope? hfirst
      have hcount : 0 < first.totalPages - first.currentPage →
          first.currentPage + (first.totalPages - first.currentPage) ≤ maxCount := by omega
      simp only [checkedFetchPages_eq backend route _ first.items hcount, Checked.lift_bind]
      rfl

end Gateway

/-! ### Checked reading -/

section Reading

variable (s : Service) (r : PageRequest)

/-- A page from the cache, unless a fresh one is wanted or nothing is cached under the key. -/
def Service.checkedCachedPageFor? (key : CacheKey) : Checked (Option Page) :=
  if r.wantsFresh then pure none
  else do
    let found : Option Entry ← Checked.lift (Attempt.onCache (.lookup key.text))
    match found with
    | none => pure none
    | some e =>
      let page ← Checked.check (e.checkedPage r.number (r.sizeOr s.defaultPageSize))
      pure (some page)

/-- Stores units and gives the page that was asked for, or all of them if they are few. -/
def Service.checkedStore (key : CacheKey) (units : Units) : Checked ReadOutcome := do
  let stored : Stored ←
    Checked.lift (Attempt.onCache (.store key units s.config.cache.threshold))
  match stored with
  | .cached e =>
    let page ← Checked.check (e.checkedPage r.number (r.sizeOr s.defaultPageSize))
    pure (.paged page)
  | .inline units =>
    let content ← Checked.check (units.checkedSlice 0 units.length)
    pure (.inline (some (units.length, units.kind)) content.toJson)

namespace PagedRead

/-- What a read does with the payload it has fetched. -/
def checkedFinish (q : PagedRead) (p : ReadPlan) (shape : Shape) : Checked ReadResult :=
  match q with
  | .methodSource _ =>
    let keep := fun (units : Units) => do
      let _ ← Checked.lift (Attempt.onCache (.remember p.key units))
      let outcome ← s.checkedStore r p.key units
      pure (⟨outcome, p.foundBy⟩ : ReadResult)
    match shape with
    | .text text => keep (.ofText text)
    | .records items => keep (.records items)
    | .inline v => do
      let _ ← Checked.lift (Attempt.onCache .forget)
      pure ⟨.inline none v, p.foundBy⟩
  | _ => do
    let outcome ←
      match shape with
      | .text text => s.checkedStore r p.key (.ofText text)
      | .records items => s.checkedStore r p.key (.records items)
      | .inline v => pure (.inline none v)
    pure ⟨outcome, p.foundBy⟩

/-- What a read does once its target has been resolved. -/
def checkedBody (q : PagedRead) (p : ReadPlan) : Checked ReadResult := do
  match ← s.checkedCachedPageFor? r p.key with
  | some page => pure ⟨.paged page, p.foundBy⟩
  | none =>
    let payload ← Gateway.checkedFetchAll s.config.backend p.identity.route p.params
    q.checkedFinish s r p payload.shape

/-- Carries out a paged read. -/
def checkedStart (q : PagedRead) : Checked ReadResult :=
  match q.plan with
  | .ok p => q.checkedBody s r p
  | .error e => Checked.lift (throw e)

end PagedRead

variable {s r} (hvalid : validatePage r.number (r.sizeOr s.defaultPageSize) = .ok ())

include hvalid

/-- Looking for a cached page **has no fault**, if there can be such a page. -/
theorem Service.checkedCachedPageFor?_eq (key : CacheKey) :
    s.checkedCachedPageFor? r key = Checked.lift (s.cachedPageFor? key r) := by
  unfold checkedCachedPageFor? cachedPageFor?
  split
  · rfl
  · rw [Checked.lift_bind]
    refine bind_congr fun found => ?_
    match found with
    | none => rfl
    | some e =>
      simp only [Entry.checkedPage_eq hvalid, Checked.check_ok_bind]
      rfl

/-- Storing units **has no fault**, if there can be the page that is cut from them. -/
theorem Service.checkedStore_eq (key : CacheKey) (units : Units) :
    s.checkedStore r key units = Checked.lift (s.store key units r) := by
  refine Eq.trans ?_ (Checked.lift_bind _ _).symm
  refine bind_congr fun stored => ?_
  match stored with
  | .cached e =>
    simp only [Entry.checkedPage_eq hvalid, Checked.check_ok_bind]
    rfl
  | .inline units =>
    simp only [Units.checkedSlice_of_le (Nat.zero_le _) (Nat.le_refl units.length),
      Checked.check_ok_bind]
    rfl

namespace PagedRead

/-- Finishing a read **has no fault**, if there can be the page that it asks for. -/
theorem checkedFinish_eq (q : PagedRead) (p : ReadPlan) (shape : Shape) :
    q.checkedFinish s r p shape = Checked.lift (q.finish s r p shape) := by
  have hstore := fun units => Service.checkedStore_eq hvalid p.key units
  cases q with
  | methodSource target =>
    cases shape with
    | text text => simp only [checkedFinish, finish, hstore, Checked.lift_bind]; rfl
    | records items => simp only [checkedFinish, finish, hstore, Checked.lift_bind]; rfl
    | inline v => simp only [checkedFinish, finish, Checked.lift_bind]; rfl
  | plain route | ofClass route target | ofMethod route target | search target
  | resource filename =>
    cases shape with
    | text text => simp only [checkedFinish, finish, hstore, Checked.lift_bind]; rfl
    | records items => simp only [checkedFinish, finish, hstore, Checked.lift_bind]; rfl
    | inline v => rfl

/-- **A read does not stop for good** if there can be such a page as it asks for. -/
theorem checkedStart_eq (q : PagedRead) : q.checkedStart s r = Checked.lift (q.start s r) := by
  rw [start_eq, checkedStart]
  cases q.plan with
  | error e => rfl
  | ok p =>
    simp only [checkedBody, body, ReadPlan.fetch, Service.checkedCachedPageFor?_eq hvalid,
      Gateway.checkedFetchAll_eq, checkedFinish_eq hvalid, Checked.lift_bind]
    refine bind_congr fun found => ?_
    cases found with
    | none => rw [Checked.lift_bind]
    | some page => rfl

end PagedRead

end Reading

/-! ### Checked calls -/

namespace ToolCall

/-- The paged read that a call asks for, and the page of it. -/
def pagedRead? : ToolCall → Option (PagedRead × PageArguments)
  | .read route page => some (.plain route, page)
  | .readClass route target page => some (.ofClass route target, page)
  | .readMethod route target page => some (.ofMethod route target, page)
  | .methodSource target page => some (.methodSource target, page)
  | .searchMethod target page => some (.search target, page)
  | .resourceFile filename page => some (.resource filename, page)
  | _ => none

/-- The answer of an attempt that has not stopped for good. -/
def checkedAnswer : Except Failure (Except Fault ReadResult) → Except Fault ToolAnswer
  | .error e => .ok (.ofResult ReadResult.toJson (.error e))
  | .ok result => result.map fun result => .ofResult ReadResult.toJson (.ok result)

/-- A read of the page that a call asks for, once the page has been checked. -/
def checkedPaged (page : PageArguments) (read : PageRequest → Checked ReadResult) :
    Dialogue (Except Fault ToolAnswer) :=
  let attempt : Checked ReadResult := do
    let r ← Checked.lift (Attempt.ofExcept page.request)
    read r
  attempt.run.run.bind fun result => .done (checkedAnswer result)

/-- Carries out a call. Only paged reads count and cut pages on the way; all others leave that to
the cache. -/
def checkedPerform (s : Service) (call : ToolCall) : Dialogue (Except Fault ToolAnswer) :=
  match call.pagedRead? with
  | some (q, page) => checkedPaged page (q.checkedStart s)
  | none => (call.perform s).bind fun answer => .done (.ok answer)

/-- A call that is a paged read is carried out as one: `paged page (q.start s)`. -/
theorem perform_of_pagedRead? (s : Service) {call : ToolCall} {q : PagedRead}
    {page : PageArguments} (h : call.pagedRead? = some (q, page)) :
    call.perform s = paged page (q.start s) := by
  cases call <;> cases h <;> rfl

/-- A page that has been accepted is one that there can be, if the bridge has a page size. -/
theorem validatePage_of_request {s : Service} (hdefault : 0 < s.defaultPageSize.toNat)
    {page : PageArguments} {r : PageRequest} (h : page.request = .ok r) :
    validatePage r.number (r.sizeOr s.defaultPageSize) = .ok () := by
  unfold PageArguments.request PageRequest.ofArguments at h
  cases hindex : positive? "page_index" page.index with
  | error e => rw [hindex] at h; cases h
  | ok i =>
    cases hsize : positive? "page_size" page.size with
    | error e => rw [hindex, hsize] at h; cases h
    | ok z =>
      rw [hindex, hsize] at h
      obtain rfl := Except.ok.inj h
      exact validatePage_of_positive? hindex hsize fun _ => hdefault

/-- A read that does not stop for good is answered as the plain one is. -/
theorem checkedPaged_eq {page : PageArguments} {read : PageRequest → Attempt ReadResult}
    {checkedRead : PageRequest → Checked ReadResult}
    (h : ∀ r, page.request = .ok r → checkedRead r = Checked.lift (read r)) :
    checkedPaged page checkedRead = (paged page read).bind fun answer => .done (.ok answer) := by
  unfold checkedPaged paged
  cases hr : page.request with
  | error e => rfl
  | ok r =>
    -- An accepted page is handed on as it is, so both sides begin with the read of it.
    show (ExceptT.run (ExceptT.run (checkedRead r))).bind _ = ((ExceptT.run (read r)).bind _).bind _
    rw [h r hr, Checked.run_lift, Dialogue.bind_assoc, Dialogue.bind_assoc]
    refine congrArg _ (funext fun result => ?_)
    cases result <;> rfl

/-- **Every call is carried out** as the plain one, whatever its arguments. -/
theorem checkedPerform_eq {s : Service} (hdefault : 0 < s.defaultPageSize.toNat)
    (call : ToolCall) :
    call.checkedPerform s = (call.perform s).bind fun answer => .done (.ok answer) := by
  unfold checkedPerform
  cases hread : call.pagedRead? with
  | none => rfl
  | some read =>
    obtain ⟨q, page⟩ := read
    rw [perform_of_pagedRead? s hread]
    exact checkedPaged_eq fun r hr =>
      PagedRead.checkedStart_eq (validatePage_of_request hdefault hr) q

/-! ### Sessions -/

/-- Calls one after the other, each with the cache and the requests that the one before has left. -/
def session (s : Service) (backend : List Request → Request → Reply) :
    List ToolCall → PageCache → List Request → Dialogue.Outcome (List ToolAnswer)
  | [], c, sent => ⟨[], c, sent⟩
  | call :: calls, c, sent =>
    let first := (call.perform s).run backend c sent
    let rest := session s backend calls first.cache first.requests
    { rest with value := first.value :: rest.value }

/-- Calls one after the other, **up to a fault**. -/
def checkedSession (s : Service) (backend : List Request → Request → Reply) :
    List ToolCall → PageCache → List Request → Except Fault (Dialogue.Outcome (List ToolAnswer))
  | [], c, sent => .ok ⟨[], c, sent⟩
  | call :: calls, c, sent => do
    let first ← (call.checkedPerform s).checkedRun backend c sent
    let rest ← checkedSession s backend calls first.cache first.requests
    pure { rest with value := first.value :: rest.value }

/-- **A session of calls has no fault**, if the bridge has a page size: it is `.ok` of the session
without the checks. -/
theorem checkedSession_eq {s : Service} (hdefault : 0 < s.defaultPageSize.toNat)
    (backend : List Request → Request → Reply) (calls : List ToolCall) (c : PageCache)
    (sent : List Request) :
    checkedSession s backend calls c sent = .ok (session s backend calls c sent) := by
  induction calls generalizing c sent with
  | nil => rfl
  | cons call calls ih =>
    rw [checkedSession, checkedPerform_eq hdefault, Dialogue.checkedRun_bind_ok]
    -- The first call has not stopped; the others go on with what it has left.
    show (checkedSession s backend calls _ _ >>= _) = _
    rw [ih]
    rfl

/-- Every call is answered. -/
theorem length_session (s : Service) (backend : List Request → Request → Reply)
    (calls : List ToolCall) (c : PageCache) (sent : List Request) :
    (session s backend calls c sent).value.length = calls.length := by
  induction calls generalizing c sent with
  | nil => rfl
  | cons call calls ih => exact congrArg Nat.succ (ih _ _)

end ToolCall

/-! ### Main result -/

/-- **No session stops for good.** With a configuration that has been validated, whatever is called
with whatever arguments and whatever the backend answers, carrying out the calls step by step is
carrying them out: no page is without number or size, no range leaves the units, no counter its
word, and every call is answered. -/
theorem session_faultless {config : Config} (hvalid : config.validate = .ok config)
    (backend : List Request → Request → Reply) (calls : List ToolCall) (c : PageCache)
    (sent : List Request) :
    ToolCall.checkedSession ⟨config⟩ backend calls c sent =
        .ok (ToolCall.session ⟨config⟩ backend calls c sent) ∧
      (ToolCall.session ⟨config⟩ backend calls c sent).value.length = calls.length := by
  have hdefault : ("page_size", config.cache.defaultPageSize.toNat) ∈ config.counts := by
    simp [Config.counts]
  exact ⟨ToolCall.checkedSession_eq (Config.pos_of_mem_counts hvalid hdefault) backend calls c sent,
    ToolCall.length_session ⟨config⟩ backend calls c sent⟩

/-- Without a size for its pages the bridge would divide by zero. -/
example :
    let backend : List Request → Request → Reply := fun _ _ => .answer 200 "a".toUTF8.toList
    let calls : List ToolCall := [.read .manifest ⟨none, none, none⟩]
    let config : Config := ⟨.default, ⟨1, 1, 0⟩⟩
    (match ToolCall.checkedSession ⟨config⟩ backend calls (.empty config.cache "") [] with
      | .ok _ => none
      | .error fault => some fault) = some .zeroDivisor := by decide +kernel

namespace LargestNumbers

/-- A backend that counts as many pages as a word can, and always answers with the last but one. -/
def backend (_ : List Request) (_ : Request) : Reply :=
  .answer 200 ("\x7b\"data\":[],\"pagination\":" ++
    "\x7b\"current_page\":18446744073709551614,\"total_pages\":18446744073709551615\x7d\x7d"
      ).toUTF8.toList

/-- The largest page number and page size that a call can give. -/
def page : PageArguments := ⟨some Int64.maxValue, some Int64.maxValue, some true⟩

end LargestNumbers

/-- With the largest numbers of all, one call comes to its answer, after **two requests**. -/
theorem session_faultless_largest_numbers :
    ∃ outcome,
      ToolCall.checkedSession ⟨.default⟩ LargestNumbers.backend
        [.read .allClasses LargestNumbers.page] (.empty .default "") [] = .ok outcome ∧
      outcome.value.length = 1 ∧ outcome.requests.length = 2 := by
  have hvalid : Config.default.validate = .ok Config.default := by decide
  obtain ⟨hchecked, hlength⟩ := session_faultless hvalid LargestNumbers.backend
    [.read .allClasses LargestNumbers.page] (.empty .default "") []
  exact ⟨_, hchecked, hlength, by decide +kernel⟩

end CodePager
