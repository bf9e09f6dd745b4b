import CodePager.Proofs.Joining
import CodePager.Proofs.Provenance
import CodePager.Tools.Call

/-! # Reads that fail

What a read leaves behind when it fails. An attempt **fails cleanly** if its failure costs the cache
at most one miss, and if a failure about an argument comes before anything has been done
(`Attempt.FailsCleanly`). Checks keep this (`FailsCleanly.check`), fetching has it because it does
not touch the cache and never blames an argument (`Gateway.fetchAll_failsWith`), and so have all
reads of the bridge. A client sees the same (`failed_read_keeps_cache`), for it can tell a failure
about an argument from its wording. -/

namespace CodePager

/-! ### Failures about arguments -/

namespace Failure

/-- A failure that is about an argument. -/
def IsInvalid : Failure → Prop
  | .invalidArgument _ => True
  | _ => False

/-- How the wording of a failure begins. -/
def initial : Failure → Char
  | .transport _ | .backend _ _ => 'B'
  | .invalidArgument _ => 'I'
  | .notFound _ => 'N'
  | .unexpected _ => 'U'

/-- A text starts as its first part does, unless that is empty. -/
theorem head?_toList_append {a : String} {c : Char} (h : a.toList.head? = some c) (b : String) :
    (a ++ b).toList.head? = some c := by
  rw [String.toList_append, List.head?_append, h, Option.some_or]

/-- The message of a failure starts with its initial: `f.initial`. -/
theorem head?_message (f : Failure) : f.message.toList.head? = some f.initial := by
  cases f with
  | backend status text =>
    cases status with
    | none => exact head?_toList_append rfl _
    | some n =>
      exact head?_toList_append (head?_toList_append (head?_toList_append rfl _) _) _
  | transport detail | invalidArgument detail | notFound detail | unexpected detail =>
    exact head?_toList_append rfl _

/-- **A failure about an argument is known by its wording**: no other begins like it. -/
theorem isInvalid_of_toJson {f : Failure} {detail : String}
    (h : f.toJson = (invalidArgument detail).toJson) : f.IsInvalid := by
  simp only [toJson, Json.obj.injEq, List.cons.injEq, Prod.mk.injEq, Json.str.injEq] at h
  have hinitial : some f.initial = some 'I' := by
    rw [← head?_message, h.1.2, head?_message]
    rfl
  cases f with
  | invalidArgument detail => trivial
  | transport detail | backend status text | notFound detail | unexpected detail =>
    simp [initial] at hinitial

end Failure

namespace Attempt

variable {α β : Type} {P : Failure → Prop}

/-! ### How attempts fail -/

/-- An attempt fails only with failures in `P`, whatever it is answered. -/
def FailsWith (P : Failure → Prop) (x : Attempt α) : Prop :=
  ∀ backend c sent e, (x.outcome backend c sent).value = .error e → P e

/-- An attempt that gives a value at once never fails. -/
theorem failsWith_pure (a : α) : (pure a : Attempt α).FailsWith P := by
  intro backend c sent e he
  cases he

/-- An attempt that fails at once fails with that failure. -/
theorem failsWith_throw {failure : Failure} (h : P failure) :
    (throw failure : Attempt α).FailsWith P := by
  intro backend c sent e he
  obtain rfl := Except.error.inj he
  exact h

/-- The result of a step fails as the step does. -/
theorem failsWith_ofExcept {x : Except Failure α} (h : ∀ e, x = .error e → P e) :
    (ofExcept x).FailsWith P := fun _ _ _ e he => h e he

/-- Sending a request never fails; the reply may. -/
theorem failsWith_send (request : Request) :
    FailsWith P (ExceptT.lift (Dialogue.send request) : Attempt Reply) := by
  intro backend c sent e he
  cases he

/-- Attempts one after the other fail **as one of them does**. -/
theorem FailsWith.bind {x : Attempt α} {f : α → Attempt β} (hx : x.FailsWith P)
    (hf : ∀ a, (f a).FailsWith P) : (x >>= f).FailsWith P := by
  intro backend c sent e he
  rw [outcome_bind] at he
  split at he
  · exact hf _ _ _ _ e he
  · rename_i failure hfailure
    obtain rfl := Except.error.inj he
    exact hx _ _ _ _ hfailure

/-- **An attempt fails cleanly**: when it has failed the cache has at most one miss more than before
and is otherwise as it was, and after a failure about an argument nothing has happened at all. -/
def FailsCleanly (x : Attempt α) : Prop :=
  ∀ backend c sent e, (x.outcome backend c sent).value = .error e →
    (∃ n ≤ 1, (x.outcome backend c sent).cache = { c with misses := c.misses + n }) ∧
    (e.IsInvalid →
      (x.outcome backend c sent).cache = c ∧ (x.outcome backend c sent).requests = sent)

/-- An attempt that fails at once fails cleanly. -/
theorem failsCleanly_throw (failure : Failure) : (throw failure : Attempt α).FailsCleanly :=
  fun _ _ _ _ _ => ⟨⟨0, Nat.zero_le 1, rfl⟩, fun _ => ⟨rfl, rfl⟩⟩

/-- A check in front does nothing but fail. -/
theorem FailsCleanly.check (x : Except Failure α) {f : α → Attempt β}
    (hf : ∀ a, (f a).FailsCleanly) : (ofExcept x >>= f).FailsCleanly := by
  cases x with
  | error failure => exact failsCleanly_throw failure
  | ok a => exact hf a

/-- What only turns the result into another does not fail. -/
theorem FailsCleanly.map {x : Attempt α} (hx : x.FailsCleanly) (g : α → β) :
    (x >>= fun a => pure (g a)).FailsCleanly := by
  intro backend c sent e he
  rw [outcome_bind] at he ⊢
  split at he
  · cases he
  · rename_i failure hfailure
    obtain rfl := Except.error.inj he
    exact hx _ _ _ _ hfailure

/-- An attempt that does not operate on the cache and never blames an argument. -/
theorem FailsCleanly.of_silent {x : Attempt α} (hsilent : Dialogue.Silent (ExceptT.run x))
    (hfails : x.FailsWith fun e => ¬ e.IsInvalid) : x.FailsCleanly := by
  intro backend c sent e he
  have hcache : (x.outcome backend c sent).cache = c :=
    congrArg (·.cache) (Dialogue.run_silent backend hsilent c c sent)
  exact ⟨⟨0, Nat.zero_le 1, hcache⟩, fun hinvalid => absurd hinvalid (hfails _ _ _ _ he)⟩

end Attempt

/-! ### Fetching -/

namespace Gateway

variable (backend : BackendConfig) (route : Route) (params : Params)

/-- A reply that holds no payload is **never the fault of an argument**: `¬ e.IsInvalid`. -/
theorem not_isInvalid_of_readReply {url : String} {reply : Reply} {e : Failure}
    (h : readReply url reply = .error e) : ¬ e.IsInvalid := by
  cases reply with
  | answer status body =>
    -- Whatever is wrong with an answer is the backend's.
    simp only [readReply, readAnswer] at h
    split at h
    · split at h
      · obtain rfl := Except.error.inj h
        exact id
      · cases h
    · obtain rfl := Except.error.inj h
      exact id
  | unreachable =>
    obtain rfl := Except.error.inj h
    exact id
  | cutShort =>
    obtain rfl := Except.error.inj h
    exact id
  | gaveUp detail =>
    obtain rfl := Except.error.inj h
    exact id

/-- A request that fails never blames an argument. -/
theorem request_failsWith (verb : Verb) :
    (request backend verb route params).FailsWith fun e => ¬ e.IsInvalid := by
  have hsend : ∀ r : Request, (do
      let reply ← ExceptT.lift (Dialogue.send r)
      Attempt.ofExcept (readReply (r.url backend) reply) : Attempt Payload).FailsWith
        fun e => ¬ e.IsInvalid :=
    fun r => (Attempt.failsWith_send r).bind fun reply =>
      Attempt.failsWith_ofExcept fun e => not_isInvalid_of_readReply
  unfold request
  cases backend.isAddressable with
  | true => exact hsend _
  | false => exact (Attempt.failsWith_throw id).bind fun _ => hsend _

/-- Fetching the pages that follow never blames an argument. -/
theorem fetchPages_failsWith (count page : Nat) (items : List Json) :
    (fetchPages backend route params count page items).FailsWith fun e => ¬ e.IsInvalid := by
  -- On the pages that are left; each of them may fail, or turn out not to be one.
  induction count generalizing page items with
  | zero => exact Attempt.failsWith_pure _
  | succ count ih =>
    refine (request_failsWith backend route _ .get).bind fun payload => ?_
    cases envelope? payload with
    | some e => exact ih _ _
    | none => exact Attempt.failsWith_throw id

/-- **Fetching never blames an argument.** -/
theorem fetchAll_failsWith :
    (fetchAll backend route params).FailsWith fun e => ¬ e.IsInvalid := by
  unfold fetchAll
  cases route.paging with
  | none => exact request_failsWith backend route params .get
  | some unit =>
    refine (request_failsWith backend route _ .get).bind fun payload => ?_
    cases envelope? payload with
    | none => exact Attempt.failsWith_pure _
    | some first =>
      exact (fetchPages_failsWith backend route _ _ _ _).bind fun _ => Attempt.failsWith_pure _

/-- Fetching fails cleanly. -/
theorem fetch_failsCleanly : (fetch backend route params).FailsCleanly := by
  refine Attempt.FailsCleanly.of_silent ?_ (request_failsWith backend route params .get)
  exact request_within backend route params trivial

end Gateway

/-! ### The reads of the bridge -/

section Service

variable (s : Service)

/-- A **paged read** fails cleanly, whatever page is asked for. -/
theorem failsCleanly_start (q : PagedRead) (r : PageRequest) : (q.start s r).FailsCleanly := by
  intro backend c sent e he
  rw [outcome_start] at he ⊢
  cases hplan : q.plan with
  | error failure => exact ⟨⟨0, Nat.zero_le 1, rfl⟩, fun _ => ⟨rfl, rfl⟩⟩
  | ok p =>
    simp only [hplan, PagedRead.result] at he ⊢
    cases hserved : p.served? r c with
    | some x =>
      rw [hserved] at he
      cases he
    | none =>
      simp only [hserved] at he ⊢
      cases hvalue : ((p.fetch s).outcome backend (r.missed c) sent).value with
      | ok payload =>
        rw [hvalue] at he
        cases he
      | error failure =>
        -- Only the search of the cache has left a trace, and the backend is to blame.
        simp only [hvalue] at he ⊢
        obtain rfl := Except.error.inj he
        refine ⟨?_, fun hinvalid => ?_⟩
        · unfold PageRequest.missed
          split
          · exact ⟨0, Nat.zero_le 1, rfl⟩
          · exact ⟨1, Nat.le_refl 1, rfl⟩
        · exact absurd hinvalid (Gateway.fetchAll_failsWith _ _ _ _ _ _ _ hvalue)

/-- Reading about a class fails cleanly. -/
theorem failsCleanly_classInfo (target : ClassTarget) : (s.classInfo target).FailsCleanly :=
  Attempt.FailsCleanly.check _ fun _ => (Gateway.fetch_failsCleanly _ _ _).map _

/-- Reading about a method fails cleanly. -/
theorem failsCleanly_methodInfo (target : MethodTarget) : (s.methodInfo target).FailsCleanly :=
  Attempt.FailsCleanly.check _ fun _ => (Gateway.fetch_failsCleanly _ _ _).map _

/-- Asking the backend how it is fails cleanly. -/
theorem failsCleanly_health : s.health.FailsCleanly := (Gateway.fetch_failsCleanly _ _ _).map _

/-- Looking for a page fails with nothing done if the page is no page, and with a miss otherwise. -/
theorem failsCleanly_look (op : CacheOp) (result : op.Result → Except Failure Page)
    (h : ∀ c e, result (op.run c).1 = .error e →
      (op.run c).2 = c ∨ ((op.run c).2 = c.count false ∧ ¬ e.IsInvalid)) :
    (do
      let page ← Attempt.onCache op
      Attempt.ofExcept (result page) : Attempt Page).FailsCleanly := by
  intro backend c sent e he
  rw [Attempt.outcome_bind_ok (Attempt.outcome_onCache backend c sent op)] at he ⊢
  rcases h c e he with hsame | ⟨hmissed, hnot⟩
  · exact ⟨⟨0, Nat.zero_le 1, hsame⟩, fun _ => ⟨hsame, rfl⟩⟩
  · exact ⟨⟨1, Nat.le_refl 1, hmissed⟩, fun hinvalid => absurd hinvalid hnot⟩

/-- Asking for a page of a cached result fails cleanly. -/
theorem failsCleanly_cachedPage (key : String) (index size : Option Int64) :
    (s.cachedPage key index size).FailsCleanly := by
  refine Attempt.FailsCleanly.check _ fun i => Attempt.FailsCleanly.check _ fun z => ?_
  refine failsCleanly_look (.getPage key (i.getD 1) (z.getD s.defaultPageSize)) id fun c e he => ?_
  simp only [CacheOp.run, PageCache.getPage, PageCache.lookup, id] at he ⊢
  cases hvalid : validatePage (i.getD 1) (z.getD s.defaultPageSize) with
  | error failure => exact Or.inl rfl
  | ok u =>
    rw [hvalid] at he
    cases hget : c.get? key with
    | some x =>
      rw [hget] at he
      cases he
    | none =>
      rw [hget] at he
      obtain rfl := Except.error.inj he
      exact Or.inr ⟨rfl, id⟩

/-- Asking for a page of the last method source fails cleanly. -/
theorem failsCleanly_methodSourcePage (index size : Option Int64) :
    (s.methodSourcePage index size).FailsCleanly := by
  refine Attempt.FailsCleanly.check _ fun i => Attempt.FailsCleanly.check _ fun z => ?_
  refine failsCleanly_look (.slotPage (i.getD 1) (z.getD s.defaultPageSize)) id fun c e he => ?_
  simp only [CacheOp.run, PageCache.slotPage, PageCache.lastMethodSource_count, id] at he ⊢
  cases hvalid : validatePage (i.getD 1) (z.getD s.defaultPageSize) with
  | error failure => exact Or.inl rfl
  | ok u =>
    rw [hvalid] at he
    cases hslot : c.lastMethodSource with
    | some x =>
      rw [hslot] at he
      cases he
    | none =>
      rw [hslot] at he
      obtain rfl := Except.error.inj he
      exact Or.inr ⟨rfl, id⟩

end Service

/-! ### Tool calls -/

/-- The calls that **read**: from the backend, from the cache, or from either. -/
def ToolCall.Reads : ToolCall → Prop
  | .health | .read _ _ | .readClass _ _ _ | .readMethod _ _ _ | .classInfo _ | .methodInfo _
  | .methodSource _ _ | .methodSourcePage _ _ | .searchMethod _ _ | .resourceFile _ _
  | .cachedPage _ _ _ => True
  | _ => False

/-- **Every read** answers with what an attempt comes to that fails cleanly. -/
theorem ToolCall.Reads.exists_attempt (s : Service) {call : ToolCall} (h : call.Reads) :
    ∃ (α : Type) (x : Attempt α) (toJson : α → Json), x.FailsCleanly ∧
      call.perform s = (ExceptT.run x).bind fun result => .done (.ofResult toJson result) := by
  have hpaged : ∀ (page : PageArguments) (q : PagedRead),
      (Attempt.ofExcept page.request >>= fun r => q.start s r).FailsCleanly :=
    fun page q => Attempt.FailsCleanly.check _ fun r => failsCleanly_start s q r
  cases call with
  | health => exact ⟨_, _, _, failsCleanly_health s, rfl⟩
  | read route page => exact ⟨_, _, _, hpaged page (.plain route), rfl⟩
  | readClass route target page => exact ⟨_, _, _, hpaged page (.ofClass route target), rfl⟩
  | readMethod route target page => exact ⟨_, _, _, hpaged page (.ofMethod route target), rfl⟩
  | classInfo target => exact ⟨_, _, _, failsCleanly_classInfo s target, rfl⟩
  | methodInfo target => exact ⟨_, _, _, failsCleanly_methodInfo s target, rfl⟩
  | methodSource target page => exact ⟨_, _, _, hpaged page (.methodSource target), rfl⟩
  | methodSourcePage index size =>
    exact ⟨_, _, _, failsCleanly_methodSourcePage s index size, rfl⟩
  | searchMethod target page => exact ⟨_, _, _, hpaged page (.search target), rfl⟩
  | resourceFile filename page => exact ⟨_, _, _, hpaged page (.resource filename), rfl⟩
  | cachedPage key index size => exact ⟨_, _, _, failsCleanly_cachedPage s key index size, rfl⟩
  | _ => exact h.elim

/-! ### Main result -/

/-- **A read that fails leaves the cache as it was.** Whatever the backend answers, and wherever the
read breaks off, a failed call changes nothing in the cache but for one miss that it may count; and
if it fails because of an argument, nothing has been counted and nothing has been sent. -/
theorem failed_read_keeps_cache (s : Service) (backend : List Request → Request → Reply)
    (c : PageCache) (sent : List Request) {call : ToolCall} (hcall : call.Reads)
    (hfail : ((call.perform s).run backend c sent).value.isError = true) :
    let done := (call.perform s).run backend c sent
    ∃ failure : Failure, done.value = ⟨true, failure.toJson⟩ ∧
      (∃ n ≤ 1, done.cache = { c with misses := c.misses + n }) ∧
      ∀ detail, failure.toJson = (Failure.invalidArgument detail).toJson →
        done.cache = c ∧ done.requests = sent := by
  obtain ⟨α, x, toJson, hx, hperform⟩ := hcall.exists_attempt s
  rw [hperform, Attempt.run_bind_done] at hfail ⊢
  cases hvalue : (x.outcome backend c sent).value with
  | ok a =>
    rw [hvalue] at hfail
    cases hfail
  | error failure =>
    obtain ⟨hcache, hinvalid⟩ := hx backend c sent failure hvalue
    refine ⟨failure, rfl, hcache, fun detail hwording => ?_⟩
    exact hinvalid (Failure.isInvalid_of_toJson hwording)

namespace BrokenJoin

/-- A backend that gives the first of two pages and breaks off in the middle of the other. -/
def backend (_ : List Request) (r : Request) : Reply :=
  if r.params.get? "page_index" = some "1" then .answer 200 TwoLetters.first.toUTF8.toList
  else .cutShort

/-- A bridge that caches every result. -/
def service : Service := ⟨⟨.default, ⟨1, 4, 1⟩⟩⟩

/-- A later page of the source of a class, which is not in the cache. -/
def call : ToolCall := .readClass .classSource ⟨none, some "C"⟩ ⟨some 2, none, none⟩

end BrokenJoin

/-- A join that breaks off at its second page costs one miss, **and nothing of the first page is
kept**. -/
theorem failed_read_keeps_cache_broken_join :
    let c := PageCache.empty BrokenJoin.service.config.cache ""
    let done := (BrokenJoin.call.perform BrokenJoin.service).run BrokenJoin.backend c []
    done.value.isError = true ∧ done.requests.length = 2 ∧ done.cache = { c with misses := 1 } := by
  intro c done
  have hseen : done.value.isError = true ∧ done.requests.length = 2 ∧ done.cache.misses = 1 := by
    decide +kernel
  have hreads : BrokenJoin.call.Reads := trivial
  obtain ⟨failure, -, ⟨n, -, hcache⟩, -⟩ := failed_read_keeps_cache BrokenJoin.service
    BrokenJoin.backend c [] hreads hseen.1
  refine ⟨hseen.1, hseen.2.1, ?_⟩
  have hmisses := hseen.2.2
  rw [hcache] at hmisses ⊢
  obtain rfl : n = 1 := (Nat.zero_add n).symm.trans hmisses
  rfl

end CodePager
