import CodePager.Proofs.History

/-! # The conduct of operations

What operations do whatever they are answered, step by step. They keep nothing in the cache but what
the backend says under the answers that they get (`keepsOnly_carryOut`), and they submit a change to
the project only **between two clearings** of the cache (`submitsWhen_carryOut`). -/

namespace CodePager

/-! ### What a dialogue comes to under some answers -/

namespace Dialogue

variable {α β : Type} (A : Request → Reply → Prop)

/-- A dialogue may end with a value, if every reply is one of `A`. -/
def MayEnd (a : α) : Dialogue α → Prop
  | .done b => b = a
  | .cache _ next => ∃ result, (next result).MayEnd a
  | .ask request next => ∃ reply, A request reply ∧ (next reply).MayEnd a

/-- A dialogue keeps **nothing but** `P` in the cache, if every reply is one of `A`. -/
def KeepsOnly (P : CacheKey → Units → Prop) : Dialogue α → Prop
  | .done _ => True
  | .cache op next =>
    (∀ key units, op.Keeps key units → P key units) ∧ ∀ result, (next result).KeepsOnly P
  | .ask request next => ∀ reply, A request reply → (next reply).KeepsOnly P

variable {A} {P : CacheKey → Units → Prop}

/-- Dialogues one after the other keep only `P` if the first does, and the second does **after every
end** that the first may come to. -/
theorem KeepsOnly.bind {d : Dialogue α} {f : α → Dialogue β} (hd : d.KeepsOnly A P)
    (hf : ∀ a, d.MayEnd A a → (f a).KeepsOnly A P) : (d.bind f).KeepsOnly A P := by
  induction d with
  | done a => exact hf a rfl
  | cache op next ih =>
    exact ⟨hd.1, fun result => ih result (hd.2 result) fun a ha => hf a ⟨result, ha⟩⟩
  | ask request next ih =>
    exact fun reply hreply => ih reply (hd reply hreply) fun a ha => hf a ⟨reply, hreply, ha⟩

/-- What follows a dialogue may end only behind one of its ends. -/
theorem mayEnd_bind {d : Dialogue α} {f : α → Dialogue β} {b : β}
    (h : (d.bind f).MayEnd A b) : ∃ a, d.MayEnd A a ∧ (f a).MayEnd A b := by
  induction d with
  | done a => exact ⟨a, rfl, h⟩
  | cache op next ih =>
    obtain ⟨result, hresult⟩ := h
    obtain ⟨a, ha, hb⟩ := ih result hresult
    exact ⟨a, ⟨result, ha⟩, hb⟩
  | ask request next ih =>
    obtain ⟨reply, hreply, hend⟩ := h
    obtain ⟨a, ha, hb⟩ := ih reply hend
    exact ⟨a, ⟨reply, hreply, ha⟩, hb⟩

/-- A dialogue keeps only what its operations may keep, whatever it is answered. -/
theorem Within.keepsOnly {d : Dialogue α} {Q : Request → Prop}
    (h : d.Within (fun op => ∀ key units, op.Keeps key units → P key units) Q) :
    d.KeepsOnly A P := by
  induction d with
  | done a => trivial
  | cache op next ih =>
    obtain ⟨hop, hnext⟩ := within_cache.mp h
    exact ⟨hop, fun result => ih result (hnext result)⟩
  | ask request next ih => exact fun reply _ => ih reply ((within_ask.mp h).2 reply)

end Dialogue

namespace Attempt

variable {α β : Type} {A : Request → Reply → Prop} {P : CacheKey → Units → Prop}

/-- An attempt keeps nothing but `P` in the cache. -/
def KeepsOnly (A : Request → Reply → Prop) (P : CacheKey → Units → Prop) (x : Attempt α) : Prop :=
  Dialogue.KeepsOnly A P (ExceptT.run x)

/-- An attempt may succeed with a value. -/
def MayGive (A : Request → Reply → Prop) (x : Attempt α) (a : α) : Prop :=
  Dialogue.MayEnd A (.ok a) (ExceptT.run x)

/-- What follows an attempt keeps nothing but `P` if both do, the second one after every value that
the first may give. -/
theorem KeepsOnly.bind {x : Attempt α} {f : α → Attempt β} (hx : x.KeepsOnly A P)
    (hf : ∀ a, x.MayGive A a → (f a).KeepsOnly A P) : (x >>= f).KeepsOnly A P := by
  unfold KeepsOnly
  rw [ExceptT.run_bind]
  refine Dialogue.KeepsOnly.bind hx fun a ha => ?_
  cases a with
  | ok a => exact hf a ha
  | error e => trivial

/-- What follows an attempt may give its value only behind a value of the attempt. -/
theorem mayGive_bind {x : Attempt α} {f : α → Attempt β} {b : β} (h : (x >>= f).MayGive A b) :
    ∃ a, x.MayGive A a ∧ (f a).MayGive A b := by
  unfold MayGive at h
  rw [ExceptT.run_bind] at h
  obtain ⟨a, ha, hb⟩ := Dialogue.mayEnd_bind h
  cases a with
  | ok a => exact ⟨a, ha, hb⟩
  | error e => cases hb

end Attempt

/-- What a request may give is read from one of its replies. -/
theorem Gateway.mayGive_request {A : Request → Reply → Prop} {backend : BackendConfig} {verb : Verb}
    {route : Route} {params : Params} {payload : Payload}
    (h : (request backend verb route params).MayGive A payload) :
    ∃ reply, A ⟨verb, route, params⟩ reply ∧
      readReply ((⟨verb, route, params⟩ : Request).url backend) reply = .ok payload := by
  unfold request at h
  by_cases ha : backend.isAddressable = true
  · simp only [ha, Bool.not_true, Bool.false_eq_true, if_false] at h
    obtain ⟨reply, ⟨reply', hreply', hsent⟩, hread⟩ := Attempt.mayGive_bind h
    obtain rfl : reply' = reply := Except.ok.inj hsent
    exact ⟨reply', hreply', hread⟩
  · simp only [ha, Bool.not_false, if_true] at h
    obtain ⟨a, hthrow, _⟩ := Attempt.mayGive_bind h
    cases hthrow

/-! ### The parts of a read -/

section Read

variable (s : Service) (q : PagedRead) (r : PageRequest) {O : CacheOp → Prop} {Q : Request → Prop}

/-- Storing units is within bounds that allow to store them, at any threshold. -/
theorem within_store (key : CacheKey) (units : Units) (hstore : ∀ n, O (.store key units n)) :
    (s.store key units r).Within O Q := by
  refine Attempt.Within.bind (Attempt.within_onCache (hstore _)) fun stored => ?_
  cases stored <;> exact Attempt.within_pure _

/-- Looking for a cached page is within bounds that allow to look up its key. -/
theorem within_cachedPageFor? (key : CacheKey) (hlookup : O (.lookup key.text)) :
    (s.cachedPageFor? key r).Within O Q := by
  unfold Service.cachedPageFor?
  split
  · exact Attempt.within_pure _
  · exact Attempt.Within.bind (Attempt.within_onCache hlookup) fun _ => Attempt.within_pure _

/-- **Finishing a read** stores and remembers the units of the payload, or forgets, and sends
nothing. -/
theorem within_finish (p : ReadPlan) (shape : Shape)
    (hstore : ∀ units n, shape.units? = some units → O (.store p.key units n))
    (hremember : ∀ units, shape.units? = some units → O (.remember p.key units))
    (hforget : O .forget) : (q.finish s r p shape).Within O Q := by
  have hkeep := fun units (hu : shape.units? = some units) =>
    within_store (Q := Q) s r p.key units fun n => hstore units n hu
  cases q with
  | methodSource target =>
    cases shape with
    | text text | records items =>
      refine Attempt.Within.bind (Attempt.within_onCache (hremember _ rfl)) fun _ => ?_
      exact Attempt.Within.bind (hkeep _ rfl) fun _ => Attempt.within_pure _
    | inline v =>
      exact Attempt.Within.bind (Attempt.within_onCache hforget) fun _ => Attempt.within_pure _
  | plain route | ofClass route target | ofMethod route target | search target
  | resource filename =>
    cases shape with
    | text text | records items =>
      exact Attempt.Within.bind (hkeep _ rfl) fun _ => Attempt.within_pure _
    | inline v => exact Attempt.within_pure _

end Read

/-! ### What operations keep -/

section Keeps

variable (s : Service) (A : Request → Reply → Prop)

/-- Units that a read may have fetched under a key, if every reply is one of `A`: what the backend
**then says** about the target of the read. -/
def Current (key : CacheKey) (units : Units) : Prop :=
  ∃ (q : PagedRead) (p : ReadPlan) (payload : Payload), q.plan = .ok p ∧ p.key = key ∧
    (p.fetch s).MayGive A payload ∧ payload.shape.units? = some units

/-- **A read keeps nothing but what the backend says.** -/
theorem keepsOnly_start (q : PagedRead) (r : PageRequest) :
    (q.start s r).KeepsOnly A (Current s A) := by
  rw [PagedRead.start_eq]
  cases hplan : q.plan with
  | error e => trivial
  | ok p =>
    have hcached : (s.cachedPageFor? p.key r).KeepsOnly A (Current s A) :=
      Dialogue.Within.keepsOnly (within_cachedPageFor? (Q := fun _ => True) s r p.key
        fun _ _ hk => hk.elim)
    -- Only finishing keeps anything, and what it keeps is what fetching may give.
    refine Attempt.KeepsOnly.bind hcached fun page _ => ?_
    cases page with
    | some page => trivial
    | none =>
      have hfetch : (p.fetch s).KeepsOnly A (Current s A) :=
        Dialogue.Within.keepsOnly (Gateway.fetchAll_queries _ _ _)
      refine Attempt.KeepsOnly.bind hfetch fun payload hpayload => ?_
      have hcurrent : ∀ units, payload.shape.units? = some units → Current s A p.key units :=
        fun units hunits => ⟨q, p, payload, hplan, rfl, hpayload, hunits⟩
      refine Dialogue.Within.keepsOnly (within_finish (Q := fun _ => True) s q r p payload.shape
        ?_ ?_ fun _ _ hk => hk.elim)
      · rintro units n hunits key' units' ⟨rfl, rfl⟩
        exact hcurrent units hunits
      · rintro units hunits key' units' ⟨rfl, rfl⟩
        exact hcurrent units hunits

/-- **Every operation** keeps nothing but what the backend says. -/
theorem keepsOnly_carryOut (op : Operation) : (op.carryOut s).KeepsOnly A (Current s A) := by
  by_cases hop : ∃ q r, op = .read q r
  · obtain ⟨q, r, rfl⟩ := hop
    exact Dialogue.KeepsOnly.bind (keepsOnly_start s A q r) fun _ _ => trivial
  · have hwithin := op.within_allows s fun q r heq => hop ⟨q, r, heq⟩
    have hkeeps : ∀ o, op.allows o → ∀ key units, o.Keeps key units → Current s A key units :=
      fun o ho key units hk => absurd hk (Operation.not_keeps_of_allows ho key units)
    exact (hwithin.mono hkeeps fun _ h => h).keepsOnly

end Keeps

/-! ### When operations submit changes -/

/-- How often an operation on the cache clears all of it. -/
def CacheOp.clearings : CacheOp → Nat
  | .clear => 1
  | _ => 0

/-- A dialogue that has cleared the cache `n` times submits something only when `P` holds of the
number of clearings. -/
def Dialogue.SubmitsWhen {α : Type} (P : Nat → Prop) : Nat → Dialogue α → Prop
  | _, .done _ => True
  | n, .cache op next => ∀ result, (next result).SubmitsWhen P (n + op.clearings)
  | n, .ask request next =>
    (request.verb = .post → P n) ∧ ∀ reply, (next reply).SubmitsWhen P n

section Submits

variable {α β : Type} {P : Nat → Prop}

/-- A dialogue that submits nothing **may be anywhere** between clearings. -/
theorem Dialogue.Within.submitsWhen {d : Dialogue α} {O : CacheOp → Prop}
    (h : d.Within O fun request => request.verb = .post → False) (n : Nat) :
    d.SubmitsWhen P n := by
  induction d generalizing n with
  | done a => trivial
  | cache op next ih => exact fun result => ih result ((within_cache.mp h).2 result) _
  | ask request next ih =>
    obtain ⟨hrequest, hnext⟩ := within_ask.mp h
    exact ⟨fun hpost => absurd hpost hrequest, fun reply => ih reply (hnext reply) n⟩

/-- After a dialogue that does not operate on the cache. -/
theorem Dialogue.SubmitsWhen.bind {d : Dialogue α} {f : α → Dialogue β} {n : Nat} (hd : d.Silent)
    (hP : P n) (hf : ∀ a, (f a).SubmitsWhen P n) : (d.bind f).SubmitsWhen P n := by
  induction d with
  | done a => exact hf a
  | cache op next ih => exact (within_cache.mp hd).1.elim
  | ask request next ih =>
    exact ⟨fun _ => hP, fun reply => ih reply ((within_ask.mp hd).2 reply)⟩

/-- A query of a route is no submission. -/
theorem not_post_of_isQuery {route : Route} (request : Request)
    (h : Gateway.IsQuery route request) (hpost : request.verb = .post) : False := by
  rw [h.1] at hpost
  cases hpost

variable (s : Service) (q : PagedRead) (r : PageRequest)

/-- A read submits nothing. -/
theorem start_submits_nothing :
    (q.start s r).Within (fun _ => True) fun request => request.verb = .post → False := by
  rw [PagedRead.start_eq]
  cases q.plan with
  | error e => exact Attempt.within_throw _
  | ok p =>
    refine Attempt.Within.bind (within_cachedPageFor? s r p.key trivial) fun page => ?_
    cases page with
    | some page => exact Attempt.within_pure _
    | none =>
      have hfetch : (p.fetch s).Within (fun _ => True)
          fun request => request.verb = .post → False :=
        (Gateway.fetchAll_queries _ _ _).mono (fun _ h => h) fun request h =>
          not_post_of_isQuery request h
      exact Attempt.Within.bind hfetch fun payload =>
        within_finish s q r p payload.shape (fun _ _ _ => trivial) (fun _ _ => trivial) trivial

/-- A change is submitted **between two clearings**, and nothing else is submitted. -/
theorem submitsWhen_carryOut (s : Service) (op : Operation) :
    (op.carryOut s).SubmitsWhen (fun n => op.IsWrite ∧ n = 1) 0 := by
  by_cases hread : ∃ q r, op = .read q r
  · obtain ⟨q, r, rfl⟩ := hread
    exact (Attempt.Within.ended (start_submits_nothing s q r)).submitsWhen 0
  · have hwithin := op.within_allows s fun q r heq => hread ⟨q, r, heq⟩
    by_cases hwrite : op.IsWrite
    · cases op with
      | mutate route params =>
        intro _
        -- The first clearing has been made and the second is still to come.
        let submitted := (Gateway.submit s.config.backend route params).run
        show ((submitted.bind _).bind _).SubmitsWhen _ 1
        rw [Dialogue.bind_assoc]
        refine Dialogue.SubmitsWhen.bind (Gateway.request_within _ _ _ trivial) ⟨trivial, rfl⟩ ?_
        exact fun _ _ => trivial
      | _ => exact hwrite.elim
    · have hnothing : (op.carryOut s).Within op.allows
          fun request => request.verb = .post → False :=
        hwithin.mono (fun _ h => h) fun _ h hpost => hwrite (h hpost)
      exact hnothing.submitsWhen 0

end Submits

end CodePager
