import CodePager.Proofs.Dialogue

/-! # Laws of fetching

What fetching does besides giving a payload: it only sends queries (`fetchAll_queries`), it does not
touch the cache (`fetchAll_silent`), and it does not succeed without sending a request
(`fetchAll_sends`). -/

namespace CodePager.Gateway

variable (backend : BackendConfig) (route : Route) (params : Params)

/-- A request that asks a route of the backend and changes nothing. -/
def IsQuery (route : Route) (r : Request) : Prop := r.verb = .get ∧ r.route = route

/-- A single request is all that a request sends. -/
theorem request_within {P : CacheOp → Prop} {Q : Request → Prop} {verb : Verb}
    (h : Q ⟨verb, route, params⟩) : (request backend verb route params).Within P Q := by
  by_cases ha : backend.isAddressable = true
  · simp only [request, ha]
    exact Attempt.Within.bind (Attempt.within_send h) fun _ => Attempt.within_ofExcept _
  · simp only [request, ha]
    exact Attempt.Within.bind (Attempt.within_throw _) fun _ =>
      Attempt.Within.bind (Attempt.within_send h) fun _ => Attempt.within_ofExcept _

/-- Fetching sends queries of its route only. -/
theorem fetch_queries {P : CacheOp → Prop} :
    (fetch backend route params).Within P (IsQuery route) :=
  request_within backend route params ⟨rfl, rfl⟩

/-- Fetching the pages that follow sends queries of their route only. -/
theorem fetchPages_queries {P : CacheOp → Prop} (count page : Nat) (items : List Json) :
    (fetchPages backend route params count page items).Within P (IsQuery route) := by
  -- On the pages that are left; each of them is asked for with what the ones before have given.
  induction count generalizing page items with
  | zero => exact Attempt.within_pure _
  | succ count ih =>
    refine Attempt.Within.bind (fetch_queries backend route _) fun payload => ?_
    cases envelope? payload with
    | some e => exact ih _ _
    | none => exact Attempt.within_throw _

/-- **Fetching only sends queries** to its route and does not operate on the cache. -/
theorem fetchAll_queries {P : CacheOp → Prop} :
    (fetchAll backend route params).Within P (IsQuery route) := by
  unfold fetchAll
  cases route.paging with
  | none => exact fetch_queries backend route params
  | some unit =>
    refine Attempt.Within.bind (fetch_queries backend route _) fun payload => ?_
    cases envelope? payload with
    | none => exact Attempt.within_pure _
    | some first =>
      exact Attempt.Within.bind (fetchPages_queries backend route _ _ _ _)
        fun _ => Attempt.within_pure _

/-- Fetching a whole result **does nothing to the cache**. -/
theorem fetchAll_silent : Dialogue.Silent (ExceptT.run (fetchAll backend route params)) :=
  (fetchAll_queries backend route params).mono (fun _ h => h) fun _ _ => trivial

section Run

variable (answers : List Request → Request → Reply) (c : PageCache) (sent : List Request)

/-- A request leaves the cache alone and is **sent once**, unless there is no address for it. -/
theorem outcome_request (verb : Verb) :
    ((request backend verb route params).outcome answers c sent).cache = c ∧
      ((request backend verb route params).outcome answers c sent).requests =
        if backend.isAddressable then sent ++ [⟨verb, route, params⟩] else sent := by
  unfold request
  by_cases ha : backend.isAddressable = true <;> simp [Attempt.outcome_bind, ha]

/-- What is fetched does not depend on the cache. -/
theorem fetchAll_outcome (c' : PageCache) :
    (fetchAll backend route params).outcome answers c sent =
      ⟨((fetchAll backend route params).outcome answers c' sent).value, c,
        ((fetchAll backend route params).outcome answers c' sent).requests⟩ :=
  Dialogue.run_silent answers (fetchAll_silent backend route params) c c' sent

/-- **Fetching begins with a request**, if there is an address to send it to. -/
theorem fetchAll_asks (ha : backend.isAddressable = true) :
    ∃ first, IsQuery route first ∧
      sent ++ [first] <+: ((fetchAll backend route params).outcome answers c sent).requests := by
  have hfetch : ∀ params, ((fetch backend route params).outcome answers c sent).requests =
      sent ++ [⟨.get, route, params⟩] := by
    intro params
    rw [fetch, (outcome_request backend route params answers c sent .get).2, if_pos ha]
  unfold fetchAll
  cases route.paging with
  | none =>
    refine ⟨⟨.get, route, params⟩, ⟨rfl, rfl⟩, ?_⟩
    simp only [hfetch, List.prefix_rfl]
  | some unit =>
    refine ⟨⟨.get, route, (params.setNum "page_index" 1).setNum "page_size" fullPageSize⟩,
      ⟨rfl, rfl⟩, ?_⟩
    rw [← hfetch, Attempt.outcome_bind]
    split
    · exact Dialogue.prefix_run_requests answers _ _ _
    · exact List.prefix_rfl

/-- A request that gives a payload has been sent. -/
theorem request_sends {verb : Verb} {payload : Payload}
    (h : ((request backend verb route params).outcome answers c sent).value = .ok payload) :
    ((request backend verb route params).outcome answers c sent).requests =
      sent ++ [⟨verb, route, params⟩] := by
  rw [(outcome_request backend route params answers c sent verb).2]
  by_cases ha : backend.isAddressable
  · exact if_pos ha
  · simp [request, ha] at h

/-- **Fetching does not succeed without a request.** -/
theorem fetchAll_sends {payload : Payload}
    (h : ((fetchAll backend route params).outcome answers c sent).value = .ok payload) :
    sent.length < ((fetchAll backend route params).outcome answers c sent).requests.length := by
  unfold fetchAll at h ⊢
  cases hp : route.paging with
  | none =>
    simp only [hp] at h ⊢
    rw [fetch, request_sends _ _ _ _ _ _ h, List.length_append]
    exact Nat.lt_succ_self _
  | some unit =>
    simp only [hp, Attempt.outcome_bind] at h ⊢
    split at h
    · rename_i first hfirst
      have hsent := request_sends _ _ _ answers c sent hfirst
      -- The first page has been sent, and what follows only adds requests.
      refine Nat.lt_of_lt_of_le ?_ (Dialogue.prefix_run_requests answers _ _ _).length_le
      rw [fetch, hsent, List.length_append]
      exact Nat.lt_succ_self _
    · cases h

end Run

end CodePager.Gateway
