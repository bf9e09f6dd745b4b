import CodePager.Proofs.PageRequests

/-! # Which page sizes are asked for

A route that answers page by page is first asked for pages of the full size. The pages that follow
are asked for in the size that the first envelope reports, and that number is read without a sign
but sent with one. So **the size that was reported is asked for exactly up to the largest number
with a sign** (`Gateway.sizes_kept_iff`): beyond it the size wraps around and is asked for as a
negative number. -/

namespace CodePager

namespace Envelope

variable {fields : List (String × Json)} {body : Json}

/-- The page size that an envelope **asks to go on with**: the one that it reports, or the full one
if it reports none or zero. -/
def sizeToGoOn (fields : List (String × Json)) : Nat :=
  match number? fields "page_size" with
  | some (n + 1) => n + 1
  | _ => 0x7FFFFFFF

/-- The size to go on with is never zero. -/
theorem sizeToGoOn_pos (fields : List (String × Json)) : 0 < sizeToGoOn fields := by
  unfold sizeToGoOn
  split <;> omega

/-- The size to go on with is a word: `sizeToGoOn fields ≤ maxCount`. -/
theorem sizeToGoOn_le (fields : List (String × Json)) : sizeToGoOn fields ≤ maxCount := by
  unfold sizeToGoOn
  split
  · rename_i n hnumber
    exact number?_le_maxCount hnumber
  · decide

/-- The envelope that is found in a body **is carried** by it. -/
theorem exists_in_of_find? {e : Envelope} (h : find? body = some e) :
    ∃ fields, In fields body ∧ isEnvelope fields = true ∧ e = ofFields fields := by
  cases body with
  | obj fields =>
    rw [find?] at h
    by_cases hown : isEnvelope fields = true
    · rw [if_pos hown] at h
      exact ⟨fields, .whole, hown, (Option.some.inj h).symm⟩
    · rw [if_neg hown] at h
      obtain ⟨inner, hfound, rfl⟩ := Option.map_eq_some_iff.mp h
      -- The object that is found, among the objects and among all fields.
      obtain ⟨hinner, before, after, hobjects, hbefore⟩ := List.find?_eq_some_iff_append.mp hfound
      obtain ⟨front, back, rfl, rfl, hback⟩ := List.filterMap_eq_append_iff.mp hobjects
      obtain ⟨others, f, rest, rfl, hothers, hf, -⟩ := List.filterMap_eq_cons_iff.mp hback
      have hvalue : f = (f.1, .obj inner) := Prod.ext rfl (Json.asFields_eq_some_iff.mp hf)
      rw [hvalue, ← List.append_assoc] at hown ⊢
      refine ⟨inner, .under ?_ fun g hg object hobject => ?_, hinner, rfl⟩
      · simpa [isEnvelope] using hown
      · rcases List.mem_append.mp hg with hg | hg
        · have hnot := hbefore object (List.mem_filterMap.mpr ⟨g, hg, by rw [hobject]; rfl⟩)
          simpa [isEnvelope] using hnot
        · have hnone := hothers g hg
          rw [hobject] at hnone
          cases hnone
  | _ => cases h

end Envelope

/-- Of a row of steps that is not empty at least one is made. -/
theorem UpToFailure.made_pos_iff {ε α : Type} {step : Nat → Except ε α} {count made : Nat}
    {result : Except ε (List α)} (h : UpToFailure step count made result) :
    0 < made ↔ 0 < count := by
  cases h with
  | all results h => exact Iff.rfl
  | failed hi hbefore hfails => omega

namespace Gateway

/-! ### Numbers with and without a sign -/

/-- Beyond the largest number with a sign, a word **wraps around**. -/
theorem signedWord_of_lt {n : Nat} (h : maxSigned < n) (hword : n ≤ maxCount) :
    signedWord n = n - 0x10000000000000000 := by
  have hsize : Int64.size = 0x10000000000000000 := rfl
  unfold maxSigned at h
  unfold maxCount at hword
  rw [signedWord, Int64.toInt_ofNat', Int.bmod_def, hsize]
  omega

/-- A negative number is written as **no natural number** is. -/
theorem toString_ne_of_neg {m : Int} (hm : m < 0) (n : Nat) : toString m ≠ toString n := by
  obtain ⟨k, rfl⟩ := Int.eq_negSucc_of_lt_zero hm
  intro h
  have hsign : toString (Int.negSucc k) = "-" ++ toString (k + 1) := rfl
  have hmem : '-' ∈ (toString n).toList := by
    rw [← h, hsign, String.toList_append]
    exact List.mem_append_left _ (List.mem_singleton_self '-')
  rw [Nat.toString_eq_repr, Nat.repr, String.toList_ofList] at hmem
  have hdigit := Nat.isDigit_of_mem_toDigits (by decide) (by decide) hmem
  cases hdigit

/-- What later requests ask for is the size to go on with, **read as a number with a sign**. -/
theorem followUpPageSize_ofFields (fields : List (String × Json)) :
    followUpPageSize (Envelope.ofFields fields).pageSize =
      signedWord (Envelope.sizeToGoOn fields) := by
  have hfull : signedWord 0x7FFFFFFF = fullPageSize := by decide
  unfold Envelope.ofFields Envelope.sizeToGoOn
  rcases Envelope.number? fields "page_size" with - | (- | n)
  · exact hfull.symm
  · exact hfull.symm
  · rfl

/-! ### Sizes of requests -/

/-- A request **asks for pages of a size**: its parameter is the number in decimals. -/
def AsksSize (size : Int) (r : Request) : Prop := r.params.get? "page_size" = some (toString size)

/-- The request for everything asks for the full size, `0x7FFFFFFF`. -/
theorem asksSize_whole (route : Route) (params : Params) :
    AsksSize 0x7FFFFFFF (whole route params) := (carries_whole route params).size

/-- A request for a later page asks for the size that it is made with. -/
theorem asksSize_followUp (route : Route) (params : Params) (size : Int) (page : Nat) :
    AsksSize size (followUp route params size page) :=
  (carries_followUp route params size page).size

/-- A word sent with a sign asks for the size that it is **exactly if it does not wrap around**. -/
theorem AsksSize.natCast_iff {n : Nat} {r : Request} (hword : n ≤ maxCount)
    (h : AsksSize (signedWord n) r) : AsksSize n r ↔ n ≤ maxSigned := by
  constructor
  · intro hn
    by_contra hlarge
    have hsent := signedWord_of_lt (not_le.mp hlarge) hword
    have hneg : signedWord n < 0 := by
      unfold maxCount at hword
      omega
    exact toString_ne_of_neg hneg n (Option.some.inj (h.symm.trans hn))
  · intro hn
    rwa [signedWord_of_le hn] at h

/-- **What is sent with a sign**: the size itself, exactly if it does not wrap around, and otherwise
a negative number. -/
theorem sizes_of_signedWord {n : Nat} {later : List Request} (hword : n ≤ maxCount)
    (h : ∀ r ∈ later, AsksSize (signedWord n) r) :
    ((∀ r ∈ later, AsksSize n r) ↔ later = [] ∨ n ≤ maxSigned) ∧
      (maxSigned < n → (n : Int) - 0x10000000000000000 < 0 ∧
        ∀ r ∈ later, AsksSize (n - 0x10000000000000000) r) := by
  refine ⟨⟨fun hall => ?_, ?_⟩, fun hlarge => ⟨?_, fun r hr => ?_⟩⟩
  · -- One request is enough to tell.
    cases later with
    | nil => exact Or.inl rfl
    | cons r later =>
      have hr : r ∈ r :: later := List.mem_cons_self
      exact Or.inr (((h r hr).natCast_iff hword).mp (hall r hr))
  · rintro (rfl | hsmall) r hr
    · exact absurd hr List.not_mem_nil
    · exact ((h r hr).natCast_iff hword).mpr hsmall
  · unfold maxCount at hword
    omega
  · exact signedWord_of_lt hlarge hword ▸ h r hr

/-- The **first envelope** of a fetch: the answer to the request for everything carries it. -/
def BringsEnvelope (backend : BackendConfig) (route : Route) (params : Params)
    (answers : List Request → Request → Reply) (sent : List Request)
    (fields : List (String × Json)) : Prop :=
  ∃ body, brought backend answers sent (whole route params) = .ok (.json body) ∧
    Envelope.In fields body ∧ Envelope.isEnvelope fields = true

section Requests

variable {backend : BackendConfig} {route : Route} {params : Params}
  {answers : List Request → Request → Reply} {sent : List Request} {unit : PageUnit}
  {payload : Payload} {page : Envelope}

/-- An answer in which an envelope is found **brings it first**. -/
theorem exists_bringsEnvelope
    (hbrought : brought backend answers sent (whole route params) = .ok payload)
    (hpage : envelope? payload = some page) :
    ∃ fields, BringsEnvelope backend route params answers sent fields ∧
      page = Envelope.ofFields fields := by
  cases payload with
  | text body => cases hpage
  | json body =>
    obtain ⟨fields, hin, henvelope, rfl⟩ := Envelope.exists_in_of_find? hpage
    exact ⟨fields, ⟨body, hbrought, hin, henvelope⟩, rfl⟩

/-- Whoever takes the answer apart finds the first envelope. -/
theorem BringsEnvelope.envelope?_eq {fields : List (String × Json)}
    (h : BringsEnvelope backend route params answers sent fields)
    (hbrought : brought backend answers sent (whole route params) = .ok payload) :
    envelope? payload = some (Envelope.ofFields fields) := by
  obtain ⟨body, hbody, hin, henvelope⟩ := h
  obtain rfl := Except.ok.inj (hbrought.symm.trans hbody)
  exact Envelope.find?_of_in hin henvelope

/-- Without an envelope there is **one request**. -/
theorem requests_fetchAll_of_no_envelope (hroute : route.paging = some unit)
    (ha : backend.isAddressable = true) (c : PageCache)
    (hnone : ∀ fields, ¬ BringsEnvelope backend route params answers sent fields) :
    ((fetchAll backend route params).outcome answers c sent).requests =
      sent ++ [whole route params] := by
  have hfetch : (fetch backend route (wholeParams params)).outcome answers c sent =
      ⟨brought backend answers sent (whole route params), c, sent ++ [whole route params]⟩ :=
    outcome_fetch_eq answers ha c sent
  unfold fetchAll
  simp only [hroute]
  rw [← wholeParams]
  cases hbrought : brought backend answers sent (whole route params) with
  | error e =>
    rw [hbrought] at hfetch
    rw [Attempt.outcome_bind_error hfetch]
  | ok payload =>
    rw [hbrought] at hfetch
    rw [Attempt.outcome_bind_ok hfetch]
    cases hpage : envelope? payload with
    | none => rfl
    | some page =>
      obtain ⟨fields, hbrings, -⟩ := exists_bringsEnvelope hbrought hpage
      exact absurd hbrings (hnone fields)

/-- With an envelope there are requests for **pages that follow it**, each in the size that it goes
on with as a number with a sign; there is none exactly if no page follows. -/
theorem requests_fetchAll_of_envelope (hroute : route.paging = some unit)
    (ha : backend.isAddressable = true) (c : PageCache)
    (hbrought : brought backend answers sent (whole route params) = .ok payload)
    (hpage : envelope? payload = some page) :
    ∃ later, ((fetchAll backend route params).outcome answers c sent).requests =
        sent ++ whole route params :: later ∧
      (later ≠ [] ↔ page.hasMore = true) ∧
      ∀ r ∈ later, AsksSize (followUpPageSize page.pageSize) r := by
  have hfetch : (fetch backend route (wholeParams params)).outcome answers c sent =
      ⟨.ok payload, c, sent ++ [whole route params]⟩ :=
    hbrought ▸ outcome_fetch_eq answers ha c sent
  -- The pages behind the first, up to the last or the first that is not brought.
  let size := followUpPageSize page.pageSize
  obtain ⟨made, result, hrow, hrun⟩ := @outcome_fetchPages backend route
    ((wholeParams params).setNum "page_size" size) answers ha (page.totalPages - page.currentPage)
    (page.currentPage + 1) page.items c (sent ++ [whole route params])
  refine ⟨(List.range made).map fun i => followUp route params size (page.currentPage + 1 + i),
    ?requests, ?some, ?sizes⟩
  case requests =>
    unfold fetchAll
    simp only [hroute]
    rw [← wholeParams, Attempt.outcome_bind_ok hfetch]
    simp only [hpage]
    refine Eq.trans ?_ (List.append_cons _ _ _).symm
    cases result with
    | error e => exact congrArg Dialogue.Outcome.requests (Attempt.outcome_bind_error hrun)
    | ok rows => exact congrArg Dialogue.Outcome.requests (Attempt.outcome_bind_ok hrun)
  case some =>
    have hmade : 0 < made ↔ page.currentPage < page.totalPages :=
      hrow.made_pos_iff.trans Nat.sub_pos_iff_lt
    simpa [Envelope.hasMore, Nat.pos_iff_ne_zero] using hmade
  case sizes =>
    intro r hr
    obtain ⟨i, -, rfl⟩ := List.mem_map.mp hr
    exact asksSize_followUp route params size _

end Requests

/-! ### Main result -/

/-- **The size that was reported is asked for exactly up to the largest number with a sign.** A
fetch of a route that answers page by page first asks for pages of the full size, and for no others
if the answer carries no envelope. The requests for pages behind an envelope are there exactly if
pages follow it, and ask for the size to go on with exactly if that is at most the largest number
with a sign. Otherwise they ask for that size less two to the power of 64, which is negative. -/
theorem sizes_kept_iff {backend : BackendConfig} {route : Route} {params : Params}
    {answers : List Request → Request → Reply} {unit : PageUnit}
    (hroute : route.paging = some unit) (c : PageCache) (sent : List Request) :
    let asked := ((fetchAll backend route params).outcome answers c sent).requests
    (backend.isAddressable = false → asked = sent) ∧
      (backend.isAddressable = true → ∃ first later, asked = sent ++ first :: later ∧
        AsksSize 2147483647 first ∧
        ((∀ fields, ¬ BringsEnvelope backend route params answers sent fields) → later = []) ∧
        ∀ fields, BringsEnvelope backend route params answers sent fields →
          let size := Envelope.sizeToGoOn fields
          0 < size ∧ (later ≠ [] ↔ (Envelope.ofFields fields).hasMore = true) ∧
            ((∀ r ∈ later, AsksSize size r) ↔ later = [] ∨ size ≤ maxSigned) ∧
            (maxSigned < size →
              (size : Int) - 0x10000000000000000 < 0 ∧
                ∀ r ∈ later, AsksSize (size - 0x10000000000000000) r)) := by
  intro asked
  refine ⟨fun ha => ?unaddressed, fun ha => ?addressed⟩
  case unaddressed =>
    show ((fetchAll backend route params).outcome answers c sent).requests = sent
    unfold fetchAll
    simp only [hroute]
    rw [Attempt.outcome_bind_error (outcome_fetch_of_not_addressable answers ha c sent)]
  case addressed =>
    by_cases hbrings : ∃ fields, BringsEnvelope backend route params answers sent fields
    · obtain ⟨found, body, hbody, hin, henvelope⟩ := hbrings
      obtain ⟨later, hasked, hmore, hsizes⟩ := requests_fetchAll_of_envelope hroute ha c hbody
        (Envelope.find?_of_in hin henvelope)
      refine ⟨whole route params, later, hasked, asksSize_whole route params,
        fun hnone => absurd ⟨body, hbody, hin, henvelope⟩ (hnone found), fun fields h => ?_⟩
      -- Whichever fields the envelope is told by, it is the one that is found.
      have hsame : Envelope.ofFields found = Envelope.ofFields fields :=
        Option.some.inj ((Envelope.find?_of_in hin henvelope).symm.trans (h.envelope?_eq hbody))
      rw [hsame] at hmore hsizes
      rw [followUpPageSize_ofFields] at hsizes
      exact ⟨Envelope.sizeToGoOn_pos fields, hmore,
        sizes_of_signedWord (Envelope.sizeToGoOn_le fields) hsizes⟩
    · have hnone := not_exists.mp hbrings
      exact ⟨whole route params, [], requests_fetchAll_of_no_envelope hroute ha c hnone,
        asksSize_whole route params, fun _ => rfl, fun fields h => absurd h (hnone fields)⟩

end Gateway

namespace ReportedSize

/-- The first of two pages, with the size that is reported of it. -/
def body (size : String) : String :=
  "\x7b\"data\":[\"a\"],\"pagination\":" ++
    "\x7b\"current_page\":1,\"total_pages\":2,\"page_size\":" ++ size ++ "\x7d\x7d"

/-- A backend that answers every request with that page. -/
def backend (size : String) (_ : List Request) (_ : Request) : Reply :=
  .answer 200 (body size).toUTF8.toList

/-- The size to go on with that an answer reports, if it is an envelope that pages follow. -/
def sizeOf? : Except Failure Payload → Option Nat
  | .ok (.json (.obj fields)) =>
    if Envelope.isEnvelope fields ∧ (Envelope.ofFields fields).hasMore then
      some (Envelope.sizeToGoOn fields)
    else none
  | _ => none

/-- The answer to the first request reports a size. -/
def Reports (size : String) (n : Nat) : Prop :=
  sizeOf? (Gateway.brought .default (backend size) [] (Gateway.whole .classSource .empty)) = some n

/-- A size that is reported is that of an envelope which the first answer brings. -/
theorem exists_bringsEnvelope {size : String} {n : Nat} (h : Reports size n) :
    ∃ fields, Gateway.BringsEnvelope .default .classSource .empty (backend size) [] fields ∧
      (Envelope.ofFields fields).hasMore = true ∧ Envelope.sizeToGoOn fields = n := by
  unfold Reports sizeOf? at h
  split at h
  · rename_i fields hbrought
    obtain ⟨⟨henvelope, hmore⟩, hsize⟩ := Option.ite_none_right_eq_some.mp h
    exact ⟨fields, ⟨_, hbrought, .whole, henvelope⟩, hmore, Option.some.inj hsize⟩
  · cases h

/-- The largest number with a sign. -/
theorem reports_largest : Reports "9223372036854775807" 9223372036854775807 := by
  unfold Reports
  decide +kernel

/-- The number behind it. -/
theorem reports_wrapped : Reports "9223372036854775808" 9223372036854775808 := by
  unfold Reports
  decide +kernel

end ReportedSize

/-- The **largest number with a sign** is asked for as it was reported. -/
theorem sizes_kept_iff_largest :
    Route.classSource.paging = some .chars ∧
      ∃ first later, ((Gateway.fetchAll .default .classSource .empty).outcome
          (ReportedSize.backend "9223372036854775807") (.empty .default "") []).requests =
            first :: later ∧
        later ≠ [] ∧ ∀ r ∈ later, Gateway.AsksSize 9223372036854775807 r := by
  have haddress : BackendConfig.default.isAddressable = true := by decide +kernel
  obtain ⟨fields, hbrings, hfollow, hsize⟩ :=
    ReportedSize.exists_bringsEnvelope ReportedSize.reports_largest
  obtain ⟨-, hasked⟩ := @Gateway.sizes_kept_iff .default .classSource .empty
    (ReportedSize.backend "9223372036854775807") .chars rfl (.empty .default "") []
  obtain ⟨first, later, hrequests, -, -, hsizes⟩ := hasked haddress
  obtain ⟨-, hmore, hkept, -⟩ := hsizes fields hbrings
  rw [hsize] at hkept
  exact ⟨rfl, first, later, hrequests, hmore.mpr hfollow, hkept.mpr (Or.inr (by decide))⟩

/-- The number behind it is **not asked for as it was reported**. -/
theorem not_all_sizes_kept :
    ¬ ∀ (backend : BackendConfig) (route : Route) (params : Params)
      (answers : List Request → Request → Reply) (c : PageCache) (sent later : List Request)
      (first : Request) (fields : List (String × Json)),
      route.paging.isSome = true →
      Gateway.BringsEnvelope backend route params answers sent fields →
      ((Gateway.fetchAll backend route params).outcome answers c sent).requests =
        sent ++ first :: later →
      ∀ r ∈ later, Gateway.AsksSize (Envelope.sizeToGoOn fields) r := by
  intro hclaim
  have haddress : BackendConfig.default.isAddressable = true := by decide +kernel
  obtain ⟨fields, hbrings, hfollow, hsize⟩ :=
    ReportedSize.exists_bringsEnvelope ReportedSize.reports_wrapped
  obtain ⟨body, hbody, -⟩ := id hbrings
  obtain ⟨later, hrequests, hmore, hsizes⟩ := Gateway.requests_fetchAll_of_envelope
    (show Route.classSource.paging = some .chars from rfl) haddress (.empty .default "") hbody
    (hbrings.envelope?_eq hbody)
  rw [Gateway.followUpPageSize_ofFields] at hsizes
  -- There is a request behind the first, and it does not ask for the size.
  obtain ⟨r, hr⟩ := List.exists_mem_of_ne_nil later (hmore.mpr hfollow)
  have hkept := hclaim _ _ _ _ _ _ later _ fields rfl hbrings hrequests r hr
  have hsmall := ((hsizes r hr).natCast_iff (Envelope.sizeToGoOn_le fields)).mp hkept
  rw [hsize] at hsmall
  exact absurd hsmall (by decide)

end CodePager
