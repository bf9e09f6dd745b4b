import CodePager.Proofs.Fetching
import CodePager.Proofs.Paging

/-! # Joining the pages of the backend

A route that answers page by page is asked for everything at once. A backend that caps its pages
answers with less, and the rest is fetched page after page. **The joined result is the whole
content**, whatever the cap is and wherever each answer carries its envelope
(`fetchAll_of_pagesBy`). -/

namespace CodePager

/-! ### Contents page by page -/

namespace Content

/-- What the pages of a content are counted in. -/
def pageUnit : Content → PageUnit
  | .text _ => .chars
  | .records _ => .items

/-- The number of characters of a text, or of items of a list. -/
def size : Content → Nat
  | .text s => s.toList.length
  | .records items => items.length

/-- The items of page `page` in pages of `size`: one text of the characters, or the items in it. -/
def pageItems (content : Content) (size page : Nat) : List Json :=
  match content with
  | .text s => [.str (String.ofList ((s.toList.drop ((page - 1) * size)).take size))]
  | .records items => (items.drop ((page - 1) * size)).take size

/-- A content as what can be paged of a payload. -/
def shape : Content → Shape
  | .text s => .text s
  | .records items => .records items

/-- A content that is sent as JSON is paged as it is:
`(Payload.json content.toJson).shape = content.shape`. -/
theorem shape_toJson (content : Content) : (Payload.json content.toJson).shape = content.shape := by
  cases content <;> rfl

/-- The first pages of a list one after the other are the front of it. -/
theorem flatMap_pages {α : Type} (xs : List α) (size count : Nat) :
    ((List.range' 1 count).flatMap fun page => (xs.drop ((page - 1) * size)).take size) =
      xs.take (count * size) := by
  induction count with
  | zero => simp
  | succ count ih =>
    have hlast : 1 + count - 1 = count := by omega
    rw [List.range'_1_concat, List.flatMap_append, ih, List.flatMap_singleton, hlast,
      Nat.succ_mul, List.take_add]

/-- The first page and those that follow it are all pages, also if there is nothing to page. -/
theorem pageItems_one_append (content : Content) (size total : Nat) :
    content.pageItems size 1 ++ (List.range' 2 (total - 1)).flatMap (content.pageItems size) =
      (List.range' 1 (max 1 total)).flatMap (content.pageItems size) := by
  have hcount : max 1 total = total - 1 + 1 := by omega
  rw [hcount, List.range'_succ, List.flatMap_cons]

/-- The pages of a content, if there are enough of them, **make up the whole** of it. -/
theorem assemble_pageItems (content : Content) {size count : Nat}
    (henough : content.size ≤ count * size) :
    assemble content.pageUnit ((List.range' 1 count).flatMap (content.pageItems size)) =
      content.toJson := by
  cases content with
  | text s =>
    have hwhole := flatMap_pages s.toList size count
    rw [List.take_of_length_le henough] at hwhole
    -- Every page is one text, so the texts joined are the characters of all pages.
    have htexts : (List.range' 1 count).flatMap ((text s).pageItems size) =
        ((List.range' 1 count).map fun page =>
          String.ofList ((s.toList.drop ((page - 1) * size)).take size)).map Json.str := by
      rw [List.map_map, List.map_eq_flatMap]
      rfl
    have hasText : Json.asText ∘ Json.str = some := rfl
    rw [htexts]
    show Json.str (String.join (List.filterMap Json.asText _)) = Json.str s
    rw [List.filterMap_map, hasText, List.filterMap_some, Json.str.injEq]
    apply String.toList_injective
    rw [String.toList_join, List.flatMap_map]
    refine Eq.trans ?_ hwhole
    exact List.flatMap_congr fun page _ => String.toList_ofList
  | records items =>
    have hwhole := flatMap_pages items size count
    rw [List.take_of_length_le henough] at hwhole
    exact congrArg Json.arr hwhole

end Content

/-! ### A backend that caps its pages -/

/-- The fields of an object are an **envelope of a page**: under `data` they hold its items, and in
the pagination object the numbers of the page and of all pages; the page size may be left out. -/
structure Envelope.IsPage (content : Content) (size page : Nat) (fields : List (String × Json)) :
    Prop where
  data : Fields.get? "data" fields = some (.arr (content.pageItems size page))
  paginated : Envelope.isEnvelope fields = true
  currentPage : Envelope.number? fields "current_page" = some page
  totalPages : Envelope.number? fields "total_pages" = some (pageCount content.size size)
  pageSize : Envelope.number? fields "page_size" = some size ∨
    (Envelope.pagination? fields).bind (Fields.get? "page_size") = none

/-- A body **carries** an envelope: it is the envelope, or the first of its fields that is one. -/
inductive Envelope.In (fields : List (String × Json)) : Json → Prop
  | whole : In fields (.obj fields)
  | under {before after : List (String × Json)} {key : String}
      (hown : Envelope.pagination? (before ++ (key, .obj fields) :: after) = none)
      (hbefore : ∀ f ∈ before, ∀ inner, f.2 = .obj inner → Envelope.pagination? inner = none) :
      In fields (.obj (before ++ (key, .obj fields) :: after))

/-- A reply is a success with a JSON body that reports no error. -/
def Reply.Brings (reply : Reply) (body : Json) : Prop :=
  ∃ status bytes, reply = .answer status bytes ∧ isSuccess status = true ∧
    Payload.ofBody (Text.decodeText bytes) = .json body ∧ (Payload.json body).error? = none

/-- A request asks for a page: it is the query with these parameters besides the number of the page
and the number of units in it. -/
structure Request.AsksFor (route : Route) (params : Params) (page size : Nat) (r : Request) :
    Prop where
  verb : r.verb = .get
  route : r.route = route
  index : r.params.get? "page_index" = some (toString page)
  size : r.params.get? "page_size" = some (toString size)
  others : ∀ key, key ≠ "page_index" → key ≠ "page_size" → r.params.get? key = params.get? key

/-- A backend answers requests for a content **page by page, with at most `cap` units a page**. -/
def PagesBy (answers : List Request → Request → Reply) (route : Route) (params : Params)
    (content : Content) (cap : Nat) : Prop :=
  ∀ sent r page size, r.AsksFor route params page size → 1 ≤ size → 1 ≤ page →
    page ≤ max 1 (pageCount content.size (min size cap)) →
      ∃ fields body, Envelope.IsPage content (min size cap) page fields ∧
        Envelope.In fields body ∧ (answers sent r).Brings body

namespace Envelope

variable {content : Content} {size page : Nat} {fields : List (String × Json)} {body : Json}

/-- **The envelope of a body** is found wherever the body carries it. -/
theorem find?_of_in (hin : Envelope.In fields body) (hpaginated : isEnvelope fields = true) :
    find? body = some (ofFields fields) := by
  cases hin with
  | whole => rw [find?, if_pos hpaginated]
  | @under before after key hown hbefore =>
    have hnot : isEnvelope (before ++ (key, .obj fields) :: after) = false := by
      rw [isEnvelope, hown]
      rfl
    -- None of the objects before it is an envelope.
    have hfirst : ((before.filterMap fun f => f.2.asFields).find? isEnvelope) = none := by
      rw [List.find?_eq_none]
      intro inner hinner
      obtain ⟨f, hf, hobj⟩ := List.mem_filterMap.mp hinner
      rw [isEnvelope, hbefore f hf inner (Json.asFields_eq_some_iff.mp hobj)]
      simp
    have hhere : ((key, Json.obj fields) :: after).filterMap (fun f => f.2.asFields) =
        fields :: after.filterMap fun f => f.2.asFields := rfl
    rw [find?, if_neg (by rw [hnot]; simp), List.filterMap_append, hhere, List.find?_append,
      hfirst, Option.none_or, List.find?_cons_of_pos hpaginated]
    rfl

/-- **The envelope of a page** holds its items and its numbers. -/
theorem ofFields_of_isPage (h : IsPage content size page fields) (hsize : 0 < size) :
    ∃ pageSize, ofFields fields =
        ⟨content.pageItems size page, page, pageCount content.size size, pageSize⟩ ∧
      (pageSize = some size ∨ pageSize = none) := by
  have hitems : itemsOf fields = content.pageItems size page := by
    simp [itemsOf, h.data, Json.asItems]
  refine ⟨(number? fields "page_size").filter (0 < ·), ?_, ?_⟩
  · rw [ofFields, hitems, h.currentPage, h.totalPages]
    rfl
  · rcases h.pageSize with hgiven | habsent
    · exact Or.inl (by simp [hgiven, Option.filter, hsize])
    · exact Or.inr (by simp [number?, habsent])

end Envelope

namespace Gateway

/-- A reply that brings a body reads as it: `.ok (.json body)`. -/
theorem readReply_of_brings {reply : Reply} {body : Json} (h : reply.Brings body) (url : String) :
    readReply url reply = .ok (.json body) := by
  obtain ⟨status, bytes, rfl, hsuccess, hpayload, herror⟩ := h
  rw [readReply, readAnswer]
  simp only [hpayload, hsuccess, herror, if_true]

/-! ### Asking for the pages -/

/-- The digits of a number are not empty. -/
theorem toString_ne_empty (n : Nat) : toString n ≠ "" := Nat.repr_ne_empty

/-- A page size that is no larger than a signed word is asked for as it was reported. -/
theorem signedWord_of_le {n : Nat} (h : n ≤ maxSigned) : signedWord n = n :=
  Int64.toInt_ofNat_of_lt (Nat.lt_succ_of_le h)

section Requests

variable (route : Route) (params : Params)

/-- The parameters with which everything is asked for in one page. -/
def wholeParams : Params := (params.setNum "page_index" 1).setNum "page_size" fullPageSize

/-- The request for everything keeps all parameters but the index and the size. -/
theorem get?_wholeParams (key : String) (hindex : key ≠ "page_index") (hsize : key ≠ "page_size") :
    (wholeParams params).get? key = params.get? key := by
  rw [wholeParams, Params.setNum, Params.get?_set_of_ne _ hsize, Params.setNum,
    Params.get?_set_of_ne _ hindex]

/-- The first request asks for the first page. -/
theorem asksFor_whole :
    Request.AsksFor route params 1 fullPageSize.toNat ⟨.get, route, wholeParams params⟩ where
  verb := rfl
  route := rfl
  index := by
    have hne : "page_index" ≠ "page_size" := by decide
    exact (Params.get?_set_of_ne _ hne _).trans (Params.get?_set_self _ _ (toString_ne_empty 1))
  size := Params.get?_set_self _ _ (toString_ne_empty 2147483647)
  others := get?_wholeParams params

/-- The request for a page behind the first. -/
def followUp (size : Int) (page : Nat) : Request :=
  ⟨.get, route, ((wholeParams params).setNum "page_size" size).set "page_index" (toString page)⟩

/-- The request for a page behind the first **asks for that page** in that size. -/
theorem asksFor_followUp (size page : Nat) :
    (followUp route params size page).AsksFor route params page size where
  verb := rfl
  route := rfl
  index := Params.get?_set_self _ _ (toString_ne_empty page)
  size := by
    have hne : "page_size" ≠ "page_index" := by decide
    exact (Params.get?_set_of_ne _ hne _).trans (Params.get?_set_self _ _ (toString_ne_empty size))
  others := by
    intro key hindex hsize
    rw [followUp, Params.get?_set_of_ne _ hindex, Params.setNum, Params.get?_set_of_ne _ hsize,
      get?_wholeParams params key hindex hsize]

end Requests

section Fetching

variable {backend : BackendConfig} {route : Route} {params : Params} {content : Content} {cap : Nat}
  {answers : List Request → Request → Reply}

/-- A request that is answered is sent once and gives the body of the answer. -/
theorem fetch_of_brings (ha : backend.isAddressable = true) {c : PageCache} {sent : List Request}
    {body : Json} (h : (answers sent ⟨.get, route, params⟩).Brings body) :
    (fetch backend route params).outcome answers c sent =
      ⟨.ok (.json body), c, sent ++ [⟨.get, route, params⟩]⟩ := by
  simp [fetch, request, ha, Attempt.outcome_bind, readReply_of_brings h]

/-- A backend that answers page by page gives **one page**, wherever its envelope lies. -/
theorem fetch_page (ha : backend.isAddressable = true)
    (hpages : PagesBy answers route params content cap) (hcap : 1 ≤ cap) {asked : Params}
    {size page : Nat} (hasks : Request.AsksFor route params page size ⟨.get, route, asked⟩)
    (hsize : 1 ≤ size) (hpage : 1 ≤ page)
    (hlast : page ≤ max 1 (pageCount content.size (min size cap))) (c : PageCache)
    (sent : List Request) :
    ∃ payload pageSize, (fetch backend route asked).outcome answers c sent =
        ⟨.ok payload, c, sent ++ [⟨.get, route, asked⟩]⟩ ∧
      envelope? payload = some ⟨content.pageItems (min size cap) page, page,
        pageCount content.size (min size cap), pageSize⟩ ∧
      (pageSize = some (min size cap) ∨ pageSize = none) := by
  obtain ⟨fields, body, hpageOf, hin, hbrings⟩ := hpages sent _ page size hasks hsize hpage hlast
  have hmin : 0 < min size cap := by omega
  obtain ⟨pageSize, hfields, hreported⟩ := Envelope.ofFields_of_isPage hpageOf hmin
  refine ⟨.json body, pageSize, fetch_of_brings ha hbrings, ?_, hreported⟩
  exact (Envelope.find?_of_in hin hpageOf.paginated).trans (congrArg some hfields)

/-- **The pages that follow** are fetched one by one and joined in their order. -/
theorem fetchPages_of_pagesBy (ha : backend.isAddressable = true)
    (hpages : PagesBy answers route params content cap) (hcap : 1 ≤ cap) {size : Nat}
    (hsize : 1 ≤ size) (count page : Nat) (items : List Json) (hpage : 1 ≤ page)
    (hlast : page + count ≤ max 1 (pageCount content.size (min size cap)) + 1) (c : PageCache)
    (sent : List Request) :
    (fetchPages backend route ((wholeParams params).setNum "page_size" size) count page
        items).outcome answers c sent =
      ⟨.ok (items ++ (List.range' page count).flatMap (content.pageItems (min size cap))), c,
        sent ++ (List.range' page count).map (followUp route params size)⟩ := by
  -- On the pages that are left; `items` are those of the pages before `page`.
  induction count generalizing page items sent with
  | zero => simp [fetchPages]
  | succ count ih =>
    obtain ⟨payload, pageSize, hfetch, henvelope, -⟩ :=
      fetch_page ha hpages hcap (asksFor_followUp route params size page) hsize hpage (by omega)
        c sent
    rw [fetchPages, Attempt.outcome_bind_ok hfetch]
    simp only [henvelope]
    rw [ih (page + 1) _ (Nat.le_add_left 1 page) (by omega), List.range'_succ, List.flatMap_cons,
      List.map_cons, List.append_assoc, List.append_assoc]
    rfl

/-- The page size of the requests that follow is the one that the backend reported, or the full
one; **the pages are the same** in both cases. -/
theorem followUpPageSize_of_page {pageSize : Option Nat} (hcap : 1 ≤ cap)
    (hfull : cap ≤ fullPageSize.toNat) (h : pageSize = some cap ∨ pageSize = none) :
    ∃ size : Nat, followUpPageSize pageSize = size ∧ 1 ≤ size ∧ min size cap = cap := by
  rcases h with rfl | rfl
  · refine ⟨cap, signedWord_of_le ?_, hcap, Nat.min_self cap⟩
    exact Nat.le_trans hfull (by decide)
  · exact ⟨fullPageSize.toNat, rfl, by decide, Nat.min_eq_right hfull⟩

/-! ### Main result -/

/-- **Joining loses and repeats nothing.** A route that answers page by page is fetched whole from a
backend that caps its pages, whatever the cap is and wherever the envelopes lie: the result is the
content, as one text or as one list, and exactly its pages have been asked for. -/
theorem fetchAll_of_pagesBy (ha : backend.isAddressable = true)
    (hroute : route.paging = some content.pageUnit) (hcap : 1 ≤ cap)
    (hfull : cap ≤ fullPageSize.toNat) (hpages : PagesBy answers route params content cap)
    (c : PageCache) (sent : List Request) :
    let fetched := (fetchAll backend route params).outcome answers c sent
    fetched.value = .ok (.json content.toJson) ∧
      (Payload.json content.toJson).shape = content.shape ∧
      fetched.cache = c ∧
      fetched.requests.length = sent.length + max 1 (pageCount content.size cap) := by
  intro fetched
  have hmin : min fullPageSize.toNat cap = cap := Nat.min_eq_right hfull
  obtain ⟨payload, pageSize, hfetch, henvelope, hreported⟩ :=
    fetch_page ha hpages hcap (asksFor_whole route params) (by decide) (Nat.le_refl 1)
      (Nat.le_max_left _ _) c sent
  rw [hmin] at henvelope hreported
  obtain ⟨size, hsize, hpos, hcapped⟩ := followUpPageSize_of_page hcap hfull hreported
  have hrest := fetchPages_of_pagesBy ha hpages hcap hpos (pageCount content.size cap - 1) 2
    (content.pageItems cap 1) (Nat.le_add_left 1 1) (by rw [hcapped]; omega) c
    (sent ++ [⟨.get, route, wholeParams params⟩])
  rw [hcapped, content.pageItems_one_append] at hrest
  have henough : content.size ≤ max 1 (pageCount content.size cap) * cap :=
    Nat.le_trans (le_pageCount_mul hcap) (Nat.mul_le_mul_right cap (Nat.le_max_right _ _))
  have hwhole : fetched = ⟨.ok (.json content.toJson), c,
      sent ++ [⟨.get, route, wholeParams params⟩] ++
        (List.range' 2 (pageCount content.size cap - 1)).map (followUp route params size)⟩ := by
    show (fetchAll backend route params).outcome answers c sent = _
    unfold fetchAll
    simp only [hroute]
    rw [← wholeParams, Attempt.outcome_bind_ok hfetch]
    simp only [henvelope, hsize]
    rw [Attempt.outcome_bind_ok hrest, content.assemble_pageItems henough]
    rfl
  refine ⟨congrArg (·.value) hwhole, content.shape_toJson, congrArg (·.cache) hwhole, ?_⟩
  rw [hwhole, List.length_append, List.length_append, List.length_map, List.length_range',
    List.length_singleton]
  omega

end Fetching

end Gateway

namespace TwoLetters

/-- The fields of an envelope that holds one letter; the page size may be left out. -/
def envelope (letter : String) (page : Nat) (size : Option Nat) : List (String × Json) :=
  [("data", .arr [.str letter]),
   ("pagination", .obj (("current_page", .ofNat page) :: ("total_pages", .ofNat 2) ::
      size.toList.map fun n => ("page_size", .ofNat n)))]

/-- The first page, an envelope as such. -/
def first : String :=
  "\x7b\"data\":[\"a\"],\"pagination\":" ++
    "\x7b\"current_page\":1,\"total_pages\":2,\"page_size\":1\x7d\x7d"

/-- The last page, an envelope without its size under the second field. -/
def last : String :=
  "\x7b\"state\":\"ok\",\"code\":\x7b\"data\":[\"b\"],\"pagination\":" ++
    "\x7b\"current_page\":2,\"total_pages\":2\x7d\x7d\x7d"

/-- What the last page reads as. -/
def lastBody : Json := .obj [("state", .str "ok"), ("code", .obj (envelope "b" 2 none))]

/-- A backend that holds two letters and gives one of them at once. -/
def backend (_ : List Request) (r : Request) : Reply :=
  .answer 200 (if r.params.get? "page_index" = some "1" then first else last).toUTF8.toList

/-- Asked for the first page, the backend brings the first letter. -/
theorem brings_first (sent : List Request) {r : Request}
    (h : r.params.get? "page_index" = some "1") :
    (backend sent r).Brings (.obj (envelope "a" 1 (some 1))) := by
  have hdecoded : Text.decodeText first.toUTF8.toList = first := by decide +kernel
  have hread : Json.parse first = .ok (.obj (envelope "a" 1 (some 1))) := by cbv
  refine ⟨200, first.toUTF8.toList, by rw [backend, if_pos h], rfl, ?_, rfl⟩
  rw [hdecoded, Payload.ofBody, hread]

/-- Asked for the second page, the backend brings the last letter. -/
theorem brings_last (sent : List Request) {r : Request}
    (h : r.params.get? "page_index" = some "2") :
    (backend sent r).Brings lastBody := by
  have hdecoded : Text.decodeText last.toUTF8.toList = last := by decide +kernel
  have hread : Json.parse last = .ok lastBody := by cbv
  refine ⟨200, last.toUTF8.toList, by rw [backend, if_neg (by rw [h]; decide)], rfl, ?_, rfl⟩
  rw [hdecoded, Payload.ofBody, hread]

/-- The backend holds the two letters in pages of one. -/
theorem pagesBy_one : PagesBy backend .classSource .empty (.text "ab") 1 := by
  intro sent r page size hasks hsize hpage hlast
  rw [Nat.min_eq_right hsize] at hlast ⊢
  have hindex := hasks.index
  have htwo : page = 1 ∨ page = 2 := by
    have : max 1 (pageCount (Content.text "ab").size 1) = 2 := by decide
    omega
  rcases htwo with rfl | rfl
  · refine ⟨envelope "a" 1 (some 1), _, ⟨rfl, rfl, rfl, rfl, Or.inl rfl⟩, .whole, ?_⟩
    exact brings_first sent hindex
  · refine ⟨envelope "b" 2 none, _, ⟨rfl, rfl, rfl, rfl, Or.inr rfl⟩, ?_, brings_last sent hindex⟩
    refine @Envelope.In.under _ [("state", .str "ok")] [] "code" rfl ?_
    intro f hf inner hinner
    obtain rfl := List.mem_singleton.mp hf
    cases hinner

end TwoLetters

/-- Two letters, one a page, are joined after **two requests**. -/
theorem fetchAll_of_pagesBy_two_letters :
    let fetched := (Gateway.fetchAll .default .classSource .empty).outcome TwoLetters.backend
      (.empty .default "") []
    fetched.value = .ok (.json (.str "ab")) ∧ fetched.requests.length = 2 := by
  have haddress : BackendConfig.default.isAddressable = true := by decide +kernel
  obtain ⟨hvalue, -, -, hcount⟩ := Gateway.fetchAll_of_pagesBy haddress rfl (by decide) (by decide)
    TwoLetters.pagesBy_one (.empty .default "") []
  exact ⟨hvalue, hcount⟩

end CodePager
