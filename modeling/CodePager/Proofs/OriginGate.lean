import CodePager.Program.Start
import Mathlib.Data.List.Basic
import Mathlib.Tactic.Common

/-! # The gate before the service

Which requests the gate turns away and which it hands on, told on the bytes of their headers and on
the list of origins as it was given. The gate goes by **the first origin header, and only as far as
it reads as text** (`turnsAway_iff`): a header with any other byte passes, and so does what stands
in a second header. The blanks around a header that reads as text are trimmed like those around the
origins of the list (`handedOn_written_iff`). -/

namespace CodePager

/-! ### Texts as bytes -/

/-- The bytes of a text. -/
def utf8 (s : String) : List UInt8 := s.toUTF8.data.toList

/-- The bytes of a text are those of its characters, one after the other. -/
theorem utf8_ofList (cs : List Char) :
    utf8 (String.ofList cs) = cs.flatMap String.utf8EncodeChar := by
  rw [utf8, String.toUTF8_eq_toByteArray, String.toByteArray_ofList, List.utf8Encode,
    List.data_toByteArray]

/-- Different texts have different bytes. -/
theorem utf8_injective {s t : String} (h : utf8 s = utf8 t) : s = t :=
  String.toByteArray_inj.mp (ByteArray.ext (Array.toList_inj.mp h))

/-- A byte of a header that reads as text is an ASCII one: `b.toNat < 0x80`. -/
theorem toNat_lt_of_isHeaderText {b : UInt8} (h : isHeaderText b = true) : b.toNat < 0x80 := by
  simp [isHeaderText, UInt8.le_iff_toNat_le, UInt8.lt_iff_toNat_lt, ← UInt8.toNat_inj] at h
  omega

/-- A byte of a header that reads as text is a character of one byte. -/
theorem utf8EncodeChar_of_isHeaderText {b : UInt8} (h : isHeaderText b = true) :
    String.utf8EncodeChar (Char.ofNat b.toNat) = [b] := by
  -- All 128 characters of one byte are tried.
  have hone : ∀ n < 0x80, String.utf8EncodeChar (Char.ofNat n) = [UInt8.ofNat n] := by decide
  rw [hone b.toNat (toNat_lt_of_isHeaderText h), UInt8.ofNat_toNat]

/-- The text of a header **has the bytes** of the header. -/
theorem utf8_of_headerText? {value : List UInt8} {s : String} (h : headerText? value = some s) :
    utf8 s = value := by
  unfold headerText? at h
  split at h
  · rename_i hall
    obtain rfl := Option.some.inj h
    rw [utf8_ofList, List.flatMap_map]
    refine Eq.trans (List.flatMap_congr fun b hb => ?_) (List.flatMap_singleton' value)
    exact utf8EncodeChar_of_isHeaderText (List.all_eq_true.mp hall b hb)
  · cases h

/-- A header **reads as a text** exactly if all its bytes are visible and it has the bytes of the
text. -/
theorem headerText?_eq_some_iff (value : List UInt8) (s : String) :
    headerText? value = some s ↔ value.all isHeaderText = true ∧ utf8 s = value := by
  constructor
  · intro h
    refine ⟨?_, utf8_of_headerText? h⟩
    by_contra hnot
    rw [headerText?, if_neg hnot] at h
    cases h
  · rintro ⟨hall, hbytes⟩
    have htext := utf8_of_headerText? (if_pos hall : headerText? value = _)
    rw [headerText?, if_pos hall, utf8_injective (htext.trans hbytes.symm)]

/-! ### Values as they are written -/

/-- Of the characters that a header reads as, a space and a tab are **the blank ones**. -/
theorem isBlank_of_isHeaderText {b : UInt8} (h : isHeaderText b = true) :
    Text.isBlank (Char.ofNat b.toNat) = (b == 0x20 || b == 0x09) := by
  have hlt := toNat_lt_of_isHeaderText h
  have hone : ∀ n < 0x80, isHeaderText (UInt8.ofNat n) = true →
      Text.isBlank (Char.ofNat n) = (UInt8.ofNat n == 0x20 || UInt8.ofNat n == 0x09) := by decide
  have hb := hone b.toNat hlt
  rw [UInt8.ofNat_toNat] at hb
  exact hb h

/-- Blanks in front are dropped from a header as they are **from its text**. -/
theorem dropWhile_isBlank_map {bytes : List UInt8} (h : ∀ b ∈ bytes, isHeaderText b = true) :
    (bytes.map fun b => Char.ofNat b.toNat).dropWhile Text.isBlank =
      (bytes.dropWhile fun b => b == 0x20 || b == 0x09).map fun b => Char.ofNat b.toNat := by
  induction bytes with
  | nil => rfl
  | cons b bytes ih =>
    rw [List.forall_mem_cons] at h
    rw [List.map_cons, List.dropWhile_cons, List.dropWhile_cons, isBlank_of_isHeaderText h.1,
      ih h.2]
    split <;> rfl

/-- What is left of a header value that is written reads as **the trimmed text**, as the entries of
a list of origins are trimmed: `headerText? (headerValue written) = some (Text.trim s)`. -/
theorem headerText?_headerValue {written : List UInt8} {s : String}
    (h : headerText? written = some s) :
    headerText? (headerValue written) = some (Text.trim s) := by
  unfold headerText? at h
  split at h
  · rename_i hall
    obtain rfl := Option.some.inj h
    have htext := List.all_eq_true.mp hall
    -- The front is dropped, and then, of the reversed value, what was the end.
    let front := written.dropWhile fun b => b == 0x20 || b == 0x09
    have hfront : ∀ b ∈ front.reverse, isHeaderText b = true := fun b hb =>
      htext b ((List.dropWhile_sublist _).mem (List.mem_reverse.mp hb))
    have hvalue : ∀ b ∈ headerValue written, isHeaderText b = true := fun b hb =>
      hfront b ((List.dropWhile_sublist _).mem (List.mem_reverse.mp hb))
    rw [headerText?, if_pos (List.all_eq_true.mpr hvalue), Text.trim, Text.trimList,
      String.toList_ofList, dropWhile_isBlank_map htext, ← List.map_reverse,
      dropWhile_isBlank_map hfront, ← List.map_reverse]
    rfl
  · cases h

/-! ### Requests and entries -/

/-- A header value **names an entry** of a list of origins: it is one of them, trimmed, and that one
is not blank. -/
def NamesEntry (values : List String) (value : List UInt8) : Prop :=
  ∃ v ∈ values, Text.isBlankText v = false ∧ value = utf8 (Text.trim v)

/-- An allowed origin is a value, **trimmed**, that is not blank. -/
theorem mem_originsOf {values : List String} {o : String} :
    o ∈ originsOf values ↔ ∃ v ∈ values, Text.isBlankText v = false ∧ Text.trim v = o := by
  simp only [originsOf, List.mem_filter, List.mem_map, decide_eq_true_eq]
  constructor
  · rintro ⟨⟨v, hv, rfl⟩, hne⟩
    refine ⟨v, hv, ?_, rfl⟩
    rw [ne_eq, Text.trim_eq_empty_iff] at hne
    exact Bool.eq_false_iff.mpr hne
  · rintro ⟨v, hv, hblank, rfl⟩
    refine ⟨⟨v, hv, rfl⟩, ?_⟩
    rw [ne_eq, Text.trim_eq_empty_iff, hblank]
    exact Bool.false_ne_true

/-- A text is an allowed origin exactly if its bytes name an entry. -/
theorem namesEntry_utf8_iff (values : List String) (o : String) :
    NamesEntry values (utf8 o) ↔ o ∈ originsOf values := by
  rw [mem_originsOf]
  constructor
  · rintro ⟨v, hv, hblank, hbytes⟩
    exact ⟨v, hv, hblank, (utf8_injective hbytes).symm⟩
  · rintro ⟨v, hv, hblank, rfl⟩
    exact ⟨v, hv, hblank, rfl⟩

namespace HttpRequest

variable {β : Type}

/-- The values of all origin headers of a request. -/
def origins (r : HttpRequest β) : List (List UInt8) :=
  (r.headers.filter fun h => h.1 = "origin").map Prod.snd

/-- The first origin header is the one that is looked at: `r.origins.head? = r.origin?`. -/
theorem head?_origins (r : HttpRequest β) : r.origins.head? = r.origin? := by
  obtain ⟨headers, content⟩ := r
  show ((headers.filter fun h => h.1 = "origin").map Prod.snd).head? = Fields.get? "origin" headers
  induction headers with
  | nil => rfl
  | cons h rest ih =>
    obtain ⟨name, value⟩ := h
    by_cases hname : name = "origin"
    · simp [hname, Fields.get?]
    · simp [hname, Fields.get?, ← ih]

/-- A request is **seen to be foreign**: its first origin header reads as text, and names no
entry. -/
def SeenForeign (values : List String) (r : HttpRequest β) : Prop :=
  ∃ value, r.origins.head? = some value ∧ value.all isHeaderText = true ∧ ¬ NamesEntry values value

/-- The gate **turns a request away**, whatever service stands behind it. -/
def TurnedAway (values : List String) (r : HttpRequest β) : Prop :=
  ∀ (σ : Type) (kept : σ) (service : HttpRequest β → Dialogue (PostAnswer × σ)),
    originGate (originsOf values) origin? kept service r = .done (.forbidden, kept)

/-- The gate **hands a request on**, whatever service stands behind it. -/
def HandedOn (values : List String) (r : HttpRequest β) : Prop :=
  ∀ (σ : Type) (kept : σ) (service : HttpRequest β → Dialogue (PostAnswer × σ)),
    originGate (originsOf values) origin? kept service r = service r

/-- What the gate looks for is that a request is seen to be foreign. -/
theorem seenForeign_iff (values : List String) (r : HttpRequest β) :
    r.SeenForeign values ↔
      ∃ o, (r.origin?.bind headerText?).filter (fun o => !(originsOf values).contains o) =
        some o := by
  simp only [SeenForeign, head?_origins, Option.filter_eq_some_iff, Option.bind_eq_some_iff,
    headerText?_eq_some_iff, Bool.not_eq_true', List.contains_eq_mem, decide_eq_false_iff_not]
  constructor
  · rintro ⟨value, hvalue, htext, hforeign⟩
    obtain ⟨s, hs⟩ : ∃ s, headerText? value = some s := ⟨_, if_pos htext⟩
    have hbytes := utf8_of_headerText? hs
    refine ⟨s, ⟨value, hvalue, htext, hbytes⟩, fun hmem => hforeign ?_⟩
    rw [← hbytes, namesEntry_utf8_iff]
    exact hmem
  · rintro ⟨s, ⟨value, hvalue, htext, hbytes⟩, hforeign⟩
    refine ⟨value, hvalue, htext, fun hentry => hforeign ?_⟩
    rwa [← hbytes, namesEntry_utf8_iff] at hentry

/-! ### What passes the gate -/

/-- What is seen to be foreign is **turned away**. -/
theorem turnedAway_of_seenForeign {values : List String} {r : HttpRequest β}
    (h : r.SeenForeign values) : r.TurnedAway values := by
  intro σ kept service
  obtain ⟨o, ho⟩ := (seenForeign_iff values r).mp h
  simp only [originGate, ho]

/-- What is not seen to be foreign is **handed on**. -/
theorem handedOn_of_not_seenForeign {values : List String} {r : HttpRequest β}
    (h : ¬ r.SeenForeign values) : r.HandedOn values := by
  intro σ kept service
  have hnone := Option.eq_none_iff_forall_ne_some.mpr fun o ho =>
    h ((seenForeign_iff values r).mpr ⟨o, ho⟩)
  simp only [originGate, hnone]

/-- No request is turned away and handed on: a service may accept what it is handed. -/
theorem HandedOn.not_turnedAway {values : List String} {r : HttpRequest β}
    (h : r.HandedOn values) : ¬ r.TurnedAway values := by
  intro haway
  -- With such a service the two answers differ in their status.
  have hsame := (haway Unit () fun _ => .done (.accepted, ())).symm.trans
    (h Unit () fun _ => .done (.accepted, ()))
  have hstatus : PostAnswer.forbidden.status = PostAnswer.accepted.status := by
    injection hsame with hanswer
    exact congrArg (·.1.status) hanswer
  exact absurd hstatus (by decide)

/-- A request is **turned away** exactly if it is seen to be foreign. -/
theorem turnedAway_iff (values : List String) (r : HttpRequest β) :
    r.TurnedAway values ↔ r.SeenForeign values := by
  refine ⟨fun h => ?_, turnedAway_of_seenForeign⟩
  by_contra hnot
  exact (handedOn_of_not_seenForeign hnot).not_turnedAway h

/-- A request is **handed on** exactly if it is not seen to be foreign. -/
theorem handedOn_iff (values : List String) (r : HttpRequest β) :
    r.HandedOn values ↔ ¬ r.SeenForeign values :=
  ⟨fun h hseen => h.not_turnedAway (turnedAway_of_seenForeign hseen), handedOn_of_not_seenForeign⟩

/-- **The gate trims an origin as the list does.** A request whose only header is an origin that
reads as a text `s`, with any blanks around it, is handed on exactly if `Text.trim s` is one of the
origins of the list. -/
theorem handedOn_written_iff (values : List String) {written : List UInt8} {s : String}
    (h : headerText? written = some s) (content : β) :
    HandedOn values ⟨[("origin", headerValue written)], content⟩ ↔
      Text.trim s ∈ originsOf values := by
  have hvalue := headerText?_headerValue h
  obtain ⟨hall, hbytes⟩ := (headerText?_eq_some_iff _ _).mp hvalue
  rw [handedOn_iff, ← namesEntry_utf8_iff, hbytes]
  constructor
  · intro hunseen
    by_contra hforeign
    exact hunseen ⟨_, rfl, hall, hforeign⟩
  · rintro hentry ⟨value, hfirst, -, hforeign⟩
    obtain rfl := Option.some.inj hfirst
    exact hforeign hentry

/-- A server takes a request through the gate. -/
theorem handle_eq_originGate (server : HttpServer) (fresh : String) (r : HttpRequest Json) :
    server.handle fresh r =
      originGate server.allowedOrigins origin? server (fun r => server.deliver fresh (.ofRequest r))
        r :=
  rfl

/-- **The gate goes by the first origin header, and only as far as it reads as text.** A request is
turned away with the status 403 exactly if it is seen to be foreign, and every other request is
handed on. So a request is handed on if it names no origin, or none but entries of the list; and of
the requests with at most one origin header, and that of visible bytes, those are turned away whose
origin is no entry. A server that is started with the list stays as it is where it turns a request
away, and else takes what is posted. -/
theorem turnsAway_iff (values : List String) (r : HttpRequest β) :
    PostAnswer.forbidden.status = 403 ∧ (r.TurnedAway values ↔ r.SeenForeign values) ∧
      (r.HandedOn values ↔ ¬ r.SeenForeign values) ∧
      ((∀ value ∈ r.origins, NamesEntry values value) → r.HandedOn values) ∧
      (r.origins.length ≤ 1 → (∀ value ∈ r.origins, value.all isHeaderText = true) →
        (r.TurnedAway values ↔ ∃ value ∈ r.origins, ¬ NamesEntry values value)) ∧
      ∀ (service : Service) (options : CommandLine.HttpOptions)
        (sessions : List (String × Phase)) (fresh : String) (posted : HttpRequest Json),
        let server := { HttpServer.ofOptions service options with sessions := sessions }
        options.allowOrigin = values →
          (posted.SeenForeign values →
            server.handle fresh posted = .done (.forbidden, server)) ∧
          (¬ posted.SeenForeign values →
            server.handle fresh posted = server.deliver fresh (.ofRequest posted)) := by
  refine ⟨rfl, turnedAway_iff values r, handedOn_iff values r, fun hentries => ?entries,
    fun hone htext => ?readable, fun service options sessions fresh posted => ?started⟩
  case entries =>
    rw [handedOn_iff]
    rintro ⟨value, hfirst, -, hforeign⟩
    exact hforeign (hentries value (List.mem_of_head? hfirst))
  case readable =>
    rw [turnedAway_iff]
    constructor
    · rintro ⟨value, hfirst, -, hforeign⟩
      exact ⟨value, List.mem_of_head? hfirst, hforeign⟩
    · rintro ⟨value, hvalue, hforeign⟩
      -- Of one header at most, any is the first.
      have hfirst : r.origins.head? = some value := by
        obtain ⟨only, honly⟩ := List.length_eq_one_iff.mp
          (Nat.le_antisymm hone (List.length_pos_of_mem hvalue))
        rw [honly] at hvalue ⊢
        rw [List.mem_singleton.mp hvalue]
        rfl
      exact ⟨value, hfirst, htext value hvalue, hforeign⟩
  case started =>
    rintro server rfl
    rw [handle_eq_originGate]
    exact ⟨fun h => turnedAway_of_seenForeign h _ _ _, fun h => handedOn_of_not_seenForeign h _ _ _⟩

end HttpRequest

namespace AccentedOrigin

/-- The origin of a web page whose name has an accented letter. -/
def origin : String := "http://\u00e9.example"

/-- A request from such a page. -/
def request : HttpRequest Unit := ⟨[("origin", utf8 origin)], ()⟩

/-- The only origin that is allowed. -/
def values : List String := ["http://a.example"]

/-- The origin with the accent is not the one that is allowed. -/
theorem not_namesEntry : ¬ NamesEntry values (utf8 origin) := by
  rw [namesEntry_utf8_iff]
  decide +kernel

end AccentedOrigin

/-- A request from a page with an accented name is **handed on, though its origin is no entry**. -/
theorem not_all_foreign_turned_away :
    ¬ ∀ (values : List String) (r : HttpRequest Unit),
      (∃ value ∈ r.origins, ¬ NamesEntry values value) → r.TurnedAway values := by
  intro hclaim
  have haway := hclaim AccentedOrigin.values AccentedOrigin.request
    ⟨utf8 AccentedOrigin.origin, List.mem_singleton_self _, AccentedOrigin.not_namesEntry⟩
  have hnot : ¬ AccentedOrigin.request.SeenForeign AccentedOrigin.values := by
    rintro ⟨value, hfirst, htext, -⟩
    obtain rfl := Option.some.inj hfirst
    have hunreadable : (utf8 AccentedOrigin.origin).all isHeaderText = false := by decide +kernel
    rw [hunreadable] at htext
    cases htext
  exact (HttpRequest.handedOn_of_not_seenForeign hnot).not_turnedAway haway

end CodePager
