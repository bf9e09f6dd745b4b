import CodePager.Proofs.Reads
import Mathlib.Data.List.Nodup

/-! # Separation of cache keys

When two reads have one key. A key joins free texts by colons, so what it tells apart is the route
and the **pieces** between the colons (`Identity.pieces`): two keys are equal exactly when these are
(`key_eq_iff_pieces`). Two reads of different identity may share them, through a colon in a name, a
shown name that looks like a tagged raw one, or parts of one text in different roles; where none of
these is the case the identity can be read off the key. -/

namespace CodePager

/-! ### Cutting at colons -/

/-- Cutting a text and parts behind it at colons. -/
theorem splitOn_append_parts (text : List Char) (parts : List String) :
    (text ++ parts.flatMap fun t => ':' :: t.toList).splitOn ':' =
      text.splitOn ':' ++ parts.flatMap fun t => t.toList.splitOn ':' := by
  induction parts generalizing text with
  | nil => simp
  | cons t parts ih =>
    rw [List.flatMap_cons, List.flatMap_cons, List.cons_append, List.splitOn_append_cons_self, ih]

/-- A text is determined by its pieces. -/
theorem splitOn_injective {a b : List Char} (h : a.splitOn ':' = b.splitOn ':') : a = b := by
  calc a = [':'].intercalate (a.splitOn ':') := (List.intercalate_splitOn ':').symm
    _ = [':'].intercalate (b.splitOn ':') := by rw [h]
    _ = b := List.intercalate_splitOn ':'

namespace Route

/-- Routes differ in their paths. -/
theorem path_injective {r r' : Route} (h : r.path = r'.path) : r = r' := by
  have hnodup : (all.map path).Nodup := by decide
  exact List.inj_on_of_nodup_map hnodup (mem_all r) (mem_all r') h

/-- No route has a colon in its path. -/
theorem colon_not_mem_path (r : Route) : ':' ∉ r.path.toList := by cases r <;> decide

end Route

namespace CacheKey

/-- The text of a key with parts: each part stands behind a colon,
`key.text.toList ++ texts.flatMap fun t => ':' :: t.toList`. -/
theorem toList_parts (key : CacheKey) (texts : List String) :
    (key.parts texts).text.toList =
      key.text.toList ++ texts.flatMap fun t => ':' :: t.toList := by
  induction texts generalizing key with
  | nil => simp [parts]
  | cons t texts ih =>
    rw [parts, List.foldl_cons, ← parts, ih]
    simp [part]

/-- A key of a route is cut into the path of the route and the pieces of its parts. -/
theorem splitOn_parts (route : Route) (texts : List String) :
    ((ofRoute route).parts texts).text.toList.splitOn ':' =
      route.path.toList :: texts.flatMap fun t => t.toList.splitOn ':' := by
  rw [toList_parts, splitOn_append_parts]
  exact congrArg (· ++ _) (List.splitOn_eq_singleton route.colon_not_mem_path)

end CacheKey

/-! ### What a key is made of -/

namespace Identity

/-- The parts of the key of an identity, in their order. -/
def tokens (i : Identity) : List String :=
  i.owner.toList.map Resolved.keyToken ++ i.member.toList.map Resolved.keyToken ++
    i.signature.toList ++ i.filename.toList

/-- The texts between the colons of a key, behind the path of the route. -/
def pieces (i : Identity) : List (List Char) := i.tokens.flatMap fun t => t.toList.splitOn ':'

/-- Which parts an identity has: class, member, signature and file. -/
def roles (i : Identity) : Bool × Bool × Bool × Bool :=
  (i.owner.isSome, i.member.isSome, i.signature.isSome, i.filename.isSome)

/-- An identity in which **nothing can be misread**: no part holds a colon, and no shown name starts
like a tagged raw one. -/
structure Plain (i : Identity) : Prop where
  colon_free : ∀ t ∈ i.tokens, ':' ∉ t.toList
  owner_untagged : ∀ r ∈ i.owner, r.stable = false →
    ¬ "class_raw_name=".toList <+: r.value.toList
  member_untagged : ∀ r ∈ i.member, r.stable = false →
    ¬ "method_original_name=".toList <+: r.value.toList

/-- The pieces of a plain identity are its parts. -/
theorem Plain.pieces_eq {i : Identity} (h : i.Plain) : i.pieces = i.tokens.map String.toList := by
  unfold pieces
  have hcolon := h.colon_free
  -- The induction is on the parts alone; what they are parts of does not matter.
  generalize i.tokens = tokens at hcolon
  induction tokens with
  | nil => rfl
  | cons t tokens ih =>
    rw [List.flatMap_cons, List.map_cons, List.splitOn_eq_singleton (hcolon t (by simp)),
      ih fun u hu => hcolon u (List.mem_cons_of_mem t hu)]
    rfl

end Identity

namespace Resolved

/-- How a name is resolved: a stable one by the parameter of raw names, any other by that of shown
names. -/
def IsBy (raw shown : String) (r : Resolved) : Prop :=
  r.foundBy = if r.stable then raw else shown

/-- The first of two texts is a prefix of both together. -/
theorem prefix_toList_append (a b : String) : a.toList <+: (a ++ b).toList := by
  rw [String.toList_append]
  exact List.prefix_append _ _

/-- Tagged names and shown names of one kind differ, unless a shown name starts with the tag. -/
theorem keyToken_injective {raw shown : String} {a b : Resolved} (ha : a.IsBy raw shown)
    (hb : b.IsBy raw shown)
    (hau : a.stable = false → ¬ (raw ++ "=").toList <+: a.value.toList)
    (hbu : b.stable = false → ¬ (raw ++ "=").toList <+: b.value.toList)
    (h : a.keyToken = b.keyToken) : a = b := by
  obtain ⟨fa, va, sa⟩ := a
  obtain ⟨fb, vb, sb⟩ := b
  simp only [IsBy] at ha hb
  -- Two names of one kind carry the same tag or none. Of different kinds, the shown name would
  -- start with the tag of the raw one.
  cases sa <;> cases sb <;>
    simp only [keyToken, Bool.false_eq_true, if_false, if_true] at ha hb hau hbu h
  · rw [ha, hb, h]
  · refine absurd ?_ (hau trivial)
    rw [h, hb]
    exact prefix_toList_append _ _
  · refine absurd ?_ (hbu trivial)
    rw [← h, ha]
    exact prefix_toList_append _ _
  · rw [ha, hb] at h ⊢
    rw [(String.append_right_inj _).mp h]

/-- The same for names that may be absent. -/
theorem map_keyToken_injective {raw shown : String} {a b : Option Resolved}
    (ha : ∀ r ∈ a, r.IsBy raw shown) (hb : ∀ r ∈ b, r.IsBy raw shown)
    (hau : ∀ r ∈ a, r.stable = false → ¬ (raw ++ "=").toList <+: r.value.toList)
    (hbu : ∀ r ∈ b, r.stable = false → ¬ (raw ++ "=").toList <+: r.value.toList)
    (h : a.map keyToken = b.map keyToken) : a = b := by
  cases a with
  | none => exact (Option.map_eq_none_iff.mp h.symm).symm
  | some x =>
    obtain ⟨y, rfl, hxy⟩ := Option.map_eq_some_iff.mp h.symm
    exact congrArg some
      (keyToken_injective (ha x rfl) (hb y rfl) (hau x rfl) (hbu y rfl) hxy.symm)

end Resolved

/-- The deciding name is found by the parameter of its kind. -/
theorem isBy_of_firstPresent? {raw shown : String} {x y : Option String} {r : Resolved}
    (h : firstPresent? [⟨raw, x, true⟩, ⟨shown, y, false⟩] = some r) : r.IsBy raw shown := by
  unfold firstPresent? at h
  cases hx : nonBlank? x with
  | some v =>
    simp only [List.findSome?_cons, hx, Option.map_some, Option.some.injEq] at h
    subst h; rfl
  | none =>
    cases hy : nonBlank? y with
    | some v =>
      simp only [List.findSome?_cons, hx, hy, Option.map_some, Option.map_none,
        Option.some.injEq] at h
      subst h; rfl
    | none => simp [hx, hy] at h

/-- The name that a class is resolved to is found by one of its two parameters. -/
theorem ClassTarget.isBy_of_resolve? {t : ClassTarget} {r : Resolved} (h : t.resolve? = some r) :
    r.IsBy "class_raw_name" "class_name" := isBy_of_firstPresent? h

/-- The name of a class that is required is found by one of its two parameters. -/
theorem ClassTarget.isBy_of_require {t : ClassTarget} {r : Resolved} (h : t.require = .ok r) :
    r.IsBy "class_raw_name" "class_name" := by
  unfold require at h
  split at h
  · rename_i r' hr
    obtain rfl := Except.ok.inj h
    exact isBy_of_resolve? hr
  · cases h

/-- The name that a method is resolved to is found by one of its two parameters. -/
theorem MethodTarget.isBy_of_resolveMethod? {t : MethodTarget} {r : Resolved}
    (h : t.resolveMethod? = some r) : r.IsBy "method_original_name" "method_name" :=
  isBy_of_firstPresent? h

/-- The names of a method that is required, and of its class, are found by their parameters. -/
theorem MethodTarget.isBy_of_require {t : MethodTarget} {m : ResolvedMember}
    (h : t.require = .ok m) :
    m.owner.IsBy "class_raw_name" "class_name" ∧
      m.member.IsBy "method_original_name" "method_name" := by
  unfold require at h
  split at h
  · cases h
  · rename_i owner ho
    split at h
    · rename_i member hm
      obtain rfl := Except.ok.inj h
      exact ⟨ClassTarget.isBy_of_require ho, isBy_of_resolveMethod? hm⟩
    · cases h

/-! ### The key of a read -/

/-- The key and the names of a plan fit its identity. -/
structure ReadPlan.Sound (p : ReadPlan) : Prop where
  key_eq : p.key = (CacheKey.ofRoute p.identity.route).parts p.identity.tokens
  owner_isBy : ∀ r ∈ p.identity.owner, r.IsBy "class_raw_name" "class_name"
  member_isBy : ∀ r ∈ p.identity.member, r.IsBy "method_original_name" "method_name"

/-- A plan for a member is sound: its key is made of its identity, and its names are found by their
parameters. -/
theorem ReadPlan.sound_ofMember (route : Route) {t : MethodTarget} {m : ResolvedMember}
    (h : t.require = .ok m) : (ReadPlan.ofMember route t m).Sound where
  key_eq := by simp [ofMember, CacheKey.ofMember, Identity.tokens, ResolvedMember.keyTokens]
  owner_isBy := by simpa [ofMember] using (MethodTarget.isBy_of_require h).1
  member_isBy := by simpa [ofMember] using (MethodTarget.isBy_of_require h).2

/-- **The key of a read** is made of the route and the parts of its identity. -/
theorem PagedRead.sound_of_plan {q : PagedRead} {p : ReadPlan} (h : q.plan = .ok p) : p.Sound := by
  cases q with
  | plain route =>
    obtain rfl := Except.ok.inj h
    exact ⟨rfl, by simp, by simp⟩
  | ofClass route t =>
    cases ht : t.require with
    | error e => simp [plan, ht, Except.map] at h
    | ok owner =>
      simp only [plan, ht, Except.map, Except.ok.injEq] at h
      subst h
      exact ⟨rfl, by simpa using t.isBy_of_require ht, by simp⟩
  | ofMethod route t =>
    cases ht : t.require with
    | error e => simp [plan, ht, Except.map] at h
    | ok member =>
      simp only [plan, ht, Except.map, Except.ok.injEq] at h
      exact h ▸ ReadPlan.sound_ofMember route ht
  | methodSource t =>
    cases ht : t.require with
    | error e => simp [plan, ht, Except.map] at h
    | ok member =>
      simp only [plan, ht, Except.map, Except.ok.injEq] at h
      exact h ▸ ReadPlan.sound_ofMember .methodSource ht
  | search t =>
    cases ht : t.resolveMethod? with
    | none => simp [plan, ht] at h
    | some query =>
      simp only [plan, ht, Except.ok.injEq] at h
      subst h
      refine ⟨by simp [ReadPlan.ofSearch, Identity.tokens], fun r hr => ?_, ?_⟩
      · exact t.owner.isBy_of_resolve? hr
      · simpa [ReadPlan.ofSearch] using t.isBy_of_resolveMethod? ht
  | resource filename =>
    by_cases hf : Text.trim filename = ""
    · simp [plan, hf] at h
    · simp only [plan, hf, if_false, Except.ok.injEq] at h
      subst h
      exact ⟨rfl, by simp, by simp⟩

namespace ReadPlan

variable {p p' : ReadPlan}

/-- Two keys are equal **exactly when routes and pieces are**. -/
theorem key_eq_iff_pieces (hp : p.Sound) (hp' : p'.Sound) :
    p.key = p'.key ↔
      p.identity.route = p'.identity.route ∧ p.identity.pieces = p'.identity.pieces := by
  -- Cutting at colons loses nothing, so keys may be compared by their pieces.
  have hcut : p.key = p'.key ↔
      p.key.text.toList.splitOn ':' = p'.key.text.toList.splitOn ':' := by
    constructor
    · intro h; rw [h]
    · intro h
      have htext := String.toList_injective (splitOn_injective h)
      cases hk : p.key; cases hk' : p'.key
      rw [hk, hk'] at htext
      exact congrArg CacheKey.mk htext
  rw [hcut, hp.key_eq, hp'.key_eq, CacheKey.splitOn_parts, CacheKey.splitOn_parts, List.cons.injEq]
  refine and_congr_left fun _ => ⟨fun h => Route.path_injective (String.toList_injective h), ?_⟩
  intro h; rw [h]

/-- The parts of one role are in the front of a list of parts, if the role is there in both. -/
theorem parts_inj {α : Type} {f : α → String} {a b : Option α} {rest rest' : List String}
    (hrole : a.isSome = b.isSome)
    (h : a.toList.map f ++ rest = b.toList.map f ++ rest') : a.map f = b.map f ∧ rest = rest' := by
  cases a <;> cases b <;> simp_all

/-- Plain identities with the same roles are told apart by their parts. -/
theorem identity_eq_of_tokens (hp : p.Sound) (hp' : p'.Sound) (h : p.identity.Plain)
    (h' : p'.identity.Plain) (hroles : p.identity.roles = p'.identity.roles)
    (hroute : p.identity.route = p'.identity.route)
    (htokens : p.identity.tokens = p'.identity.tokens) : p.identity = p'.identity := by
  obtain ⟨⟨route, owner, member, signature, filename⟩, params, key, foundBy⟩ := p
  obtain ⟨⟨route', owner', member', signature', filename'⟩, params', key', foundBy'⟩ := p'
  simp only [Identity.roles, Prod.mk.injEq] at hroles
  obtain ⟨hro, hrm, hrs, hrf⟩ := hroles
  simp only [Identity.tokens, List.append_assoc] at htokens
  -- With the same roles the parts can be taken off one after the other from the front.
  obtain ⟨hown, hrest⟩ := parts_inj hro htokens
  obtain ⟨hmem, hrest⟩ := parts_inj hrm hrest
  obtain ⟨hsig, hrest⟩ := parts_inj (f := id) hrs (by simpa using hrest)
  have howner := Resolved.map_keyToken_injective hp.owner_isBy hp'.owner_isBy h.owner_untagged
    h'.owner_untagged hown
  have hmember := Resolved.map_keyToken_injective hp.member_isBy hp'.member_isBy h.member_untagged
    h'.member_untagged hmem
  have hfile : filename = filename' := by simpa using congrArg List.head? hrest
  simp only [Option.map_id, id] at hroute howner hmember hsig ⊢
  rw [hroute, howner, hmember, hsig, hfile]

end ReadPlan

/-! ### Main results -/

/-- **What a key tells apart.** Two reads have one key exactly when their routes are the same and
their parts are cut at colons into the same pieces. The key then determines what is read if nothing
in either identity can be misread and both have parts in the same roles. -/
theorem read_key_eq_iff {q q' : PagedRead} {p p' : ReadPlan} (hp : q.plan = .ok p)
    (hp' : q'.plan = .ok p') :
    (p.key = p'.key ↔
      p.identity.route = p'.identity.route ∧ p.identity.pieces = p'.identity.pieces) ∧
    (p.identity.Plain → p'.identity.Plain → p.identity.roles = p'.identity.roles →
      (p.key = p'.key ↔ p.identity = p'.identity)) := by
  have hs := PagedRead.sound_of_plan hp
  have hs' := PagedRead.sound_of_plan hp'
  have hkey := ReadPlan.key_eq_iff_pieces hs hs'
  refine ⟨hkey, fun h h' hroles => ⟨fun heq => ?_, fun heq => ?_⟩⟩
  · obtain ⟨hroute, hpieces⟩ := hkey.mp heq
    rw [h.pieces_eq, h'.pieces_eq] at hpieces
    have htokens := List.map_injective_iff.mpr (fun _ _ => String.toList_injective) hpieces
    exact ReadPlan.identity_eq_of_tokens hs hs' h h' hroles hroute htokens
  · rw [hkey, heq]
    exact ⟨rfl, rfl⟩

/-- The reads of one method of a class, named by the shown and by the raw name of the class, are
plain and differ in their keys. -/
theorem read_key_eq_iff_shown_raw :
    ∃ p p' : ReadPlan,
      (PagedRead.methodSource ⟨⟨none, some "a.B"⟩, none, some " run ", some "run(I)V"⟩).plan =
        .ok p ∧
      (PagedRead.methodSource ⟨⟨some "a.B", some "c.D"⟩, none, some "run", some "run(I)V"⟩).plan =
        .ok p' ∧
      p.identity.Plain ∧ p'.identity.Plain ∧ p.identity.roles = p'.identity.roles ∧
      p.key ≠ p'.key := by
  have hkey := read_key_eq_iff
    (show (PagedRead.methodSource ⟨⟨none, some "a.B"⟩, none, some " run ", some "run(I)V"⟩).plan =
      .ok _ from rfl)
    (show (PagedRead.methodSource
      ⟨⟨some "a.B", some "c.D"⟩, none, some "run", some "run(I)V"⟩).plan = .ok _ from rfl)
  have hplain := hkey.2 ⟨by decide, by decide, by decide⟩ ⟨by decide, by decide, by decide⟩ rfl
  exact ⟨_, _, rfl, rfl, ⟨by decide, by decide, by decide⟩, ⟨by decide, by decide, by decide⟩, rfl,
    fun h => absurd (hplain.mp h) (by decide)⟩

/-- **Different reads with one key**: a search for `x` in the class `load`, and a search everywhere
for `load` with the signature `x`. -/
theorem search_keys_coincide :
    ∃ p p' : ReadPlan,
      (PagedRead.search ⟨⟨none, some "load"⟩, none, some "x", none⟩).plan = .ok p ∧
      (PagedRead.search ⟨⟨none, none⟩, none, some "load", some "x"⟩).plan = .ok p' ∧
      p.key = p'.key ∧ p.identity ≠ p'.identity :=
  ⟨_, _, rfl, rfl, by decide, by decide⟩

end CodePager
