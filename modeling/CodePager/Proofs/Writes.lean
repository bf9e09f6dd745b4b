import CodePager.Proofs.CacheInvariant
import CodePager.Proofs.Fetching
import CodePager.Proofs.Forwarding
import CodePager.Proofs.Provenance
import CodePager.Tools.Call
import Mathlib.Data.List.Basic
import Mathlib.Tactic.Common

/-! # Writes, all or nothing

What a call that changes the project sends, if it sends anything. `ToolCall.Submits` says it from
the arguments alone: which calls are carried out, at which route, and with which form. Such a call
sends this one request and leaves an empty cache, whatever the backend answers; any other fails as
the caller's doing and leaves no trace (`write_all_or_nothing`). Each handler is checks in front of
one submission, and the checks are described one by one (`Tests`, `CommentStyle.Choice`). -/

namespace CodePager

/-! ### What a caller gives -/

/-- A class is **named**: one of its names is given. -/
def ClassTarget.IsNamed (t : ClassTarget) : Prop := IsGiven t.rawName ∨ IsGiven t.name

/-- A method and its class are named. -/
def MethodTarget.IsNamed (t : MethodTarget) : Prop :=
  t.owner.IsNamed ∧ (IsGiven t.rawName ∨ IsGiven t.name)

/-- A field and its class are named. -/
def FieldTarget.IsNamed (t : FieldTarget) : Prop :=
  t.owner.IsNamed ∧ (IsGiven t.rawName ∨ IsGiven t.name)

namespace CommentStyle

/-- A text **says** a style: it is the name of the style in any case, with any blanks around it. -/
def IsSaidBy (style : CommentStyle) (text : String) : Prop :=
  (Text.trim text).toList.map Char.toLower = style.name.toList.map Char.toLower

instance (style : CommentStyle) (text : String) : Decidable (style.IsSaidBy text) :=
  inferInstanceAs (Decidable (_ = _))

/-- The **choice of a style** by an argument, where `otherwise` is the usual one. -/
inductive Choice (otherwise : CommentStyle) : Option String → CommentStyle → Prop
  | absent : Choice otherwise none otherwise
  | blank (text : String) (h : Text.isBlankText text = true) :
      Choice otherwise (some text) otherwise
  | said (text : String) {style : CommentStyle} (h : style.IsSaidBy text) :
      Choice otherwise (some text) style

end CommentStyle

/-! ### What a call submits -/

/-- The part of a form that says the new name: a blank one is left out. -/
def newNameForm (newName : Option String) : List (String × String) :=
  (nonBlank? newName).toList.map fun name => ("newName", name)

/-- The part of a form that says a comment, which is sent as it stands. -/
def commentForm (comment : String) (style : CommentStyle) : List (String × String) :=
  [("comment", comment), ("style", style.name)]

/-- What a handler that **renames** submits: the target must be named, and the form says what is
meant and then the new name. -/
def Renames (route : Route) (named : Prop) (params : Params) (newName : Option String)
    (route' : Route) (form : List (String × String)) : Prop :=
  named ∧ route' = route ∧ form = params.pairs ++ newNameForm newName

/-- What a handler that **comments** submits: there must also be a comment, and a style must have
been chosen, where `otherwise` is the usual one of the handler. -/
def Comments (route : Route) (named : Prop) (params : Params) (comment : String)
    (argument : Option String) (otherwise : CommentStyle) (route' : Route)
    (form : List (String × String)) : Prop :=
  named ∧ Text.isBlankText comment = false ∧ ∃ style, CommentStyle.Choice otherwise argument style ∧
    route' = route ∧ form = params.pairs ++ commentForm comment style

/-- A call **submits** a form at a route. -/
def ToolCall.Submits : ToolCall → Route → List (String × String) → Prop
  | .renameClass target newName => Renames .renameClass target.IsNamed target.params newName
  | .renameMethod target newName => Renames .renameMethod target.IsNamed target.params newName
  | .renameField target newName => Renames .renameField target.IsNamed target.params newName
  | .renameMethodParameter target index newName => fun route form =>
    target.IsNamed ∧ 0 ≤ index.toInt ∧ route = .renameMethodParameter ∧
      form = target.params.pairs ++ newNameForm newName ++
        [("parameterIndex", toString index.toInt)]
  | .addClassComment target comment style =>
    Comments .addClassComment target.IsNamed target.params comment style .javadoc
  | .addMethodComment target comment style =>
    Comments .addMethodComment target.IsNamed target.params comment style .javadoc
  | .addFieldComment target comment style =>
    Comments .addFieldComment target.IsNamed target.params comment style .line
  | _ => fun _ _ => False

/-- The calls that **write**. -/
def ToolCall.Writes : ToolCall → Prop
  | .renameClass _ _ | .renameMethod _ _ | .renameField _ _ | .renameMethodParameter _ _ _
  | .addClassComment _ _ _ | .addMethodComment _ _ _ | .addFieldComment _ _ _ => True
  | _ => False

/-! ### Checks -/

/-- A check **tests** a condition: it is passed if the condition holds, and otherwise the caller has
to mend something. -/
def Tests {α : Type} (P : Prop) (check : Except Failure α) : Prop :=
  (P → ∃ a, check = .ok a) ∧ (¬ P → ∃ e : Failure, e.category = .client ∧ check = .error e)

/-- One of two names decides if one is given. -/
theorem isSome_firstPresent?_iff {p q : String} {b b' : Bool} {rawName name : Option String} :
    (firstPresent? [⟨p, rawName, b⟩, ⟨q, name, b'⟩]).isSome ↔ IsGiven rawName ∨ IsGiven name := by
  rw [← isSome_nonBlank?_iff, ← isSome_nonBlank?_iff]
  unfold firstPresent?
  cases hraw : nonBlank? rawName <;> cases hname : nonBlank? name <;> simp [hraw, hname]

/-- **The names of a class are tested** for one that is given. -/
theorem ClassTarget.tests_require (t : ClassTarget) : Tests t.IsNamed t.require := by
  have hdecides : t.resolve?.isSome ↔ t.IsNamed := isSome_firstPresent?_iff
  unfold require
  cases hresolve : t.resolve? with
  | some r =>
    rw [hresolve] at hdecides
    exact ⟨fun _ => ⟨r, rfl⟩, fun hnot => absurd (hdecides.mp rfl) hnot⟩
  | none =>
    rw [hresolve] at hdecides
    exact ⟨fun hnamed => absurd (hdecides.mpr hnamed) Bool.false_ne_true, fun _ => ⟨_, rfl, rfl⟩⟩

/-- A member is looked for after its class has passed. -/
theorem Tests.member {P Q : Prop} {owner : Except Failure Resolved} {member : Option Resolved}
    (howner : Tests P owner) (hmember : member.isSome ↔ Q)
    (f : Resolved → Resolved → ResolvedMember) (missing : String) :
    Tests (P ∧ Q) (match owner with
      | .error e => .error e
      | .ok owner =>
        match member with
        | some member => .ok (f owner member)
        | none => .error (.invalidArgument missing)) := by
  by_cases hP : P
  · obtain ⟨r, rfl⟩ := howner.1 hP
    cases member with
    | some m => exact ⟨fun _ => ⟨f r m, rfl⟩, fun hnot => absurd ⟨hP, hmember.mp rfl⟩ hnot⟩
    | none =>
      exact ⟨fun h => absurd (hmember.mpr h.2) Bool.false_ne_true, fun _ => ⟨_, rfl, rfl⟩⟩
  · obtain ⟨e, hclient, rfl⟩ := howner.2 hP
    exact ⟨fun h => absurd h.1 hP, fun _ => ⟨e, hclient, rfl⟩⟩

/-- **The names of a method are tested** after those of its class. -/
theorem MethodTarget.tests_require (t : MethodTarget) : Tests t.IsNamed t.require :=
  t.owner.tests_require.member isSome_firstPresent?_iff
    (fun owner member => ⟨owner, member, nonBlank? t.signature⟩) _

/-- **The names of a field are tested** after those of its class. -/
theorem FieldTarget.tests_require (t : FieldTarget) : Tests t.IsNamed t.require :=
  t.owner.tests_require.member isSome_firstPresent?_iff
    (fun owner member => ⟨owner, member, none⟩) _

namespace Text

/-- The code of a small letter: `c.toNat + 32` for a capital, and `c.toNat` otherwise. -/
theorem toNat_toLower (c : Char) :
    c.toLower.toNat = if 65 ≤ c.toNat ∧ c.toNat ≤ 90 then c.toNat + 32 else c.toNat := by
  have hiff : (c.val ≥ 'A'.val ∧ c.val ≤ 'Z'.val) ↔ (65 ≤ c.toNat ∧ c.toNat ≤ 90) := Iff.rfl
  unfold Char.toLower
  split
  · rename_i h
    have hcapital := hiff.mp h
    rw [if_pos hcapital, Char.toNat, UInt32.toNat_add]
    show (c.toNat + 32) % 2 ^ 32 = c.toNat + 32
    omega
  · rename_i h
    rw [if_neg (mt hiff.mpr h)]

/-- The code of a capital: `c.toNat - 32` for a small letter, and `c.toNat` otherwise. -/
theorem toNat_toUpper (c : Char) :
    c.toUpper.toNat = if 97 ≤ c.toNat ∧ c.toNat ≤ 122 then c.toNat - 32 else c.toNat := by
  have hiff : ('a'.val ≤ c.val ∧ c.val ≤ 'z'.val) ↔ (97 ≤ c.toNat ∧ c.toNat ≤ 122) := Iff.rfl
  unfold Char.toUpper
  split
  · rename_i h
    have hsmall := hiff.mp h
    -- The difference of the two letters wraps around, and so does the sum with it.
    rw [if_pos hsmall, Char.toNat, UInt32.toNat_add]
    show (c.toNat + 0xFFFFFFE0) % 2 ^ 32 = c.toNat - 32
    omega
  · rename_i h
    rw [if_neg (mt hiff.mpr h)]

/-- The small letter of a capital is that of the letter: `c.toUpper.toLower = c.toLower`. -/
theorem toLower_toUpper (c : Char) : c.toUpper.toLower = c.toLower := by
  rw [← Char.toNat_inj, toNat_toLower, toNat_toLower, toNat_toUpper]
  grind

/-- The capital of a small letter is that of the letter: `c.toLower.toUpper = c.toUpper`. -/
theorem toUpper_toLower (c : Char) : c.toLower.toUpper = c.toUpper := by
  rw [← Char.toNat_inj, toNat_toUpper, toNat_toUpper, toNat_toLower]
  grind

end Text

namespace CommentStyle

variable {argument : Option String} {otherwise style : CommentStyle}

/-- A text says a style if it reads like it in capitals. -/
theorem isSaidBy_iff {text : String} :
    style.IsSaidBy text ↔
      String.ofList ((Text.trim text).toList.map Char.toUpper) = style.name := by
  have hname : style.name.toList.map Char.toUpper = style.name.toList := by
    cases style <;> decide
  have hcapitals : ∀ cs : List Char, (cs.map Char.toLower).map Char.toUpper = cs.map Char.toUpper :=
    fun cs => by
      rw [List.map_map]
      exact congrArg (List.map · cs) (funext Text.toUpper_toLower)
  have hsmall : ∀ cs : List Char, (cs.map Char.toUpper).map Char.toLower = cs.map Char.toLower :=
    fun cs => by
      rw [List.map_map]
      exact congrArg (List.map · cs) (funext Text.toLower_toUpper)
  -- The names are in capitals, so it does not matter which case is folded.
  rw [IsSaidBy, String.ext_iff, String.toList_ofList]
  refine ⟨fun h => ?_, fun h => ?_⟩
  · rw [← hcapitals, h, hcapitals, hname]
  · rw [← hsmall, h]

/-- An argument gets the style that it chooses. -/
theorem ofArgument_of_choice (h : Choice otherwise argument style) :
    ofArgument argument otherwise = .ok style := by
  cases h with
  | absent => rfl
  | blank text hblank => simp [ofArgument, (Text.trim_eq_empty_iff text).mpr hblank]
  | said text hsaid =>
    have hcapitals := isSaidBy_iff.mp hsaid
    have htext : Text.trim text ≠ "" := by
      intro hempty
      rw [hempty] at hcapitals
      cases style <;> exact absurd hcapitals (by decide)
    cases style with
    | javadoc => simp [ofArgument, htext, hcapitals, name]
    | line => simp [ofArgument, htext, hcapitals, name]

/-- An argument that chooses no style is refused. -/
theorem ofArgument_of_no_choice (h : ∀ style, ¬ Choice otherwise argument style) :
    ∃ e : Failure, e.category = .client ∧ ofArgument argument otherwise = .error e := by
  cases argument with
  | none => exact absurd .absent (h otherwise)
  | some text =>
    have htext : Text.trim text ≠ "" := fun hempty =>
      h otherwise (.blank text ((Text.trim_eq_empty_iff text).mp hempty))
    have hsaid : ∀ style : CommentStyle,
        String.ofList ((Text.trim text).toList.map Char.toUpper) ≠ style.name :=
      fun style hcapitals => h style (.said text (isSaidBy_iff.mpr hcapitals))
    have hrefused : ofArgument (some text) otherwise = .error (.invalidArgument
        ("style must be JAVADOC or LINE, got '" ++ Text.trim text ++ "'")) :=
      (if_neg htext).trans ((if_neg (hsaid .javadoc)).trans (if_neg (hsaid .line)))
    exact ⟨_, rfl, hrefused⟩

end CommentStyle

/-! ### Forms -/

/-- The parameters that say **what is meant**; what becomes of it is said by others. -/
def targetNames : List String :=
  ["class_raw_name", "class_name", "method_original_name", "method_name", "method",
   "method_signature", "field_raw_name", "field_name"]

/-- The parameters of a class say what is meant: `t.params.keys ⊆ targetNames`. -/
theorem ClassTarget.keys_params (t : ClassTarget) : t.params.keys ⊆ targetNames :=
  Params.keys_setOpt_subset
    (Params.keys_setOpt_subset (List.nil_subset _) (by decide)) (by decide)

/-- The parameters of a method say what is meant, its class included. -/
theorem MethodTarget.keys_params (t : MethodTarget) : t.params.keys ⊆ targetNames :=
  Params.keys_setOpt_subset (Params.keys_setOpt_subset (Params.keys_setOpt_subset
    (Params.keys_setOpt_subset t.owner.keys_params (by decide)) (by decide)) (by decide))
    (by decide)

/-- The parameters of a field say what is meant, its class included. -/
theorem FieldTarget.keys_params (t : FieldTarget) : t.params.keys ⊆ targetNames :=
  Params.keys_setOpt_subset
    (Params.keys_setOpt_subset t.owner.keys_params (by decide)) (by decide)

/-- Nothing is said with a blank comment, or without a style. -/
theorem withComment_of_no_choice (params : Params) {comment : String} {argument : Option String}
    {otherwise : CommentStyle}
    (h : Text.isBlankText comment = false →
      ∀ style, ¬ CommentStyle.Choice otherwise argument style) :
    ∃ e : Failure, e.category = .client ∧
      Service.withComment params comment argument otherwise = .error e := by
  unfold Service.withComment
  split
  · exact ⟨_, rfl, rfl⟩
  · rename_i htrim
    rw [Text.trim_eq_empty_iff, Bool.not_eq_true] at htrim
    obtain ⟨e, hclient, hstyle⟩ := CommentStyle.ofArgument_of_no_choice (h htrim)
    rw [hstyle]
    exact ⟨e, hclient, rfl⟩

section Forms

variable {params : Params} (hparams : params.keys ⊆ targetNames)
include hparams

/-- The new name comes after what is meant. -/
theorem withNewName_eq (newName : Option String) :
    Service.withNewName params newName = ⟨params.pairs ++ newNameForm newName⟩ := by
  have hkey : "newName" ∉ params.keys := fun hmem => absurd (hparams hmem) (by decide)
  unfold Service.withNewName newNameForm
  cases newName with
  | none => simp [Params.setOpt, nonBlank?]
  | some name =>
    rw [nonBlank?_some, Option.map_some, Params.setOpt]
    split
    · rename_i hname
      simp [hname]
    · rename_i hname
      exact Params.set_of_not_mem hkey hname

/-- The index of a parameter comes last. -/
theorem setNum_withNewName_eq (newName : Option String) {index : Int} (hindex : 0 ≤ index) :
    (Service.withNewName params newName).setNum "parameterIndex" index =
      ⟨params.pairs ++ newNameForm newName ++ [("parameterIndex", toString index)]⟩ := by
  have hkeys : (Service.withNewName params newName).keys ⊆ "newName" :: targetNames :=
    Params.keys_setOpt_subset (List.subset_cons_of_subset _ hparams) List.mem_cons_self
  obtain ⟨n, rfl⟩ := Int.eq_ofNat_of_zero_le hindex
  refine (Params.set_of_not_mem (fun hmem => absurd (hkeys hmem) (by decide)) ?_).trans ?_
  · exact Nat.repr_ne_empty
  · rw [withNewName_eq hparams]

/-- A comment comes after what is meant, and its style after it. -/
theorem withComment_of_choice {comment : String} {argument : Option String}
    {otherwise style : CommentStyle} (hcomment : Text.isBlankText comment = false)
    (hstyle : CommentStyle.Choice otherwise argument style) :
    Service.withComment params comment argument otherwise =
      .ok ⟨params.pairs ++ commentForm comment style⟩ := by
  have htrim : Text.trim comment ≠ "" := by
    rw [Ne, Text.trim_eq_empty_iff, hcomment]
    exact Bool.false_ne_true
  have hnonempty : comment ≠ "" := by
    rintro rfl
    exact htrim rfl
  have hname : style.name ≠ "" := by
    cases style <;> decide
  -- Neither parameter says what is meant, so each is new when it is set.
  have hkey : "comment" ∉ params.keys := fun hmem => absurd (hparams hmem) (by decide)
  have hkeys : (params.set "comment" comment).keys ⊆ "comment" :: targetNames :=
    Params.keys_set_subset (List.subset_cons_of_subset _ hparams) List.mem_cons_self
  have hkey' : "style" ∉ (params.set "comment" comment).keys :=
    fun hmem => absurd (hkeys hmem) (by decide)
  have hset : (params.set "comment" comment).set "style" style.name =
      ⟨params.pairs ++ commentForm comment style⟩ := by
    rw [Params.set_of_not_mem hkey' hname, Params.set_of_not_mem hkey hnonempty]
    simp [commentForm]
  rw [Service.withComment, if_neg htrim, CommentStyle.ofArgument_of_choice hstyle, ← hset]

end Forms

/-! ### Submissions -/

section Submissions

variable {s : Service}

/-- An attempt **submits only** the forms that are described: if there is one it is submitted, and
if there is none the caller has to mend something and nothing else is done. -/
structure SubmitsOnly (s : Service) (Described : Route → List (String × String) → Prop)
    (x : Attempt Json) : Prop where
  submits : ∀ {route form}, Described route form → x = s.mutate route ⟨form⟩
  refuses : (∀ route form, ¬ Described route form) →
    ∃ e : Failure, e.category = .client ∧ x = throw e

namespace SubmitsOnly

variable {Described : Route → List (String × String) → Prop}

/-- The submission of the one form that is described. -/
theorem mutate {route : Route} {form : List (String × String)}
    (hform : ∀ {route' form'}, Described route' form' ↔ route' = route ∧ form' = form) :
    SubmitsOnly s Described (s.mutate route ⟨form⟩) where
  submits h := by
    obtain ⟨rfl, rfl⟩ := hform.mp h
    rfl
  refuses h := absurd (hform.mpr ⟨rfl, rfl⟩) (h route form)

/-- Only what has passed a check is described, and then it is what follows the check that
submits. -/
theorem check {α : Type} {P : Prop} {x : Except Failure α} (hx : Tests P x)
    (hdescribed : ∀ {route form}, Described route form → P) {f : α → Attempt Json}
    (hf : ∀ a, P → SubmitsOnly s Described (f a)) :
    SubmitsOnly s Described (Attempt.ofExcept x >>= f) := by
  by_cases hP : P
  · obtain ⟨a, rfl⟩ := hx.1 hP
    exact hf a hP
  · obtain ⟨e, hclient, rfl⟩ := hx.2 hP
    exact ⟨fun h => absurd (hdescribed h) hP, fun _ => ⟨e, hclient, rfl⟩⟩

section Handlers

variable {α : Type} {named : Prop} {x : Except Failure α} (hx : Tests named x) {params : Params}
  (hparams : params.keys ⊆ targetNames) (route : Route)
include hx hparams

/-- **Handlers that rename.** -/
theorem rename (newName : Option String) :
    SubmitsOnly s (Renames route named params newName) (do
      let _ ← Attempt.ofExcept x
      s.mutate route (Service.withNewName params newName)) := by
  refine check hx (fun h => h.1) fun _ hnamed => ?_
  rw [withNewName_eq hparams]
  exact mutate ⟨fun h => h.2, fun h => ⟨hnamed, h⟩⟩

/-- **Handlers that comment.** -/
theorem comment (comment : String) (argument : Option String) (otherwise : CommentStyle) :
    SubmitsOnly s (Comments route named params comment argument otherwise) (do
      let _ ← Attempt.ofExcept x
      let params ← Attempt.ofExcept (Service.withComment params comment argument otherwise)
      s.mutate route params) := by
  refine check hx (fun h => h.1) fun _ hnamed => ⟨fun h => ?_, fun h => ?_⟩
  · obtain ⟨-, hcomment, style, hstyle, rfl, rfl⟩ := h
    rw [withComment_of_choice hparams hcomment hstyle]
    rfl
  · obtain ⟨e, hclient, herror⟩ := withComment_of_no_choice params
      fun hcomment style hstyle => h _ _ ⟨hnamed, hcomment, style, hstyle, rfl, rfl⟩
    rw [herror]
    exact ⟨e, hclient, rfl⟩

end Handlers

/-- The handler that renames a parameter has one more check, after the one of its target. -/
theorem renameMethodParameter (target : MethodTarget) (index : Int64) (newName : Option String) :
    SubmitsOnly s (ToolCall.renameMethodParameter target index newName).Submits
      (s.renameMethodParameter target index newName) := by
  refine check target.tests_require (fun h => h.1) fun _ hnamed => ?_
  by_cases hindex : index < 0
  · have hnot : ¬ 0 ≤ index.toInt := Int.not_le.mpr (Int64.lt_iff_toInt_lt.mp hindex)
    simp only [hindex, if_true]
    exact ⟨fun h => absurd h.2.1 hnot, fun _ => ⟨_, rfl, rfl⟩⟩
  · have hnonneg : 0 ≤ index.toInt := Int64.le_iff_toInt_le.mp (Int64.not_lt.mp hindex)
    simp only [hindex, if_false, setNum_withNewName_eq target.keys_params newName hnonneg]
    exact mutate ⟨fun h => h.2.2, fun h => ⟨hnamed, hnonneg, h⟩⟩

end SubmitsOnly

/-- **Every write** answers with what its attempt comes to, which submits only what is described. -/
theorem ToolCall.Writes.exists_attempt (s : Service) {call : ToolCall} (h : call.Writes) :
    ∃ x : Attempt Json, SubmitsOnly s call.Submits x ∧ call.perform s = valued x := by
  cases call with
  | renameClass t newName => exact ⟨_, .rename t.tests_require t.keys_params _ newName, rfl⟩
  | renameMethod t newName => exact ⟨_, .rename t.tests_require t.keys_params _ newName, rfl⟩
  | renameField t newName => exact ⟨_, .rename t.tests_require t.keys_params _ newName, rfl⟩
  | renameMethodParameter t index newName =>
    exact ⟨_, .renameMethodParameter t index newName, rfl⟩
  | addClassComment t text style =>
    exact ⟨_, .comment t.tests_require t.keys_params _ text style _, rfl⟩
  | addMethodComment t text style =>
    exact ⟨_, .comment t.tests_require t.keys_params _ text style _, rfl⟩
  | addFieldComment t text style =>
    exact ⟨_, .comment t.tests_require t.keys_params _ text style _, rfl⟩
  | _ => exact h.elim

/-- A cache that has been cleared has nothing more to clear. -/
theorem PageCache.clear_clear (c : PageCache) : c.clear.2.clear.2 = c.clear.2 := by
  simp [clear]

/-- **A submission is one request**, and it leaves the cache as one clearing does. -/
theorem outcome_mutate_eq (s : Service) (backend : List Request → Request → Reply) (route : Route)
    (params : Params) (c : PageCache) (sent : List Request) :
    (s.mutate route params).outcome backend c sent =
      ⟨((s.mutate route params).outcome backend c sent).value, c.clear.2,
        if s.config.backend.isAddressable then sent ++ [⟨.post, route, params⟩] else sent⟩ := by
  obtain ⟨hcache, hrequests⟩ :=
    Gateway.outcome_request s.config.backend route params backend c.clear.2 sent .post
  rw [History.outcome_mutate]
  simp only [Gateway.submit, hcache, hrequests, PageCache.clear_clear]

end Submissions

/-! ### Main result -/

/-- **A write happens or it does not.** A call whose arguments are good sends the one form that is
described, if there is an address to send it to, and whatever the backend answers nothing is in the
cache afterwards; any other call fails as the caller's doing, sends nothing, and leaves the whole
cache as it was. -/
theorem write_all_or_nothing (s : Service) (backend : List Request → Request → Reply)
    (c : PageCache) (sent : List Request) {call : ToolCall} (hcall : call.Writes) :
    let done := (call.perform s).run backend c sent
    (∀ route form, call.Submits route form →
      done.requests =
          (if s.config.backend.isAddressable then sent ++ [⟨.post, route, ⟨form⟩⟩] else sent) ∧
        done.cache.entries = [] ∧ done.cache.order = [] ∧ done.cache.lastMethodSource = none) ∧
    ((∀ route form, ¬ call.Submits route form) →
      (∃ failure : Failure, done.value = ⟨true, failure.toJson⟩ ∧ failure.category = .client) ∧
        done.requests = sent ∧ done.cache = c) := by
  obtain ⟨x, hx, hperform⟩ := hcall.exists_attempt s
  rw [hperform, ToolCall.valued, Attempt.run_bind_done]
  refine ⟨fun route form hform => ?_, fun hnone => ?_⟩
  · rw [hx.submits hform, outcome_mutate_eq]
    exact ⟨rfl, rfl, rfl, rfl⟩
  · obtain ⟨e, hclient, rfl⟩ := hx.refuses hnone
    exact ⟨⟨e, rfl, hclient⟩, rfl, rfl⟩

namespace TokenComment

/-- A field of a class, named by the raw name of the class and the shown name of the field. -/
def target : FieldTarget := ⟨⟨some "a.b", none⟩, none, some " token "⟩

/-- A cache in which a result is held. -/
def held : PageCache :=
  (PageCache.empty .default "").insert ⟨.ofRoute .strings, .lines ["x"], 1, ""⟩

/-- A comment on the field, with a style. -/
def call (style : String) : ToolCall := .addFieldComment target " session token" (some style)

end TokenComment

/-- A comment is submitted once even if nobody answers, and the cache is dropped; in a style that
there is not, **nothing happens**. -/
theorem write_all_or_nothing_token_comment :
    let run := fun call : ToolCall =>
      (call.perform ⟨.default⟩).run (fun _ _ => .unreachable) TokenComment.held []
    ((run (TokenComment.call " line ")).requests = [⟨.post, .addFieldComment,
        ⟨[("class_raw_name", "a.b"), ("field_name", "token"), ("comment", " session token"),
          ("style", "LINE")]⟩⟩] ∧
      (run (TokenComment.call " line ")).cache.entries = []) ∧
    (run (TokenComment.call "BLOCK")).requests = [] ∧
      (run (TokenComment.call "BLOCK")).cache = TokenComment.held := by
  intro run
  have haddress : BackendConfig.default.isAddressable = true := by decide +kernel
  have hnamed : TokenComment.target.IsNamed :=
    ⟨Or.inl ⟨"a.b", rfl, by decide⟩, Or.inr ⟨" token ", rfl, by decide⟩⟩
  have hwrites : ∀ style, (TokenComment.call style).Writes := fun _ => trivial
  refine ⟨?_, ?_⟩
  · obtain ⟨hsubmitted, -⟩ := write_all_or_nothing ⟨.default⟩ (fun _ _ => .unreachable)
      TokenComment.held [] (hwrites " line ")
    have hline : CommentStyle.line.IsSaidBy " line " := by decide
    obtain ⟨hrequests, hentries, -⟩ :=
      hsubmitted _ _ ⟨hnamed, by decide, _, .said " line " hline, rfl, rfl⟩
    exact ⟨hrequests.trans ((if_pos haddress).trans (by decide)), hentries⟩
  · obtain ⟨-, hrefused⟩ := write_all_or_nothing ⟨.default⟩ (fun _ _ => .unreachable)
      TokenComment.held [] (hwrites "BLOCK")
    have hblock : ∀ style : CommentStyle, ¬ style.IsSaidBy "BLOCK" := by
      rintro (_ | _) <;> decide
    refine (hrefused ?_).2
    rintro route form ⟨-, -, style, hstyle, -⟩
    cases hstyle with
    | blank _ hblank => exact absurd hblank (by decide)
    | said _ hsaid => exact hblock style hsaid

end CodePager
