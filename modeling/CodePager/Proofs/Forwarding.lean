import CodePager.Backend.Target
import CodePager.Proofs.Assignments
import Mathlib.Data.List.DropRight

/-! # Resolving and forwarding targets

What a caller means is found out twice: the bridge looks for the name that decides, for the key of
the cache and for the answer, and it hands all names on to the backend, which looks again. Both must
see the same names. `Naming.Decides` says which name is found, `Target.Forwards` which parameters
are handed on, each from the names alone; `target_resolved_and_forwarded` says that the bridge does
this for **every target**, that no parameter is blank, padded or repeated, and that the names found
are among those handed on. -/

namespace CodePager

/-! ### Trimming -/

namespace Text

/-- Trimming drops blanks from the front and from the end:
`(cs.dropWhile isBlank).rdropWhile isBlank`. -/
theorem trimList_eq_rdropWhile (cs : List Char) :
    trimList cs = (cs.dropWhile isBlank).rdropWhile isBlank := rfl

/-- What has been trimmed has no blanks around it. -/
theorem trimList_trimList (cs : List Char) : trimList (trimList cs) = trimList cs := by
  have hfront : (trimList cs).dropWhile isBlank = trimList cs := by
    refine List.dropWhile_eq_self_iff.mpr fun hpos => ?_
    -- The first character is the one that dropping blanks from the front stopped at.
    have hkept : trimList cs <+: cs.dropWhile isBlank := List.rdropWhile_prefix isBlank _
    have hlength := hkept.length_le
    rw [hkept.getElem hpos]
    exact List.dropWhile_eq_self_iff.mp (List.dropWhile_idempotent (p := isBlank) cs) (by omega)
  rw [trimList_eq_rdropWhile (trimList cs), hfront, trimList_eq_rdropWhile,
    List.rdropWhile_idempotent]

/-- What has been trimmed stays as it is: `trim (trim s) = trim s`. -/
theorem trim_trim (s : String) : trim (trim s) = trim s := by
  rw [trim, trim, String.toList_ofList, trimList_trimList]

end Text

/-! ### Names -/

/-- A name is **given**: it is there and not blank. -/
def IsGiven (name : Option String) : Prop := ∃ v, name = some v ∧ Text.isBlankText v = false

/-- A name is **given as** a text: it is not blank, and the text is what is left without the blanks
around it. -/
def GivenAs (name : Option String) (text : String) : Prop :=
  ∃ v, name = some v ∧ Text.isBlankText v = false ∧ text = Text.trim v

section Given

variable {name : Option String} {text : String}

/-- What is given as a text is given. -/
theorem GivenAs.isGiven (h : GivenAs name text) : IsGiven name := by
  obtain ⟨v, hname, hblank, -⟩ := h
  exact ⟨v, hname, hblank⟩

/-- What is given is not empty and has no blanks around it. -/
theorem GivenAs.trimmed (h : GivenAs name text) : text ≠ "" ∧ Text.trim text = text := by
  obtain ⟨v, -, hblank, rfl⟩ := h
  refine ⟨?_, Text.trim_trim v⟩
  rw [Ne, Text.trim_eq_empty_iff, hblank]
  exact Bool.false_ne_true

/-- A text counts if something is left of it without blanks: `Text.trim text`. -/
theorem nonBlank?_some (text : String) :
    nonBlank? (some text) = if Text.trim text = "" then none else some (Text.trim text) := by
  rw [nonBlank?, Option.map_some, Option.filter_some]
  by_cases h : Text.trim text = "" <;> simp [h]

/-- A name counts **exactly if it is given**. -/
theorem isSome_nonBlank?_iff : (nonBlank? name).isSome ↔ IsGiven name := by
  cases name with
  | none => simp [nonBlank?, IsGiven]
  | some v => simp [nonBlank?, IsGiven, Option.isSome_filter, Text.trim_eq_empty_iff]

/-- A name counts as the text that **it is given as**. -/
theorem nonBlank?_eq_some_iff : nonBlank? name = some text ↔ GivenAs name text := by
  rw [nonBlank?, Option.filter_eq_some_iff, Option.map_eq_some_iff]
  constructor
  · rintro ⟨⟨v, hname, rfl⟩, hne⟩
    have hnot : ¬ Text.isBlankText v = true := fun h =>
      of_decide_eq_true hne ((Text.trim_eq_empty_iff v).mpr h)
    exact ⟨v, hname, Bool.eq_false_iff.mpr hnot, rfl⟩
  · intro h
    obtain ⟨hne, -⟩ := h.trimmed
    obtain ⟨v, hname, -, rfl⟩ := h
    exact ⟨⟨v, hname, rfl⟩, decide_eq_true hne⟩

/-- A name does not count exactly if it is not given. -/
theorem nonBlank?_eq_none_iff : nonBlank? name = none ↔ ¬ IsGiven name := by
  rw [← isSome_nonBlank?_iff, Option.not_isSome_iff_eq_none]

end Given

/-- The names that one thing may be given, with the parameters that they are given in, the one that
is preferred first. -/
abbrev Naming := List (String × Option String)

namespace Naming

/-- Something is named if one of its names is given. -/
def IsNamed (names : Naming) : Prop := ∃ n ∈ names, IsGiven n.2

/-- The name that **decides**: it is given, and none that is preferred to it is. -/
def Decides (names : Naming) (r : Resolved) : Prop :=
  ∃ before name after, names = before ++ (r.foundBy, name) :: after ∧ GivenAs name r.value ∧
    ∀ n ∈ before, ¬ IsGiven n.2

/-- What a caller is told who gave none of the names. -/
def request (names : Naming) : String := "provide " ++ " or ".intercalate (names.map Prod.fst)

/-- Where a name decides, something is named. -/
theorem Decides.isNamed {names : Naming} {r : Resolved} (h : names.Decides r) : names.IsNamed := by
  obtain ⟨before, name, after, rfl, hgiven, -⟩ := h
  exact ⟨_, List.mem_append_right _ List.mem_cons_self, hgiven.isGiven⟩

/-- Where a name decides for each thing, each is named. -/
theorem isNamed_of_decides {all : List Naming} {winners : List Resolved}
    (h : List.Forall₂ Decides all winners) : ∀ names ∈ all, names.IsNamed := by
  induction h with
  | nil => exact fun names hnames => absurd hnames List.not_mem_nil
  | cons hdecides _ ih => exact List.forall_mem_cons.mpr ⟨hdecides.isNamed, ih⟩

/-- Each name that decides does so for one of the things. -/
theorem exists_decides {all : List Naming} {winners : List Resolved}
    (h : List.Forall₂ Decides all winners) : ∀ r ∈ winners, ∃ names ∈ all, names.Decides r := by
  induction h with
  | nil => exact fun r hr => absurd hr List.not_mem_nil
  | cons hdecides _ ih =>
    refine List.forall_mem_cons.mpr ⟨⟨_, List.mem_cons_self, hdecides⟩, fun r hr => ?_⟩
    obtain ⟨names, hnames, h⟩ := ih r hr
    exact ⟨names, List.mem_cons_of_mem _ hnames, h⟩

/-- The names among some candidates. -/
def ofCandidates (candidates : List Candidate) : Naming :=
  candidates.map fun c => (c.param, c.value)

end Naming

/-- The first candidate that is not blank is the name that decides, if there is one. -/
theorem firstPresent?_cases (candidates : List Candidate) :
    (∃ r, firstPresent? candidates = some r ∧ (Naming.ofCandidates candidates).Decides r) ∨
      (firstPresent? candidates = none ∧ ¬ (Naming.ofCandidates candidates).IsNamed) := by
  cases hfirst : firstPresent? candidates with
  | some r =>
    refine Or.inl ⟨r, rfl, ?_⟩
    obtain ⟨before, c, after, rfl, hc, hbefore⟩ := List.findSome?_eq_some_iff.mp hfirst
    obtain ⟨v, hv, rfl⟩ := Option.map_eq_some_iff.mp hc
    refine ⟨Naming.ofCandidates before, c.value, Naming.ofCandidates after, ?_,
      nonBlank?_eq_some_iff.mp hv, ?_⟩
    · simp [Naming.ofCandidates]
    · intro n hn
      obtain ⟨b, hb, rfl⟩ := List.mem_map.mp hn
      exact nonBlank?_eq_none_iff.mp (Option.map_eq_none_iff.mp (hbefore b hb))
  | none =>
    refine Or.inr ⟨rfl, ?_⟩
    rintro ⟨n, hn, hgiven⟩
    obtain ⟨c, hc, rfl⟩ := List.mem_map.mp hn
    have hnone := List.findSome?_eq_none_iff.mp hfirst c hc
    exact nonBlank?_eq_none_iff.mp (Option.map_eq_none_iff.mp hnone) hgiven

/-! ### Targets -/

/-- Anything that a caller may mean. -/
inductive Target where
  | ofClass (t : ClassTarget)
  | ofMethod (t : MethodTarget)
  | ofField (t : FieldTarget)

/-- What resolving finds: the names that decide, the one of the class first, and the signature. -/
structure Resolution where
  winners : List Resolved
  signature : Option String

namespace Target

/-- The names that a class may be given. A raw name survives renaming and is preferred. -/
def classNaming (t : ClassTarget) : Naming :=
  [("class_raw_name", t.rawName), ("class_name", t.name)]

/-- What is to be named for a target, with its names: the class, and then the member. -/
def namings : Target → List Naming
  | .ofClass t => [classNaming t]
  | .ofMethod t =>
    [classNaming t.owner, [("method_original_name", t.rawName), ("method_name", t.name)]]
  | .ofField t => [classNaming t.owner, [("field_raw_name", t.rawName), ("field_name", t.name)]]

/-- The signature that tells methods of one name apart. -/
def signature : Target → Option String
  | .ofMethod t => t.signature
  | _ => none

/-- Finds the names that decide. -/
def resolve : Target → Except Failure Resolution
  | .ofClass t => t.require.map fun r => ⟨[r], none⟩
  | .ofMethod t => t.require.map fun r => ⟨[r.owner, r.member], r.signature⟩
  | .ofField t => t.require.map fun r => ⟨[r.owner, r.member], r.signature⟩

/-- The parameters that are handed on. -/
def params : Target → Params
  | .ofClass t => t.params
  | .ofMethod t => t.params
  | .ofField t => t.params

/-- A parameter that is to be **handed on**: every name that is given, and the signature; of a
method also a plain name, which is the one that is shown unless only the raw one is given. -/
inductive Forwards : Target → String → String → Prop
  | name {t : Target} {names : Naming} {param : String} {name : Option String} {text : String}
      (hnames : names ∈ t.namings) (hname : (param, name) ∈ names) (h : GivenAs name text) :
      Forwards t param text
  | signature {t : Target} {text : String} (h : GivenAs t.signature text) :
      Forwards t "method_signature" text
  | shownMethod {m : MethodTarget} {text : String} (h : GivenAs m.name text) :
      Forwards (.ofMethod m) "method" text
  | rawMethod {m : MethodTarget} {text : String} (hname : ¬ IsGiven m.name)
      (h : GivenAs m.rawName text) : Forwards (.ofMethod m) "method" text

/-! ### Resolving -/

/-- A class is resolved, or it is not named. -/
theorem require_cases (t : ClassTarget) :
    (∃ r, t.require = .ok r ∧ (classNaming t).Decides r) ∨
      (¬ (classNaming t).IsNamed ∧
        t.require = .error (.invalidArgument (classNaming t).request)) := by
  rcases firstPresent?_cases t.candidates with ⟨r, hr, hdecides⟩ | ⟨hnone, hnot⟩
  · refine Or.inl ⟨r, ?_, hdecides⟩
    rw [ClassTarget.require, ClassTarget.resolve?, hr]
  · refine Or.inr ⟨hnot, ?_⟩
    rw [ClassTarget.require, ClassTarget.resolve?, hnone]
    rfl

/-- **The name of every thing decides**, or the first thing that is not named is complained
about. -/
def ResolvesTo (t : Target) (x : Except Failure Resolution) : Prop :=
  (∃ found, x = .ok found ∧ List.Forall₂ Naming.Decides t.namings found.winners ∧
    found.signature = nonBlank? t.signature) ∨
  ∃ before names after, t.namings = before ++ names :: after ∧ (∀ n ∈ before, n.IsNamed) ∧
    ¬ names.IsNamed ∧ x = .error (.invalidArgument names.request)

/-- A member is looked for after its class has been found. -/
theorem resolvesTo_member {t : Target} {owner : ClassTarget} (candidates : List Candidate)
    (ht : t.namings = [classNaming owner, Naming.ofCandidates candidates]) {missing : String}
    (hmissing : missing = (Naming.ofCandidates candidates).request) :
    t.ResolvesTo (Except.map (fun r => ⟨[r.owner, r.member], r.signature⟩)
      (match owner.require with
        | .error e => .error e
        | .ok o =>
          match firstPresent? candidates with
          | some m => .ok (⟨o, m, nonBlank? t.signature⟩ : ResolvedMember)
          | none => .error (.invalidArgument missing))) := by
  rcases require_cases owner with ⟨o, ho, howner⟩ | ⟨hnot, ho⟩
  · rw [ho]
    rcases firstPresent?_cases candidates with ⟨m, hm, hmember⟩ | ⟨hnone, hnot⟩
    · rw [hm]
      refine Or.inl ⟨⟨[o, m], nonBlank? t.signature⟩, rfl, ?_, rfl⟩
      rw [ht]
      exact .cons howner (.cons hmember .nil)
    · rw [hnone]
      refine Or.inr ⟨[classNaming owner], _, [], ht, ?_, hnot, by rw [hmissing]; rfl⟩
      intro n hn
      obtain rfl := List.mem_singleton.mp hn
      exact howner.isNamed
  · rw [ho]
    exact Or.inr ⟨[], _, _, ht, fun n hn => absurd hn List.not_mem_nil, hnot, rfl⟩

/-- **Every target** is resolved to what decides of each thing, or to the complaint about the first
thing that is not named. -/
theorem resolvesTo (t : Target) : t.ResolvesTo t.resolve := by
  cases t with
  | ofClass t =>
    rcases require_cases t with ⟨r, hr, hdecides⟩ | ⟨hnot, hr⟩
    · exact Or.inl ⟨⟨[r], none⟩, by rw [resolve, hr]; rfl, .cons hdecides .nil, rfl⟩
    · refine Or.inr ⟨[], _, [], rfl, fun n hn => absurd hn List.not_mem_nil, hnot, ?_⟩
      rw [resolve, hr]
      rfl
  | ofMethod t => exact resolvesTo_member t.candidates rfl rfl
  | ofField t => exact resolvesTo_member t.candidates rfl rfl

/-! ### Handing on -/

/-- What is handed on of a method beside its names. -/
def extras : Target → List (String × Option String)
  | .ofMethod t =>
    [("method", nonBlank? t.name <|> nonBlank? t.rawName),
     ("method_signature", nonBlank? t.signature)]
  | _ => []

/-- The parameters that are handed on if there is a value for them. -/
def fields (t : Target) : List (String × Option String) :=
  (t.namings.flatten.map fun n => (n.1, nonBlank? n.2)) ++ t.extras

/-- The parameters of a target are made by setting its fields, one after the other. -/
theorem params_eq (t : Target) :
    t.params = ParamsCall.runAll (t.fields.map fun f => .setOpt f.1 f.2) .empty := by
  cases t <;> rfl

/-- No field of a target is named twice. -/
theorem nodup_fields (t : Target) : (t.fields.map Prod.fst).Nodup := by
  cases t with
  | ofClass t => simp [fields, namings, classNaming, extras]
  | ofMethod t => simp [fields, namings, classNaming, extras]
  | ofField t => simp [fields, namings, classNaming, extras]

/-- The extra fields that have a value: the signature if it is given, and of a method its plain
name, which is **the name if that is given and the raw name otherwise**. -/
theorem mem_extras_iff {t : Target} {key text : String} :
    (key, some text) ∈ t.extras ↔ (key = "method_signature" ∧ GivenAs t.signature text) ∨
      ∃ m, t = .ofMethod m ∧ key = "method" ∧
        (GivenAs m.name text ∨ ¬ IsGiven m.name ∧ GivenAs m.rawName text) := by
  cases t with
  | ofClass t => simp [extras, signature, GivenAs]
  | ofField t => simp [extras, signature, GivenAs]
  | ofMethod t =>
    simp only [extras, List.mem_pair, Prod.mk.injEq, ofMethod.injEq, exists_eq_left', signature,
      ← nonBlank?_eq_some_iff, ← nonBlank?_eq_none_iff]
    cases nonBlank? t.name <;> simp [or_comm, eq_comm]

/-- Of the parameters for which there can be a value, **those are set that are to be handed on**. -/
theorem mem_fields_iff {t : Target} {key text : String} :
    (key, some text) ∈ t.fields ↔ t.Forwards key text := by
  rw [fields, List.mem_append, mem_extras_iff, List.mem_map]
  constructor
  · rintro (⟨⟨param, name⟩, hn, heq⟩ | ⟨rfl, hgiven⟩ | ⟨m, rfl, rfl, hgiven | ⟨hname, hgiven⟩⟩)
    · obtain ⟨rfl, hvalue⟩ := Prod.mk.inj heq
      obtain ⟨names, hnames, hname⟩ := List.mem_flatten.mp hn
      exact .name hnames hname (nonBlank?_eq_some_iff.mp hvalue)
    · exact .signature hgiven
    · exact .shownMethod hgiven
    · exact .rawMethod hname hgiven
  · intro h
    cases h with
    | name hnames hname h =>
      refine Or.inl ⟨_, List.mem_flatten.mpr ⟨_, hnames, hname⟩, ?_⟩
      rw [nonBlank?_eq_some_iff.mpr h]
    | signature h => exact Or.inr (Or.inl ⟨rfl, h⟩)
    | shownMethod h => exact Or.inr (Or.inr ⟨_, rfl, rfl, Or.inl h⟩)
    | rawMethod hname h => exact Or.inr (Or.inr ⟨_, rfl, rfl, Or.inr ⟨hname, h⟩⟩)

/-- What is to be handed on is neither empty nor padded. -/
theorem Forwards.trimmed {t : Target} {key text : String} (h : t.Forwards key text) :
    text ≠ "" ∧ Text.trim text = text := by
  cases h with
  | name _ _ h | signature h | shownMethod h | rawMethod _ h => exact h.trimmed

/-- **Exactly what is to be handed on is handed on.** -/
theorem mem_params_iff {t : Target} {key text : String} :
    (key, text) ∈ t.params.pairs ↔ t.Forwards key text := by
  rw [params_eq, ParamsCall.mem_pairs_setOpts t.nodup_fields, mem_fields_iff]
  exact and_iff_left_of_imp fun h => h.trimmed.1

/-- No parameter of a target is named twice. -/
theorem nodup_keys_params (t : Target) : t.params.keys.Nodup := by
  rw [params_eq, ParamsCall.runAll_eq_assign]
  exact (Params.records_assign _).keys_nodup

/-- The parameters are those that **are forwarded** with some text. -/
theorem mem_keys_params_iff {t : Target} {key : String} :
    key ∈ t.params.keys ↔ ∃ text, t.Forwards key text := by
  rw [Params.keys, List.mem_map]
  constructor
  · rintro ⟨a, ha, rfl⟩
    exact ⟨a.2, mem_params_iff.mp ha⟩
  · rintro ⟨text, h⟩
    exact ⟨(key, text), mem_params_iff.mpr h, rfl⟩

/-- Every parameter is there for one value only. -/
theorem forwards_iff_of_mem_fields {t : Target} {key : String} {value : Option String}
    (h : (key, value) ∈ t.fields) {text : String} : t.Forwards key text ↔ value = some text := by
  rw [← mem_fields_iff]
  constructor
  · intro hmem
    exact (Prod.mk.inj (List.inj_on_of_nodup_map t.nodup_fields h hmem rfl)).2
  · rintro rfl
    exact h

/-- A field of a target is a parameter exactly if it has a value. -/
theorem mem_keys_params_iff_of_mem_fields {t : Target} {key : String} {value : Option String}
    (h : (key, value) ∈ t.fields) : key ∈ t.params.keys ↔ value.isSome := by
  rw [mem_keys_params_iff, Option.isSome_iff_exists]
  exact exists_congr fun text => forwards_iff_of_mem_fields h

/-- A name is handed on exactly if it is given. -/
theorem name_mem_keys_iff {t : Target} {names : Naming} (hnames : names ∈ t.namings)
    {n : String × Option String} (hn : n ∈ names) : n.1 ∈ t.params.keys ↔ IsGiven n.2 := by
  have hmem : (n.1, nonBlank? n.2) ∈ t.fields :=
    List.mem_append_left _ (List.mem_map_of_mem (List.mem_flatten.mpr ⟨names, hnames, hn⟩))
  rw [mem_keys_params_iff_of_mem_fields hmem, isSome_nonBlank?_iff]

/-- The signature is a parameter exactly if it is given. -/
theorem signature_mem_keys_iff (t : Target) :
    "method_signature" ∈ t.params.keys ↔ IsGiven t.signature := by
  cases t with
  | ofMethod t =>
    have hmem : ("method_signature", nonBlank? t.signature) ∈ (ofMethod t).fields :=
      List.mem_append_right _ (List.mem_cons_of_mem _ List.mem_cons_self)
    rw [mem_keys_params_iff_of_mem_fields hmem, isSome_nonBlank?_iff, signature]
  | ofClass t =>
    simp [mem_keys_params_iff, ← mem_fields_iff, fields, namings, classNaming, extras, signature,
      IsGiven]
  | ofField t =>
    simp [mem_keys_params_iff, ← mem_fields_iff, fields, namings, classNaming, extras, signature,
      IsGiven]

/-- Of a method the plain name is a field: `nonBlank? m.name <|> nonBlank? m.rawName`. -/
theorem method_mem_fields (m : MethodTarget) :
    ("method", nonBlank? m.name <|> nonBlank? m.rawName) ∈ (ofMethod m).fields :=
  List.mem_append_right _ List.mem_cons_self

/-- Of a method the plain name is a parameter exactly if **the name or the raw name is given**. -/
theorem method_mem_keys_iff (m : MethodTarget) :
    "method" ∈ (ofMethod m).params.keys ↔ IsGiven m.name ∨ IsGiven m.rawName := by
  rw [mem_keys_params_iff_of_mem_fields (method_mem_fields m), ← isSome_nonBlank?_iff,
    ← isSome_nonBlank?_iff]
  cases nonBlank? m.name <;> simp

/-- The plain name of a method is the shown one unless only the raw one is given. -/
theorem method_mem_pairs_iff (m : MethodTarget) {text : String} :
    ("method", text) ∈ (ofMethod m).params.pairs ↔
      GivenAs m.name text ∨ ¬ IsGiven m.name ∧ GivenAs m.rawName text := by
  rw [mem_params_iff, forwards_iff_of_mem_fields (method_mem_fields m), ← nonBlank?_eq_some_iff,
    ← nonBlank?_eq_some_iff, ← nonBlank?_eq_none_iff]
  cases nonBlank? m.name <;> simp

/-- The name that decides is among those that are handed on. -/
theorem forwards_of_decides {t : Target} {names : Naming} (hnames : names ∈ t.namings)
    {r : Resolved} (h : names.Decides r) : t.Forwards r.foundBy r.value := by
  obtain ⟨before, name, after, rfl, hgiven, -⟩ := h
  exact .name hnames (List.mem_append_right _ List.mem_cons_self) hgiven

end Target

/-! ### Main result -/

/-- **Resolving and forwarding agree**, for every class, method and field. A target is resolved
exactly if everything in it is named, the failure being about the first thing that is not; what is
found of each thing is the first name that is given. The parameters are distinct, none of them is
empty or padded, they are exactly those to be handed on, and what has been found is among them. -/
theorem target_resolved_and_forwarded (t : Target) :
    (((∃ found, t.resolve = .ok found) ↔ ∀ names ∈ t.namings, names.IsNamed) ∧
      ((¬ ∀ names ∈ t.namings, names.IsNamed) → ∃ before names after,
        t.namings = before ++ names :: after ∧ (∀ n ∈ before, n.IsNamed) ∧ ¬ names.IsNamed ∧
          t.resolve = .error (.invalidArgument names.request))) ∧
    (∀ found, t.resolve = .ok found →
      List.Forall₂ Naming.Decides t.namings found.winners ∧
        (∀ r ∈ found.winners, (r.foundBy, r.value) ∈ t.params.pairs) ∧
        ∀ text, found.signature = some text ↔ GivenAs t.signature text) ∧
    t.params.keys.Nodup ∧
    (∀ a ∈ t.params.pairs, a.2 ≠ "" ∧ Text.trim a.2 = a.2) ∧
    (∀ key text, (key, text) ∈ t.params.pairs ↔ t.Forwards key text) ∧
    (∀ names ∈ t.namings, ∀ n ∈ names, n.1 ∈ t.params.keys ↔ IsGiven n.2) ∧
    ("method_signature" ∈ t.params.keys ↔ IsGiven t.signature) ∧
    ∀ m, t = .ofMethod m →
      ("method" ∈ t.params.keys ↔ IsGiven m.name ∨ IsGiven m.rawName) ∧
        ∀ text, ("method", text) ∈ t.params.pairs ↔
          GivenAs m.name text ∨ ¬ IsGiven m.name ∧ GivenAs m.rawName text := by
  refine ⟨?_, ?_, t.nodup_keys_params, ?_, fun key text => Target.mem_params_iff,
    fun names hnames n hn => Target.name_mem_keys_iff hnames hn, t.signature_mem_keys_iff, ?_⟩
  · rcases t.resolvesTo with ⟨found, hfound, hdecides, -⟩ |
      ⟨before, names, after, ht, hbefore, hnot, herror⟩
    · have hnamed := Naming.isNamed_of_decides hdecides
      exact ⟨⟨fun _ => hnamed, fun _ => ⟨found, hfound⟩⟩, fun hnot => absurd hnamed hnot⟩
    · have hmem : names ∈ t.namings := ht ▸ List.mem_append_right _ List.mem_cons_self
      have hunnamed : ¬ ∀ n ∈ t.namings, n.IsNamed := fun h => hnot (h names hmem)
      refine ⟨⟨?_, fun h => absurd h hunnamed⟩,
        fun _ => ⟨before, names, after, ht, hbefore, hnot, herror⟩⟩
      rintro ⟨found, hfound⟩
      rw [herror] at hfound
      cases hfound
  · intro found hfound
    rcases t.resolvesTo with ⟨found', hfound', hdecides, hsignature⟩ | ⟨_, _, _, -, -, -, herror⟩
    · obtain rfl : found' = found := Except.ok.inj (hfound'.symm.trans hfound)
      refine ⟨hdecides, fun r hr => ?_, fun text => ?_⟩
      · obtain ⟨names, hnames, h⟩ := Naming.exists_decides hdecides r hr
        exact Target.mem_params_iff.mpr (Target.forwards_of_decides hnames h)
      · rw [hsignature, nonBlank?_eq_some_iff]
    · rw [herror] at hfound
      cases hfound
  · intro a ha
    exact (Target.mem_params_iff.mp ha).trimmed
  · rintro m rfl
    exact ⟨Target.method_mem_keys_iff m, fun text => Target.method_mem_pairs_iff m⟩

end CodePager
