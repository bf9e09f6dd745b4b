import CodePager.Text.Blank
import Mathlib.Data.List.Basic

/-! # Cutting a text into words

The words of a text are told apart from the split that finds them: `HasWords` reads a list of
characters as blanks, a word, blanks, a word and so on, where a word is a **maximal run** of
characters that are not blank. **Every text has words in exactly one way**
(`Text.areWordsOf_iff`). -/

namespace CodePager.Text

/-- A list of characters **has words** between its blanks. -/
inductive HasWords : List Char → List (List Char) → Prop
  /-- Blanks have no words. -/
  | blanks {gap : List Char} (hgap : ∀ c ∈ gap, isBlank c = true) : HasWords gap []
  /-- Behind blanks a word goes up to the end or to the next blank, and the other words follow. -/
  | word {gap w rest : List Char} {ws : List (List Char)} (hgap : ∀ c ∈ gap, isBlank c = true)
      (hne : w ≠ []) (hw : ∀ c ∈ w, isBlank c = false)
      (hend : ∀ c ∈ rest.head?, isBlank c = true) (hrest : HasWords rest ws) :
      HasWords (gap ++ w ++ rest) (w :: ws)

/-- Texts **are the words of** a text: all of them, in their order. -/
def AreWordsOf (text : String) (ws : List String) : Prop :=
  HasWords text.toList (ws.map String.toList)

section Characters

variable {gap w rest cs : List Char} {ws : List (List Char)}

/-- Blanks in front add no words: `wordsOf (gap ++ cs) = wordsOf cs`. -/
theorem wordsOf_blanks_append (hgap : ∀ c ∈ gap, isBlank c = true) (cs : List Char) :
    wordsOf (gap ++ cs) = wordsOf cs := by
  induction gap with
  | nil => rfl
  | cons c gap ih =>
    rw [List.forall_mem_cons] at hgap
    rw [← ih hgap.2, wordsOf, List.cons_append, List.splitOnP_cons_eq_if_modifyHead, if_pos hgap.1]
    rfl

/-- Nothing but blanks has no words: `wordsOf gap = []`. -/
theorem wordsOf_blanks (hgap : ∀ c ∈ gap, isBlank c = true) : wordsOf gap = [] := by
  have hnone := wordsOf_blanks_append hgap []
  rwa [List.append_nil] at hnone

/-- A run without a blank is one word: `wordsOf w = [w]`. -/
theorem wordsOf_run (hne : w ≠ []) (hw : ∀ c ∈ w, isBlank c = false) : wordsOf w = [w] := by
  rw [wordsOf, List.splitOnP_eq_singleton hw]
  simp [hne]

/-- **A run that ends before a blank** is the first word: `wordsOf (w ++ rest) = w :: wordsOf rest`,
where `rest` is empty or goes on with a blank. -/
theorem wordsOf_run_append (hne : w ≠ []) (hw : ∀ c ∈ w, isBlank c = false)
    (hend : ∀ c ∈ rest.head?, isBlank c = true) : wordsOf (w ++ rest) = w :: wordsOf rest := by
  cases rest with
  | nil => rw [List.append_nil, wordsOf_run hne hw]; rfl
  | cons c rest =>
    have hblank : isBlank c = true := hend c rfl
    have hskip : wordsOf (c :: rest) = wordsOf rest :=
      @wordsOf_blanks_append [c] (by simpa using hblank) rest
    rw [hskip, wordsOf, List.splitOnP_append_cons w rest hblank, List.filter_append]
    exact congrArg (· ++ wordsOf rest) (wordsOf_run hne hw)

/-- There is **no other way** to have words: `wordsOf cs = ws` for any words `ws` of `cs`. -/
theorem HasWords.wordsOf_eq (h : HasWords cs ws) : wordsOf cs = ws := by
  induction h with
  | blanks hgap => exact wordsOf_blanks hgap
  | word hgap hne hw hend hrest ih =>
    rw [List.append_assoc, wordsOf_blanks_append hgap, wordsOf_run_append hne hw hend, ih]

/-- A blank in front leaves the words as they are. -/
theorem HasWords.cons_blank {c : Char} (h : HasWords cs ws) (hc : isBlank c = true) :
    HasWords (c :: cs) ws := by
  cases h with
  | blanks hgap => exact .blanks (List.forall_mem_cons.mpr ⟨hc, hgap⟩)
  | @word gap w rest ws hgap hne hw hend hrest =>
    show HasWords (c :: gap ++ w ++ rest) (w :: ws)
    exact .word (List.forall_mem_cons.mpr ⟨hc, hgap⟩) hne hw hend hrest

/-- Any other character in front **joins the first word**, or is a word of its own before a
blank. -/
theorem HasWords.cons_letter {c : Char} (h : HasWords cs ws) (hc : isBlank c = false) :
    ∃ ws', HasWords (c :: cs) ws' := by
  have hnone : ∀ d ∈ ([] : List Char), isBlank d = true := fun d hd => absurd hd List.not_mem_nil
  have hone : ∀ d ∈ [c], isBlank d = false := by simpa using hc
  have hall := h
  cases h with
  | blanks hgap =>
    refine ⟨_, HasWords.word hnone (List.cons_ne_nil c []) hone ?_ hall⟩
    exact fun d hd => hgap d (List.mem_of_head? hd)
  | @word gap w rest ws hgap hne hw hend hrest =>
    cases gap with
    | nil =>
      have hlonger : ∀ d ∈ c :: w, isBlank d = false := List.forall_mem_cons.mpr ⟨hc, hw⟩
      exact ⟨_, HasWords.word hnone (List.cons_ne_nil c w) hlonger hend hrest⟩
    | cons d gap =>
      refine ⟨_, HasWords.word hnone (List.cons_ne_nil c []) hone ?_ hall⟩
      rintro e ⟨⟩
      exact hgap d List.mem_cons_self

/-- Every list of characters **has some words**. -/
theorem exists_hasWords (cs : List Char) : ∃ ws, HasWords cs ws := by
  induction cs with
  | nil => exact ⟨[], .blanks fun c hc => absurd hc List.not_mem_nil⟩
  | cons c cs ih =>
    obtain ⟨ws, h⟩ := ih
    by_cases hc : isBlank c = true
    · exact ⟨ws, h.cons_blank hc⟩
    · exact h.cons_letter (Bool.eq_false_iff.mpr hc)

/-- **A list of characters has words in one way**: those of `wordsOf cs`. -/
theorem hasWords_iff : HasWords cs ws ↔ ws = wordsOf cs := by
  constructor
  · exact fun h => h.wordsOf_eq.symm
  · rintro rfl
    obtain ⟨ws, h⟩ := exists_hasWords cs
    exact h.wordsOf_eq ▸ h

end Characters

/-- **The words of a text are the only ones** that it has: `words text`. -/
theorem areWordsOf_iff {text : String} {ws : List String} :
    AreWordsOf text ws ↔ ws = words text := by
  rw [AreWordsOf, hasWords_iff]
  constructor
  · intro h
    rw [words, ← h, List.map_map]
    exact (List.map_id'' (fun s => String.ofList_toList) ws).symm
  · rintro rfl
    rw [words, List.map_map]
    exact List.map_id'' (fun cs => String.toList_ofList) _

end CodePager.Text
