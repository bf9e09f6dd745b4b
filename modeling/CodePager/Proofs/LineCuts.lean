import CodePager.Cache.Units
import Mathlib.Data.List.Basic

/-! # Cutting a text into lines

The units of a text are told apart from the walk over its characters that finds them:
`CutsIntoLines` says what the lines of a text are, by what each of them looks like and by what they
make up together. **Every text is cut in exactly one way**, which is the one of its units
(`Units.ofText_cuts`), so its lines can be counted by its line feeds, and a text that ends with a
line feed is cut apart from what follows it. -/

namespace CodePager

namespace Text

/-- Lists of characters **are lines**: none of them is empty, all but the last end with a line feed,
and none has a line feed before its end. -/
structure AreLines (ls : List (List Char)) : Prop where
  ne_nil : ∀ l ∈ ls, l ≠ []
  ends : ∀ l ∈ ls.dropLast, l.getLast? = some '\n'
  inner : ∀ l ∈ ls, '\n' ∉ l.dropLast

/-- A list of texts **cuts a text into lines**: they are lines, and make up the text. -/
structure CutsIntoLines (text : String) (ls : List String) : Prop where
  join : String.join ls = text
  lines : AreLines (ls.map String.toList)

/-- A list of characters is **terminated** if no line is open at its end: it is empty or ends with a
line feed. -/
def IsTerminated (cs : List Char) : Prop := cs = [] ∨ cs.getLast? = some '\n'

instance (cs : List Char) : Decidable (IsTerminated cs) := inferInstanceAs (Decidable (_ ∨ _))

/-! ### Lists of characters -/

section Characters

variable {c : Char} {cs line : List Char} {ls : List (List Char)}

/-- Lines told from the first of them. -/
theorem areLines_cons_iff :
    AreLines (line :: ls) ↔
      (line ≠ [] ∧ '\n' ∉ line.dropLast ∧ (ls ≠ [] → line.getLast? = some '\n')) ∧ AreLines ls := by
  constructor
  · rintro ⟨hne, hends, hinner⟩
    rw [List.forall_mem_cons] at hne hinner
    refine ⟨⟨hne.1, hinner.1, fun hls => ?_⟩, hne.2, fun l hl => ?_, hinner.2⟩
    · rw [List.dropLast_cons_of_ne_nil hls] at hends
      exact hends line List.mem_cons_self
    · have hls : ls ≠ [] := by
        rintro rfl
        exact absurd hl List.not_mem_nil
      rw [List.dropLast_cons_of_ne_nil hls] at hends
      exact hends l (List.mem_cons_of_mem line hl)
  · rintro ⟨⟨hne, hinner, hend⟩, hrest⟩
    refine ⟨List.forall_mem_cons.mpr ⟨hne, hrest.ne_nil⟩, ?_,
      List.forall_mem_cons.mpr ⟨hinner, hrest.inner⟩⟩
    by_cases hls : ls = []
    · simp [hls]
    · rw [List.dropLast_cons_of_ne_nil hls]
      exact List.forall_mem_cons.mpr ⟨hend hls, hrest.ends⟩

/-- No lines are lines. -/
theorem areLines_nil : AreLines [] := ⟨by simp, by simp, by simp⟩

/-- A list with a first character is terminated if the rest is, or if the character is a line feed
and all there is. -/
theorem isTerminated_cons :
    IsTerminated (c :: cs) ↔ if cs = [] then c = '\n' else IsTerminated cs := by
  by_cases hcs : cs = []
  · simp [IsTerminated, hcs]
  · simp [IsTerminated, hcs, List.getLast?_cons_of_ne_nil hcs]

/-- A line feed before lines is **a line of its own**: `['\n'] :: ls`. -/
theorem consLine_feed (ls : List (List Char)) : consLine '\n' ls = ['\n'] :: ls := if_pos rfl

/-- Any other character before no lines is the only line: `[[c]]`. -/
theorem consLine_nil (hc : c ≠ '\n') : consLine c [] = [[c]] := if_neg hc

/-- Any other character joins the first line: `(c :: line) :: ls`. -/
theorem consLine_cons (hc : c ≠ '\n') : consLine c (line :: ls) = (c :: line) :: ls := if_neg hc

/-- Only the empty list has no lines. -/
theorem linesOf_eq_nil_iff : linesOf cs = [] ↔ cs = [] := by
  cases cs with
  | nil => simp
  | cons c cs =>
    have hne : linesOf (c :: cs) ≠ [] := by
      intro h
      have := flatten_linesOf (c :: cs)
      simp [h] at this
    simp [hne]

/-- Putting a character before lines gives **lines again**. -/
theorem AreLines.consLine (h : AreLines ls) (c : Char) : AreLines (consLine c ls) := by
  by_cases hc : c = '\n'
  · subst hc
    rw [consLine_feed, areLines_cons_iff]
    exact ⟨by simp, h⟩
  cases ls with
  | nil =>
    rw [consLine_nil hc, areLines_cons_iff]
    exact ⟨by simp, areLines_nil⟩
  | cons line ls =>
    obtain ⟨⟨hne, hinner, hend⟩, hrest⟩ := areLines_cons_iff.mp h
    rw [consLine_cons hc, areLines_cons_iff, List.dropLast_cons_of_ne_nil hne,
      List.getLast?_cons_of_ne_nil hne]
    exact ⟨⟨List.cons_ne_nil _ _, by simp [Ne.symm hc, hinner], hend⟩, hrest⟩

/-- A list of characters **is cut into lines**: `AreLines (linesOf cs)`. -/
theorem areLines_linesOf (cs : List Char) : AreLines (linesOf cs) := by
  induction cs with
  | nil => exact areLines_nil
  | cons c cs ih => exact ih.consLine c

/-- A list that is terminated is cut **apart from what follows**. -/
theorem linesOf_append (h : IsTerminated cs) (more : List Char) :
    linesOf (cs ++ more) = linesOf cs ++ linesOf more := by
  induction cs with
  | nil => rfl
  | cons c cs ih =>
    rw [isTerminated_cons] at h
    rw [List.cons_append, linesOf_cons, linesOf_cons]
    by_cases hcs : cs = []
    · -- The line feed at the end is a line of its own before what follows.
      rw [if_pos hcs] at h
      subst hcs h
      simp [consLine_feed]
    · rw [if_neg hcs] at h
      rw [ih h]
      -- A character is put before the first line, whatever follows that.
      obtain ⟨line, others, hlines⟩ := List.exists_cons_of_ne_nil (mt linesOf_eq_nil_iff.mp hcs)
      rw [hlines]
      by_cases hc : c = '\n'
      · subst hc
        simp [consLine_feed]
      · simp [consLine_cons hc]

/-- Without a line feed before its end, a list is **one line**. -/
theorem linesOf_of_inner (hne : cs ≠ []) (h : '\n' ∉ cs.dropLast) : linesOf cs = [cs] := by
  induction cs with
  | nil => exact absurd rfl hne
  | cons c cs ih =>
    rw [linesOf_cons]
    by_cases hcs : cs = []
    · subst hcs
      by_cases hc : c = '\n' <;> simp [consLine, hc]
    · rw [List.dropLast_cons_of_ne_nil hcs, List.mem_cons, not_or] at h
      rw [ih hcs h.2, consLine_cons (Ne.symm h.1)]

/-- Lines are **found again** in what they make up. -/
theorem AreLines.linesOf_flatten (h : AreLines ls) : linesOf ls.flatten = ls := by
  induction ls with
  | nil => rfl
  | cons line ls ih =>
    obtain ⟨⟨hne, hinner, hend⟩, hrest⟩ := areLines_cons_iff.mp h
    have hfirst : linesOf line = [line] := linesOf_of_inner hne hinner
    by_cases hls : ls = []
    · simp [hls, hfirst]
    · rw [List.flatten_cons, linesOf_append (Or.inr (hend hls)), hfirst, ih hrest]
      rfl

/-- There are as many lines as **line feeds**, and one more if a line is open at the end. -/
theorem length_linesOf (cs : List Char) :
    (linesOf cs).length = cs.count '\n' + if IsTerminated cs then 0 else 1 := by
  induction cs with
  | nil => simp [IsTerminated]
  | cons c cs ih =>
    rw [linesOf_cons]
    by_cases hcs : cs = []
    · subst hcs
      by_cases hc : c = '\n' <;> simp [consLine, hc, isTerminated_cons]
    · obtain ⟨line, others, hlines⟩ := List.exists_cons_of_ne_nil (mt linesOf_eq_nil_iff.mp hcs)
      rw [hlines, List.length_cons] at ih
      simp only [isTerminated_cons, if_neg hcs, hlines]
      by_cases hc : c = '\n'
      · subst hc
        rw [consLine_feed, List.count_cons_self, List.length_cons, List.length_cons, ih]
        omega
      · rw [consLine_cons hc, List.count_cons_of_ne hc, List.length_cons, ih]

end Characters

/-! ### Texts -/

/-- **The lines of a text are the only ones** that it is cut into. -/
theorem cutsIntoLines_iff {text : String} {ls : List String} :
    CutsIntoLines text ls ↔ ls = lines text := by
  have hlines : (lines text).map String.toList = linesOf text.toList := by
    simp [lines]
  constructor
  · rintro ⟨rfl, h⟩
    apply (List.map_injective_iff.mpr fun _ _ => String.toList_injective)
    rw [hlines, String.toList_join, List.flatMap_def]
    exact h.linesOf_flatten.symm
  · rintro rfl
    exact ⟨join_lines text, hlines ▸ areLines_linesOf text.toList⟩

/-- What follows a terminated text is cut apart from it: `lines text ++ lines more`. -/
theorem lines_append {text : String} (h : IsTerminated text.toList) (more : String) :
    lines (text ++ more) = lines text ++ lines more := by
  rw [lines, String.toList_append, linesOf_append h, List.map_append]
  rfl

end Text

/-! ### Main result -/

namespace Units

open Text

/-- **Cutting a text into lines loses nothing and leaves no choice.** The units of a text are lines
that make it up, and no other list of lines does. There are as many as line feeds in the text, and
one more if a line is open at its end; together they are the text again. What follows a text that is
terminated is cut as if it stood alone. -/
theorem ofText_cuts (text : String) :
    (∃ ls, ofText text = .lines ls ∧ ∀ ls', CutsIntoLines text ls' ↔ ls' = ls) ∧
      (ofText text).length =
        text.toList.count '\n' + (if text ≠ "" ∧ text.toList.getLast? ≠ some '\n' then 1 else 0) ∧
      (ofText text).content = .text text ∧
      ∀ more ls ls', IsTerminated text.toList → ofText text = .lines ls → ofText more = .lines ls' →
        ofText (text ++ more) = .lines (ls ++ ls') := by
  refine ⟨⟨Text.lines text, rfl, fun _ => cutsIntoLines_iff⟩, ?count, content_ofText text, ?append⟩
  case count =>
    have hopen : (text ≠ "" ∧ text.toList.getLast? ≠ some '\n') ↔ ¬ IsTerminated text.toList := by
      rw [IsTerminated, not_or, Ne, Ne, String.toList_eq_nil_iff]
    have hlength : (ofText text).length = (linesOf text.toList).length := List.length_map ..
    simp only [hopen, ite_not, hlength, length_linesOf]
  case append =>
    rintro more ls ls' hterminated ⟨⟩ ⟨⟩
    rw [ofText, lines_append hterminated]

/-- A text that ends with a blank line, behind a carriage return, and one that does not end with a
line feed: together they are cut into **the lines of both**. -/
theorem ofText_cuts_blank_line :
    IsTerminated "a\r\n\n".toList ∧ ofText "a\r\n\n" = .lines ["a\r\n", "\n"] ∧
      ofText "b" = .lines ["b"] ∧ ofText ("a\r\n\n" ++ "b") = .lines ["a\r\n", "\n", "b"] :=
  have hfirst : ofText "a\r\n\n" = .lines ["a\r\n", "\n"] := by cbv
  have hsecond : ofText "b" = .lines ["b"] := by cbv
  have hterminated : IsTerminated "a\r\n\n".toList := by decide
  ⟨hterminated, hfirst, hsecond, (ofText_cuts "a\r\n\n").2.2.2 "b" _ _ hterminated hfirst hsecond⟩

end Units

end CodePager
