/-! # Lines

The lines of a text, each with its line feed. `linesOf` splits after every line feed;
`join_lines` says that the lines make up the text again. -/

namespace CodePager.Text

/-- Puts a character before the first line of a list of lines; a line feed is a line of its own. -/
def consLine (c : Char) (lines : List (List Char)) : List (List Char) :=
  if c = '\n' then ['\n'] :: lines
  else
    match lines with
    | [] => [[c]]
    | line :: rest => (c :: line) :: rest

/-- The **lines** of a list of characters: it is cut after every line feed, and what follows the
last one is a line if it is not empty. -/
def linesOf (cs : List Char) : List (List Char) := cs.foldr consLine []

/-- The lines of a text, with their line feeds. -/
def lines (s : String) : List String := (linesOf s.toList).map String.ofList

/-- Nothing has no lines: `linesOf [] = []`. -/
@[simp] theorem linesOf_nil : linesOf [] = [] := rfl

/-- A character in front of others goes before the first of their lines. -/
theorem linesOf_cons (c : Char) (cs : List Char) :
    linesOf (c :: cs) = consLine c (linesOf cs) := rfl

/-- A character is put **before all others**: `(consLine c ls).flatten = c :: ls.flatten`. -/
theorem flatten_consLine (c : Char) (ls : List (List Char)) :
    (consLine c ls).flatten = c :: ls.flatten := by
  unfold consLine
  split
  · subst_vars
    simp
  · cases ls <;> simp

/-- The lines of a list of characters joined again give the list. -/
theorem flatten_linesOf (cs : List Char) : (linesOf cs).flatten = cs := by
  induction cs with
  | nil => rfl
  | cons c cs ih => rw [linesOf_cons, flatten_consLine, ih]

/-- The lines of a text joined again give the text. -/
theorem join_lines (s : String) : String.join (lines s) = s := by
  apply String.toList_injective
  rw [String.toList_join, lines, List.flatMap_map]
  simp [List.flatMap, flatten_linesOf]

end CodePager.Text
