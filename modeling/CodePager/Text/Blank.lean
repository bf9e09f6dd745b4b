/-! # Blank characters

Which characters count as blank, trimming, and the words of a text. The class is the Unicode
property `White_Space`; a zero-width space and a byte order mark are not in it. `trim` and `words`
are the two readings of user input that depend on it, and `trim_eq_empty_iff` says that a text
trims to nothing exactly when it is blank throughout. -/

namespace CodePager.Text

/-- The characters with the Unicode property **`White_Space`**. -/
def isBlank (c : Char) : Bool :=
  let n := c.toNat
  (0x09 ≤ n && n ≤ 0x0D) || n == 0x20 || n == 0x85 || n == 0xA0 || n == 0x1680 ||
    (0x2000 ≤ n && n ≤ 0x200A) || n == 0x2028 || n == 0x2029 || n == 0x202F || n == 0x205F ||
    n == 0x3000

/-- A list of characters without its leading and trailing blanks. -/
def trimList (cs : List Char) : List Char :=
  ((cs.dropWhile isBlank).reverse.dropWhile isBlank).reverse

/-- A text without its leading and trailing blanks. -/
def trim (s : String) : String := String.ofList (trimList s.toList)

/-- Whether a text consists of blanks only. -/
def isBlankText (s : String) : Bool := s.toList.all isBlank

/-- The maximal runs of non-blank characters of a list, in order. -/
def wordsOf (cs : List Char) : List (List Char) := (cs.splitOnP isBlank).filter (· ≠ [])

/-- The **words** of a text: its maximal runs of non-blank characters, in order. -/
def words (s : String) : List String := (wordsOf s.toList).map String.ofList

/-- Dropping blanks from the front leaves nothing exactly when all is blank. -/
theorem dropWhile_isBlank_eq_nil_iff (cs : List Char) :
    cs.dropWhile isBlank = [] ↔ cs.all isBlank = true := by
  induction cs with
  | nil => simp
  | cons c cs ih => by_cases h : isBlank c = true <;> simp_all

/-- Dropping blanks from the front keeps a list that is not blank throughout so. -/
theorem all_isBlank_dropWhile (cs : List Char) :
    (cs.dropWhile isBlank).all isBlank = cs.all isBlank := by
  induction cs with
  | nil => simp
  | cons c cs ih =>
    by_cases h : isBlank c = true
    · simp [h, ih]
    · simp [h]

/-- A trimmed list is empty exactly when the list is blank throughout. -/
theorem trimList_eq_nil_iff (cs : List Char) : trimList cs = [] ↔ cs.all isBlank = true := by
  rw [trimList, List.reverse_eq_nil_iff, dropWhile_isBlank_eq_nil_iff, List.all_reverse,
    all_isBlank_dropWhile]

/-- A text trims to nothing exactly when it is blank throughout. -/
theorem trim_eq_empty_iff (s : String) : trim s = "" ↔ isBlankText s = true := by
  rw [isBlankText, ← trimList_eq_nil_iff, trim]
  constructor
  · intro h
    simpa using congrArg String.toList h
  · intro h
    simp [h]

end CodePager.Text
