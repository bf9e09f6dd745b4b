import CodePager.Tools.Tool

/-! # Searching tools

The tools that fit a query, best first. The words of the query are tallied on every tool, word by
word (`Tool.tallyWord`): each scores by the name of the tool, its summary, its keywords and its
category, and what it matched is noted once. Tools of equal score stay in the order in which they
are listed. -/

namespace CodePager

/-- Whether a list starts with another. -/
def startsWith : List Char → List Char → Bool
  | [], _ => true
  | _ :: _, [] => false
  | p :: ps, c :: cs => p == c && startsWith ps cs

/-- Whether a list stands somewhere in another. -/
def occursInList (pattern : List Char) : List Char → Bool
  | [] => pattern.isEmpty
  | c :: cs => startsWith pattern (c :: cs) || occursInList pattern cs

/-- Whether a text stands **somewhere in** another. -/
def occursIn (pattern text : String) : Bool := occursInList pattern.toList text.toList

/-- What some words come to on a tool: their score, and what they matched, each thing once. -/
structure Tally where
  score : Nat
  matched : List String

namespace Tally

/-- No words have been tallied. -/
def empty : Tally := ⟨0, []⟩

/-- Scores some points. -/
def add (sum : Tally) (points : Nat) : Tally := { sum with score := sum.score + points }

/-- Scores some points for a match, and notes what matched unless it has been noted. -/
def note (sum : Tally) (points : Nat) (what : String) : Tally :=
  { score := sum.score + points
    matched := if what ∈ sum.matched then sum.matched else sum.matched ++ [what] }

end Tally

namespace Tool

/-- Whether a word fits a keyword: one of them is part of the other. -/
def fitsKeyword (word keyword : String) : Bool := occursIn word keyword || occursIn keyword word

/-- Tallies one more word: ten for the name, five for the summary, three for each keyword that it
fits, and two for the category. -/
def tallyWord (t : Tool) (sum : Tally) (word : String) : Tally :=
  let sum := if occursIn word (Text.lowerCase t.info.name) then sum.note 10 "name match" else sum
  let sum := if occursIn word (Text.lowerCase t.info.summary) then sum.add 5 else sum
  let sum := t.info.keywords.foldl
    (fun sum keyword => if fitsKeyword word keyword then sum.note 3 keyword else sum) sum
  if occursIn word t.info.category.name then sum.note 2 t.info.category.name else sum

/-- Tallies words, one after the other. -/
def tally (t : Tool) (words : List String) : Tally := words.foldl t.tallyWord .empty

/-- The words of a query, in lower case. -/
def queryWords (query : String) : List String := Text.words (Text.lowerCase query)

/-- The tools that some word of a query fits, **best first**, at most `limit` of them, each with
what matched. -/
def search (query : String) (limit : Nat) : List (Tool × List String) :=
  let words := queryWords query
  let found := all.filterMap fun t =>
    let sum := t.tally words
    if 0 < sum.score then some (t, sum) else none
  let ranked := found.mergeSort fun a b => b.2.score ≤ a.2.score
  (ranked.take limit).map fun p => (p.1, p.2.matched)

end Tool

end CodePager
