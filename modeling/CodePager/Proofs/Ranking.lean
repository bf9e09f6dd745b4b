import CodePager.Proofs.WordCuts
import CodePager.Tools.Search
import Mathlib.Data.List.Infix
import Mathlib.Data.List.Nodup
import Mathlib.Algebra.BigOperators.Group.List.Basic
import Mathlib.Algebra.GroupWithZero.Nat

/-! # Ranking tools

What a search of the tools gives. Its words are those of the query in lower case
(`Text.areWordsOf_iff`). A word scores on a tool for itself (`Tool.wordScore`), and finds what it
finds there (`Tool.Finds`); words that are tallied one after the other **add to each other**
(`Tool.adds_tally`), so neither the order of the words nor the walk over them matters. The tools
that score are ranked by their scores, and among equal ones by their places in the list of all
tools: there is only one such ranking (`Tool.IsRanking.eq`), and a search gives **as much of it as
it may** (`Tool.search_ranked`). -/

namespace CodePager

/-! ### Texts that stand in others -/

/-- A text **stands in** another: the other has it as a run of consecutive characters. -/
def StandsIn (part text : String) : Prop := part.toList <:+: text.toList

/-- Starting with a list is having it as a prefix: `p <+: l`. -/
theorem startsWith_iff (p l : List Char) : startsWith p l = true ↔ p <+: l := by
  induction p generalizing l with
  | nil => simp [startsWith]
  | cons c p ih =>
    cases l with
    | nil => simp [startsWith]
    | cons d l => rw [startsWith, Bool.and_eq_true, beq_iff_eq, ih, List.cons_prefix_cons]

/-- Having a list somewhere is having it as an infix: `p <:+: l`. -/
theorem occursInList_iff (p l : List Char) : occursInList p l = true ↔ p <:+: l := by
  induction l with
  | nil => rw [occursInList, List.isEmpty_iff, List.infix_nil]
  | cons c l ih =>
    rw [occursInList, Bool.or_eq_true, startsWith_iff, ih, List.infix_cons_iff]

/-- The search for a part finds it **exactly if it stands in** the text. -/
theorem occursIn_iff (part text : String) : occursIn part text = true ↔ StandsIn part text :=
  occursInList_iff part.toList text.toList

instance (part text : String) : Decidable (StandsIn part text) :=
  decidable_of_iff _ (occursIn_iff part text)

/-- A text **stands in the lower-case form** of an ASCII text if it does so letter by letter. -/
theorem standsIn_lowerCase_iff {text : String} {cs : List Char} (htext : text = String.ofList cs)
    (hascii : ∀ c ∈ cs, c.toNat < 0x80) (word : List Char) :
    StandsIn (String.ofList word) (Text.lowerCase text) ↔
      occursInList word (cs.map Char.toLower) = true := by
  subst htext
  rw [occursInList_iff, StandsIn, Text.lowerCase, String.toList_ofList, String.toList_ofList,
    String.toList_ofList, Text.lowerCaseAfter_of_ascii [] hascii]

/-! ### Tallies that add up -/

namespace Tally

/-- One tally **adds to another** some points and what has been found. -/
structure Adds (points : Nat) (found : String → Prop) (sum total : Tally) : Prop where
  score_eq : total.score = sum.score + points
  mem_iff : ∀ what, what ∈ total.matched ↔ what ∈ sum.matched ∨ found what
  nodup : sum.matched.Nodup → total.matched.Nodup

namespace Adds

variable {points more : Nat} {found also : String → Prop} {sum total next : Tally}

/-- Adding nothing: no points, and nothing found. -/
theorem refl (sum : Tally) : Adds 0 (fun _ => False) sum sum :=
  ⟨rfl, fun _ => (or_false _).symm.to_iff, id⟩

/-- What is added by two steps is **added by both together**: `points + more`, and what either has
found. -/
theorem trans (h : Adds points found sum total) (h' : Adds more also total next) :
    Adds (points + more) (fun what => found what ∨ also what) sum next where
  score_eq := by rw [h'.score_eq, h.score_eq, Nat.add_assoc]
  mem_iff what := by rw [h'.mem_iff, h.mem_iff, or_assoc]
  nodup hnodup := h'.nodup (h.nodup hnodup)

/-- What has been found may be told in other words. -/
theorem congr (h : Adds points found sum total) (hfound : ∀ what, found what ↔ also what) :
    Adds points also sum total :=
  ⟨h.score_eq, fun what => by rw [h.mem_iff, hfound], h.nodup⟩

/-- Points alone add nothing that has been found. -/
theorem add (sum : Tally) (points : Nat) : Adds points (fun _ => False) sum (sum.add points) :=
  ⟨rfl, fun _ => (or_false _).symm.to_iff, id⟩

/-- What is noted is there afterwards, **once**. -/
theorem note (sum : Tally) (points : Nat) (what : String) :
    Adds points (· = what) sum (sum.note points what) := by
  refine ⟨rfl, fun x => ?_, fun hnodup => ?_⟩
  · by_cases hmem : what ∈ sum.matched
    · rw [Tally.note, if_pos hmem]
      constructor
      · exact Or.inl
      · rintro (h | rfl)
        · exact h
        · exact hmem
    · rw [Tally.note, if_neg hmem, List.mem_append, List.mem_singleton]
  · by_cases hmem : what ∈ sum.matched
    · rw [Tally.note, if_pos hmem]
      exact hnodup
    · rw [Tally.note, if_neg hmem]
      exact hnodup.append (List.nodup_singleton what) (by simpa using hmem)

/-- What is added only if something is so. -/
theorem ite {test : Bool} {p : Prop} [Decidable p] (htest : test = true ↔ p)
    (h : Adds points found sum total) :
    Adds (if p then points else 0) (fun what => p ∧ found what) sum
      (if test then total else sum) := by
  by_cases hp : p
  · rw [if_pos hp, if_pos (htest.mpr hp)]
    exact h.congr fun what => (and_iff_right hp).symm
  · rw [if_neg hp, if_neg (mt htest.mp hp)]
    exact (refl sum).congr fun what => ⟨False.elim, fun h => hp h.1⟩

end Adds

end Tally

namespace Tool

/-! ### Scores -/

/-- A word **fits** a keyword: one of them stands in the other. -/
def Fits (word keyword : String) : Prop := StandsIn word keyword ∨ StandsIn keyword word

instance (word keyword : String) : Decidable (Fits word keyword) :=
  inferInstanceAs (Decidable (_ ∨ _))

/-- The test for a keyword says whether the word **fits** it. -/
theorem fitsKeyword_iff (word keyword : String) :
    fitsKeyword word keyword = true ↔ Fits word keyword := by
  rw [fitsKeyword, Bool.or_eq_true, occursIn_iff, occursIn_iff, Fits]

/-- What a word **scores by itself**: ten for the name, five for the summary, three for each keyword
that it fits, and two for the category. -/
def wordScore (t : Tool) (word : String) : Nat :=
  (if StandsIn word (Text.lowerCase t.info.name) then 10 else 0) +
    (if StandsIn word (Text.lowerCase t.info.summary) then 5 else 0) +
    3 * t.info.keywords.countP (fun keyword => Fits word keyword) +
    (if StandsIn word t.info.category.name then 2 else 0)

/-- What a word scores on a tool that is **described in ASCII**, letter by letter. -/
theorem wordScore_of_ascii {t : Tool} {name summary : List Char}
    (hname : t.info.name = String.ofList name) (hsummary : t.info.summary = String.ofList summary)
    (hascii : ((name ++ summary).all fun c => c.toNat < 0x80) = true) (word : List Char) :
    t.wordScore (String.ofList word) =
      (if occursInList word (name.map Char.toLower) then 10 else 0) +
        (if occursInList word (summary.map Char.toLower) then 5 else 0) +
        3 * t.info.keywords.countP (fitsKeyword (String.ofList word)) +
        (if occursIn (String.ofList word) t.info.category.name then 2 else 0) := by
  have hall : ∀ c ∈ name ++ summary, c.toNat < 0x80 := fun c hc =>
    of_decide_eq_true (List.all_eq_true.mp hascii c hc)
  rw [List.forall_mem_append] at hall
  simp only [wordScore, standsIn_lowerCase_iff hname hall.1,
    standsIn_lowerCase_iff hsummary hall.2, occursIn_iff, ← fitsKeyword_iff, Bool.decide_eq_true]

/-- What a word **finds** on a tool: the name, a keyword or the category. -/
def Finds (t : Tool) (word what : String) : Prop :=
  (StandsIn word (Text.lowerCase t.info.name) ∧ what = "name match") ∨
    (what ∈ t.info.keywords ∧ Fits word what) ∨
    (StandsIn word t.info.category.name ∧ what = t.info.category.name)

/-- The keywords add three points for each that the word fits, and these keywords. -/
theorem adds_keywords (word : String) (keywords : List String) (sum : Tally) :
    Tally.Adds (3 * keywords.countP fun keyword => Fits word keyword)
      (fun what => what ∈ keywords ∧ Fits word what) sum
      (keywords.foldl
        (fun sum keyword => if fitsKeyword word keyword then sum.note 3 keyword else sum) sum) := by
  induction keywords generalizing sum with
  | nil => exact (Tally.Adds.refl sum).congr fun what => by simp
  | cons keyword rest ih =>
    have hone := (Tally.Adds.note sum 3 keyword).ite (fitsKeyword_iff word keyword)
    have hall := hone.trans (ih _)
    have hpoints : (3 * (keyword :: rest).countP fun keyword => Fits word keyword) =
        (if Fits word keyword then 3 else 0) +
          3 * rest.countP fun keyword => Fits word keyword := by
      rw [List.countP_cons, Nat.mul_add, Nat.add_comm]
      by_cases hfits : Fits word keyword <;> simp [hfits]
    rw [hpoints]
    refine hall.congr fun what => ?_
    rw [List.mem_cons]
    constructor
    · rintro (⟨hfits, rfl⟩ | ⟨hmem, hfits⟩)
      · exact ⟨Or.inl rfl, hfits⟩
      · exact ⟨Or.inr hmem, hfits⟩
    · rintro ⟨rfl | hmem, hfits⟩
      · exact Or.inl ⟨hfits, rfl⟩
      · exact Or.inr ⟨hmem, hfits⟩

/-- **One word** adds what it scores by itself, and what it finds. -/
theorem adds_tallyWord (t : Tool) (sum : Tally) (word : String) :
    Tally.Adds (t.wordScore word) (t.Finds word) sum (t.tallyWord sum word) := by
  have hname := fun sum : Tally => (Tally.Adds.note sum 10 "name match").ite
    (occursIn_iff word (Text.lowerCase t.info.name))
  have hsummary := fun sum : Tally => (Tally.Adds.add sum 5).ite
    (occursIn_iff word (Text.lowerCase t.info.summary))
  have hcategory := fun sum : Tally => (Tally.Adds.note sum 2 t.info.category.name).ite
    (occursIn_iff word t.info.category.name)
  have hall := (((hname sum).trans (hsummary _)).trans
    (adds_keywords word t.info.keywords _)).trans (hcategory _)
  refine hall.congr fun what => ?_
  simp only [Finds, and_false, or_false, or_assoc]

/-- **A run of words** adds what each of them adds. -/
theorem adds_foldl_tallyWord (t : Tool) (words : List String) (sum : Tally) :
    Tally.Adds (words.map t.wordScore).sum (fun what => ∃ word ∈ words, t.Finds word what) sum
      (words.foldl t.tallyWord sum) := by
  induction words generalizing sum with
  | nil => exact (Tally.Adds.refl sum).congr fun what => by simp
  | cons word rest ih =>
    have hall := (t.adds_tallyWord sum word).trans (ih (t.tallyWord sum word))
    rw [List.map_cons, List.sum_cons]
    exact hall.congr fun what => by simp

/-- A tally from the beginning has the sum of what the words score by themselves, and what some word
finds. -/
theorem adds_tally (t : Tool) (words : List String) :
    Tally.Adds (words.map t.wordScore).sum (fun what => ∃ word ∈ words, t.Finds word what) .empty
      (t.tally words) :=
  t.adds_foldl_tallyWord words .empty

/-- **Scores add up**: `(t.tally words).score = (words.map t.wordScore).sum`. -/
theorem score_tally (t : Tool) (words : List String) :
    (t.tally words).score = (words.map t.wordScore).sum :=
  (t.adds_tally words).score_eq.trans (Nat.zero_add _)

/-- One word alone scores what it scores by itself: `t.wordScore word`. -/
theorem score_tally_singleton (t : Tool) (word : String) :
    (t.tally [word]).score = t.wordScore word := by
  rw [score_tally, List.map_singleton, List.sum_singleton]

/-- What has matched is **what some word finds**. -/
theorem mem_matched_iff (t : Tool) (words : List String) (what : String) :
    what ∈ (t.tally words).matched ↔ ∃ word ∈ words, t.Finds word what := by
  rw [(t.adds_tally words).mem_iff]
  exact or_iff_right List.not_mem_nil

/-- Nothing is noted twice: `(t.tally words).matched.Nodup`. -/
theorem nodup_matched (t : Tool) (words : List String) : (t.tally words).matched.Nodup :=
  (t.adds_tally words).nodup List.nodup_nil

/-! ### Rankings -/

/-- A tool goes **ahead** of another: it scores more, or as much and is listed first. -/
def Ahead (score : Tool → Nat) (t u : Tool) : Prop :=
  score u < score t ∨ (score t = score u ∧ all.idxOf t < all.idxOf u)

instance (score : Tool → Nat) : DecidableRel (Ahead score) := fun _ _ =>
  inferInstanceAs (Decidable (_ ∨ _))

/-- A **ranking**: the tools that score, each once, and each ahead of those after it. -/
structure IsRanking (score : Tool → Nat) (ranked : List Tool) : Prop where
  nodup : ranked.Nodup
  mem_iff : ∀ t, t ∈ ranked ↔ 0 < score t
  ordered : ranked.Pairwise (Ahead score)

/-- Of two tools one at most goes ahead of the other. -/
theorem Ahead.asymm {score : Tool → Nat} {t u : Tool} (h : Ahead score t u) :
    ¬ Ahead score u t := by
  unfold Ahead at *
  omega

/-- Scores have **one ranking**. -/
theorem IsRanking.eq {score : Tool → Nat} {ranked ranked' : List Tool}
    (h : IsRanking score ranked) (h' : IsRanking score ranked') : ranked = ranked' := by
  have hperm : ranked.Perm ranked' :=
    (List.perm_ext_iff_of_nodup h.nodup h'.nodup).mpr fun t => by rw [h.mem_iff, h'.mem_iff]
  exact hperm.eq_of_pairwise (fun t u _ _ htu hut => absurd hut htu.asymm) h.ordered h'.ordered

/-- No tool is listed twice. -/
theorem nodup_all : all.Nodup := by decide

/-- Tools stand in the list by their places in it. -/
theorem pairwise_all : all.Pairwise fun t u => all.idxOf t < all.idxOf u := by
  rw [List.pairwise_iff_getElem]
  intro i j hi hj hij
  rwa [nodup_all.idxOf_getElem i hi, nodup_all.idxOf_getElem j hj]

/-- The tools that score, **sorted** by their scores. -/
def ranking (score : Tool → Nat) : List Tool :=
  (all.filter fun t => 0 < score t).mergeSort fun t u => score u ≤ score t

section Sorting

variable (score : Tool → Nat)

/-- Comparing scores is transitive, in the form that sorting asks for. -/
theorem score_trans (t u v : Tool) (htu : decide (score u ≤ score t) = true)
    (huv : decide (score v ≤ score u) = true) : decide (score v ≤ score t) = true :=
  decide_eq_true ((of_decide_eq_true huv).trans (of_decide_eq_true htu))

/-- Any two scores can be compared, in the form that sorting asks for. -/
theorem score_total (t u : Tool) :
    (decide (score u ≤ score t) || decide (score t ≤ score u)) = true := by
  rw [Bool.or_eq_true, decide_eq_true_eq, decide_eq_true_eq]
  exact Nat.le_total _ _

/-- Sorting keeps tools **of equal score** in the order in which they are listed. -/
theorem filter_ranking_sublist (n : Nat) :
    ((ranking score).filter fun t => score t = n).Sublist all := by
  let scored := all.filter fun t => 0 < score t
  let equal := scored.filter fun t => score t = n
  have hsorted : equal.Pairwise fun t u => decide (score u ≤ score t) = true := by
    refine List.pairwise_of_forall_mem_list fun t ht u hu => ?_
    have htn : score t = n := of_decide_eq_true (List.mem_filter.mp ht).2
    have hun : score u = n := of_decide_eq_true (List.mem_filter.mp hu).2
    exact decide_eq_true (by omega)
  -- They stand in this order among the sorted tools, and there are no others of this score.
  have hkept : equal.Sublist (ranking score) :=
    List.sublist_mergeSort (score_trans score) (score_total score) hsorted List.filter_sublist
  have hsub : equal.Sublist ((ranking score).filter fun t => score t = n) := by
    have hself : equal.filter (fun t => score t = n) = equal :=
      List.filter_eq_self.mpr fun t ht => (List.mem_filter.mp ht).2
    rw [← hself]
    exact hkept.filter _
  have hlength : equal.length = ((ranking score).filter fun t => score t = n).length :=
    ((List.mergeSort_perm scored _).filter _).length_eq.symm
  rw [← hsub.eq_of_length hlength]
  exact List.filter_sublist.trans List.filter_sublist

/-- Sorting the tools that score **ranks them**. -/
theorem isRanking_ranking : IsRanking score (ranking score) where
  nodup := (List.mergeSort_perm _ _).nodup_iff.mpr (nodup_all.filter _)
  mem_iff t := by
    rw [ranking, List.mem_mergeSort, List.mem_filter, decide_eq_true_eq]
    exact and_iff_right t.mem_all
  ordered := by
    rw [List.pairwise_iff_forall_sublist]
    intro t u htu
    have hle : score u ≤ score t := of_decide_eq_true <|
      List.pairwise_iff_forall_sublist.mp
        (List.pairwise_mergeSort (score_trans score) (score_total score) _) htu
    by_cases heq : score t = score u
    · have hpair : [t, u].filter (fun v => score v = score u) = [t, u] :=
        List.filter_eq_self.mpr (by simp [heq])
      have hlisted : [t, u].Sublist all := by
        rw [← hpair]
        exact (htu.filter _).trans (filter_ranking_sublist score (score u))
      exact Or.inr ⟨heq, List.pairwise_iff_forall_sublist.mp pairwise_all hlisted⟩
    · exact Or.inl (by omega)

end Sorting

/-! ### Main result -/

/-- What a search gives are **the first tools of the ranking**, with what the words matched on
each. -/
theorem search_eq (query : String) (limit : Nat) :
    search query limit =
      ((ranking fun t => (t.tally (queryWords query)).score).take limit).map
        fun t => (t, (t.tally (queryWords query)).matched) := by
  let words := queryWords query
  let tallied := fun t : Tool => (t, t.tally words)
  have hfound : (all.filterMap fun t =>
        if 0 < (t.tally words).score then some (t, t.tally words) else none) =
      (all.filter fun t => 0 < (t.tally words).score).map tallied := by
    rw [← List.filterMap_eq_filter, List.map_filterMap]
    refine List.filterMap_congr fun t _ => ?_
    by_cases hpos : 0 < (t.tally words).score <;> simp [Option.guard, hpos, tallied]
  have hsorted : ((all.filter fun t => 0 < (t.tally words).score).map tallied).mergeSort
        (fun a b => b.2.score ≤ a.2.score) =
      (ranking fun t => (t.tally words).score).map tallied := by
    rw [ranking, List.map_mergeSort (s := fun a b : Tool × Tally => b.2.score ≤ a.2.score)]
    intro t _ u _
    rfl
  rw [search, hfound, hsorted, ← List.map_take, List.map_map]
  rfl

/-- The tools that a search gives are **the first of the ranking**: `(ranking score).take limit`. -/
theorem map_fst_search (query : String) (limit : Nat) :
    (search query limit).map Prod.fst =
      (ranking fun t => (t.tally (queryWords query)).score).take limit := by
  rw [search_eq, List.map_map]
  exact List.map_id _

/-- The order of the words of a query **does not matter**. -/
theorem score_tally_perm {words words' : List String} (h : words.Perm words') (t : Tool) :
    (t.tally words).score = (t.tally words').score := by
  rw [score_tally, score_tally]
  exact (h.map t.wordScore).sum_eq

/-- **Searching the tools ranks them.** The words of a query are the maximal runs of characters
between the blanks of its lower-case form. A tool scores what the words of the query score on it,
each by itself; a search gives the first of the one ranking by these scores, as many as there are up
to the limit. It does not depend on the order of the words, with a higher limit it gives the same
and then others, and with each tool it gives what some word has found there, all of it and each
thing once. -/
theorem search_ranked (query : String) :
    let words := queryWords query
    let score := fun t : Tool => (t.tally words).score
    (∀ texts, Text.AreWordsOf (Text.lowerCase query) texts ↔ texts = words) ∧
    (∃ ranked, IsRanking score ranked ∧
      ∀ limit, (search query limit).map Prod.fst = ranked.take limit) ∧
    (∀ limit, (search query limit).length = min limit (all.countP fun t => 0 < score t)) ∧
    (∀ t : Tool, score t = (words.map fun word => (t.tally [word]).score).sum) ∧
    (∀ (t : Tool) (word : String), (t.tally [word]).score = t.wordScore word) ∧
    (∀ query' limit, (queryWords query').Perm words →
      (search query' limit).map Prod.fst = (search query limit).map Prod.fst) ∧
    (∀ limit limit', limit ≤ limit' → search query limit <+: search query limit') ∧
    ∀ limit, ∀ found ∈ search query limit,
      found.2.Nodup ∧ ∀ what, what ∈ found.2 ↔ ∃ word ∈ words, found.1.Finds word what := by
  intro words score
  refine ⟨fun _ => Text.areWordsOf_iff,
    ⟨ranking score, isRanking_ranking score, map_fst_search query⟩, ?_, ?_,
    score_tally_singleton, ?_, ?_, ?_⟩
  · intro limit
    rw [search_eq, List.length_map, List.length_take, ranking, List.length_mergeSort,
      List.countP_eq_length_filter]
  · intro t
    simp only [score_tally_singleton]
    exact t.score_tally words
  · intro query' limit hperm
    have hscore : (fun t : Tool => (t.tally (queryWords query')).score) = score :=
      funext (score_tally_perm hperm)
    rw [map_fst_search, map_fst_search, hscore]
  · intro limit limit' hle
    rw [search_eq, search_eq]
    exact (List.take_prefix_take_left hle).map _
  · intro limit found hfound
    rw [search_eq] at hfound
    obtain ⟨t, -, rfl⟩ := List.mem_map.mp hfound
    dsimp only
    exact ⟨t.nodup_matched words, t.mem_matched_iff words⟩

namespace CommentField

/-- Two words in mixed case, with a tab between them. -/
def query : String := "COMMENT\tField"

/-- The same words the other way round, with a wide blank between them. -/
def swapped : String := "field\u3000Comment"

/-- What the two words score on every tool. -/
def points : Tool → Nat
  | .addFieldComment => 36
  | .getFields | .renameField | .addClassComment | .addMethodComment => 18
  | _ => 0

/-- The tools that score: the one that both words fit, and then the others as they are listed. -/
def ranked : List Tool :=
  [.addFieldComment, .getFields, .renameField, .addClassComment, .addMethodComment]

/-- Each of the two words scores by itself: `points t` is the sum. -/
theorem wordScore_add_wordScore (t : Tool) :
    t.wordScore "comment" + t.wordScore "field" = points t := by
  have hcomment : String.ofList ['c', 'o', 'm', 'm', 'e', 'n', 't'] = "comment" := rfl
  have hfield : String.ofList ['f', 'i', 'e', 'l', 'd'] = "field" := rfl
  rw [← hcomment, ← hfield]
  -- As lists of characters the descriptions are compared much faster than as texts.
  cases t <;>
    rw [wordScore_of_ascii rfl rfl (by decide +kernel),
      wordScore_of_ascii rfl rfl (by decide +kernel)] <;>
    decide +kernel

/-- The five tools, as they are listed here, are the ranking by these points. -/
theorem isRanking_points : IsRanking points ranked where
  nodup := by decide
  mem_iff t := by cases t <;> decide
  ordered := by decide

end CommentField

/-- **Two words in mixed case** are read in lower case. The tool that both of them fit is found
first and then those that one of them fits, in the order in which they are listed, each with what it
was found by. The words the other way round find the same tools. -/
theorem search_ranked_comment_field :
    Text.AreWordsOf (Text.lowerCase CommentField.query) ["comment", "field"] ∧
      search CommentField.query 10 =
        [(.addFieldComment, ["name match", "comment", "field"]),
          (.getFields, ["name match", "fields"]), (.renameField, ["name match", "field"]),
          (.addClassComment, ["name match", "comment"]),
          (.addMethodComment, ["name match", "comment"])] ∧
      ∀ limit,
        (search CommentField.query limit).map Prod.fst = CommentField.ranked.take limit ∧
          (search CommentField.swapped limit).map Prod.fst = CommentField.ranked.take limit := by
  have hquery : queryWords CommentField.query = ["comment", "field"] := by decide +kernel
  have hswapped : queryWords CommentField.swapped = ["field", "comment"] := by decide +kernel
  obtain ⟨hwords, ⟨ranked, hranking, htools⟩, -, hsum, hone, hperm, -, -⟩ :=
    search_ranked CommentField.query
  have hscore : (fun t : Tool => (t.tally (queryWords CommentField.query)).score) =
      CommentField.points := by
    funext t
    refine (hsum t).trans ?_
    rw [hquery, ← CommentField.wordScore_add_wordScore t]
    simp [hone]
  rw [hscore] at hranking
  obtain rfl := hranking.eq CommentField.isRanking_points
  refine ⟨(hwords _).mpr hquery.symm, ?_, fun limit => ⟨htools limit, ?_⟩⟩
  · -- What is found on a tool goes with it.
    have hmatched : search CommentField.query 10 =
        ((search CommentField.query 10).map Prod.fst).map
          fun t => (t, (t.tally (queryWords CommentField.query)).matched) := by
      rw [map_fst_search, search_eq]
    rw [hmatched, htools, hquery]
    decide +kernel
  · rw [hperm CommentField.swapped limit (by rw [hquery, hswapped]; decide), htools]

end Tool

end CodePager
