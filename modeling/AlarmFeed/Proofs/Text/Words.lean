/-
**The words of a text on one line.**

A text that is cut at a space has the words of its two parts (`words_append_space`), and a text without
spaces is one word or none. The relation `Worded` says just that, and `Text.words` lists what it says
(`worded_iff`). `Text.singleLine` puts the words one space apart:

* `singleSpaced_iff` — the texts that are made so (`OfWords`) are the single-spaced ones
  (`SingleSpaced`), in which white space stands between two words only and is a single `U+0020` there;
* `words_singleLine` — a text on one line has the words that it had;
* `singleLine_eq_self_iff` — the single-spaced texts are those that stay as they are;
* `lineFeed_not_mem_singleLine` — none of them has an end of a line.
-/

import AlarmFeed.Proofs.Text.Pieces
import AlarmFeed.Text.Basic
import Mathlib.Data.List.Chain
import Mathlib.Data.List.Induction

namespace AlarmFeed.Text

/-! ### What words are -/

/-- A run of code points that are no spaces. -/
def IsWord (t : Text) : Prop :=
  t ≠ [] ∧ ∀ c ∈ t, c.isSpace = false

theorem isWord_singleton {c : CodePoint} (solid : c.isSpace = false) : IsWord [c] :=
  ⟨List.cons_ne_nil _ _, List.forall_mem_singleton.mpr solid⟩

/-- **The words of a text**, wherever it is cut at spaces. -/
inductive Worded : Text → List Text → Prop
  | empty : Worded [] []
  | word {word : Text} (isWord : IsWord word) : Worded word [word]
  | cut {before after : Text} {c : CodePoint} {first second : List Text} (space : c.isSpace = true)
      (left : Worded before first) (right : Worded after second) :
      Worded (before ++ c :: after) (first ++ second)

/-- A listed word is one. -/
theorem mem_words {t word : Text} (member : word ∈ words t) : IsWord word := by
  rw [words, List.mem_filter] at member
  refine ⟨?_, not_cut_of_mem_splitWhen member.1⟩
  rintro rfl
  exact absurd member.2 (by decide)

/-- **Words are cut at spaces**: all about them follows from this. -/
theorem words_append_space {c : CodePoint} (space : c.isSpace = true) (before after : Text) :
    words (before ++ c :: after) = words before ++ words after := by
  rw [words, splitWhen_eq, List.splitOnP_append_cons before after space, List.filter_append,
    ← splitWhen_eq, ← splitWhen_eq, words, words]

theorem words_of_isWord {word : Text} (isWord : IsWord word) : words word = [word] := by
  rw [words, splitWhen_eq, List.splitOnP_eq_singleton isWord.2, List.filter_eq_self]
  intro t member
  rw [List.mem_singleton.mp member, Bool.not_eq_true', List.isEmpty_eq_false_iff]
  exact isWord.1

theorem Worded.words_eq {t : Text} {found : List Text} (worded : Worded t found) : words t = found := by
  induction worded with
  | empty => rfl
  | word isWord => exact words_of_isWord isWord
  | cut space _ _ left right => rw [words_append_space space, left, right]

theorem worded_words (t : Text) : Worded t (words t) := by
  -- Any space will do for the cut, and both parts are shorter.
  induction size : t.length using Nat.strongRecOn generalizing t with
  | ind n ih =>
    subst size
    by_cases spaced : ∃ c ∈ t, c.isSpace = true
    · obtain ⟨c, member, space⟩ := spaced
      obtain ⟨before, after, rfl⟩ := List.append_of_mem member
      have length : (before ++ c :: after).length = before.length + after.length + 1 := by
        rw [List.length_append, List.length_cons, Nat.add_assoc]
      rw [words_append_space space]
      exact .cut space (ih _ (by omega) before rfl) (ih _ (by omega) after rfl)
    · by_cases none : t = []
      · subst none
        exact .empty
      · have isWord : IsWord t := ⟨none, fun c member =>
          Bool.eq_false_iff.mpr fun space => spaced ⟨c, member, space⟩⟩
        rw [words_of_isWord isWord]
        exact .word isWord

/-- **Every text has its words**, and no others. -/
theorem worded_iff {t : Text} {found : List Text} : Worded t found ↔ words t = found :=
  ⟨Worded.words_eq, fun same => same ▸ worded_words t⟩

/-! ### Words one space apart -/

/-- **A text made of words**, one space apart. -/
def OfWords (t : Text) : Prop :=
  ∃ found, (∀ word ∈ found, IsWord word) ∧ joinWith [CodePoint.ofChar ' '] found = t

theorem IsWord.ofWords {word : Text} (isWord : IsWord word) : OfWords word :=
  ⟨[word], List.forall_mem_singleton.mpr isWord, rfl⟩

/-- A word and a space go in front of a text that has a word. -/
theorem OfWords.word_append {word t : Text} (made : OfWords t) (some : t ≠ []) (isWord : IsWord word) :
    OfWords (word ++ CodePoint.ofChar ' ' :: t) := by
  obtain ⟨found, each, rfl⟩ := made
  cases found with
  | nil => exact absurd rfl some
  | cons next later =>
    refine ⟨word :: next :: later, List.forall_mem_cons.mpr ⟨isWord, each⟩, ?_⟩
    rw [joinWith, List.append_assoc, List.singleton_append]

/-- A code point that is no space goes into the word in front of which it stands. -/
theorem OfWords.cons {c d : CodePoint} {rest : Text} (made : OfWords (d :: rest))
    (solid : c.isSpace = false) : OfWords (c :: d :: rest) := by
  obtain ⟨found, each, same⟩ := made
  cases found with
  | nil => cases same
  | cons word later =>
    obtain ⟨isWord, others⟩ := List.forall_mem_cons.mp each
    have longer : IsWord (c :: word) :=
      ⟨List.cons_ne_nil _ _, List.forall_mem_cons.mpr ⟨solid, isWord.2⟩⟩
    refine ⟨(c :: word) :: later, List.forall_mem_cons.mpr ⟨longer, others⟩, ?_⟩
    rw [joinWith_cons_cons, same]

/-- Words one space apart are the words of the text that they make. -/
theorem words_joinWith {found : List Text} (each : ∀ word ∈ found, IsWord word) :
    words (joinWith [CodePoint.ofChar ' '] found) = found := by
  induction found with
  | nil => rfl
  | cons word later ih =>
    obtain ⟨isWord, others⟩ := List.forall_mem_cons.mp each
    cases later with
    | nil => exact words_of_isWord isWord
    | cons next later =>
      have space : (CodePoint.ofChar ' ').isSpace = true := by decide
      rw [joinWith, List.append_assoc, List.singleton_append, words_append_space space,
        words_of_isWord isWord, ih others, List.singleton_append]

theorem joinWith_ne_nil_of_isWord {separator word : Text} {later : List Text} (isWord : IsWord word) :
    joinWith separator (word :: later) ≠ [] := by
  obtain ⟨c, inside⟩ := List.exists_mem_of_ne_nil word isWord.1
  exact List.ne_nil_of_mem (mem_joinWith_of_mem List.mem_cons_self inside)

/-! ### Single-spaced texts -/

/-- **A single-spaced text**: white space is `U+0020`, with a word on either side. -/
structure SingleSpaced (t : Text) : Prop where
  plain : ∀ c ∈ t, c.isSpace = true → c = CodePoint.ofChar ' '
  starts : ∀ c ∈ t.head?, c.isSpace = false
  ends : ∀ c ∈ t.getLast?, c.isSpace = false
  apart : t.IsChain fun c next => c.isSpace = true → next.isSpace = false

theorem singleSpaced_nil : SingleSpaced [] where
  plain _ member := nomatch member
  starts _ first := nomatch first
  ends _ last := nomatch last
  apart := .nil

theorem IsWord.singleSpaced {word : Text} (isWord : IsWord word) : SingleSpaced word where
  plain c member space := absurd space (by rw [isWord.2 c member]; exact Bool.false_ne_true)
  starts c first := isWord.2 c (List.mem_of_mem_head? first)
  ends c last := isWord.2 c (List.mem_of_mem_getLast? last)
  apart := by
    refine (List.pairwise_of_forall_mem_list ?_).isChain
    exact fun _ _ next member _ => isWord.2 next member

/-- A word and a space go in front of a single-spaced text that has a word. -/
theorem SingleSpaced.word_append {word t : Text} (spaced : SingleSpaced t) (some : t ≠ [])
    (isWord : IsWord word) : SingleSpaced (word ++ CodePoint.ofChar ' ' :: t) where
  plain c member := by
    rcases List.mem_append.mp member with inside | inside
    · exact isWord.singleSpaced.plain c inside
    · rcases List.mem_cons.mp inside with rfl | later
      · exact fun _ => rfl
      · exact spaced.plain c later
  starts c first := by
    rw [List.head?_append_of_ne_nil _ isWord.1] at first
    exact isWord.singleSpaced.starts c first
  ends c last := by
    rw [List.append_cons, List.getLast?_append_of_ne_nil _ some] at last
    exact spaced.ends c last
  apart := by
    refine List.isChain_append.mpr ⟨isWord.singleSpaced.apart, ?_, ?_⟩
    · exact List.isChain_cons.mpr ⟨fun next first _ => spaced.starts next first, spaced.apart⟩
    · intro c last next _ space
      rw [isWord.singleSpaced.ends c last] at space
      cases space

theorem singleSpaced_joinWith {found : List Text} (each : ∀ word ∈ found, IsWord word) :
    SingleSpaced (joinWith [CodePoint.ofChar ' '] found) := by
  induction found with
  | nil => exact singleSpaced_nil
  | cons word later ih =>
    obtain ⟨isWord, others⟩ := List.forall_mem_cons.mp each
    cases later with
    | nil => exact isWord.singleSpaced
    | cons next later =>
      rw [joinWith, List.append_assoc, List.singleton_append]
      have some : joinWith [CodePoint.ofChar ' '] (next :: later) ≠ [] :=
        joinWith_ne_nil_of_isWord (others next List.mem_cons_self)
      exact (ih others).word_append some isWord

section Reading

variable {c d : CodePoint} {rest : Text}

/-- What stands behind the first code point is single-spaced, unless it starts with a space. -/
theorem SingleSpaced.tail (spaced : SingleSpaced (c :: d :: rest)) (solid : d.isSpace = false) :
    SingleSpaced (d :: rest) where
  plain e member := spaced.plain e (List.mem_cons_of_mem _ member)
  starts _ first := Option.some.inj first ▸ solid
  ends e last := spaced.ends e last
  apart := (List.isChain_cons_cons.mp spaced.apart).2

/-- What stands behind a space is single-spaced, and there is some. -/
theorem SingleSpaced.behind_space (spaced : SingleSpaced (c :: d :: rest)) (space : d.isSpace = true) :
    rest ≠ [] ∧ SingleSpaced rest := by
  have some : rest ≠ [] := by
    rintro rfl
    have solid := spaced.ends d rfl
    rw [space] at solid
    cases solid
  obtain ⟨first, apart⟩ := List.isChain_cons.mp (List.isChain_cons_cons.mp spaced.apart).2
  refine ⟨some, ?_⟩
  exact
    { plain := fun e member =>
        spaced.plain e (List.mem_cons_of_mem _ (List.mem_cons_of_mem _ member))
      starts := fun e found => first e found space
      ends := fun e last => spaced.ends e (by
        rwa [List.getLast?_cons_cons, List.getLast?_cons_of_ne_nil some])
      apart := apart }

end Reading

/-- **The single-spaced texts** are words one space apart. -/
theorem singleSpaced_iff {t : Text} : SingleSpaced t ↔ OfWords t := by
  constructor
  · intro spaced
    -- The first code point starts a word; the second one ends it, or stands in it.
    induction t using List.twoStepInduction with
    | nil => exact ⟨[], List.forall_mem_nil _, rfl⟩
    | singleton c => exact (isWord_singleton (spaced.starts c rfl)).ofWords
    | cons_cons c d rest behind next =>
      have solid : c.isSpace = false := spaced.starts c rfl
      cases space : d.isSpace with
      | true =>
        obtain ⟨some, later⟩ := spaced.behind_space space
        have plain : d = CodePoint.ofChar ' ' :=
          spaced.plain d (List.mem_cons_of_mem _ List.mem_cons_self) space
        exact plain ▸ (behind later).word_append some (isWord_singleton solid)
      | false => exact (next d (spaced.tail space)).cons solid
  · rintro ⟨found, each, rfl⟩
    exact singleSpaced_joinWith each

/-! ### On one line -/

theorem singleSpaced_singleLine (t : Text) : SingleSpaced (singleLine t) :=
  singleSpaced_iff.mpr ⟨words t, fun _ member => mem_words member, rfl⟩

/-- **A text on one line has the words that it had.** -/
theorem words_singleLine (t : Text) : words (singleLine t) = words t :=
  words_joinWith fun _ member => mem_words member

/-- **What stays as it is** on one line. -/
theorem singleLine_eq_self_iff {t : Text} : singleLine t = t ↔ SingleSpaced t := by
  constructor
  · exact fun same => same ▸ singleSpaced_singleLine t
  · intro spaced
    obtain ⟨found, each, rfl⟩ := singleSpaced_iff.mp spaced
    rw [singleLine, words_joinWith each]

instance (t : Text) : Decidable (SingleSpaced t) :=
  decidable_of_iff (singleLine t = t) singleLine_eq_self_iff

example : SingleSpaced "two words" ∧ ¬ SingleSpaced "two  words" ∧ ¬ SingleSpaced "two words\n" := by
  decide

theorem lineFeed_not_mem_singleLine (t : Text) : CodePoint.ofChar '\n' ∉ singleLine t := by
  intro member
  have space := (singleSpaced_singleLine t).plain _ member (by decide)
  exact absurd space (by decide)

end AlarmFeed.Text
