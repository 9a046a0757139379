/-
Words and the blanks around them.

* `Text.IsGap`, `Text.IsWord`: blanks only, and some code points that are none.
* `Text.Trailed`, `Text.Spaced`: words in order, with a gap between any two of them, and
  perhaps one in front and one at the end.
* `Text.words_blank`, `Text.words_word`: how the words of a text begin.
* `Text.Spaced.words_eq`: the words of such a text are these words.
-/
import Mathlib.Tactic.Common
import AccessLog.Text.Blank

namespace AccessLog

namespace Text

/-- Blanks only. -/
def IsGap (t : Text) : Prop :=
  ∀ c ∈ t, c.isBlank = true

/-- Some code points, none of them a blank. -/
def IsWord (t : Text) : Prop :=
  t ≠ [] ∧ ∀ c ∈ t, c.isBlank = false

instance (t : Text) : Decidable t.IsGap :=
  inferInstanceAs (Decidable (∀ c ∈ t, _))

instance (t : Text) : Decidable t.IsWord :=
  inferInstanceAs (Decidable (_ ∧ _))

/-- One word or more, each with a gap behind it, which only the last may lack. -/
inductive Trailed : List Text → Text → Prop
  | last (word gap : Text) (blank : gap.IsGap) : Trailed [word] (word ++ gap)
  | next (word gap : Text) {rest : Text} {words : List Text} (blank : gap.IsGap)
      (apart : gap ≠ []) (trailed : Trailed words rest) :
      Trailed (word :: words) (word ++ (gap ++ rest))

/-- One word or more, with gaps between them, and perhaps in front and at the end. -/
def Spaced (t : Text) (words : List Text) : Prop :=
  ∃ gap rest, IsGap gap ∧ Trailed words rest ∧ t = gap ++ rest

/-! ### How the words of a text begin -/

/-- What is read of a text from its end: the word that it begins with, which may be
empty, and the words behind it. -/
def scanned (t : Text) : Text × List Text :=
  t.foldr (fun c (word, rest) =>
    if c.isBlank then ([], closeWord (word, rest)) else (c :: word, rest)) ([], [])

lemma words_eq_closeWord (t : Text) : t.words = closeWord (scanned t) := rfl

lemma scanned_cons (c : CodePoint) (t : Text) :
    scanned (c :: t) =
      if c.isBlank then ([], t.words) else (c :: (scanned t).1, (scanned t).2) := rfl

lemma scanned_word {word : Text} (unbroken : ∀ c ∈ word, c.isBlank = false) (t : Text) :
    scanned (word ++ t) = (word ++ (scanned t).1, (scanned t).2) := by
  induction word with
  | nil => rfl
  | cons c word ih =>
    obtain ⟨first, rest⟩ := List.forall_mem_cons.mp unbroken
    rw [List.cons_append, scanned_cons, first, if_neg Bool.false_ne_true, ih rest,
      List.cons_append]

/-- Blanks in front of a text change nothing. -/
lemma words_blank {gap : Text} (blank : gap.IsGap) (t : Text) : (gap ++ t).words = t.words := by
  induction gap with
  | nil => rfl
  | cons c gap ih =>
    obtain ⟨first, rest⟩ := List.forall_mem_cons.mp blank
    rw [List.cons_append, words_eq_closeWord, scanned_cons, if_pos first]
    exact ih rest

/-- A word in front of a gap is the first of all words. -/
lemma words_word {word gap : Text} (isWord : word.IsWord) (blank : gap.IsGap) (t : Text)
    (apart : gap ≠ [] ∨ t = []) : (word ++ (gap ++ t)).words = word :: t.words := by
  have front : scanned (gap ++ t) = ([], t.words) := by
    cases gap with
    | nil =>
      obtain rfl : t = [] := apart.resolve_left (· rfl)
      rfl
    | cons c gap =>
      obtain ⟨first, rest⟩ := List.forall_mem_cons.mp blank
      rw [List.cons_append, scanned_cons, if_pos first, words_blank rest]
  rw [words_eq_closeWord, scanned_word isWord.2, front, List.append_nil]
  cases word with
  | nil => exact absurd rfl isWord.1
  | cons c word => rfl

/-! ### Spaced words -/

variable {words : List Text} {t : Text}

lemma Trailed.words_eq (trailed : Trailed words t) (isWord : ∀ word ∈ words, word.IsWord) :
    t.words = words := by
  induction trailed with
  | last word gap blank =>
    have first := List.forall_mem_singleton.mp isWord
    rw [← List.append_nil gap, words_word first blank [] (.inr rfl)]
    rfl
  | @next word gap rest words blank apart trailed ih =>
    obtain ⟨first, others⟩ := List.forall_mem_cons.mp isWord
    rw [words_word first blank rest (.inl apart), ih others]

/-- The words of a text of spaced words are these words, whatever the gaps. -/
theorem Spaced.words_eq (spaced : t.Spaced words) (isWord : ∀ word ∈ words, word.IsWord) :
    t.words = words := by
  obtain ⟨gap, rest, blank, trailed, rfl⟩ := spaced
  rw [words_blank blank, trailed.words_eq isWord]

lemma Trailed.words_ne_nil (trailed : Trailed words t) : words ≠ [] := by
  cases trailed with
  | last word gap blank => exact List.cons_ne_nil _ _
  | next word gap blank apart trailed => exact List.cons_ne_nil _ _

lemma Spaced.words_ne_nil (spaced : t.Spaced words) : words ≠ [] := by
  obtain ⟨gap, rest, -, trailed, rfl⟩ := spaced
  exact trailed.words_ne_nil

lemma Trailed.ne_nil (trailed : Trailed words t) (isWord : ∀ word ∈ words, word.IsWord) :
    t ≠ [] := by
  cases trailed with
  | last word gap blank =>
    exact List.append_ne_nil_of_left_ne_nil (List.forall_mem_singleton.mp isWord).1 _
  | next word gap blank apart trailed =>
    exact List.append_ne_nil_of_left_ne_nil (List.forall_mem_cons.mp isWord).1.1 _

/-- Spaced words are no empty text. -/
lemma Spaced.ne_nil (spaced : t.Spaced words) (isWord : ∀ word ∈ words, word.IsWord) :
    t ≠ [] := by
  obtain ⟨gap, rest, -, trailed, rfl⟩ := spaced
  exact List.append_ne_nil_of_right_ne_nil gap (trailed.ne_nil isWord)

end Text

end AccessLog
