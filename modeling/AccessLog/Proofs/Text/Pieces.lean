/-
Pieces between separators, and the blanks around them.

* `Text.splitOn_eq`: a text is split as the library splits a list.
* `Text.splitOn_append`, `Text.splitOn_join`, `Text.notMem_of_mem_splitOn`: the pieces of two
  texts with a separator between them, of pieces that were joined, and what no piece holds.
* `Text.IsTrimmed`, `Text.Pads`: no blank at either end, and nothing but blanks around a text.
* `Text.trim_eq_iff`: without the blanks at its ends a text is the only trimmed one that it pads.
-/
import Mathlib.Data.List.DropRight
import AccessLog.Proofs.Text.Words

namespace AccessLog

namespace Text

/-! ### Pieces -/

lemma splitOn_eq (sep : CodePoint) (t : Text) : splitOn sep t = List.splitOn sep t := by
  induction t with
  | nil => rfl
  | cons c rest ih =>
    rw [splitOn_cons, List.splitOn_cons_eq_if_modifyHead, ih]
    by_cases same : c = sep
    · simp [same]
    · rw [if_neg same, if_neg (by simpa using same)]
      cases pieces : List.splitOn sep rest with
      | nil => exact absurd pieces (List.splitOn_ne_nil sep rest)
      | cons piece others => rfl

/-- A separator between two texts only parts their pieces. -/
lemma splitOn_append (sep : CodePoint) (first second : Text) :
    splitOn sep (first ++ sep :: second) = splitOn sep first ++ splitOn sep second := by
  simp only [splitOn_eq, List.splitOn_append_cons_self]

/-- Some pieces that were joined are found again. -/
lemma splitOn_join {sep : CodePoint} {pieces : List Text} (whole : ∀ piece ∈ pieces, sep ∉ piece)
    (filled : pieces ≠ []) : splitOn sep (join [sep] pieces) = pieces := by
  rw [splitOn_eq, join, List.splitOn_intercalate sep whole filled]

/-- No piece holds the separator. -/
lemma notMem_of_mem_splitOn {sep : CodePoint} {t piece : Text} (isIn : piece ∈ splitOn sep t) :
    sep ∉ piece := by
  induction t generalizing piece with
  | nil =>
    rw [List.mem_singleton.mp isIn]
    exact List.not_mem_nil
  | cons c rest ih =>
    rw [splitOn_cons] at isIn
    split at isIn
    · rcases List.mem_cons.mp isIn with rfl | later
      · exact List.not_mem_nil
      · exact ih later
    · next apart =>
      cases pieces : splitOn sep rest with
      | nil => exact absurd pieces (splitOn_ne_nil sep rest)
      | cons first others =>
        rw [pieces] at isIn ih
        rcases List.mem_cons.mp isIn with rfl | later
        · exact List.not_mem_cons_of_ne_of_not_mem (Ne.symm apart) (ih List.mem_cons_self)
        · exact ih (List.mem_cons_of_mem first later)

/-! ### Blanks around a text -/

/-- Neither the first nor the last code point is a blank. -/
def IsTrimmed (t : Text) : Prop :=
  (∀ c ∈ t.head?, c.isBlank = false) ∧ ∀ c ∈ t.getLast?, c.isBlank = false

instance (t : Text) : Decidable t.IsTrimmed :=
  inferInstanceAs (Decidable (_ ∧ _))

/-- A text with perhaps some blanks in front and behind. -/
def Pads (padded t : Text) : Prop :=
  ∃ before after, IsGap before ∧ IsGap after ∧ padded = before ++ (t ++ after)

variable {t padded : Text}

lemma trim_eq_rdropWhile (t : Text) :
    t.trim = (t.dropWhile CodePoint.isBlank).rdropWhile CodePoint.isBlank := rfl

/-- What trimming takes away are blanks. -/
lemma pads_trim (t : Text) : t.Pads t.trim := by
  refine ⟨t.takeWhile CodePoint.isBlank,
    (t.dropWhile CodePoint.isBlank).rtakeWhile CodePoint.isBlank,
    fun c isIn => List.mem_takeWhile_imp isIn, fun c isIn => List.mem_rtakeWhile_imp isIn, ?_⟩
  rw [trim_eq_rdropWhile, List.rdropWhile_append_rtakeWhile, List.takeWhile_append_dropWhile]

/-- It leaves no blank at either end. -/
lemma isTrimmed_trim (t : Text) : t.trim.IsTrimmed := by
  rw [trim_eq_rdropWhile]
  constructor
  · intro c isFirst
    have first : (t.dropWhile CodePoint.isBlank).head? = some c := by
      obtain ⟨blanks, whole⟩ := List.rdropWhile_prefix CodePoint.isBlank (t.dropWhile _)
      rw [← whole, List.head?_append, isFirst, Option.some_or]
    have shown := List.head?_dropWhile_not CodePoint.isBlank t
    rw [first] at shown
    exact shown
  · intro c isLast
    obtain ⟨filled, rfl⟩ := List.mem_getLast?_eq_getLast isLast
    simpa using List.rdropWhile_last_not _ _ filled

/-- Blanks around a trimmed text are all that trimming takes away. -/
lemma Pads.trim_eq (pads : padded.Pads t) (trimmed : t.IsTrimmed) : padded.trim = t := by
  obtain ⟨before, after, front, back, rfl⟩ := pads
  have kept : (t ++ after).rdropWhile CodePoint.isBlank = t := by
    have whole : t.rdropWhile CodePoint.isBlank = t :=
      List.rdropWhile_eq_self_iff.mpr fun filled => by
        simpa using trimmed.2 _ (List.getLast?_eq_getLast_of_ne_nil filled)
    have blank : ∀ c ∈ after.reverse, c.isBlank = true :=
      fun c isIn => back c (List.mem_reverse.mp isIn)
    rw [List.rdropWhile, List.reverse_append, List.dropWhile_append_of_pos blank]
    exact whole
  rw [trim_eq_rdropWhile, List.dropWhile_append_of_pos front]
  cases t with
  | nil =>
    have nothing : after.dropWhile CodePoint.isBlank = [] := List.dropWhile_eq_nil_iff.mpr back
    rw [List.nil_append, nothing]
    rfl
  | cons c rest =>
    have first : c.isBlank = false := trimmed.1 c rfl
    rw [List.cons_append, List.dropWhile_cons_of_neg (by simp [first]), ← List.cons_append, kept]

/-- Without the blanks at its ends a text is the only trimmed one that it pads. -/
theorem trim_eq_iff : padded.trim = t ↔ t.IsTrimmed ∧ padded.Pads t := by
  constructor
  · rintro rfl
    exact ⟨isTrimmed_trim padded, pads_trim padded⟩
  · exact fun ⟨trimmed, pads⟩ => pads.trim_eq trimmed

end Text

end AccessLog
