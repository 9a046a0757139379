/-
The paths whose records are left out, as they are written in a setting.

* `Settings.IsPath`: some text without a comma and without a blank at its ends.
* `Settings.Lists`: paths in any order, with commas between them and blanks around them, and
  perhaps pieces that are nothing but blanks.
* `Settings.mem_skipPathsOf`: which paths are read from a text.
* `Settings.Lists.mem_iff`, `Settings.lists_skipPathsOf`: what is listed is read, and what is
  read is listed.
* `Settings.skipPaths_listed`: **a text is read as the paths that it lists**, of which there is
  one set for each text; a comma between two texts joins their sets.
-/
import Mathlib.Data.Finset.Dedup
import Mathlib.Data.Finset.Lattice.Lemmas
import AccessLog.Proofs.Text.Pieces
import AccessLog.Settings.Basic

namespace AccessLog

namespace Settings

open Text

/-- Some text without a comma, with no blank at either end. -/
def IsPath (path : Text) : Prop :=
  path ≠ [] ∧ (',' : CodePoint) ∉ path ∧ path.IsTrimmed

instance (path : Text) : Decidable (IsPath path) :=
  inferInstanceAs (Decidable (_ ∧ _))

/-- A text consists of pieces with commas between them, each of which is one of some paths with
blanks around it, or nothing but blanks; and all of these paths are there. -/
def Lists (t : Text) (paths : Finset Text) : Prop :=
  ∃ pieces : List Text, t = join [','] pieces ∧
    (∀ piece ∈ pieces, piece.IsGap ∨ ∃ path ∈ paths, piece.Pads path) ∧
    ∀ path ∈ paths, ∃ piece ∈ pieces, piece.Pads path

variable {t piece path : Text} {paths : Finset Text}

/-! ### Which paths are read -/

/-- A path is read from a text if it is one of the pieces, apart from blanks around it. -/
lemma mem_skipPathsOf :
    path ∈ skipPathsOf t ↔ path ≠ [] ∧ ∃ piece ∈ t.splitOn ',', piece.trim = path := by
  rw [skipPathsOf, List.mem_eraseDups, List.mem_filter, List.mem_map, and_comm]
  simp

/-- A comma between two texts joins what is read from them. -/
lemma skipPathsOf_append (first second : Text) :
    path ∈ skipPathsOf (first ++ (',' : CodePoint) :: second) ↔
      path ∈ skipPathsOf first ∨ path ∈ skipPathsOf second := by
  simp only [mem_skipPathsOf, splitOn_append, List.mem_append, or_and_right, exists_or, and_or_left]

/-- What is read are paths. -/
lemma isPath_of_mem (isIn : path ∈ skipPathsOf t) : IsPath path := by
  obtain ⟨filled, piece, isPiece, trimmed⟩ := mem_skipPathsOf.mp isIn
  obtain ⟨ends, before, after, -, -, padded⟩ := trim_eq_iff.mp trimmed
  refine ⟨filled, fun comma => notMem_of_mem_splitOn isPiece ?_, ends⟩
  rw [padded]
  exact List.mem_append_right before (List.mem_append_left after comma)

/-! ### What a text lists -/

lemma notMem_of_isGap (blank : piece.IsGap) : (',' : CodePoint) ∉ piece := by
  intro comma
  have shown : CodePoint.isBlank ',' = false := by decide
  exact Bool.false_ne_true (shown.symm.trans (blank _ comma))

/-- Blanks around a path bring no comma. -/
lemma notMem_of_pads (pads : piece.Pads path) (isPath : IsPath path) :
    (',' : CodePoint) ∉ piece := by
  obtain ⟨before, after, front, back, rfl⟩ := pads
  simp only [List.mem_append, not_or]
  exact ⟨notMem_of_isGap front, isPath.2.1, notMem_of_isGap back⟩

/-- There is always some piece, be it empty. -/
lemma Lists.exists_pieces (lists : Lists t paths) :
    ∃ pieces : List Text, pieces ≠ [] ∧ t = join [','] pieces ∧
      (∀ piece ∈ pieces, piece.IsGap ∨ ∃ path ∈ paths, piece.Pads path) ∧
      ∀ path ∈ paths, ∃ piece ∈ pieces, piece.Pads path := by
  obtain ⟨pieces, joined, known, all⟩ := lists
  cases pieces with
  | nil =>
    refine ⟨[[]], List.cons_ne_nil _ _, joined, ?_, fun path isIn => ?_⟩
    · exact List.forall_mem_singleton.mpr (.inl (List.forall_mem_nil _))
    · obtain ⟨piece, isPiece, -⟩ := all path isIn
      exact absurd isPiece List.not_mem_nil
  | cons piece others => exact ⟨_, List.cons_ne_nil _ _, joined, known, all⟩

/-- What is read from a text are the paths that it lists. -/
lemma Lists.mem_iff (lists : Lists t paths) (arePaths : ∀ path ∈ paths, IsPath path) :
    path ∈ skipPathsOf t ↔ path ∈ paths := by
  obtain ⟨pieces, filled, rfl, known, all⟩ := lists.exists_pieces
  have found : splitOn ',' (join [','] pieces) = pieces := by
    refine splitOn_join (fun piece isPiece => ?_) filled
    rcases known piece isPiece with blank | ⟨path, isIn, pads⟩
    · exact notMem_of_isGap blank
    · exact notMem_of_pads pads (arePaths path isIn)
  rw [mem_skipPathsOf, found]
  constructor
  · rintro ⟨shown, piece, isPiece, rfl⟩
    rcases known piece isPiece with blank | ⟨path, isIn, pads⟩
    · have nothing : piece.trim = [] :=
        trim_eq_iff.mpr ⟨⟨by simp, by simp⟩, piece, [], blank, List.forall_mem_nil _, by simp⟩
      exact absurd nothing shown
    · rwa [pads.trim_eq (arePaths path isIn).2.2]
  · intro isIn
    obtain ⟨piece, isPiece, pads⟩ := all path isIn
    exact ⟨(arePaths path isIn).1, piece, isPiece, pads.trim_eq (arePaths path isIn).2.2⟩

/-- A text lists what is read from it. -/
lemma lists_skipPathsOf (t : Text) : Lists t (skipPathsOf t).toFinset := by
  refine ⟨t.splitOn ',', (join_splitOn ',' t).symm, fun piece isPiece => ?_, fun path isIn => ?_⟩
  · obtain ⟨before, after, front, back, padded⟩ := pads_trim piece
    by_cases blank : piece.trim = []
    · left
      rw [padded, blank, List.nil_append]
      exact List.forall_mem_append.mpr ⟨front, back⟩
    · right
      refine ⟨piece.trim, ?_, before, after, front, back, padded⟩
      exact List.mem_toFinset.mpr (mem_skipPathsOf.mpr ⟨blank, piece, isPiece, rfl⟩)
  · obtain ⟨-, piece, isPiece, rfl⟩ := mem_skipPathsOf.mp (List.mem_toFinset.mp isIn)
    exact ⟨piece, isPiece, pads_trim piece⟩

/-- **A text is read as the paths that it lists.** Whatever the other settings are:

* a comma between two texts joins the sets that are read from them;
* whatever is read is some text without a comma and without a blank at its ends;
* a set of such texts is read from a text exactly if the text lists it: in any order, with any
  blanks around the pieces, and with any number of blank pieces. -/
theorem skipPaths_listed (settings : Settings) :
    let found (t : Text) : Finset Text := { settings with skipText := t }.skipPaths.toFinset
    (∀ first second, found (first ++ (',' : CodePoint) :: second) = found first ∪ found second) ∧
      (∀ t, ∀ path ∈ found t, IsPath path) ∧
      ∀ t paths, found t = paths ↔ (∀ path ∈ paths, IsPath path) ∧ Lists t paths := by
  intro found
  have isPath (t : Text) : ∀ path ∈ found t, IsPath path :=
    fun path isIn => isPath_of_mem (List.mem_toFinset.mp isIn)
  refine ⟨fun first second => ?_, isPath, fun t paths => ⟨?_, fun ⟨arePaths, lists⟩ => ?_⟩⟩
  · ext path
    rw [Finset.mem_union, List.mem_toFinset, List.mem_toFinset, List.mem_toFinset]
    exact skipPathsOf_append first second
  · rintro rfl
    exact ⟨isPath t, lists_skipPathsOf t⟩
  · ext path
    rw [List.mem_toFinset]
    exact lists.mem_iff arePaths

/-- Wide blanks, blank pieces and a path twice. -/
example : skipPathsOf (" /a b,,/c\u3000, \t,/a b\u00A0," : String) =
    (["/a b", "/c"] : List Text) := by
  decide +kernel

end Settings

end AccessLog
