/-
Which items of a format are tokens, and under which names.

* `Specifier.Spells`: the texts that stand for a token, said without reading one.
* `Specifier.bracketed?_eq_some_iff`, `Specifier.parts?_eq_some_iff`: reading finds
  the parts of these texts, and of no others.
* `Specifier.Spells.unique`: a text stands for one token at most.
* `joined`, `fieldName_eq`: what the field of a token is made of.
* `hyphen_notMem_field`: there is no hyphen in the field of an entry.
* `Entry.ofValue_grammar`: **what every item stands for**, and its field.
-/
import Mathlib.Data.List.TakeWhile
import AccessLog.Format.Specifier

namespace AccessLog

namespace Specifier

/-! ### Parts of a specifier -/

/-- The text is a token name behind a colon, with the argument in brackets behind it if
there is one. -/
structure Spells (name : Text) (argument : Option Text) (t : Text) : Prop where
  isName : IsName name
  isArgument : ∀ a ∈ argument, IsArgument a
  text : t = written name argument

instance (name : Text) (argument : Option Text) (t : Text) : Decidable (Spells name argument t) :=
  decidable_of_iff
    (IsName name ∧ (∀ a ∈ argument, IsArgument a) ∧ t = written name argument)
    ⟨fun h => ⟨h.1, h.2.1, h.2.2⟩, fun h => ⟨h.isName, h.isArgument, h.text⟩⟩

variable {name t : Text} {argument : Option Text}

/-- What is behind a name, with the argument in brackets. -/
def tail (argument : Option Text) : Text :=
  match argument with
  | none => []
  | some a => CodePoint.ofChar '[' :: (a ++ [CodePoint.ofChar ']'])

lemma written_eq (name : Text) (argument : Option Text) :
    written name argument = CodePoint.ofChar ':' :: (name ++ tail argument) := by
  cases argument with
  | none => simp [written, tail, Text.ofString]
  | some a => simp [written, tail, Text.ofString]

lemma isNameChar_bracket : isNameChar (CodePoint.ofChar '[') = false := by
  decide +kernel

/-- What is behind a name starts with no character of one. -/
lemma IsName.span (isName : IsName name) (argument : Option Text) :
    (name ++ tail argument).takeWhile isNameChar = name ∧
      (name ++ tail argument).dropWhile isNameChar = tail argument := by
  rw [List.takeWhile_append_of_pos isName.2, List.dropWhile_append_of_pos isName.2]
  cases argument with
  | none => simp [tail]
  | some a => simp [tail, isNameChar_bracket]

/-- Brackets are found around whatever is in them. -/
lemma bracketed?_eq_some_iff {a : Text} : bracketed? t = some a ↔ t = tail (some a) := by
  constructor
  · intro found
    unfold bracketed? at found
    split at found
    · next c rest =>
      split_ifs at found with opens
      split at found
      · next last ends =>
        split_ifs at found with closes
        obtain ⟨front, rfl⟩ := List.getLast?_eq_some_iff.mp ends
        rw [List.dropLast_concat, Option.some.injEq] at found
        rw [tail, opens, closes, found]
      · cases found
    · cases found
  · rintro rfl
    simp [bracketed?, tail]

/-- Reading takes the longest name behind the colon, and the rest must be its argument. -/
lemma parts?_eq_some_iff_span :
    parts? t = some (name, argument) ↔ ∃ rest, t = CodePoint.ofChar ':' :: rest ∧
      2 ≤ name.length ∧ rest.takeWhile isNameChar = name ∧
      rest.dropWhile isNameChar = tail argument ∧ ∀ a ∈ argument, IsArgument a := by
  constructor
  · intro found
    unfold parts? at found
    split at found
    · cases found
    · next c rest =>
      dsimp only at found
      split_ifs at found with colon long bare
      · cases found
        exact ⟨rest, by rw [colon], long, rfl, List.isEmpty_iff.mp bare, nofun⟩
      · split at found
        · next a inside =>
          split_ifs at found with fits
          cases found
          refine ⟨rest, by rw [colon], long, rfl, bracketed?_eq_some_iff.mp inside, ?_⟩
          rintro _ ⟨⟩
          exact isArgument_iff.mp fits
        · cases found
  · rintro ⟨rest, rfl, long, rfl, behind, fits⟩
    simp only [parts?, if_pos, long, behind]
    cases argument with
    | none => rfl
    | some a =>
      have inside : bracketed? (tail (some a)) = some a := bracketed?_eq_some_iff.mpr rfl
      simp only [inside, isArgument_iff.mpr (fits a rfl)]
      rfl

/-- **Reading a specifier** finds the parts of what is one, and finds none in any other
text. -/
lemma parts?_eq_some_iff : parts? t = some (name, argument) ↔ Spells name argument t := by
  rw [parts?_eq_some_iff_span]
  constructor
  · rintro ⟨rest, rfl, long, rfl, behind, fits⟩
    refine ⟨⟨long, fun c => List.mem_takeWhile_imp⟩, fits, ?_⟩
    rw [written_eq, ← behind, List.takeWhile_append_dropWhile]
  · rintro ⟨isName, fits, rfl⟩
    obtain ⟨front, behind⟩ := isName.span argument
    exact ⟨_, written_eq name argument, isName.1, front, behind, fits⟩

/-- A text stands for one token at most. -/
lemma Spells.unique {name' : Text} {argument' : Option Text} (spells : Spells name argument t)
    (spells' : Spells name' argument' t) : name' = name ∧ argument' = argument := by
  have same := (parts?_eq_some_iff.mpr spells').symm.trans (parts?_eq_some_iff.mpr spells)
  exact Prod.mk.inj (Option.some.inj same)

lemma Spells.ne_nil (spells : Spells name argument t) : t ≠ [] := by
  rw [spells.text, written_eq]
  nofun

end Specifier

/-! ### Fields -/

lemma hyphen_notMem_underscored (t : Text) : CodePoint.ofChar '-' ∉ underscored t := by
  intro isIn
  obtain ⟨c, -, same⟩ := List.mem_map.mp isIn
  split_ifs at same with hyphen
  · exact absurd same (by decide)
  · exact hyphen same

lemma underscored_append (first second : Text) :
    underscored (first ++ second) = underscored first ++ underscored second :=
  List.map_append

/-- The text that hyphens are taken out of to give a field: a name, with its argument
behind it if there is one. -/
def joined (name : Text) (argument : Option Text) : Text :=
  match argument with
  | none => name
  | some a => name ++ "_" ++ a

/-- An argument that is not empty is part of the field. -/
lemma fieldName_eq {name : Text} {argument : Option Text}
    (fits : ∀ a ∈ argument, Specifier.IsArgument a) :
    fieldName name argument = underscored (joined name argument) := by
  cases argument with
  | none => rfl
  | some a =>
    have filled : a.isEmpty = false := List.isEmpty_eq_false_iff.mpr (fits a rfl).1
    rw [fieldName, filled, joined, underscored_append, underscored_append]
    rfl

lemma hyphen_notMem_field (entry : Entry) : CodePoint.ofChar '-' ∉ entry.field := by
  have line : CodePoint.ofChar '-' ∉ Text.ofString "_" := by decide
  cases entry with
  | token name argument =>
    cases argument with
    | none => exact hyphen_notMem_underscored name
    | some a =>
      rw [Entry.field, fieldName]
      split
      · exact hyphen_notMem_underscored name
      · simp only [List.mem_append, line, hyphen_notMem_underscored, or_self, not_false_eq_true]
  | literal t => exact hyphen_notMem_underscored t
  | malformed item => exact List.not_mem_nil

namespace Entry

variable {item : Value}

/-- A text that is a specifier stands for its token. -/
lemma ofValue_eq_token_iff {name : Text} {argument : Option Text} :
    ofValue item = .token name argument ↔
      ∃ t, item = .text t ∧ Specifier.Spells name argument t := by
  constructor
  · intro same
    unfold ofValue at same
    split at same
    · next t =>
      split_ifs at same
      split at same
      · next parts =>
        cases same
        exact ⟨t, rfl, Specifier.parts?_eq_some_iff.mp parts⟩
      · cases same
    · cases same
  · rintro ⟨t, rfl, spells⟩
    have filled : t.isEmpty = false := List.isEmpty_eq_false_iff.mpr spells.ne_nil
    simp only [ofValue, filled, Specifier.parts?_eq_some_iff.mpr spells]
    rfl

/-- Any other text stands for itself, unless it is empty. -/
lemma ofValue_eq_literal_iff {t : Text} :
    ofValue item = .literal t ↔
      item = .text t ∧ t ≠ [] ∧ ∀ name argument, ¬Specifier.Spells name argument t := by
  constructor
  · intro same
    unfold ofValue at same
    split at same
    · split_ifs at same with filled
      split at same
      · cases same
      · next parts =>
        cases same
        refine ⟨rfl, fun empty => filled (List.isEmpty_iff.mpr empty),
          fun name argument spells => ?_⟩
        cases parts.symm.trans (Specifier.parts?_eq_some_iff.mpr spells)
    · cases same
  · rintro ⟨rfl, filled, unspelled⟩
    have unparsed : Specifier.parts? t = none :=
      Option.eq_none_iff_forall_ne_some.mpr fun parts found =>
        unspelled parts.1 parts.2 (Specifier.parts?_eq_some_iff.mp found)
    simp only [ofValue, List.isEmpty_eq_false_iff.mpr filled, unparsed]
    rfl

/-- What is no text and the empty text are kept as they are. -/
lemma ofValue_eq_malformed_iff {v : Value} :
    ofValue item = .malformed v ↔ v = item ∧ ∀ t, item = .text t → t = [] := by
  constructor
  · intro same
    unfold ofValue at same
    split at same
    · split_ifs at same with empty
      · cases same
        refine ⟨rfl, ?_⟩
        rintro _ ⟨⟩
        exact List.isEmpty_iff.mp empty
      · split at same <;> cases same
    · next noText =>
      cases same
      exact ⟨rfl, fun t isText => absurd isText (noText t)⟩
  · rintro ⟨rfl, empty⟩
    cases v with
    | text t =>
      rw [empty t rfl]
      rfl
    | null | flag | int | float | bytes | list | tuple | dict | object => rfl

/-- **What an item stands for.** A text is a token if and only if it is a specifier, which
has one name and one argument at most; any other text but the empty one stands for
itself, and what is left is malformed. The field of a token is its name and its argument,
that of a text the text itself, without hyphens. -/
theorem ofValue_grammar (item : Value) :
    (∀ name argument, ofValue item = .token name argument ↔
      ∃ t, item = .text t ∧ Specifier.Spells name argument t) ∧
    (∀ t name argument name' argument', Specifier.Spells name argument t →
      Specifier.Spells name' argument' t → name' = name ∧ argument' = argument) ∧
    (∀ t, ofValue item = .literal t ↔
      item = .text t ∧ t ≠ [] ∧ ∀ name argument, ¬Specifier.Spells name argument t) ∧
    (∀ v, ofValue item = .malformed v ↔ v = item ∧ ∀ t, item = .text t → t = []) ∧
    (∀ name argument, ofValue item = .token name argument →
      (ofValue item).field = underscored (joined name argument)) ∧
    (∀ t, ofValue item = .literal t → (ofValue item).field = underscored t) ∧
    CodePoint.ofChar '-' ∉ (ofValue item).field := by
  refine ⟨fun _ _ => ofValue_eq_token_iff, fun _ _ _ _ _ => Specifier.Spells.unique,
    fun _ => ofValue_eq_literal_iff, fun _ => ofValue_eq_malformed_iff, ?_, ?_,
    hyphen_notMem_field _⟩
  · intro name argument same
    obtain ⟨t, -, spells⟩ := ofValue_eq_token_iff.mp same
    rw [same]
    exact fieldName_eq spells.isArgument
  · intro t same
    rw [same]
    rfl

/-- An argument may hold the first bracket and line ends, a name letters beyond ASCII;
a name of one character is none. -/
theorem ofValue_grammar_brackets :
    ofValue (.text ":naïve-id[a[\n-b]") = .token "naïve-id" (some "a[\n-b") ∧
      (ofValue (.text ":naïve-id[a[\n-b]")).field = "naïve_id_a[\n_b" ∧
      ofValue (.text ":x[y]") = .literal ":x[y]" := by
  have spells : Specifier.Spells "naïve-id" (some "a[\n-b") ":naïve-id[a[\n-b]" := by
    decide +kernel
  obtain ⟨token, -, -, -, field, -⟩ := ofValue_grammar (.text ":naïve-id[a[\n-b]")
  obtain ⟨-, -, literal, -⟩ := ofValue_grammar (.text ":x[y]")
  have stands := (token _ _).mpr ⟨_, rfl, spells⟩
  refine ⟨stands, (field _ _ stands).trans (by decide +kernel),
    (literal _).mpr ⟨rfl, by decide, fun name argument spells => ?_⟩⟩
  obtain ⟨long, all⟩ := spells.isName
  have same := spells.text
  rw [Specifier.written_eq] at same
  match name, long with
  | c :: d :: rest, _ =>
    -- the second character of the name would be the bracket
    obtain rfl : d = CodePoint.ofChar '[' :=
      (List.cons.inj (List.cons.inj (List.cons.inj same).2).2).1.symm
    have bracket := all (CodePoint.ofChar '[') (by simp)
    cases Specifier.isNameChar_bracket.symm.trans bracket

end Entry

end AccessLog
