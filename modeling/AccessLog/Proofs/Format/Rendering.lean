/-
The texts of a record.

* `Value.fieldText`: what a field shows of a value.
* `Entry.Gives`, `Entry.render_eq_ok_iff`: the text of an entry.
* `CompiledFormat.Shows`: an entry whose field no later entry replaces.
* `CompiledFormat.get?_of_shows`: such a field has the text of that entry.
* `exists_renderEntries_iff`, `exists_of_renderEntries_error`: entries are put into a record
  if each has a text.
* `Entry.render_plain_eq_ok_iff`, `Entry.render_plain_eq_error_iff`: the text of a token that
  gives plain values, and its failure.
* `Text.ofInt_ne_missing`, `Binary64.fixed_ne_missing`: a number never reads as
  missing data.
-/
import Mathlib.Data.List.Basic
import AccessLog.Format.Compiled
import AccessLog.Token.BuiltIn

namespace AccessLog

/-- What a field shows of a value: missing data if it is not true. -/
def Value.fieldText (v : Value) : Text :=
  if v.truthy then v.shown else missing

/-! ### Texts of entries -/

/-- The text of an entry: that of a literal, or what the value of a token is shown as, or
missing data if this value is not true. -/
def Entry.Gives (tokens : Tokens) (view : View) : Entry → Text → Prop
  | token name argument, t => ∃ f x, tokens.lookup name = some f ∧
      f view (argumentValue argument) = .ok x ∧
      (x.truth = .ok true ∧ x.shown = .ok t ∨ x.truth = .ok false ∧ t = missing)
  | literal text, t => t = text
  | malformed _, _ => False

section Texts

variable {tokens : Tokens} {view : View}

lemma Extracted.text_eq_ok_iff {x : Extracted} {t : Text} :
    x.text = .ok t ↔
      x.truth = .ok true ∧ x.shown = .ok t ∨ x.truth = .ok false ∧ t = missing := by
  rw [text]
  cases x.truth with
  | error e => simp
  | ok isTrue => cases isTrue <;> simp [eq_comm]

lemma Entry.render_eq_ok_iff {entry : Entry} {t : Text} :
    (entry.render tokens view).result = .ok t ↔ entry.Gives tokens view t := by
  cases entry with
  | literal text => exact ⟨fun same => (Except.ok.inj same).symm, congrArg Except.ok ∘ Eq.symm⟩
  | malformed item => exact ⟨nofun, nofun⟩
  | token name argument =>
    cases known : tokens.lookup name with
    | none =>
      simp only [render, Gives, Tokens.extractor, known]
      exact ⟨nofun, fun ⟨_, _, registered, _⟩ => nomatch registered⟩
    | some f =>
      simp only [render, Gives, Tokens.extractor, known]
      cases given : f view (argumentValue argument) with
      | error e =>
        refine ⟨nofun, ?_⟩
        rintro ⟨_, x, ⟨⟩, found, -⟩
        cases given.symm.trans found
      | ok x =>
        constructor
        · intro shown
          exact ⟨f, x, rfl, given, Extracted.text_eq_ok_iff.mp shown⟩
        · rintro ⟨_, _, ⟨⟩, found, shown⟩
          cases given.symm.trans found
          exact Extracted.text_eq_ok_iff.mpr shown

end Texts

/-! ### Entries and fields -/

/-- The format has the entry, and no later entry of the same field. -/
def CompiledFormat.Shows (format : CompiledFormat) (entry : Entry) : Prop :=
  ∃ before after, format.entries = before ++ entry :: after ∧
    ∀ later ∈ after, later.field ≠ entry.field

section Rendering

variable {tokens : Tokens} {view : View} {record record' : Record} {entry : Entry}
  {entries before after : List Entry}

/-- A record is made entry by entry. -/
lemma renderEntries_cons_ok
    (rendered : (renderEntries tokens view record (entry :: entries)).result = .ok record') :
    ∃ t, (entry.render tokens view).result = .ok t ∧
      (renderEntries tokens view (record.put entry.field t) entries).result = .ok record' := by
  rw [renderEntries] at rendered
  cases first : (entry.render tokens view).result with
  | error e =>
    simp only [first] at rendered
    cases rendered
  | ok t =>
    simp only [first] at rendered
    exact ⟨t, rfl, rendered⟩

/-- Entries are put into a record if each of them has a text. -/
lemma exists_renderEntries_iff (record : Record) :
    (∃ record', (renderEntries tokens view record entries).result = .ok record') ↔
      ∀ entry ∈ entries, ∃ t, (entry.render tokens view).result = .ok t := by
  induction entries generalizing record with
  | nil => exact iff_of_true ⟨record, rfl⟩ (List.forall_mem_nil _)
  | cons entry rest ih =>
    rw [List.forall_mem_cons]
    constructor
    · rintro ⟨record', rendered⟩
      obtain ⟨t, here, later⟩ := renderEntries_cons_ok rendered
      exact ⟨⟨t, here⟩, (ih _).mp ⟨record', later⟩⟩
    · rintro ⟨⟨t, here⟩, others⟩
      obtain ⟨record', later⟩ := (ih (record.put entry.field t)).mpr others
      refine ⟨record', ?_⟩
      rw [renderEntries]
      simp only [here, later]

/-- A failure to render is that of an entry. -/
lemma exists_of_renderEntries_error {record : Record} {e : Failure}
    (failed : (renderEntries tokens view record entries).result = .error e) :
    ∃ entry ∈ entries, (entry.render tokens view).result = .error e := by
  induction entries generalizing record with
  | nil => cases failed
  | cons entry rest ih =>
    rw [renderEntries] at failed
    cases first : (entry.render tokens view).result with
    | error e' =>
      simp only [first] at failed
      exact ⟨entry, List.mem_cons_self, first.trans (congrArg _ (Except.error.inj failed))⟩
    | ok t =>
      simp only [first] at failed
      obtain ⟨other, isIn, failed⟩ := ih failed
      exact ⟨other, List.mem_cons_of_mem _ isIn, failed⟩

/-- Entries of other fields leave a field as it is. -/
lemma get?_renderEntries {field : Text} (others : ∀ entry ∈ entries, entry.field ≠ field)
    (rendered : (renderEntries tokens view record entries).result = .ok record') :
    Table.get? record' field = Table.get? record field := by
  induction entries generalizing record with
  | nil =>
    cases rendered
    rfl
  | cons entry rest ih =>
    obtain ⟨t, -, rendered⟩ := renderEntries_cons_ok rendered
    have apart : field ≠ entry.field := (others entry List.mem_cons_self).symm
    rw [ih (fun later isIn => others later (List.mem_cons_of_mem _ isIn)) rendered,
      Table.get?_put, if_neg apart]

/-- The last entry of a field gives its text. -/
lemma get?_renderEntries_append (last : ∀ later ∈ after, later.field ≠ entry.field)
    (rendered : (renderEntries tokens view record (before ++ entry :: after)).result =
      .ok record') :
    ∃ t, (entry.render tokens view).result = .ok t ∧
      Table.get? record' entry.field = some t := by
  induction before generalizing record with
  | nil =>
    obtain ⟨t, shown, rendered⟩ := renderEntries_cons_ok rendered
    refine ⟨t, shown, ?_⟩
    rw [get?_renderEntries last rendered, Table.get?_put, if_pos rfl]
  | cons first rest ih =>
    obtain ⟨t, -, rendered⟩ := renderEntries_cons_ok rendered
    exact ih rendered

/-- A field that a format shows has the text of its entry in every record. -/
theorem CompiledFormat.get?_of_shows {format : CompiledFormat} (shows' : format.Shows entry)
    (rendered : format.render tokens view = .ok record) :
    ∃ t, (entry.render tokens view).result = .ok t ∧
      Table.get? record entry.field = some t := by
  obtain ⟨before, after, entries, last⟩ := shows'
  rw [render, run, entries] at rendered
  exact get?_renderEntries_append last rendered

/-- Records with the same value are the same. -/
lemma Record.toValue_injective : Function.Injective Record.toValue := by
  intro first second same
  refine List.map_injective_iff.mpr ?_ (Value.dict.inj same)
  rintro ⟨field, t⟩ ⟨field', t'⟩ same
  cases same
  rfl

/-- The record of a compiled format, read back from its value. -/
lemma Renderer.render_compiled {format : CompiledFormat}
    (rendered : (Renderer.compiled format).render tokens view = .ok record.toValue) :
    format.render tokens view = .ok record := by
  rw [Renderer.render] at rendered
  cases made : format.render tokens view with
  | error e =>
    rw [made] at rendered
    cases rendered
  | ok other =>
    rw [made] at rendered
    rw [Record.toValue_injective (Except.ok.inj rendered)]

/-- A token that gives plain values shows them, or missing data. -/
lemma Entry.render_plain_eq_ok_iff {name : Text} {f : View → Value → Except Failure Value}
    (known : tokens.lookup name = some (Token.plain f)) {argument : Option Text} {t : Text} :
    ((Entry.token name argument).render tokens view).result = .ok t ↔
      ∃ v, f view (argumentValue argument) = .ok v ∧ t = v.fieldText := by
  have given {x : Extracted} : Token.plain f view (argumentValue argument) = .ok x ↔
      ∃ v, f view (argumentValue argument) = .ok v ∧ .ofValue v = x := by
    rw [Token.plain]
    cases f view (argumentValue argument) with
    | error e => exact ⟨nofun, nofun⟩
    | ok v =>
      refine ⟨fun same => ⟨v, rfl, Except.ok.inj same⟩, ?_⟩
      rintro ⟨_, ⟨⟩, rfl⟩
      rfl
  have shown {v : Value} : (Extracted.truth (.ofValue v) = .ok true ∧
        Extracted.shown (.ofValue v) = .ok t ∨
      Extracted.truth (.ofValue v) = .ok false ∧ t = missing) ↔ t = v.fieldText := by
    rw [Value.fieldText, Extracted.ofValue]
    cases v.truthy <;> simp [eq_comm]
  rw [render_eq_ok_iff]
  constructor
  · rintro ⟨_, x, registered, found, shows'⟩
    cases known.symm.trans registered
    obtain ⟨v, gives, rfl⟩ := given.mp found
    exact ⟨v, gives, shown.mp shows'⟩
  · rintro ⟨v, gives, same⟩
    exact ⟨_, _, known, given.mpr ⟨v, gives, rfl⟩, shown.mpr same⟩

/-- Such a token fails only if it gives no value. -/
lemma Entry.render_plain_eq_error_iff {name : Text} {f : View → Value → Except Failure Value}
    (known : tokens.lookup name = some (Token.plain f)) {argument : Option Text} {e : Failure} :
    ((Entry.token name argument).render tokens view).result = .error e ↔
      f view (argumentValue argument) = .error e := by
  simp only [render, Tokens.extractor, known, Token.plain]
  cases f view (argumentValue argument) with
  | error e' =>
    exact ⟨fun same => congrArg _ (Except.error.inj same),
      fun same => congrArg _ (Except.error.inj same)⟩
  | ok v =>
    refine iff_of_false (fun failed => ?_) (fun same => by cases same)
    change Extracted.text (.ofValue v) = .error e at failed
    rw [Extracted.text, Extracted.ofValue] at failed
    cases truthy : v.truthy <;> simp [truthy] at failed

end Rendering

/-! ### Numbers -/

lemma Text.ofNat_ne_nil (n : Nat) : Text.ofNat n ≠ [] := by
  rw [ofNat, ne_eq, List.map_eq_nil_iff]
  exact Nat.toDigits_ne_nil

lemma Text.ofNat_ne_missing (n : Nat) : Text.ofNat n ≠ missing := by
  intro same
  -- a numeral has digits only
  have dash : CodePoint.ofChar '-' ∈ Text.ofNat n := same ▸ List.mem_singleton_self _
  obtain ⟨c, isIn, isDash⟩ := List.mem_map.mp dash
  have digit : c.isDigit = true := Nat.isDigit_of_mem_toDigits (by decide) (by decide) isIn
  obtain rfl : c = '-' := Char.toNat_inj.mp (congrArg CodePoint.toNat isDash)
  exact absurd digit (by decide)

/-- An integer does not read as missing data. -/
lemma Text.ofInt_ne_missing (n : Int) : Text.ofInt n ≠ missing := by
  rw [ofInt]
  split
  · intro same
    exact Text.ofNat_ne_nil n.natAbs (List.cons.inj same).2
  · exact Text.ofNat_ne_missing n.natAbs

/-- Digits before the point and behind it. -/
lemma length_placed {places : Nat} (nonzero : places ≠ 0) (units : Nat) :
    places + 2 ≤ (placed places units).length := by
  have long : places + 1 ≤ ((Text.ofNat units).padLeft (places + 1) '0').length := by
    rw [Text.padLeft, List.length_append, List.length_replicate]
    omega
  have point : (Text.ofString ".").length = 1 := rfl
  simp only [placed, if_neg nonzero, List.length_append, List.length_take, List.length_drop, point]
  omega

/-- A number with decimal places does not read as missing data. -/
lemma Binary64.fixed_ne_missing {places : Nat} (nonzero : places ≠ 0) (x : Binary64) :
    x.fixed places ≠ [] ∧ x.fixed places ≠ missing := by
  suffices long : 1 < (x.fixed places).length by
    constructor <;> intro same <;> rw [same] at long <;> exact absurd long (by decide)
  cases x with
  | nan =>
    change 1 < (Text.ofString "nan").length
    decide
  | inf negative =>
    rw [fixed]
    cases negative <;> decide
  | finite negative m e =>
    have long := length_placed nonzero (roundDiv ((magnitude m e).1 * Nat.pow 10 places)
      (magnitude m e).2)
    simp only [fixed, List.length_append]
    omega

end AccessLog
