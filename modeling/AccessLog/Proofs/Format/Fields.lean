/-
The fields of a record and the texts in them.

* `names_renderEntries`: the entries add their fields in order, each once.
* `exists_last_entry`, `CompiledFormat.exists_shows`: of every field there is a last entry.
* `Value.shown_ne_nil`, `Extracted.IsPlain`: what counts as true does not show as
  the empty text, unless it is an object that shows itself so.
* `Entry.ShowsNothing`, `Entry.gives_nil_iff`: an entry with such an object, which alone gives
  the empty text.
* `CompiledFormat.render_fields`: **the fields of a record** are the same for all
  exchanges and tokens, and the last entry of each decides its text.
* `CompiledFormat.render_empty_text`: such an object, and an empty text in a record.
-/
import AccessLog.Proofs.Format.Grammar
import AccessLog.Proofs.Format.Rendering

namespace AccessLog

/-! ### Names -/

section Names

variable {tokens : Tokens} {view : View} {record record' : Record} {entries : List Entry}

/-- The entries add their fields in order, each once. -/
lemma names_renderEntries
    (rendered : (renderEntries tokens view record entries).result = .ok record') :
    Table.names record' = Table.names record ++
      ((entries.map Entry.field).removeAll (Table.names record)).eraseDups := by
  induction entries generalizing record with
  | nil =>
    cases rendered
    simp [List.removeAll]
  | cons entry rest ih =>
    obtain ⟨t, -, rendered⟩ := renderEntries_cons_ok rendered
    rw [ih rendered, Table.names_put, List.map_cons, List.cons_removeAll]
    by_cases known : entry.field ∈ Table.names record
    · simp [Table.has_eq_true_iff.mpr known, known]
    · have new : ¬Table.has record entry.field = true := fun has =>
        known (Table.has_eq_true_iff.mp has)
      have others : (rest.map Entry.field).removeAll (Table.names record ++ [entry.field]) =
          ((rest.map Entry.field).removeAll (Table.names record)).filter (!· == entry.field) := by
        rw [List.removeAll, List.removeAll, List.filter_filter]
        refine List.filter_congr fun field _ => ?_
        by_cases here : field = entry.field <;> simp [here]
      simp [new, known, List.eraseDups_cons, others]

end Names

/-- Of every field there is a last entry. -/
lemma exists_last_entry {entries : List Entry} {field : Text}
    (isIn : field ∈ entries.map Entry.field) :
    ∃ before entry after, entries = before ++ entry :: after ∧
      (∀ later ∈ after, later.field ≠ field) ∧ entry.field = field := by
  induction entries with
  | nil => cases isIn
  | cons first rest ih =>
    by_cases again : field ∈ rest.map Entry.field
    · obtain ⟨before, entry, after, rfl, last, same⟩ := ih again
      exact ⟨first :: before, entry, after, rfl, last, same⟩
    · have here : first.field = field := by
        rcases List.mem_cons.mp isIn with same | later
        · exact same.symm
        · exact absurd later again
      refine ⟨[], first, rest, rfl, fun later isLater same => again ?_, here⟩
      exact same ▸ List.mem_map_of_mem isLater

lemma CompiledFormat.exists_shows {format : CompiledFormat} {field : Text}
    (isIn : field ∈ format.fields) : ∃ entry, format.Shows entry ∧ entry.field = field := by
  obtain ⟨before, entry, after, cut, last, rfl⟩ := exists_last_entry isIn
  exact ⟨entry, ⟨before, after, cut, last⟩, rfl⟩

/-! ### Texts of values -/

lemma Text.ofInt_ne_nil (n : Int) : Text.ofInt n ≠ [] := by
  rw [ofInt]
  split
  · exact List.cons_ne_nil _ _
  · exact Text.ofNat_ne_nil n.natAbs

namespace Binary64

lemma positional_ne_nil (digits : Text) (point : Int) : positional digits point ≠ [] := by
  rw [positional]
  split
  · simp [Text.ofString]
  · dsimp only
    split <;> simp [Text.ofString]

lemma scientific_ne_nil (digits : Text) (point : Int) : scientific digits point ≠ [] := by
  simp [scientific, Text.ofString]

lemma shown_ne_nil (x : Binary64) : x.shown ≠ [] := by
  cases x with
  | nan =>
    change Text.ofString "nan" ≠ []
    decide
  | inf negative => cases negative <;> decide
  | finite negative m e =>
    rw [shown]
    split
    · simp [Text.ofString]
    · obtain ⟨c, p⟩ := shortestDigits m e
      refine List.append_ne_nil_of_right_ne_nil _ ?_
      split
      · exact positional_ne_nil _ _
      · exact scientific_ne_nil _ _

end Binary64

namespace Value

lemma bracketed_ne_nil {opening : Text} (opens : opening ≠ []) (items : List Text)
    (closing : Text) : bracketed opening items closing ≠ [] := by
  simp [bracketed, opens]

lemma tupleText_ne_nil (items : List Text) : tupleText items ≠ [] := by
  rw [tupleText.eq_def]
  split
  · simp [Text.ofString]
  · exact bracketed_ne_nil (by decide) _ _

/-- What counts as true does not show as the empty text, unless it is an object that shows
itself. -/
lemma shown_ne_nil {v : Value} (isTrue : v.truthy = true) (plain : ∀ s, v ≠ .object s) :
    v.shown ≠ [] := by
  cases v with
  | null => cases isTrue
  | flag b =>
    cases b
    · cases isTrue
    · change Text.ofString "True" ≠ []
      decide
  | int n => exact Text.ofInt_ne_nil n
  | float x => exact x.shown_ne_nil
  | text t =>
    rintro rfl
    cases isTrue
  | bytes bs => simp [shown, quoted, quotedBytes]
  | list xs => exact bracketed_ne_nil (by decide) _ _
  | tuple xs => exact tupleText_ne_nil _
  | dict es => exact bracketed_ne_nil (by decide) _ _
  | object s => exact absurd rfl (plain s)

end Value

/-- A plain value, and not an object. -/
def Extracted.IsPlain (x : Extracted) : Prop :=
  ∃ v, x = .ofValue v ∧ ∀ s, v ≠ .object s

/-- No plain value that counts as true has the empty text. -/
lemma Extracted.IsPlain.ne_nil {x : Extracted} (plain : x.IsPlain) (isTrue : x.truth = .ok true)
    {t : Text} (shown : x.shown = .ok t) : t ≠ [] := by
  obtain ⟨v, rfl, kind⟩ := plain
  obtain rfl : v.shown = t := Except.ok.inj shown
  exact Value.shown_ne_nil (Except.ok.inj isTrue) kind

/-- The entry is a token, and gives an object that counts as true and shows itself as the empty
text. -/
def Entry.ShowsNothing (tokens : Tokens) (view : View) : Entry → Prop
  | token name argument => ∃ f x, tokens.lookup name = some f ∧
      f view (argumentValue argument) = .ok x ∧ x.truth = .ok true ∧ x.shown = .ok [] ∧ ¬x.IsPlain
  | literal _ | malformed _ => False

/-! ### Records -/

section Records

variable {items : List Value} {tokens : Tokens} {view : View} {record : Record}

/-- The text of an entry of a format is empty only if its token shows nothing. -/
lemma Entry.gives_nil_iff {entry : Entry} (isIn : entry ∈ (CompiledFormat.ofItems items).entries) :
    entry.Gives tokens view [] ↔ entry.ShowsNothing tokens view := by
  cases entry with
  | malformed item => exact Iff.rfl
  | literal text =>
    obtain ⟨item, -, same⟩ := List.mem_map.mp isIn
    have filled : text ≠ [] := (ofValue_eq_literal_iff.mp same).2.1
    exact iff_of_false (fun empty => filled empty.symm) id
  | token name argument =>
    constructor
    · rintro ⟨f, x, known, given, ⟨isTrue, shown⟩ | ⟨-, dash⟩⟩
      · exact ⟨f, x, known, given, isTrue, shown, fun plain => plain.ne_nil isTrue shown rfl⟩
      · exact absurd dash (by decide)
    · rintro ⟨f, x, known, given, isTrue, shown, -⟩
      exact ⟨f, x, known, given, .inl ⟨isTrue, shown⟩⟩

/-- A record has the fields of the entries, each once. -/
lemma CompiledFormat.names_render {format : CompiledFormat}
    (rendered : format.render tokens view = .ok record) :
    Table.names record = format.fields.eraseDups := by
  have names := names_renderEntries rendered
  rw [names, fields, Table.names, List.map_nil, List.nil_append, List.removeAll_nil]

/-- The last entry of a field decides its text. -/
lemma CompiledFormat.get?_render_eq_some_iff {format : CompiledFormat}
    (rendered : format.render tokens view = .ok record) {field t : Text} :
    Table.get? record field = some t ↔
      ∃ entry, format.Shows entry ∧ entry.field = field ∧ entry.Gives tokens view t := by
  constructor
  · intro found
    have known : field ∈ Table.names record := by
      by_contra absent
      rw [← Table.has_eq_true_iff, Bool.not_eq_true, ← Table.get?_eq_none_iff, found] at absent
      cases absent
    rw [names_render rendered, List.mem_eraseDups] at known
    obtain ⟨entry, shows', rfl⟩ := exists_shows known
    obtain ⟨t', gives, here⟩ := get?_of_shows shows' rendered
    obtain rfl := Option.some.inj (found.symm.trans here)
    exact ⟨entry, shows', rfl, Entry.render_eq_ok_iff.mp gives⟩
  · rintro ⟨entry, shows', rfl, gives⟩
    obtain ⟨t', given, here⟩ := get?_of_shows shows' rendered
    rw [here, Except.ok.inj ((Entry.render_eq_ok_iff.mpr gives).symm.trans given)]

/-- **The fields of a record** are those of the entries in the order in which they come
first, whatever the tokens and the exchange are; the last entry of a field decides its
text; and this text is empty only if the entry is a token that gives an object, not a plain
value, which counts as true and shows itself so. -/
theorem CompiledFormat.render_fields
    (rendered : (ofItems items).render tokens view = .ok record) :
    Table.names record = (ofItems items).fields.eraseDups ∧
      (∀ field t, Table.get? record field = some t ↔
        ∃ entry, (ofItems items).Shows entry ∧ entry.field = field ∧ entry.Gives tokens view t) ∧
      (∀ field, Table.get? record field = some [] ↔
        ∃ entry, (ofItems items).Shows entry ∧ entry.field = field ∧
          entry.ShowsNothing tokens view) ∧
      ∀ tokens' view' record', (ofItems items).render tokens' view' = .ok record' →
        Table.names record' = Table.names record := by
  refine ⟨names_render rendered, fun _ _ => get?_render_eq_some_iff rendered, fun field => ?_, ?_⟩
  · rw [get?_render_eq_some_iff rendered]
    refine exists_congr fun entry => and_congr_right fun ⟨before, after, cut, _⟩ => ?_
    have isIn : entry ∈ (ofItems items).entries :=
      cut ▸ List.mem_append_right before List.mem_cons_self
    exact and_congr_right fun _ => Entry.gives_nil_iff isIn
  · intro tokens' view' record' rendered'
    exact (names_render rendered').trans (names_render rendered).symm

/-- Two tokens and a text of one field, the last of them with a list as its value, a token whose
value is zero, and one with an object that shows itself as the empty text. -/
theorem CompiledFormat.render_fields_collision :
    let tokens : Tokens := [("user-id", Token.plain fun _ _ => .ok (.text "first")),
      ("user_id", Token.plain fun _ _ => .ok (.list [.null])),
      ("zero", Token.plain fun _ _ => .ok (.int 0)),
      ("error", Token.plain fun _ _ => .ok (.object []))]
    let format := ofItems [":user-id", ":zero", "user-id", ":error", ":user_id"]
    ∃ record, format.render tokens { scope := [] } = .ok record ∧
      Table.names record = ["user_id", "zero", "error"] ∧
      Table.get? record "user_id" = some "[None]" ∧
      ∀ field, Table.get? record field = some [] ↔ field = "error" := by
  intro tokens format
  have rendered : format.render tokens { scope := [] } =
      .ok [("user_id", "[None]"), ("zero", "-"), ("error", [])] := by decide +kernel
  have cut : format.entries = [.token "user-id" none, .token "zero" none, .literal "user-id",
      .token "error" none] ++ .token "user_id" none :: [] := by decide +kernel
  have cut' : format.entries = [.token "user-id" none, .token "zero" none, .literal "user-id"] ++
      .token "error" none :: [.token "user_id" none] := by decide +kernel
  have object : ¬Extracted.IsPlain (.ofValue (.object [])) := by
    rintro ⟨v, same, kind⟩
    exact kind [] (congrArg Extracted.value same).symm
  obtain ⟨names, last, empty, -⟩ := render_fields rendered
  refine ⟨_, rendered, names.trans (by decide +kernel), (last _ _).mpr ?_, fun field =>
    ⟨fun found => ?_, ?_⟩⟩
  · exact ⟨.token "user_id" none, ⟨_, _, cut, nofun⟩, by decide, _, _, rfl, rfl,
      .inl ⟨rfl, rfl⟩⟩
  · simp only [Table.get?_cons, Table.get?_nil] at found
    split_ifs at found with first second third
    · cases found
    · cases found
    · exact third.symm
  · rintro rfl
    refine (empty _).mpr
      ⟨.token "error" none, ⟨_, _, cut', ?_⟩, by decide, _, _, rfl, rfl, rfl, rfl, object⟩
    exact List.forall_mem_singleton.mpr (by decide)

/-- An object that counts as true and shows itself as the empty text, as an error without a
message does: its field has the empty text, and not that of missing data. -/
theorem CompiledFormat.render_empty_text :
    let tokens : Tokens := [("error", fun _ _ => .ok ⟨.object [], .ok true, .ok []⟩)]
    (ofItems [":error"]).entries = [.token "error" none] ∧
      (ofItems [":error"]).render tokens { scope := [] } = .ok [("error", [])] := by
  intro tokens
  have entries : (ofItems [":error"]).entries = [.token "error" none] := by decide +kernel
  refine ⟨entries, ?_⟩
  rw [render, run, entries]
  rfl

end Records

end AccessLog
