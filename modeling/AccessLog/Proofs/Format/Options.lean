/-
What a format option stands for.

* `Formats.resolve_items`, `Formats.resolve_unnamed`: a list of items and a text that is no
  name are compiled, and nothing is kept of that.
* `Formats.resolve_redefined`: a name that was just defined by items is compiled from them.
* `Formats.resolve_spellings`: **a list of specifiers can be given in three ways**: as it is,
  with blanks in between, and under a name. The empty name is no way
  (`Formats.resolve_under_empty_name`).
* `FormatOption.IsOwn`: a list, a tuple, a renderer, or any text but the empty one and the name
  of the default.
* `Formats.Agree`, `Formats.SameOutcome`: two histories that define all but the default alike,
  and two answers with the same renderer or the same failure.
* `Formats.resolve_elsewhere_iff`: **the default shows in no other option** but the empty list,
  the empty tuple, and a renderer that does not count as true
  (`Formats.resolve_untrue_option`).
-/
import Mathlib.Data.List.Basic
import AccessLog.Proofs.Format.Registry
import AccessLog.Proofs.Text.Words

namespace AccessLog

variable {ρ : Type}

/-- The options that name fields of their own: a list or a tuple of items, any text but the
empty one and the name of the default, and a renderer, whether or not it counts as true. -/
inductive FormatOption.IsOwn : FormatOption ρ → Prop
  | list (items : List Value) : IsOwn (.value (.list items))
  | tuple (items : List Value) : IsOwn (.value (.tuple items))
  | text {t : Text} (filled : t ≠ []) (other : t ≠ Formats.defaultName) : IsOwn (.value (.text t))
  | renderer (r : ρ) (truth : Except Failure Bool) : IsOwn (.renderer r truth)

namespace Formats

/-! ### What an option stands for -/

/-- A list of items or a tuple of them is compiled, unless it is empty. -/
lemma resolve_items (formats : Formats ρ) {items : List Value} (filled : items ≠ []) {v : Value}
    (given : v = .list items ∨ v = .tuple items) :
    formats.resolve (.value v) =
      .ok (.compiled (formats.compile items).1, (formats.compile items).2) := by
  have notEmpty : items.isEmpty = false := List.isEmpty_eq_false_iff.mpr filled
  rcases given with rfl | rfl <;> simp [resolve, Value.truthy, Value.items?, notEmpty]

/-- A text that is no name is compiled from its words, unless it is empty. -/
lemma resolve_unnamed {formats : Formats ρ} {t : Text} (filled : t ≠ [])
    (unnamed : formats.has t = false) :
    formats.resolve (.value (.text t)) =
      .ok (.compiled (formats.compile (t.words.map .text)).1,
        (formats.compile (t.words.map .text)).2) := by
  have true' : (Value.text t).truthy = true := by simpa [Value.truthy] using filled
  simp [resolve, true', unnamed]

/-- A name that was just defined by items is compiled from them. -/
lemma resolve_redefined (formats : Formats ρ) {name : Text} (filled : name ≠ [])
    (items : List Value) :
    (formats.redefined name (.items items)).resolve (.value (.text name)) =
      .ok (.compiled (formats.compile items).1,
        (formats.redefined name (.items items)).keeping name items) := by
  have defined : (formats.redefined name (.items items)).get? name = some (.items items) := by
    rw [get?_redefined, if_pos rfl]
  have forgotten : (formats.redefined name (.items items)).compiled.get? name = none := by
    rw [compiled_redefined, if_pos rfl]
  rw [resolve_name filled (by simp [defined]), named_eq_ok_iff]
  exact .first defined forgotten

/-! ### Three ways to give a list -/

/-- **A list of specifiers can be given in three ways**, as a list or tuple, as a text with
blanks between the specifiers that is no name, and under any name but the empty one: each way
gives a renderer with the entries of the specifiers, and so the same record or the same failure
for all tokens and all that they are shown. The first two leave definitions and what is kept as
they are. -/
theorem resolve_spellings (formats : Formats CustomRenderer) {specifiers : List Text}
    (isWord : ∀ t ∈ specifiers, t.IsWord) {joined : Text} (spaced : joined.Spaced specifiers)
    (unnamed : formats.has joined = false) {name : Text} (filled : name ≠ []) :
    ∀ given ∈ [Value.list (specifiers.map .text), .tuple (specifiers.map .text)],
      ∃ listed spelled named defined afterList afterText afterName,
        formats.resolve (.value given) = .ok (.compiled listed, afterList) ∧
        formats.resolve (.value (.text joined)) = .ok (.compiled spelled, afterText) ∧
        formats.define name (.value given) = .ok defined ∧
        defined.resolve (.value (.text name)) = .ok (.compiled named, afterName) ∧
        (∀ c ∈ [listed, spelled, named],
          c.format.entries = specifiers.map fun t => Entry.ofValue (.text t)) ∧
        (∀ c ∈ [spelled, named], ∀ tokens view,
          (Resolved.compiled c).toRenderer.render tokens view =
            (Resolved.compiled listed).toRenderer.render tokens view) ∧
        ∀ after ∈ [afterList, afterText],
          after.definitions = formats.definitions ∧ after.compiled = formats.compiled := by
  intro given isGiven
  have given' : given = .list (specifiers.map .text) ∨ given = .tuple (specifiers.map .text) :=
    List.mem_pair.mp isGiven
  have filled' : specifiers.map Value.text ≠ [] := by
    simpa using spaced.words_ne_nil
  have split : joined.words = specifiers := spaced.words_eq isWord
  have spelled := resolve_unnamed (spaced.ne_nil isWord) unnamed
  rw [split] at spelled
  have defined : formats.define name (.value given) =
      .ok (formats.redefined name (.items (specifiers.map .text))) := by
    rw [define_eq]
    rcases given' with rfl | rfl <;> rfl
  refine ⟨_, _, _, _, _, _, _, formats.resolve_items filled' given', spelled, defined,
    formats.resolve_redefined filled _, ?entries, ?records, ?unchanged⟩
  case entries =>
    intro c isOne
    have format : c.format = .ofItems (specifiers.map .text) := by
      simp only [List.mem_cons, List.not_mem_nil, or_false, or_self] at isOne
      rw [isOne]
      rfl
    rw [format]
    exact List.map_map
  case records =>
    intro c isOne tokens view
    simp only [List.mem_cons, List.not_mem_nil, or_false, or_self] at isOne
    rw [isOne]
  case unchanged =>
    intro after isOne
    simp only [List.mem_cons, List.not_mem_nil, or_false, or_self] at isOne
    rw [isOne]
    exact ⟨rfl, rfl⟩

/-- Two specifiers with wide blanks and control codes around them, as a list or tuple, as a
text, and under the name of a built-in format. -/
theorem resolve_spellings_wide_blanks :
    let formats : Formats CustomRenderer := builtIn
    let specifiers : List Text := [":method", ":request[a]"]
    let joined : Text := "\u2003:method\t\u001f:request[a]\n"
    (∀ t ∈ specifiers, t.IsWord) ∧ joined.Spaced specifiers ∧ formats.has joined = false ∧
      ∃ spelled named defined after after',
        formats.resolve (.value (.text joined)) = .ok (.compiled spelled, after) ∧
        formats.define "tiny" (.value (.tuple (specifiers.map .text))) = .ok defined ∧
        defined.resolve (.value "tiny") = .ok (.compiled named, after') ∧
        spelled.format.entries = [.token "method" none, .token "request" (some "a")] ∧
        named.format.entries = [.token "method" none, .token "request" (some "a")] ∧
        after.compiled = formats.compiled := by
  intro formats specifiers joined
  have isWord : ∀ t ∈ specifiers, t.IsWord := by decide
  have trailed : Text.Trailed specifiers
      ((":method" : Text) ++ (("\t\u001f" : Text) ++ ((":request[a]" : Text) ++ "\n"))) :=
    .next _ _ (by decide) (by decide) (.last _ _ (by decide))
  have spaced : joined.Spaced specifiers := ⟨"\u2003", _, by decide, trailed, by decide⟩
  have unnamed : formats.has joined = false := by decide
  have entries : (specifiers.map fun t => Entry.ofValue (.text t)) =
      [.token "method" none, .token "request" (some "a")] := by decide +kernel
  have name : ("tiny" : Text) ≠ [] := by decide
  obtain ⟨listed, spelled, named, defined, _, after, after', -, asText, define, asName, same, -,
    unchanged⟩ := resolve_spellings formats isWord spaced unnamed name _
      (List.mem_cons_of_mem _ List.mem_cons_self)
  rw [entries] at same
  exact ⟨isWord, spaced, unnamed, spelled, named, defined, after, after', asText, define, asName,
    same _ (by simp), same _ (by simp), (unchanged _ (by simp)).2⟩

/-- Under the empty name a list cannot be had back: the name stands for the default. -/
theorem resolve_under_empty_name :
    let formats : Formats CustomRenderer := builtIn
    ∃ listed spelled named defined afterList afterText afterName,
      formats.resolve (.value (.list [":method"])) = .ok (.compiled listed, afterList) ∧
      formats.resolve (.value ":method") = .ok (.compiled spelled, afterText) ∧
      formats.define "" (.value (.list [":method"])) = .ok defined ∧
      defined.resolve (.value "") = .ok (.compiled named, afterName) ∧
      listed.format.entries = [.token "method" none] ∧
      spelled.format.entries = [.token "method" none] ∧
      named.format.entries = defaultItems.map Entry.ofValue ∧
      named.format.entries ≠ listed.format.entries := by
  have own : [Entry.ofValue ":method"] = [.token "method" none] := by decide
  have other : defaultItems.map Entry.ofValue ≠ [.token "method" none] := by decide +kernel
  exact ⟨⟨.ofItems [":method"], 0⟩, ⟨.ofItems [":method"], 0⟩, ⟨.ofItems defaultItems, 0⟩, _, _, _,
    _, rfl, rfl, rfl, rfl, own, own, rfl, other⟩

/-! ### What the default has no part in -/

/-- Two histories of calls define the default, perhaps in two ways, and every other name
alike. -/
structure Agree (calls calls' : List (Call ρ)) : Prop where
  defined : latest calls defaultName ≠ none
  defined' : latest calls' defaultName ≠ none
  elsewhere : ∀ name, name ≠ defaultName → latest calls name = latest calls' name

/-- Definitions of the default alone agree. -/
lemma agree_default (items items' : List Value) :
    Agree (ρ := ρ) [.define defaultName (.value (.list items))]
      [.define defaultName (.value (.list items'))] := by
  refine ⟨nofun, nofun, fun name other => ?_⟩
  have apart : ¬defaultName = name := fun same => other same.symm
  have latest_eq (items : List Value) :
      latest (ρ := ρ) [.define defaultName (.value (.list items))] name =
        Table.get? [(defaultName, .items items)] name := rfl
  rw [latest_eq, latest_eq, Table.get?_cons, Table.get?_cons, if_neg apart, if_neg apart]

/-- Two answers are alike: renderers with the same items and entries, the same renderer, or the
same failure. -/
def SameOutcome :
    Except Failure (Resolved ρ × Formats ρ) → Except Failure (Resolved ρ × Formats ρ) → Prop
  | .ok (.compiled c, _), .ok (.compiled d, _) => c.format = d.format
  | .ok (.renderer r, _), .ok (.renderer s, _) => r = s
  | .error e, .error f => e = f
  | _, _ => False

/-- What is compiled from the same items is alike. -/
lemma sameOutcome_compile (formats formats' : Formats ρ) (items : List Value) :
    SameOutcome (.ok (.compiled (formats.compile items).1, (formats.compile items).2))
      (.ok (.compiled (formats'.compile items).1, (formats'.compile items).2)) :=
  rfl

/-- A name with one definition resolves alike wherever what is kept fits the definitions. -/
lemma Coherent.sameOutcome {formats formats' : Formats ρ} (coherent : formats.Coherent)
    (coherent' : formats'.Coherent) {name : Text} {d : FormatDefinition ρ} (filled : name ≠ [])
    (defined : formats.get? name = some d) (defined' : formats'.get? name = some d) :
    SameOutcome (formats.resolve (.value (.text name)))
      (formats'.resolve (.value (.text name))) := by
  have resolved := coherent.resolvesTo filled defined
  have resolved' := coherent'.resolvesTo filled defined'
  cases d with
  | renderer r =>
    rw [ResolvesTo] at resolved resolved'
    rw [resolved, resolved', SameOutcome]
  | items items =>
    obtain ⟨c, after, resolved, specifiers, entries⟩ := resolved
    obtain ⟨c', after', resolved', specifiers', entries'⟩ := resolved'
    rw [resolved, resolved', SameOutcome]
    calc c.format = ⟨items, items.map Entry.ofValue⟩ := by rw [← entries, ← specifiers]
      _ = c'.format := by rw [← entries', ← specifiers']

/-- What a text stands for does not hang on the default, unless it is its name. -/
lemma Agree.sameOutcome_text {calls calls' : List (Call ρ)} (agree : Agree calls calls') {t : Text}
    (filled : t ≠ []) (other : t ≠ defaultName) :
    SameOutcome ((run {} calls).resolve (.value (.text t)))
      ((run {} calls').resolve (.value (.text t))) := by
  have defined (calls : List (Call ρ)) : (run {} calls).get? t = latest calls t := by
    rw [get?_run]
    exact Option.or_none
  have same : (run {} calls).get? t = (run {} calls').get? t := by
    rw [defined, defined, agree.elsewhere t other]
  cases known : (run {} calls').get? t with
  | some d =>
    exact (coherent_empty.run calls).sameOutcome (coherent_empty.run calls') filled
      (same.trans known) known
  | none =>
    have unnamed : (run {} calls).has t = false := Table.get?_eq_none_iff.mp (same.trans known)
    rw [resolve_unnamed filled unnamed, resolve_unnamed filled (Table.get?_eq_none_iff.mp known)]
    exact sameOutcome_compile _ _ _

/-- **The default shows in no other option** but the empty list, the empty tuple, and a renderer
that does not count as true: an option that names fields of its own stands for renderers with
the same items and entries, for the same renderer, or for the same failure after all histories
of calls that define everything but the default alike, exactly if it is none of these. -/
theorem resolve_elsewhere_iff {option : FormatOption ρ} (own : option.IsOwn) :
    (∀ calls calls', Agree calls calls' →
      SameOutcome ((run {} calls).resolve option) ((run {} calls').resolve option)) ↔
      option ≠ .value (.list []) ∧ option ≠ .value (.tuple []) ∧
        ∀ r, option ≠ .renderer r (.ok false) := by
  constructor
  case mp =>
    intro alike
    -- two histories that differ in the default show in an option that is not true
    have apart : CompiledFormat.ofItems [":url"] ≠ .ofItems [":method"] := by decide
    have shows' := alike _ _ (agree_default [":url"] [":method"])
    refine ⟨?_, ?_, fun r => ?_⟩ <;> rintro rfl <;> exact apart shows'
  case mpr =>
    rintro ⟨list, tuple, renderer⟩ calls calls' agree
    cases own with
    | list items =>
      have filled : items ≠ [] := by
        rintro rfl
        exact list rfl
      rw [resolve_items _ filled (.inl rfl), resolve_items _ filled (.inl rfl)]
      exact sameOutcome_compile _ _ _
    | tuple items =>
      have filled : items ≠ [] := by
        rintro rfl
        exact tuple rfl
      rw [resolve_items _ filled (.inr rfl), resolve_items _ filled (.inr rfl)]
      exact sameOutcome_compile _ _ _
    | text filled other => exact agree.sameOutcome_text filled other
    | renderer r truth =>
      obtain e | isTrue := truth
      · rfl
      · cases isTrue with
        | false => exact absurd rfl (renderer r)
        | true => rfl

/-- A name that was used in one of two histories only, while the default is a list in one and a
renderer in the other. -/
theorem resolve_elsewhere_iff_used_name :
    let calls : List (Call CustomRenderer) :=
      [.define "default" (.value (.list [":url"])), .define "mine" (.value (.list [":status"])),
        .resolve (.value "mine")]
    let calls' : List (Call CustomRenderer) :=
      [.define "mine" (.value (.tuple [":status"])),
        .define "default" (.renderer ⟨"own", fun _ _ => .ok .null⟩ (.ok false))]
    Agree calls calls' ∧ (FormatOption.value "mine" : FormatOption CustomRenderer).IsOwn ∧
      SameOutcome ((run {} calls).resolve (.value "mine"))
        ((run {} calls').resolve (.value "mine")) := by
  intro calls calls'
  have agree : Agree calls calls' := by
    refine ⟨nofun, nofun, fun name other => ?_⟩
    have apart : ¬Text.ofString "default" = name := fun same => other same.symm
    have inFirst : latest calls name =
        Table.get? [("mine", .items [":status"]), ("default", .items [":url"])] name := rfl
    have inSecond : latest calls' name =
        Table.get? [("default", .renderer ⟨"own", fun _ _ => .ok .null⟩),
          ("mine", .items [":status"])] name := rfl
    rw [inFirst, inSecond]
    simp [Table.get?_cons, apart]
  have own : (FormatOption.value "mine" : FormatOption CustomRenderer).IsOwn :=
    .text (by decide) (by decide)
  exact ⟨agree, own, (resolve_elsewhere_iff own).mpr ⟨nofun, nofun, nofun⟩ calls calls' agree⟩

/-- The empty list, the empty tuple, and a renderer that does not count as true stand for the
default: they log the fields that it names in either of two histories. -/
theorem resolve_untrue_option :
    let calls : List (Call CustomRenderer) := [.define "default" (.value (.list [":url"]))]
    let calls' : List (Call CustomRenderer) := [.define "default" (.value (.list [":method"]))]
    let own : CustomRenderer := ⟨"own", fun _ _ => .ok .null⟩
    Agree calls calls' ∧
      ∀ option ∈ [.value (.list []), .value (.tuple []), .renderer own (.ok false)],
        ((run {} calls).resolve option).map (·.1) = .ok (.compiled ⟨.ofItems [":url"], 0⟩) ∧
        ((run {} calls').resolve option).map (·.1) = .ok (.compiled ⟨.ofItems [":method"], 0⟩) ∧
        ¬SameOutcome ((run {} calls).resolve option) ((run {} calls').resolve option) := by
  intro calls calls' own
  have apart : CompiledFormat.ofItems [":url"] ≠ .ofItems [":method"] := by decide
  refine ⟨agree_default _ _, fun option isUntrue => ?_⟩
  simp only [List.mem_cons, List.not_mem_nil, or_false] at isUntrue
  rcases isUntrue with rfl | rfl | rfl <;> exact ⟨rfl, rfl, apart⟩

end Formats

end AccessLog
