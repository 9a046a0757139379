/-
Where and why rendering fails.

* `Extractor.Raises`, `Entry.Fails`: the failure of a token, and of an entry: the
  item is malformed, the token is not registered, or it fails itself.
* `Entry.call?`, `Entry.ownCalls`: the call that an entry stands for, and that call
  if it is made.
* `Entry.render_eq_error_iff`, `Entry.calls_render`: rendering one entry.
* `renderEntries_front`: entries that do not fail are passed in order, and each of
  their tokens is called once.
* `CompiledFormat.FailsAt`, `CompiledFormat.exists_failsAt`: the first entry that fails.
* `Tokens.exists_lookup_of_registered`: a token that is registered later is known.
* `CompiledFormat.run_outcome`: **rendering fails at the first entry that fails**,
  with the failure of that entry and after the calls of those before it.
* `CompiledFormat.run_untrue`: a value that is not true need not be one that can be shown, but
  it must be one that can be asked.
-/
import Mathlib.Data.List.Induction
import AccessLog.Proofs.Format.Rendering

namespace AccessLog

/-! ### Failures of entries -/

/-- A token fails as its extractor does, as asking its value whether it counts as true does, or
as showing a value that does. -/
def Extractor.Raises (f : Extractor) (view : View) (argument : Value) (e : Failure) : Prop :=
  f view argument = .error e ∨
    ∃ x, f view argument = .ok x ∧
      (x.truth = .error e ∨ x.truth = .ok true ∧ x.shown = .error e)

lemma Extracted.text_eq_error_iff {x : Extracted} {e : Failure} :
    x.text = .error e ↔ x.truth = .error e ∨ x.truth = .ok true ∧ x.shown = .error e := by
  rw [text]
  cases x.truth with
  | error e' => simp
  | ok isTrue => cases isTrue <;> simp

namespace Entry

/-- A malformed item fails with the item, a token that is not registered with its name,
and any other token as its extractor does. -/
def Fails (tokens : Tokens) (view : View) : Entry → Failure → Prop
  | token name argument, e =>
    (tokens.lookup name = none ∧ e = .plain (.unknownToken (.text name))) ∨
      ∃ f, tokens.lookup name = some f ∧ Extractor.Raises f view (argumentValue argument) e
  | literal _, _ => False
  | malformed item, e => e = .plain (.malformedSpecifier item)

/-- The call that an entry stands for. -/
def call? : Entry → Option TokenCall
  | token name argument => some ⟨name, argumentValue argument⟩
  | literal _ | malformed _ => none

/-- The call of an entry, if there is an extractor to be called. -/
def ownCalls (tokens : Tokens) (entry : Entry) : List TokenCall :=
  entry.call?.toList.filter fun call => (tokens.lookup call.name).isSome

variable {tokens : Tokens} {view : View} {entry : Entry}

/-- An entry is rendered to nothing but its failure. -/
lemma render_eq_error_iff {e : Failure} :
    (entry.render tokens view).result = .error e ↔ entry.Fails tokens view e := by
  cases entry with
  | literal text => exact ⟨nofun, False.elim⟩
  | malformed item => exact ⟨fun same => (Except.error.inj same).symm, congrArg _ ∘ Eq.symm⟩
  | token name argument =>
    cases known : tokens.lookup name with
    | none =>
      simp only [render, Fails, Tokens.extractor, known]
      constructor
      · intro same
        exact .inl ⟨trivial, (Except.error.inj same).symm⟩
      · rintro (⟨-, rfl⟩ | ⟨f, ⟨⟩, -⟩)
        rfl
    | some f =>
      simp only [render, Fails, Tokens.extractor, known]
      cases given : f view (argumentValue argument) with
      | error e' =>
        constructor
        · intro same
          cases same
          exact .inr ⟨f, rfl, .inl given⟩
        · rintro (⟨⟨⟩, -⟩ | ⟨_, ⟨⟩, raised | ⟨x, other, -⟩⟩)
          · cases given.symm.trans raised
            rfl
          · cases given.symm.trans other
      | ok x =>
        constructor
        · intro failed
          exact .inr ⟨f, rfl, .inr ⟨x, given, Extracted.text_eq_error_iff.mp failed⟩⟩
        · rintro (⟨⟨⟩, -⟩ | ⟨_, ⟨⟩, raised | ⟨x', other, shown⟩⟩)
          · cases given.symm.trans raised
          · cases given.symm.trans other
            exact Extracted.text_eq_error_iff.mpr shown

/-- Rendering an entry makes its own call and no other. -/
lemma calls_render (entry : Entry) (tokens : Tokens) (view : View) :
    (entry.render tokens view).calls = entry.ownCalls tokens := by
  cases entry with
  | literal text => rfl
  | malformed item => rfl
  | token name argument =>
    cases known : tokens.lookup name <;>
      simp [render, ownCalls, call?, Tokens.extractor, known]

/-- An entry that does not fail has a text, and the call that it stands for is made. -/
lemma exists_render_of_not_fails (fine : ∀ e, ¬entry.Fails tokens view e) :
    ∃ t, (entry.render tokens view).result = .ok t ∧
      (entry.render tokens view).calls = entry.call?.toList := by
  cases rendered : (entry.render tokens view).result with
  | error e => exact absurd (render_eq_error_iff.mp rendered) (fine e)
  | ok t =>
    refine ⟨t, rfl, ?_⟩
    rw [calls_render, ownCalls, List.filter_eq_self]
    intro call isIn
    cases entry with
    | literal text => cases isIn
    | malformed item => cases isIn
    | token name argument =>
      obtain rfl := List.mem_singleton.mp isIn
      rw [Option.isSome_iff_ne_none]
      exact fun unknown => fine _ (.inl ⟨unknown, rfl⟩)

end Entry

/-! ### Entries in order -/

section Order

variable {tokens : Tokens} {view : View}

/-- Entries that do not fail are passed in order, and each of their tokens is called once. -/
lemma renderEntries_front {before : List Entry} (rest : List Entry)
    (fine : ∀ earlier ∈ before, ∀ e, ¬earlier.Fails tokens view e) (record : Record) :
    ∃ record', (renderEntries tokens view record (before ++ rest)).result =
        (renderEntries tokens view record' rest).result ∧
      (renderEntries tokens view record (before ++ rest)).calls =
        before.filterMap Entry.call? ++ (renderEntries tokens view record' rest).calls := by
  induction before generalizing record with
  | nil => exact ⟨record, rfl, rfl⟩
  | cons entry others ih =>
    obtain ⟨here, there⟩ := List.forall_mem_cons.mp fine
    obtain ⟨t, rendered, calls⟩ := Entry.exists_render_of_not_fails here
    obtain ⟨record', result, later⟩ := ih there (record.put entry.field t)
    refine ⟨record', ?_, ?_⟩
    · rw [List.cons_append, renderEntries]
      simp only [rendered, result]
    · rw [List.cons_append, renderEntries]
      simp only [rendered, calls, later, List.filterMap_cons]
      cases entry.call? <;> rfl

/-- The first of some entries that fails ends their rendering. -/
lemma renderEntries_fails {entry : Entry} {e : Failure} (fails : entry.Fails tokens view e)
    (record : Record) (after : List Entry) :
    (renderEntries tokens view record (entry :: after)).result = .error e ∧
      (renderEntries tokens view record (entry :: after)).calls = entry.ownCalls tokens := by
  have failed := Entry.render_eq_error_iff.mpr fails
  rw [renderEntries]
  simp only [failed, entry.calls_render, and_self]

end Order

/-! ### Formats -/

/-- An entry of a format that fails, with those before it, none of which does. -/
def CompiledFormat.FailsAt (format : CompiledFormat) (tokens : Tokens) (view : View)
    (before : List Entry) (entry : Entry) (e : Failure) : Prop :=
  (∃ after, format.entries = before ++ entry :: after) ∧
    (∀ earlier ∈ before, ∀ e', ¬earlier.Fails tokens view e') ∧ entry.Fails tokens view e

/-- If some entry fails, there is a first one that does. -/
lemma CompiledFormat.exists_failsAt {format : CompiledFormat} {tokens : Tokens} {view : View}
    {entry : Entry} {e : Failure} (isIn : entry ∈ format.entries)
    (fails : entry.Fails tokens view e) :
    ∃ before first e', format.FailsAt tokens view before first e' := by
  classical
  obtain ⟨first, before, after, fine, failsFirst, cut, -⟩ :=
    List.exists_of_eraseP (p := fun entry : Entry => decide (∃ e, entry.Fails tokens view e))
      isIn (decide_eq_true ⟨e, fails⟩)
  obtain ⟨e', fails'⟩ := of_decide_eq_true failsFirst
  refine ⟨before, first, e', ⟨after, cut⟩, fun earlier isIn e failsToo => ?_, fails'⟩
  exact fine earlier isIn (decide_eq_true ⟨e, failsToo⟩)

/-- A token that is registered later is known then, whatever else is registered. -/
lemma Tokens.exists_lookup_of_registered (tokens : Tokens) {later : List (Text × Extractor)}
    {name : Text} (isIn : name ∈ later.map Prod.fst) :
    ∃ f, (name, f) ∈ later ∧
      (later.foldl (fun tokens entry => tokens.register entry.1 entry.2) tokens).lookup name =
        some f := by
  induction later using List.reverseRecOn with
  | nil => cases isIn
  | append_singleton others last ih =>
    obtain ⟨other, f⟩ := last
    rw [List.foldl_append, List.foldl_cons, List.foldl_nil, lookup, register, Table.get?_put]
    by_cases same : name = other
    · subst same
      exact ⟨f, by simp, if_pos rfl⟩
    · rw [if_neg same]
      have before : name ∈ others.map Prod.fst := by simpa [same] using isIn
      obtain ⟨g, isIn', known⟩ := ih before
      exact ⟨g, List.mem_append_left _ isIn', known⟩

/-- **Rendering fails at the first entry that fails**: it fails if and only if some entry
does, with the failure of the first such entry, after one call in order for each token
before it, with its argument, and the call of the entry itself if its token is registered.
If no entry fails, all tokens are called, each entry's once. A token that was registered
after the format had been made, but before it is rendered, fails only as its extractor
does. -/
theorem CompiledFormat.run_outcome (format : CompiledFormat) (tokens : Tokens) (view : View) :
    ((∃ e, (format.run tokens view).result = .error e) ↔
        ∃ entry ∈ format.entries, ∃ e, entry.Fails tokens view e) ∧
      (∀ before entry e, format.FailsAt tokens view before entry e →
        (format.run tokens view).result = .error e ∧
          (format.run tokens view).calls =
            before.filterMap Entry.call? ++ entry.ownCalls tokens) ∧
      ((∀ entry ∈ format.entries, ∀ e, ¬entry.Fails tokens view e) →
        (∃ record, (format.run tokens view).result = .ok record) ∧
          (format.run tokens view).calls = format.entries.filterMap Entry.call?) ∧
      ∀ (later : List (Text × Extractor)) name argument, name ∈ later.map Prod.fst →
        ∃ f, (name, f) ∈ later ∧ ∀ e,
          (Entry.token name argument).Fails
              (later.foldl (fun tokens entry => tokens.register entry.1 entry.2) tokens) view e ↔
            Extractor.Raises f view (argumentValue argument) e := by
  have first {before : List Entry} {entry : Entry} {e : Failure}
      (failsAt : format.FailsAt tokens view before entry e) :
      (format.run tokens view).result = .error e ∧
        (format.run tokens view).calls =
          before.filterMap Entry.call? ++ entry.ownCalls tokens := by
    obtain ⟨⟨after, cut⟩, fine, fails⟩ := failsAt
    obtain ⟨record, result, calls⟩ := renderEntries_front (entry :: after) fine []
    obtain ⟨failed, own⟩ := renderEntries_fails fails record after
    rw [run, cut]
    exact ⟨result.trans failed, calls.trans (congrArg _ own)⟩
  have whole (fine : ∀ entry ∈ format.entries, ∀ e, ¬entry.Fails tokens view e) :
      (∃ record, (format.run tokens view).result = .ok record) ∧
        (format.run tokens view).calls = format.entries.filterMap Entry.call? := by
    obtain ⟨record, result, calls⟩ := renderEntries_front [] fine []
    rw [List.append_nil] at result calls
    exact ⟨⟨record, result⟩, calls.trans (List.append_nil _)⟩
  refine ⟨⟨?_, ?_⟩, fun _ _ _ => first, whole, fun later name argument isIn => ?_⟩
  · rintro ⟨e, failed⟩
    by_contra fine
    obtain ⟨⟨record, rendered⟩, -⟩ :=
      whole fun entry isIn e' fails => fine ⟨entry, isIn, e', fails⟩
    cases rendered.symm.trans failed
  · rintro ⟨entry, isIn, e, fails⟩
    obtain ⟨before, entry', e', failsAt⟩ := exists_failsAt isIn fails
    exact ⟨e', (first failsAt).1⟩
  · obtain ⟨f, isIn', known⟩ := tokens.exists_lookup_of_registered isIn
    refine ⟨f, isIn', fun e => ⟨?_, fun raises => .inr ⟨f, known, raises⟩⟩⟩
    rintro (⟨unknown, -⟩ | ⟨_, known', raises⟩)
    · cases unknown.symm.trans known
    · cases known.symm.trans known'
      exact raises

/-- A token is called twice with different arguments, one is registered only after the
format was made, the value of another is not true and could not be shown, and that of a fourth
is true and cannot be shown; behind that stand a token that nobody registers and an empty item.
Without these last three the format is rendered. -/
theorem CompiledFormat.run_outcome_unshown :
    let f : Extractor := fun _ argument => .ok (.ofValue argument)
    let g : Extractor := fun _ _ => .ok ⟨.object "x", .ok true, .error .wrongType⟩
    let h : Extractor := fun _ _ => .ok ⟨.object "x", .ok false, .error .wrongType⟩
    let items : List Value := [":echo[a]", "text", ":late", ":quiet", ":echo"]
    let others : List Value := [":broken[b]", ":nobody", ""]
    let tokens := Tokens.register [("echo", f), ("broken", g), ("quiet", h)] "late" f
    let front := (ofItems items).run tokens { scope := [] }
    let all := (ofItems (items ++ others)).run tokens { scope := [] }
    (∃ record, front.result = .ok record) ∧
      front.calls = [⟨"echo", .text "a"⟩, ⟨"late", .null⟩, ⟨"quiet", .null⟩, ⟨"echo", .null⟩] ∧
      all.result = .error .wrongType ∧
      all.calls = front.calls ++ [⟨"broken", .text "b"⟩] := by
  intro f g h items others tokens front all
  have entries : (ofItems items).entries = [.token "echo" (some "a"), .literal "text",
      .token "late" none, .token "quiet" none, .token "echo" none] := by decide +kernel
  have cut : (ofItems (items ++ others)).entries =
      (ofItems items).entries ++ .token "broken" (some "b") ::
        [.token "nobody" none, .malformed (.text [])] := by decide +kernel
  have plain : ∀ argument e, ¬Extractor.Raises f { scope := [] } argument e := by
    rintro argument e (⟨⟨⟩⟩ | ⟨x, ⟨⟩, ⟨⟨⟩⟩ | ⟨-, ⟨⟩⟩⟩)
  have quiet : ∀ argument e, ¬Extractor.Raises h { scope := [] } argument e := by
    rintro argument e (⟨⟨⟩⟩ | ⟨x, ⟨⟩, ⟨⟨⟩⟩ | ⟨⟨⟩, -⟩⟩)
  have fine : ∀ entry ∈ (ofItems items).entries, ∀ e, ¬entry.Fails tokens { scope := [] } e := by
    intro entry isIn e fails
    have echo : tokens.lookup "echo" = some f := rfl
    have untrue : tokens.lookup "quiet" = some h := rfl
    simp only [entries, List.mem_cons, List.not_mem_nil, or_false] at isIn
    rcases isIn with rfl | rfl | rfl | rfl | rfl
    · simp [Entry.Fails, echo, plain] at fails
    · exact fails
    · obtain ⟨f', isIn, known⟩ :=
        (run_outcome (ofItems items) [("echo", f), ("broken", g), ("quiet", h)]
          { scope := [] }).2.2.2 [("late", f)] "late" none (List.mem_singleton_self _)
      cases List.mem_singleton.mp isIn
      exact plain _ e ((known e).mp fails)
    · simp [Entry.Fails, untrue, quiet] at fails
    · simp [Entry.Fails, echo, plain] at fails
  obtain ⟨rendered, calls⟩ := (run_outcome (ofItems items) tokens { scope := [] }).2.2.1 fine
  obtain ⟨failed, called⟩ := (run_outcome _ tokens { scope := [] }).2.1 _ _ .wrongType
    ⟨⟨_, cut⟩, fine, .inr ⟨g, rfl, .inr ⟨_, rfl, .inr ⟨rfl, rfl⟩⟩⟩⟩
  have asked : front.calls =
      [⟨"echo", .text "a"⟩, ⟨"late", .null⟩, ⟨"quiet", .null⟩, ⟨"echo", .null⟩] :=
    calls.trans (congrArg (List.filterMap Entry.call?) entries)
  refine ⟨rendered, asked, failed, called.trans ?_⟩
  rw [show front.calls = _ from calls]
  rfl

/-- A value that cannot be shown does no harm if it is not true, since it is not shown then; and
one that can be shown ends the rendering if it cannot be asked whether it is true. -/
theorem CompiledFormat.run_untrue :
    let quiet : Extracted := ⟨.object "x", .ok false, .error .wrongType⟩
    let touchy : Extracted := ⟨.object "x", .error .missingAttribute, .ok "x"⟩
    let tokens : Tokens := [("quiet", fun _ _ => .ok quiet), ("touchy", fun _ _ => .ok touchy)]
    let format := ofItems [":quiet"]
    let format' := ofItems [":touchy"]
    format.entries = [.token "quiet" none] ∧ quiet.shown = .error .wrongType ∧
      (format.run tokens { scope := [] }).result = .ok [("quiet", "-")] ∧
      format'.entries = [.token "touchy" none] ∧ touchy.shown = .ok "x" ∧
      (format'.run tokens { scope := [] }).result = .error .missingAttribute := by
  intro quiet touchy tokens format format'
  have entries : format.entries = [.token "quiet" none] := by decide +kernel
  have entries' : format'.entries = [.token "touchy" none] := by decide +kernel
  refine ⟨entries, rfl, ?_, entries', rfl, ?_⟩
  · rw [run, entries]
    rfl
  · rw [run, entries']
    rfl

end AccessLog
