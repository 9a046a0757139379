/-
What a registry of formats keeps is what its definitions say.

* `Formats.Call`, `Formats.run`: calls of a registry, one after the other; a
  call that fails leaves the registry as it was.
* `Formats.latest`: the definition of a name that a history of calls leaves.
* `Formats.Change`: all that one call does to a registry.
* `Formats.Coherent`: what is kept under a name is the format of the items that
  the name is defined by. Every change preserves it.
* `Formats.Keeps`, `Formats.Renewed`: what changes that do not define a name
  leave of it, and what is kept under it once it was defined again.
* `Formats.resolve_latest`: what a name resolves to after any history.
-/
import Mathlib.Tactic.Common
import AccessLog.Format.Registry

namespace AccessLog

variable {ρ : Type}

/-- The definition that an option makes; a value without elements makes none. -/
def FormatOption.definition? : FormatOption ρ → Option (FormatDefinition ρ)
  | renderer r _ => some (.renderer r)
  | value v => v.items?.map .items

/-- An option that stands for a format of its own: a renderer that does not count as
not true, or a value that is true and not the name of a format. -/
def FormatOption.IsAdHoc (formats : Formats ρ) : FormatOption ρ → Prop
  | renderer _ truth => truth ≠ .ok false
  | value v => v.truthy = true ∧ ∀ t, v = .text t → formats.has t = false

namespace Formats

/-- One call of a registry. -/
inductive Call (ρ : Type) where
  | define (name : Text) (option : FormatOption ρ)
  | resolve (option : FormatOption ρ)

/-- The name that a call defines, with its definition. -/
def Call.defines? : Call ρ → Option (Text × FormatDefinition ρ)
  | define name option => option.definition?.map (name, ·)
  | resolve _ => none

/-- The call defines the name. -/
def Call.Defines (call : Call ρ) (name : Text) : Prop :=
  ∃ d, call.defines? = some (name, d)

/-- The registry after a call; one that fails leaves it as it was. -/
def after (formats : Formats ρ) : Call ρ → Formats ρ
  | .define name option =>
    match formats.define name option with
    | .ok formats => formats
    | .error _ => formats
  | .resolve option =>
    match formats.resolve option with
    | .ok (_, formats) => formats
    | .error _ => formats

/-- The registry after some calls. -/
def run (formats : Formats ρ) (calls : List (Call ρ)) : Formats ρ :=
  calls.foldl after formats

/-- The last definition of a name in a history of calls. -/
def latest (calls : List (Call ρ)) (name : Text) : Option (FormatDefinition ρ) :=
  Table.get? (calls.filterMap Call.defines?).reverse name

/-- Another definition of a name; what was kept under it is forgotten. -/
def redefined (formats : Formats ρ) (name : Text) (d : FormatDefinition ρ) : Formats ρ :=
  { formats with
    definitions := formats.definitions.put name d
    compiled := formats.compiled.erase name }

/-- What is compiled for a name, kept under it. -/
def keeping (formats : Formats ρ) (name : Text) (items : List Value) : Formats ρ :=
  { (formats.compile items).2 with
    compiled := formats.compiled.put name (formats.compile items).1 }

@[simp] lemma compile_definitions (formats : Formats ρ) (items : List Value) :
    (formats.compile items).2.definitions = formats.definitions := rfl

@[simp] lemma keeping_definitions (formats : Formats ρ) (name : Text) (items : List Value) :
    (formats.keeping name items).definitions = formats.definitions := rfl

lemma get?_redefined (formats : Formats ρ) (name other : Text) (d : FormatDefinition ρ) :
    (formats.redefined name d).get? other = if other = name then some d else formats.get? other :=
  Table.get?_put ..

lemma compiled_redefined (formats : Formats ρ) (name other : Text) (d : FormatDefinition ρ) :
    (formats.redefined name d).compiled.get? other =
      if other = name then none else formats.compiled.get? other :=
  Table.get?_erase ..

lemma compiled_keeping (formats : Formats ρ) (name other : Text) (items : List Value) :
    (formats.keeping name items).compiled.get? other =
      if other = name then some ⟨.ofItems items, formats.compilations⟩
      else formats.compiled.get? other :=
  Table.get?_put ..

lemma define_eq (formats : Formats ρ) (name : Text) (option : FormatOption ρ) :
    formats.define name option =
      match option.definition? with
      | some d => .ok (formats.redefined name d)
      | none => .error .wrongType := by
  cases option with
  | renderer r truth => rfl
  | value v =>
    rw [define, FormatOption.definition?]
    cases v.items? <;> rfl

/-! ### All that a call does -/

/-- The ways in which a call changes a registry, with the name that it defines:
it may leave it as it is, define a name, compile a format of its own, or compile
what a name is defined by and keep it. -/
inductive Change (formats : Formats ρ) :
    Option (Text × FormatDefinition ρ) → Formats ρ → Prop where
  | same : Change formats none formats
  | defined (name : Text) (d : FormatDefinition ρ) :
      Change formats (some (name, d)) (formats.redefined name d)
  | adHoc (items : List Value) : Change formats none (formats.compile items).2
  | kept (name : Text) (items : List Value) (defined : formats.get? name = some (.items items))
      (first : formats.compiled.get? name = none) :
      Change formats none (formats.keeping name items)

/-- The ways in which a name stands for a renderer, with the registry
afterwards. -/
inductive Naming (formats : Formats ρ) (name : Text) : Resolved ρ → Formats ρ → Prop where
  | renderer {r : ρ} (defined : formats.get? name = some (.renderer r)) :
      Naming formats name (.renderer r) formats
  | again {items : List Value} {c : Compilation} (defined : formats.get? name = some (.items items))
      (kept : formats.compiled.get? name = some c) : Naming formats name (.compiled c) formats
  | first {items : List Value} (defined : formats.get? name = some (.items items))
      (new : formats.compiled.get? name = none) :
      Naming formats name (.compiled (formats.compile items).1) (formats.keeping name items)

lemma named_eq_ok_iff {formats formats' : Formats ρ} {name : Text} {r : Resolved ρ} :
    formats.named name = .ok (r, formats') ↔ Naming formats name r formats' := by
  constructor
  · intro resolved
    rw [named] at resolved
    split at resolved
    case h_1 => cases resolved
    case h_2 r defined =>
      cases resolved
      exact .renderer defined
    case h_3 items defined =>
      split at resolved
      case h_1 c kept =>
        cases resolved
        exact .again defined kept
      case h_2 new =>
        cases resolved
        exact .first defined new
  · rintro (defined | ⟨defined, kept⟩ | ⟨defined, new⟩)
    · simp [named, defined]
    · simp [named, defined, kept]
    · simp only [named, defined, new]
      rfl

/-- A compiled format that a name stands for is kept under it from then on. -/
lemma Naming.kept {formats formats' : Formats ρ} {name : Text} {c : Compilation}
    (naming : Naming formats name (.compiled c) formats') :
    formats'.compiled.get? name = some c := by
  cases naming with
  | again defined kept => exact kept
  | first defined new =>
    rw [compiled_keeping, if_pos rfl]
    rfl

lemma Naming.change {formats formats' : Formats ρ} {name : Text} {r : Resolved ρ}
    (naming : Naming formats name r formats') : Change formats none formats' := by
  cases naming with
  | renderer defined => exact .same
  | again defined kept => exact .same
  | first defined new => exact .kept name _ defined new

/-- A name that is defined stands for something. -/
lemma exists_naming {formats : Formats ρ} {name : Text} {d : FormatDefinition ρ}
    (defined : formats.get? name = some d) : ∃ r formats', Naming formats name r formats' := by
  cases d with
  | renderer r => exact ⟨_, _, .renderer defined⟩
  | items items =>
    cases kept : formats.compiled.get? name with
    | some c => exact ⟨_, _, .again defined kept⟩
    | none => exact ⟨_, _, .first defined kept⟩

/-- A name that is defined resolves as such, unless it is the empty text. -/
lemma resolve_name {formats : Formats ρ} {name : Text} (filled : name ≠ [])
    (defined : formats.get? name ≠ none) :
    formats.resolve (.value (.text name)) = formats.named name := by
  have known : formats.has name = true := by
    rw [ne_eq, get?, Table.get?_eq_none_iff] at defined
    simpa [has] using defined
  have true' : (Value.text name).truthy = true := by simpa [Value.truthy] using filled
  simp [resolve, true', known]

/-- A value that is not true resolves as the default. -/
lemma resolve_false {formats : Formats ρ} {v : Value} (false' : v.truthy = false) :
    formats.resolve (.value v) = formats.named defaultName := by
  simp [resolve, false']

/-- An option of its own is compiled, if it is not a renderer, and not kept. -/
lemma resolve_adHoc {formats formats' : Formats ρ} {option : FormatOption ρ} {r : Resolved ρ}
    (adHoc : option.IsAdHoc formats) (resolved : formats.resolve option = .ok (r, formats')) :
    formats' = formats ∨ ∃ items, formats' = (formats.compile items).2 := by
  cases option with
  | renderer q truth =>
    obtain e | isTrue := truth
    · cases resolved
    · obtain rfl : isTrue = true := by
        cases isTrue
        · exact absurd rfl adHoc
        · rfl
      cases resolved
      exact .inl rfl
  | value v =>
    obtain ⟨true', unnamed⟩ := adHoc
    by_cases text : ∃ t, v = .text t
    · obtain ⟨t, rfl⟩ := text
      rw [resolve, true', Bool.not_true, if_neg Bool.false_ne_true, unnamed t rfl,
        if_neg Bool.false_ne_true] at resolved
      cases resolved
      exact .inr ⟨t.words.map .text, rfl⟩
    · rw [resolve, true', Bool.not_true, if_neg Bool.false_ne_true] at resolved
      · split at resolved
        · cases resolved
        · rename_i items _
          cases resolved
          exact .inr ⟨items, rfl⟩
      · exact fun t h => text ⟨t, h⟩

lemma change_resolve {formats formats' : Formats ρ} {option : FormatOption ρ} {r : Resolved ρ}
    (resolved : formats.resolve option = .ok (r, formats')) : Change formats none formats' := by
  by_cases adHoc : option.IsAdHoc formats
  · rcases resolve_adHoc adHoc resolved with rfl | ⟨items, rfl⟩
    · exact .same
    · exact .adHoc items
  · cases option with
    | renderer q truth =>
      obtain rfl : truth = .ok false := not_not.mp adHoc
      exact (named_eq_ok_iff.mp resolved).change
    | value v =>
      by_cases false' : v.truthy = false
      · rw [resolve_false false'] at resolved
        exact (named_eq_ok_iff.mp resolved).change
      · have true' : v.truthy = true := by simpa using false'
        obtain ⟨t, rfl, known⟩ : ∃ t, v = .text t ∧ formats.has t = true := by
          simpa [FormatOption.IsAdHoc, true'] using adHoc
        rw [resolve, true', Bool.not_true, if_neg Bool.false_ne_true, known, if_pos rfl]
          at resolved
        exact (named_eq_ok_iff.mp resolved).change

/-- A call does one of these changes. -/
lemma change_after (formats : Formats ρ) (call : Call ρ) :
    Change formats call.defines? (formats.after call) := by
  cases call with
  | define name option =>
    rw [after, define_eq, Call.defines?]
    cases option.definition? with
    | none => exact .same
    | some d => exact .defined name d
  | resolve option =>
    rw [after, Call.defines?]
    cases resolved : formats.resolve option with
    | error e => exact .same
    | ok result => exact change_resolve resolved

/-! ### The definitions are the latest -/

lemma Change.get? {formats formats' : Formats ρ} {defined : Option (Text × FormatDefinition ρ)}
    (change : Change formats defined formats') (name : Text) :
    formats'.get? name = (Table.get? defined.toList name).or (formats.get? name) := by
  cases change with
  | defined other d =>
    rw [get?_redefined, Option.toList_some, Table.get?_cons, Table.get?_nil]
    by_cases same : name = other
    · simp [same]
    · simp [same, eq_comm (a := other)]
  | _ => simp [Formats.get?]

/-- The definition of a name is the last one of the history, or what it was
before. -/
lemma get?_run (formats : Formats ρ) (calls : List (Call ρ)) (name : Text) :
    (formats.run calls).get? name = (latest calls name).or (formats.get? name) := by
  induction calls generalizing formats with
  | nil => rfl
  | cons call rest ih =>
    have split : (List.filterMap Call.defines? (call :: rest)).reverse =
        (rest.filterMap Call.defines?).reverse ++ call.defines?.toList := by
      cases h : call.defines? <;> simp [h]
    calc (formats.run (call :: rest)).get? name
        = (latest rest name).or ((formats.after call).get? name) := ih (formats.after call)
      _ = (latest (call :: rest) name).or (formats.get? name) := by
          rw [(change_after formats call).get?, latest, latest, split, Table.get?_append,
            Option.or_assoc]

/-! ### Coherence -/

/-- What is kept under a name was compiled from the items that the name is
defined by, and has a number that was given. -/
structure Coherent (formats : Formats ρ) : Prop where
  format_eq : ∀ {name c}, formats.compiled.get? name = some c →
    ∃ items, formats.get? name = some (.items items) ∧ c.format.specifiers = items ∧
      c.format.entries = items.map Entry.ofValue
  number_lt : ∀ {name c}, formats.compiled.get? name = some c → c.number < formats.compilations

lemma coherent_empty : (({} : Formats ρ)).Coherent where
  format_eq kept := by cases kept
  number_lt kept := by cases kept

lemma Coherent.redefined {formats : Formats ρ} (coherent : formats.Coherent) (name : Text)
    (d : FormatDefinition ρ) : (formats.redefined name d).Coherent where
  format_eq {other c} kept := by
    rw [compiled_redefined] at kept
    split at kept
    · cases kept
    · rename_i apart
      rw [get?_redefined, if_neg apart]
      exact coherent.format_eq kept
  number_lt {other c} kept := by
    rw [compiled_redefined] at kept
    split at kept
    · cases kept
    · exact coherent.number_lt kept

lemma Coherent.keeping {formats : Formats ρ} (coherent : formats.Coherent) {name : Text}
    {items : List Value} (defined : formats.get? name = some (.items items)) :
    (formats.keeping name items).Coherent where
  format_eq {other c} kept := by
    rw [compiled_keeping] at kept
    split at kept
    · rename_i same
      cases kept
      exact ⟨items, same ▸ defined, rfl, rfl⟩
    · exact coherent.format_eq kept
  number_lt {other c} kept := by
    rw [compiled_keeping] at kept
    split at kept
    · cases kept
      exact Nat.lt_succ_self _
    · exact Nat.lt_succ_of_lt (coherent.number_lt kept)

lemma Coherent.change {formats formats' : Formats ρ}
    {defined : Option (Text × FormatDefinition ρ)} (coherent : formats.Coherent)
    (change : Change formats defined formats') : formats'.Coherent := by
  cases change with
  | same => exact coherent
  | defined name d => exact coherent.redefined name d
  | adHoc items =>
    exact ⟨coherent.format_eq, fun kept => Nat.lt_succ_of_lt (coherent.number_lt kept)⟩
  | kept name items defined first => exact coherent.keeping defined

lemma Coherent.run {formats : Formats ρ} (coherent : formats.Coherent) (calls : List (Call ρ)) :
    (formats.run calls).Coherent := by
  induction calls generalizing formats with
  | nil => exact coherent
  | cons call rest ih => exact ih (coherent.change (change_after formats call))

/-! ### What is kept stays until the next definition -/

/-- Definition and compiled format of a name are still there. -/
structure Keeps (name : Text) (formats formats' : Formats ρ) : Prop where
  defined : formats'.get? name = formats.get? name
  kept : ∀ {c}, formats.compiled.get? name = some c → formats'.compiled.get? name = some c

lemma Change.keeps {formats formats' : Formats ρ} {defined : Option (Text × FormatDefinition ρ)}
    {name : Text} (change : Change formats defined formats')
    (other : ∀ d, defined ≠ some (name, d)) : Keeps name formats formats' := by
  cases change with
  | same => exact ⟨rfl, id⟩
  | defined name' d =>
    have apart : ¬name = name' := fun same => other d (by rw [same])
    refine ⟨?_, fun kept => ?_⟩
    · rw [get?_redefined, if_neg apart]
    · rw [compiled_redefined, if_neg apart, kept]
  | adHoc items => exact ⟨rfl, id⟩
  | kept name' items defined first =>
    refine ⟨rfl, fun {c} kept => ?_⟩
    -- under `name'` nothing was kept
    have apart : ¬name = name' := by
      rintro rfl
      rw [first] at kept
      cases kept
    rw [compiled_keeping, if_neg apart, kept]

lemma keeps_run {name : Text} (formats : Formats ρ) {calls : List (Call ρ)}
    (other : ∀ call ∈ calls, ¬call.Defines name) : Keeps name formats (formats.run calls) := by
  induction calls generalizing formats with
  | nil => exact ⟨rfl, id⟩
  | cons call rest ih =>
    have first : Keeps name formats (formats.after call) :=
      (change_after formats call).keeps fun d h => other call (by simp) ⟨d, h⟩
    have last := ih (formats.after call) fun call' h => other call' (by simp [h])
    exact ⟨last.defined.trans first.defined, fun kept => last.kept (first.kept kept)⟩

/-- What a name stood for once it stands for again, and nothing changes. -/
lemma Naming.again_of_keeps {name : Text} {before formats formats' : Formats ρ} {r : Resolved ρ}
    (naming : Naming before name r formats) (keeps : Keeps name formats formats') :
    Naming formats' name r formats' := by
  have same := naming.change.get? name
  cases naming with
  | renderer defined => exact .renderer (keeps.defined.trans defined)
  | again defined kept => exact .again (keeps.defined.trans defined) (keeps.kept kept)
  | first defined new =>
    have kept := (Naming.first defined new).kept
    exact .again (keeps.defined.trans (same.trans defined)) (keeps.kept kept)

/-! ### After another definition everything is new -/

/-- What is kept under the name was compiled when `start` formats had been
compiled, or later. -/
structure Renewed (start : Nat) (name : Text) (formats : Formats ρ) : Prop where
  start_le : start ≤ formats.compilations
  number_ge : ∀ {c}, formats.compiled.get? name = some c → start ≤ c.number

lemma Change.compilations_le {formats formats' : Formats ρ}
    {defined : Option (Text × FormatDefinition ρ)} (change : Change formats defined formats') :
    formats.compilations ≤ formats'.compilations := by
  cases change with
  | same => exact Nat.le_refl _
  | defined name d => exact Nat.le_refl _
  | adHoc items => exact Nat.le_succ _
  | kept name items defined first => exact Nat.le_succ _

lemma Renewed.change {start : Nat} {name : Text} {formats formats' : Formats ρ}
    {defined : Option (Text × FormatDefinition ρ)} (renewed : Renewed start name formats)
    (change : Change formats defined formats') : Renewed start name formats' := by
  refine ⟨Nat.le_trans renewed.start_le change.compilations_le, fun {c} kept => ?_⟩
  cases change with
  | same => exact renewed.number_ge kept
  | defined name' d =>
    rw [compiled_redefined] at kept
    split at kept
    · cases kept
    · exact renewed.number_ge kept
  | adHoc items => exact renewed.number_ge kept
  | kept name' items defined first =>
    rw [compiled_keeping] at kept
    split at kept
    · cases kept
      exact renewed.start_le
    · exact renewed.number_ge kept

lemma Renewed.run {start : Nat} {name : Text} {formats : Formats ρ}
    (renewed : Renewed start name formats) (calls : List (Call ρ)) :
    Renewed start name (formats.run calls) := by
  induction calls generalizing formats with
  | nil => exact renewed
  | cons call rest ih => exact ih (renewed.change (change_after formats call))

lemma Change.renewed {start : Nat} {name : Text} {d : FormatDefinition ρ}
    {formats formats' : Formats ρ} (change : Change formats (some (name, d)) formats')
    (started : start ≤ formats.compilations) : Renewed start name formats' := by
  cases change with
  | defined =>
    refine ⟨started, fun kept => ?_⟩
    rw [compiled_redefined, if_pos rfl] at kept
    cases kept

/-- Once the name was defined, all that is kept under it was compiled since the
start of the calls. -/
lemma renewed_run {start : Nat} {name : Text} {formats : Formats ρ} {calls : List (Call ρ)}
    (started : start ≤ formats.compilations) (defines : ∃ call ∈ calls, call.Defines name) :
    Renewed start name (formats.run calls) := by
  induction calls generalizing formats with
  | nil => simp at defines
  | cons call rest ih =>
    have change := change_after formats call
    by_cases now : call.Defines name
    · obtain ⟨d, h⟩ := now
      rw [h] at change
      exact (change.renewed started).run rest
    · obtain ⟨later, mem, defines⟩ := defines
      rcases List.mem_cons.mp mem with rfl | mem
      · exact absurd defines now
      · exact ih (Nat.le_trans started change.compilations_le) ⟨later, mem, defines⟩

/-! ### What a name resolves to -/

/-- The name resolves to what a definition says: to the renderer itself, or to
a format whose entries are those of the items. -/
def ResolvesTo (formats : Formats ρ) (name : Text) : FormatDefinition ρ → Prop
  | .renderer r => formats.resolve (.value (.text name)) = .ok (.renderer r, formats)
  | .items items =>
    ∃ c formats', formats.resolve (.value (.text name)) = .ok (.compiled c, formats') ∧
      c.format.specifiers = items ∧ c.format.entries = items.map Entry.ofValue

lemma Coherent.resolvesTo {formats : Formats ρ} (coherent : formats.Coherent) {name : Text}
    {d : FormatDefinition ρ} (filled : name ≠ []) (defined : formats.get? name = some d) :
    formats.ResolvesTo name d := by
  obtain ⟨r, formats', naming⟩ := exists_naming defined
  have resolved : formats.resolve (.value (.text name)) = .ok (r, formats') := by
    rw [resolve_name filled (by simp [defined]), named_eq_ok_iff]
    exact naming
  have same := naming.change.get? name
  cases naming with
  | renderer defined' =>
    cases defined.symm.trans defined'
    exact resolved
  | again defined' kept =>
    cases defined.symm.trans defined'
    obtain ⟨items, defined'', shown, entries⟩ := coherent.format_eq kept
    cases defined.symm.trans defined''
    exact ⟨_, _, resolved, shown, entries⟩
  | first defined' new =>
    cases defined.symm.trans defined'
    exact ⟨_, _, resolved, rfl, rfl⟩

/-- After any history of calls what is kept fits the definitions, and a name that
is not empty resolves to its latest definition. Until the name is defined again
it resolves to the same, and nothing is compiled; afterwards what is compiled for
it is new. A definition that fails changes nothing, and an option that stands for
a format of its own changes neither the definitions nor what is kept. -/
theorem resolve_latest (calls : List (Call ρ)) :
    (run {} calls).Coherent ∧
    (∀ name d, name ≠ [] → latest calls name = some d → (run {} calls).ResolvesTo name d) ∧
    (∀ name r formats between, name ≠ [] → latest calls name ≠ none →
      (run {} calls).resolve (.value (.text name)) = .ok (r, formats) →
      (∀ call ∈ between, ¬call.Defines name) →
      (formats.run between).resolve (.value (.text name)) = .ok (r, formats.run between)) ∧
    (∀ name c d formats formats' between, name ≠ [] → latest calls name ≠ none →
      (run {} calls).resolve (.value (.text name)) = .ok (.compiled c, formats) →
      (∃ call ∈ between, call.Defines name) →
      (formats.run between).resolve (.value (.text name)) = .ok (.compiled d, formats') →
      c.number < d.number) ∧
    (∀ name option e, (run {} calls).define name option = .error e →
      (run {} calls).after (.define name option) = run {} calls) ∧
    (∀ option : FormatOption ρ, option.IsAdHoc (run {} calls) →
      ((run {} calls).after (.resolve option)).definitions = (run {} calls).definitions ∧
      ((run {} calls).after (.resolve option)).compiled = (run {} calls).compiled) := by
  have coherent : (run {} calls).Coherent := coherent_empty.run calls
  have defined (name : Text) : (run {} calls).get? name = latest calls name := by
    rw [get?_run]
    exact Option.or_none
  refine ⟨coherent, ?latest, ?again, ?anew, ?failed, ?adHoc⟩
  case latest =>
    intro name d filled last
    exact coherent.resolvesTo filled ((defined name).trans last)
  case again =>
    intro name r formats between filled last resolved other
    rw [resolve_name filled (by rwa [defined]), named_eq_ok_iff] at resolved
    have keeps := keeps_run formats other
    have still : (formats.run between).get? name ≠ none := by
      rw [keeps.defined, resolved.change.get?, defined]
      exact last
    rw [resolve_name filled still, named_eq_ok_iff]
    exact resolved.again_of_keeps keeps
  case anew =>
    intro name c d formats formats' between filled last resolved defines resolved'
    rw [resolve_name filled (by rwa [defined]), named_eq_ok_iff] at resolved
    have still : (formats.run between).get? name ≠ none := by
      rw [get?_run, resolved.change.get?, defined]
      simp [last]
    rw [resolve_name filled still, named_eq_ok_iff] at resolved'
    have renewed := (renewed_run (Nat.le_refl _) defines).change resolved'.change
    calc c.number
        < formats.compilations := (coherent.change resolved.change).number_lt resolved.kept
      _ ≤ d.number := renewed.number_ge resolved'.kept
  case failed =>
    intro name option e failure
    rw [after, failure]
  case adHoc =>
    intro option adHoc
    rw [after]
    split
    case h_1 r formats resolved =>
      rcases resolve_adHoc adHoc resolved with rfl | ⟨items, rfl⟩ <;> exact ⟨rfl, rfl⟩
    case h_2 => exact ⟨rfl, rfl⟩

/-- A list under a name: the same after calls that leave the name alone, another
after another definition. -/
theorem resolve_latest_list :
    let formats : Formats CustomRenderer := run {} [.define "mine" (.value (.list [":method"]))]
    let kept := formats.keeping "mine" [":method"]
    let alone := kept.run [.define "mine" (.value .null), .resolve (.value (.text ":status"))]
    let anew := kept.run [.define "mine" (.value (.list [":url"]))]
    formats.ResolvesTo "mine" (.items [":method"]) ∧
    alone.resolve (.value (.text "mine")) =
      .ok (.compiled ⟨.ofItems [":method"], 0⟩, alone) ∧
    anew.resolve (.value (.text "mine")) =
      .ok (.compiled ⟨.ofItems [":url"], 1⟩, anew.keeping "mine" [":url"]) ∧ 0 < 1 ∧
    formats.after (.define "mine" (.value .null)) = formats ∧
    (formats.after (.resolve (.value (.text ":status")))).compiled = formats.compiled := by
  intro formats kept alone anew
  obtain ⟨-, latest, same, new, failed, adHoc⟩ :=
    resolve_latest (ρ := CustomRenderer) [.define "mine" (.value (.list [":method"]))]
  have named : ("mine" : Text) ≠ [] := by decide
  have first : formats.resolve (.value (.text "mine")) =
      .ok (.compiled ⟨.ofItems [":method"], 0⟩, kept) := rfl
  have second : anew.resolve (.value (.text "mine")) =
      .ok (.compiled ⟨.ofItems [":url"], 1⟩, anew.keeping "mine" [":url"]) := rfl
  have other : ∀ call ∈ [Call.define "mine" (.value .null), .resolve (.value (.text ":status"))],
      ¬call.Defines (ρ := CustomRenderer) "mine" := by
    simp [Call.Defines, Call.defines?, FormatOption.definition?, Value.items?]
  have single : FormatOption.IsAdHoc formats (.value (.text ":status")) := by
    refine ⟨rfl, ?_⟩
    rintro t ⟨⟩
    rfl
  refine ⟨latest _ _ named rfl, same _ _ _ _ named nofun first other, second, ?_,
    failed _ _ .wrongType rfl, (adHoc _ single).2⟩
  exact new _ _ _ _ _ _ named nofun first ⟨_, List.mem_singleton_self _, _, rfl⟩ second

/-- An option that is not true stands for the default: so does the empty text
though it may be a name, and so does the empty list though it is not kept. -/
theorem resolve_empty_name :
    let calls : List (Call CustomRenderer) :=
      [.define "default" (.value (.list [":url"])), .define "" (.value (.list [":method"]))]
    latest calls "" = some (.items [":method"]) ∧
    ¬(run {} calls).ResolvesTo "" (.items [":method"]) ∧
    ((run {} calls).after (.resolve (.value (.list [])))).compiled ≠ (run {} calls).compiled := by
  refine ⟨rfl, ?_, ?_⟩
  · rintro ⟨c, formats, resolved, shown, -⟩
    cases resolved
    exact absurd shown (by decide)
  · decide

end Formats

end AccessLog
