/-
Leaving out the records of some paths.

* `Scope.PathIn`: the path of a scope is one of some texts.
* `Scope.IsWithheld`: it is, or it cannot be looked up among them.
* `Exchange.rendered_eq_none_iff`: whether a record is left out is decided on the scope as it
  is at the attempt.
* `Exchange.withheld_at_entry_iff`: **when that is the decision of the entry**: if rewriting of
  the scope has not moved the path among the others or away from them, and always in an
  immediate layer.
* `World.withheld_rewritten_path`: an application can do both, and the record shows the URL of
  the entry.
-/
import AccessLog.Exchange.Install
import AccessLog.Proofs.Exchange.Untimed
import AccessLog.Token.BuiltIn

namespace AccessLog

namespace Scope

/-- The path of the scope is one of some texts. -/
def PathIn (scope : Scope) (paths : List Text) : Prop :=
  ∃ t ∈ paths, scope.value "path" = .text t

instance (scope : Scope) (paths : List Text) : Decidable (scope.PathIn paths) :=
  inferInstanceAs (Decidable (∃ t ∈ paths, _))

/-- The path of the scope is one of some texts, or cannot be looked up among them. -/
def IsWithheld (scope : Scope) (paths : List Text) : Prop :=
  scope.PathIn paths ∨ (scope.value "path").hashable = false

instance (scope : Scope) (paths : List Text) : Decidable (scope.IsWithheld paths) :=
  inferInstanceAs (Decidable (_ ∨ _))

/-- A path that is a text can be looked up. -/
lemma isWithheld_iff_of_text {scope : Scope} {t : Text} (isText : scope.value "path" = .text t)
    (paths : List Text) : scope.IsWithheld paths ↔ scope.PathIn paths := by
  refine or_iff_left fun unknown => ?_
  rw [isText] at unknown
  cases unknown

end Scope

/-- Only a text is the same as a text. -/
lemma Value.same_text_iff {t : Text} {v : Value} : (Value.text t).same v = true ↔ v = .text t := by
  cases v with
  | text s => rw [same, beq_iff_eq, text.injEq, eq_comm]
  | _ => simp [same]

/-- What a policy for some paths makes of a view: the path is one of them, or another, or it
cannot be looked up. -/
lemma skipPaths_eq (paths : List Text) (view : View) :
    skipPaths (paths.map .text) view =
      if (view.scope.value "path").hashable then .ok (.flag (decide (view.scope.PathIn paths)))
      else .error .wrongType := by
  have found : (paths.map Value.text).any (·.same (view.scope.value "path")) =
      decide (view.scope.PathIn paths) := by
    rw [Bool.eq_iff_iff, decide_eq_true_iff, List.any_map, List.any_eq_true]
    exact exists_congr fun t => and_congr_right fun _ => Value.same_text_iff
  rw [skipPaths, found]

namespace Exchange

variable {layer : Layer} {scope₀ : Scope} {clock₀ : Clock} {x : Exchange}
  {result : Except Failure Unit} {paths : List Text}

/-- No record is asked for if the path of the scope is one of them at the attempt, or cannot be
looked up. -/
lemma rendered_eq_none_iff (skips : layer.skip = skipPaths (paths.map .text)) (view : View) :
    (layer.attempt view).rendered = none ↔ view.scope.IsWithheld paths := by
  rw [Layer.attempt, skips, skipPaths_eq, Scope.IsWithheld]
  cases (view.scope.value "path").hashable with
  | false => exact iff_of_true rfl (.inr rfl)
  | true =>
    by_cases isIn : view.scope.PathIn paths
    · simp [isIn, Value.truthy]
    · simp [isIn, Value.truthy]

/-- **The path is looked up when the record is attempted.** A layer that leaves out the records
of some paths makes its attempt for the URL at the entry, but decides on the path that the scope
has at the attempt. The decision is the one for the path at the entry exactly if that path and
the one at the attempt are both among the paths or both not, and so it always is in an immediate
layer. -/
theorem withheld_at_entry_iff (skips : layer.skip = skipPaths (paths.map .text))
    (entered : enter layer scope₀ clock₀ = .ok (x, result))
    (isText : ∃ t, scope₀.value "path" = .text t) {moments : List Moment} {a : Attempt}
    (made : a ∈ (run layer x moments).attempts) :
    ∃ seen rest, moments = seen ++ rest ∧ AttemptsAfter layer seen ∧
      scope₀.pathWithQuery = .ok a.view.originalUrl ∧
      ((a.rendered = none ↔ scope₀.PathIn paths) ↔
        ((readings scope₀ clock₀ seen).1.IsWithheld paths ↔ scope₀.PathIn paths)) ∧
      (layer.immediate = true → (a.rendered = none ↔ scope₀.PathIn paths)) := by
  obtain ⟨seen, rest, cut, after, rfl⟩ := exists_readings_of_attempt entered made
  have decided := rendered_eq_none_iff skips
    ((run layer x seen).view (readings scope₀ clock₀ seen).1 (readings scope₀ clock₀ seen).2)
  refine ⟨seen, rest, cut, after, ?url, ?exact, fun immediate => ?immediate⟩
  case url =>
    obtain ⟨host, url, -, isUrl, kept⟩ := Capture.exists_of_begin (capture_enter entered)
    rw [Layer.view_attempt, isUrl, View.originalUrl, view, capture_run, kept]
    rfl
  case exact => exact iff_congr decided Iff.rfl
  case immediate =>
    obtain ⟨t, isText⟩ := isText
    rcases after with ⟨-, rfl⟩ | ⟨other, -⟩
    · exact decided.trans (Scope.isWithheld_iff_of_text isText paths)
    · exact absurd (immediate.symm.trans other) Bool.false_ne_true.symm

/-- A path that is rewritten, but neither way to one of the paths. -/
theorem withheld_at_entry_iff_other_path :
    let layer : Layer := ⟨false, skipPaths [.text "/health"], fun _ => .ok "seen", "T"⟩
    let scope : Scope := [("type", "http"), ("path", "/a"), ("query_string", .bytes [98])]
    let moments : List Moment := [([("type", "http"), ("path", "/b")], {}, .ended)]
    ∃ x result, enter layer scope {} = .ok (x, result) ∧ scope.value "path" = .text "/a" ∧
      ∃ a ∈ (run layer x moments).attempts,
        (a.rendered = none ↔ scope.PathIn ["/health"]) ∧ a.view.originalUrl = "/a?b" := by
  intro layer scope moments
  have entered : enter layer scope {} =
      .ok (start layer ⟨some 0, .whole 0, .null, "/a?b"⟩, .ok ()) := rfl
  have rendered : (run layer (start layer ⟨some 0, .whole 0, .null, "/a?b"⟩) moments).attempts.map
      (·.rendered) = [some (.ok "seen")] := by
    decide +kernel
  obtain ⟨a, attempts, -⟩ := List.map_eq_singleton_iff.mp rendered
  have made : a ∈ (run layer (start layer ⟨some 0, .whole 0, .null, "/a?b"⟩) moments).attempts :=
    attempts ▸ List.mem_singleton_self a
  have skips : layer.skip = skipPaths (["/health"].map .text) := rfl
  obtain ⟨seen, rest, cut, after, url, decided, -⟩ :=
    withheld_at_entry_iff skips entered ⟨_, rfl⟩ made
  -- the only moment completes the exchange
  have all : seen = moments := by
    rcases List.append_eq_singleton_iff.mp cut.symm with ⟨rfl, -⟩ | ⟨rfl, -⟩
    · rcases after with ⟨immediate, -⟩ | ⟨-, before, last, empty, -⟩
      · cases immediate
      · simp at empty
    · rfl
  refine ⟨_, _, entered, rfl, a, made, decided.mpr ?_, (Except.ok.inj url).symm⟩
  rw [all]
  decide

end Exchange

namespace World

/-- The path of a scope is changed while the application runs. Away from the paths it brings a
record of one of them, and towards them it takes a record of another away; an immediate layer
decides the other way both times. -/
theorem withheld_rewritten_path :
    let url := (Renderer.compiled (.ofItems [":url"])).render Tokens.builtIn
    let layer (immediate : Bool) : Layer := ⟨immediate, skipPaths [.text "/health"], url, "T"⟩
    let server := Server.ofLists [] []
    let body : Message := [("type", "http.response.body")]
    let app (path : Text) : App :=
      .edit (fun scope => scope.put "path" path) (.send body fun result => .done result)
    let emitted (immediate : Bool) (before after : Text) : List Emission :=
      ((starting [layer immediate] [.recorder] {} {} server
        [("type", "http"), ("path", before)] (app after)).turns 2).emitted
    emitted false "/health" "/a" = [⟨"T", .dict [("url", "/health")]⟩] ∧
      emitted true "/health" "/a" = [] ∧
      emitted false "/a" "/health" = [] ∧
      emitted true "/a" "/health" = [⟨"T", .dict [("url", "/a")]⟩] := by
  decide +kernel

end World

end AccessLog
