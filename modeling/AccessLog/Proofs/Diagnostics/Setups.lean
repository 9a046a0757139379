/-
Loggers after any number of setups.

* `Loggers.setUpAll`: setups one after the other, some of which may fail half-way.
* `Loggers.configured`, `Loggers.setUp_cases`: what a setup that returns makes of any loggers, and
  how little one that fails; whether it returns depends on its arguments alone.
* `Loggers.own_setUpAll`: the levels of other loggers stay as they are.
* `Loggers.effective_emitterLogger`: the level that counts for the emitter.
* `Loggers.setUp_last`: **the last setup counts**, whatever was set before; only a level between
  the emitter and the root is left as it was, and counts if the emitter has none of its own.
* `Loggers.emitter_below_package`: such a level, and the emitter does not follow the root.
-/
import Mathlib.Tactic.Common
import AccessLog.Diagnostics.Loggers

namespace AccessLog

namespace Loggers

/-- Setups one after the other, whatever comes of each. -/
def setUpAll (l : Loggers) (setups : List Setup) : Loggers :=
  setups.foldl (fun l s => (l.setUp s).1) l

/-- The loggers besides the root whose levels a setup sets. -/
def managed : List Text :=
  emitterLogger :: serverLoggers

/-- The logger between that of the emitter and the root. -/
def packageLogger : Text := "request_logger"

/-- One handler, and the levels of the root, the emitter and the servers. -/
def configured (l : Loggers) (rendering : Rendering) (root emitter : Int) : Loggers :=
  serverLoggers.foldl (fun l name => l.setLevel name Level.warning.number)
    ({ l with handlers := [rendering], root }.setLevel emitterLogger emitter)

variable {l : Loggers} {s : Setup} {name : Text}

/-! ### Levels that are set -/

lemma own_setLevel (l : Loggers) (name other : Text) (level : Int) :
    (l.setLevel name level).own other = if other = name then level else l.own other := by
  rw [own, setLevel, Table.get?_put]
  split <;> rfl

/-- The same level for several loggers. -/
lemma own_setLevels (names : List Text) (l : Loggers) (other : Text) (level : Int) :
    (names.foldl (fun l name => l.setLevel name level) l).own other =
      if other ∈ names then level else l.own other := by
  induction names generalizing l with
  | nil => rfl
  | cons name names ih =>
    rw [List.foldl_cons, ih, own_setLevel]
    by_cases later : other ∈ names
    · simp [later]
    · by_cases same : other = name <;> simp [later, same]

/-- Levels leave the handlers and the root alone. -/
lemma setLevels_eq (names : List Text) (l : Loggers) (level : Int) :
    (names.foldl (fun l name => l.setLevel name level) l).handlers = l.handlers ∧
      (names.foldl (fun l name => l.setLevel name level) l).root = l.root := by
  induction names generalizing l with
  | nil => exact ⟨rfl, rfl⟩
  | cons name names ih => exact ih (l.setLevel name level)

section Configured

variable (l : Loggers) (rendering : Rendering) (root emitter : Int)

lemma handlers_configured : (l.configured rendering root emitter).handlers = [rendering] :=
  (setLevels_eq _ _ _).1

lemma root_configured : (l.configured rendering root emitter).root = root :=
  (setLevels_eq _ _ _).2

lemma own_configured (name : Text) :
    (l.configured rendering root emitter).own name =
      if name ∈ serverLoggers then Level.warning.number
      else if name = emitterLogger then emitter else l.own name := by
  rw [configured, own_setLevels, own_setLevel]
  rfl

end Configured

/-! ### Setups -/

/-- Whether a setup returns depends on its arguments alone. If it fails, it has set no level but
perhaps that of the root; if it returns, it has set the same in all loggers. -/
lemma setUp_cases (s : Setup) :
    (∃ e, ∀ l : Loggers, (l.setUp s).2 = .error e ∧ (l.setUp s).1.levels = l.levels) ∨
      ∃ root emitter, emitterLevelOf s.emitterLevel = .ok emitter ∧ ∀ l : Loggers,
        l.setUp s = (l.configured (.choose s.environment s.format) root emitter, .ok ()) := by
  cases isRoot : levelOf s.level with
  | error e =>
    refine .inl ⟨e, fun l => ?_⟩
    rw [setUp, isRoot]
    exact ⟨rfl, rfl⟩
  | ok root =>
    cases isEmitter : emitterLevelOf s.emitterLevel with
    | error e =>
      refine .inl ⟨e, fun l => ?_⟩
      have failed : l.setUp s =
          ({ l with handlers := [.choose s.environment s.format], root }, .error e) := by
        simp only [setUp, isRoot, isEmitter]
      rw [failed]
      exact ⟨rfl, rfl⟩
    | ok emitter =>
      refine .inr ⟨root, emitter, rfl, fun l => ?_⟩
      simp only [setUp, isRoot, isEmitter]
      rfl

/-- No setup touches the level of any other logger, be it that it fails. -/
lemma own_setUp (other : name ∉ managed) (l : Loggers) (s : Setup) :
    (l.setUp s).1.own name = l.own name := by
  rcases setUp_cases s with ⟨e, failed⟩ | ⟨root, emitter, -, same⟩
  · rw [own, own, (failed l).2]
  · rw [managed, List.mem_cons, not_or] at other
    rw [same, own_configured, if_neg other.2, if_neg other.1]

lemma own_setUpAll (other : name ∉ managed) (l : Loggers) (setups : List Setup) :
    (l.setUpAll setups).own name = l.own name := by
  induction setups generalizing l with
  | nil => rfl
  | cons s setups ih =>
    calc ((l.setUp s).1.setUpAll setups).own name
        = (l.setUp s).1.own name := ih _
      _ = l.own name := own_setUp other l s

/-! ### The level that counts -/

/-- The emitter has its own level, or that of the logger above it, or that of the root. -/
lemma effective_emitterLogger (l : Loggers) :
    l.effective emitterLogger =
      if l.own emitterLogger ≠ 0 then l.own emitterLogger
      else if l.own packageLogger ≠ 0 then l.own packageLogger else l.root := by
  have above : lineage emitterLogger = [emitterLogger, packageLogger] := by decide
  rw [effective, above]
  by_cases first : l.own emitterLogger = 0
  · by_cases second : l.own packageLogger = 0 <;> simp [first, second]
  · simp [first]

/-- A level that is not given, or empty, is that of the root. -/
lemma emitterLevelOf_of_not_truthy {v : Value} (unset : v.truthy = false) :
    emitterLevelOf v = .ok 0 := by
  rw [emitterLevelOf, unset]
  rfl

/-- **The last setup counts.** If the last of any number of setups returns, it returns for fresh
loggers too, and whatever the loggers were at first:

* the root has one handler, of the same kind as after this setup alone, and root, emitter and
  servers have the same levels as then;
* the level of no other logger has changed;
* the level that counts for the emitter is the same as then if the emitter has one of its own,
  or none was set for the logger above it at first, or just that of the root;
* without a level for the emitter none is left from before: it follows the logger above it if
  that had a level at first, and else the root. -/
theorem setUp_last (l : Loggers) (setups : List Setup)
    (returned : ((l.setUpAll setups).setUp s).2 = .ok ()) :
    let after := ((l.setUpAll setups).setUp s).1
    let alone := (setUp {} s).1
    (setUp {} s).2 = .ok () ∧
      after.handlers = alone.handlers ∧ after.handlers.length = 1 ∧ after.root = alone.root ∧
      (∀ name ∈ managed, after.own name = alone.own name) ∧
      (∀ name ∉ managed, after.own name = l.own name) ∧
      (after.effective emitterLogger = alone.effective emitterLogger ↔
        alone.own emitterLogger ≠ 0 ∨ l.own packageLogger = 0 ∨
          l.own packageLogger = alone.root) ∧
      (s.emitterLevel.truthy = false → after.own emitterLogger = 0 ∧
        after.effective emitterLogger =
          if l.own packageLogger ≠ 0 then l.own packageLogger else after.root) := by
  obtain ⟨e, failed⟩ | ⟨root, emitter, isEmitter, same⟩ := setUp_cases s
  · cases (failed _).1.symm.trans returned
  have notManaged : packageLogger ∉ managed := by decide
  have others (name : Text) (other : name ∉ managed) :
      ((l.setUpAll setups).setUp s).1.own name = l.own name :=
    (own_setUp other _ s).trans (own_setUpAll other l setups)
  have package := others packageLogger notManaged
  have fresh : (setUp {} s).1.own packageLogger = 0 := own_setUp notManaged {} s
  have emitterOwn (l : Loggers) : (l.setUp s).1.own emitterLogger = emitter := by
    rw [same, own_configured, if_neg (by decide), if_pos rfl]
  have isRoot (l : Loggers) : (l.setUp s).1.root = root := by rw [same, root_configured]
  have counts := effective_emitterLogger ((l.setUpAll setups).setUp s).1
  have countsAlone := effective_emitterLogger (setUp {} s).1
  rw [emitterOwn, package, isRoot] at counts
  rw [emitterOwn, fresh, isRoot] at countsAlone
  refine ⟨by rw [same], ?handlers, ?one, ?level, fun name isIn => ?levels, others, ?counts,
    fun unset => ?follows⟩
  case handlers => rw [same, same, handlers_configured, handlers_configured]
  case one => rw [same, handlers_configured]; rfl
  case level => rw [isRoot, isRoot]
  case levels =>
    rw [same, same, own_configured, own_configured]
    rcases List.mem_cons.mp isIn with rfl | server
    · rw [if_pos rfl, if_pos rfl]
    · rw [if_pos server, if_pos server]
  case counts =>
    rw [counts, countsAlone, emitterOwn, isRoot]
    by_cases given : emitter = 0
    · by_cases between : l.own packageLogger = 0 <;> simp [given, between]
    · simp [given]
  case follows =>
    obtain rfl : emitter = 0 :=
      (Except.ok.inj ((emitterLevelOf_of_not_truthy unset).symm.trans isEmitter)).symm
    exact ⟨emitterOwn _, by rw [counts, isRoot, if_neg (not_not.mpr rfl)]⟩

/-- Two handlers and a level of the emitter at first, then a setup that fails half-way and one
with a level for the emitter, and a last one without. -/
theorem setUp_last_without_emitter :
    let l : Loggers := { handlers := [.json, .json], levels := [(emitterLogger, 40)] }
    let first : Setup := { environment := .staging, level := "debug", emitterLevel := "_STYLES" }
    let second : Setup := { environment := .production, emitterLevel := "DEBUG" }
    let last : Setup := { environment := .development, level := "warning", emitterLevel := "" }
    let after := ((l.setUpAll [first, second]).setUp last).1
    ((l.setUpAll [first, second]).setUp last).2 = .ok () ∧ after.handlers.length = 1 ∧
      after.handlers = (setUp {} last).1.handlers ∧ after.own emitterLogger = 0 ∧
      after.effective emitterLogger = after.root := by
  intro l first second last after
  have returned : ((l.setUpAll [first, second]).setUp last).2 = .ok () := by decide +kernel
  obtain ⟨-, handlers, one, -, -, -, -, follows⟩ := setUp_last l [first, second] returned
  obtain ⟨own, counts⟩ := follows rfl
  exact ⟨returned, one, handlers, own, counts⟩

/-- A level that was set for the logger above that of the emitter is left as it was, and the
emitter follows it in place of the root. -/
theorem emitter_below_package :
    let l : Loggers := { levels := [(packageLogger, Level.debug.number)] }
    let s : Setup := { environment := .development, level := "ERROR" }
    (l.setUp s).2 = .ok () ∧
      (l.setUp s).1.effective emitterLogger = Level.debug.number ∧
      (setUp {} s).1.effective emitterLogger = Level.error.number := by
  decide +kernel

end Loggers

end AccessLog
