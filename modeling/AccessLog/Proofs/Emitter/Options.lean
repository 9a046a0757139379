/-
The options of an emitter.

* `Validation.option_eq_ok_iff`: an option is what is given under its name, or its default.
* `Validation.option_bounded`: an option with bounds is one that lies within them.
* `TransportOptions.Given`, `TransportOptions.ofTable_eq_ok_iff`: the options of a table.
* `TransportOptions.check_eq_ok_iff`, `TransportOptions.exists_check_iff`: of all texts and
  integers, those that are valid are accepted.
* `TransportOptions.ofValue_mapping`: **a mapping gives valid options or is refused** with some
  issues.
-/
import AccessLog.Emitter.Options
import AccessLog.Proofs.Wire.RoundTrip

namespace AccessLog

/-! ### Bounds -/

namespace Validation

lemma between_eq_ok_iff {above below n m : Int} :
    between above below n = .ok m ↔ (above < n ∧ n < below) ∧ n = m := by
  rw [between]
  split
  · simp only [reduceCtorEq, false_iff]
    omega
  · split
    · simp only [reduceCtorEq, false_iff]
      omega
    · rw [Except.ok.injEq]
      omega

lemma within_eq_ok_iff {least most n m : Int} :
    within least most n = .ok m ↔ (least ≤ n ∧ n ≤ most) ∧ n = m := by
  rw [within]
  split
  · simp only [reduceCtorEq, false_iff]
    omega
  · split
    · simp only [reduceCtorEq, false_iff]
      omega
    · rw [Except.ok.injEq]
      omega

variable {α : Type} {given : Table Value} {name : Text} {default a : α}
  {read : Value → Except Refusal α}

lemma Checked.issues_eq_nil_iff {c : Checked α} : c.issues = [] ↔ ∃ a, c = .ok a := by
  cases c <;> simp [issues]

lemma option_eq_ok_iff : option given name default read = .ok a ↔
    (given.get? name).elim (default = a) (fun v => read v = .ok a) := by
  rw [option]
  cases given.get? name with
  | none => simp
  | some v =>
    simp only [Option.elim_some]
    cases read v <;> simp

/-- An option does not depend on the others. -/
lemma option_congr {other : Table Value} (same : given.get? name = other.get? name) :
    option given name default read = option other name default read := by
  rw [option, option, same]

/-- An option with bounds is one without that lies within them, as its default does. -/
lemma option_bounded {bound : α → Except Refusal α} {p : α → Prop}
    (bounds : ∀ {a b}, bound a = .ok b ↔ p a ∧ a = b) (usual : p default) :
    option given name default (fun v => read v >>= bound) = .ok a ↔
      option given name default read = .ok a ∧ p a := by
  rw [option_eq_ok_iff, option_eq_ok_iff]
  cases given.get? name with
  | none =>
    exact ⟨fun same => ⟨same, Eq.subst same usual⟩, And.left⟩
  | some v =>
    simp only [Option.elim_some, bind_eq_ok_iff, bounds]
    constructor
    · rintro ⟨b, readAs, isIn, rfl⟩
      exact ⟨readAs, isIn⟩
    · rintro ⟨readAs, isIn⟩
      exact ⟨a, readAs, isIn, rfl⟩

end Validation

/-! ### Options of a table -/

namespace TransportOptions

open Validation

/-- Each option of a table can be read, whatever its bounds. -/
structure Given (given : Table Value) (o : TransportOptions) : Prop where
  address : option given "address" ({} : TransportOptions).address readText = .ok o.address
  port : option given "port" ({} : TransportOptions).port readInteger = .ok o.port
  ttl : option given "ttl" ({} : TransportOptions).ttl readInteger = .ok o.ttl
  type : option given "type" ({} : TransportOptions).type readText = .ok o.type

variable {given : Table Value} {o : TransportOptions}

lemma port_eq_ok_iff {n : Int} :
    option given "port" ({} : TransportOptions).port (fun v => readInteger v >>= between 0 65536) =
        .ok n ↔
      option given "port" ({} : TransportOptions).port readInteger = .ok n ∧ 0 < n ∧ n < 65536 :=
  option_bounded (p := fun n => 0 < n ∧ n < 65536) between_eq_ok_iff (by decide)

lemma ttl_eq_ok_iff {n : Int} :
    option given "ttl" ({} : TransportOptions).ttl (fun v => readInteger v >>= within 0 255) =
        .ok n ↔
      option given "ttl" ({} : TransportOptions).ttl readInteger = .ok n ∧ 0 ≤ n ∧ n ≤ 255 :=
  option_bounded (p := fun n => 0 ≤ n ∧ n ≤ 255) within_eq_ok_iff (by decide)

/-- The options of a table are those that can be read and are valid. -/
lemma ofTable_eq_ok_iff : ofTable given = .ok o ↔ Given given o ∧ o.IsValid := by
  constructor
  · intro accepted
    rw [ofTable] at accepted
    dsimp only at accepted
    split at accepted
    · rename_i address port ttl type readAddress readPort readTtl readType
      cases accepted
      obtain ⟨readPort, above, below⟩ := port_eq_ok_iff.mp readPort
      obtain ⟨readTtl, least, most⟩ := ttl_eq_ok_iff.mp readTtl
      exact ⟨⟨readAddress, readPort, readTtl, readType⟩, above, below, least, most⟩
    · cases accepted
  · rintro ⟨read, above, below, least, most⟩
    rw [ofTable]
    simp only [read.address, port_eq_ok_iff.mpr ⟨read.port, above, below⟩,
      ttl_eq_ok_iff.mpr ⟨read.ttl, least, most⟩, read.type]

/-- If options are refused, an issue is told. -/
lemma issues_ne_nil {issues : List Issue} (refused : ofTable given = .error issues) :
    issues ≠ [] := by
  rw [ofTable] at refused
  dsimp only at refused
  split at refused
  · cases refused
  · rename_i notAll
    cases refused
    simp only [ne_eq, List.append_eq_nil_iff, Checked.issues_eq_nil_iff]
    rintro ⟨⟨⟨⟨address, readAddress⟩, port, readPort⟩, ttl, readTtl⟩, type, readType⟩
    exact notAll address port ttl type readAddress readPort readTtl readType

lemma check_eq_ok_iff {address type : Text} {port ttl : Int} :
    check address port ttl type = .ok o ↔ o = ⟨address, port, ttl, type⟩ ∧ o.IsValid := by
  rw [check, ofTable_eq_ok_iff]
  refine and_congr_left fun _ => ⟨fun read => ?_, fun same => ?_⟩
  · have one := read.address
    have two := read.port
    have three := read.ttl
    have four := read.type
    cases o
    cases one
    cases two
    cases three
    cases four
    rfl
  · subst same
    exact ⟨rfl, rfl, rfl, rfl⟩

lemma exists_check_iff {address type : Text} {port ttl : Int} :
    (∃ o, check address port ttl type = .ok o) ↔ IsValid ⟨address, port, ttl, type⟩ := by
  simp only [check_eq_ok_iff, exists_eq_left]

/-! ### Options of a layer -/

lemma entries?_mapping (given : Table Value) :
    entries? (given.map fun entry => (.text entry.1, entry.2)) = some given := by
  induction given with
  | nil => rfl
  | cons entry rest ih =>
    rw [entries?] at ih ⊢
    rw [List.map_cons, List.mapM_cons, ih]
    rfl

/-- A mapping gives valid options, or it is refused as that of a layer. -/
lemma ofValue_mapping (given : Table Value) :
    (∃ o, ofValue (Wire.mapping given) = .ok o ∧ Given given o ∧ o.IsValid) ∨
      ∃ issues, ofValue (Wire.mapping given) = .error (.refusedOptions issues) ∧ issues ≠ [] ∧
        ∀ o, Given given o → ¬o.IsValid := by
  have same : ofMapping (Wire.mapping given) = (ofTable given).mapError Failure.invalid := by
    rw [Wire.mapping, ofMapping, entries?_mapping]
  cases made : ofTable given with
  | ok o =>
    rw [made] at same
    refine .inl ⟨o, ?_, ofTable_eq_ok_iff.mp made⟩
    rw [Wire.mapping] at same ⊢
    rw [ofValue, same]
    · rfl
    · exact fun h => by cases h
  | error issues =>
    rw [made] at same
    refine .inr ⟨issues, ?_, issues_ne_nil made, fun o read valid => ?_⟩
    · rw [Wire.mapping] at same ⊢
      rw [ofValue, same]
      · rfl
      · exact fun h => by cases h
    · rw [ofTable_eq_ok_iff.mpr ⟨read, valid⟩] at made
      cases made

end TransportOptions

end AccessLog
