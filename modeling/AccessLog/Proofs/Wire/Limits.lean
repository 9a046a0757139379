/-
Which events of texts have a written form, and what stands in the way of the
others.

* `Escapes`: writing fails for another reason than a length.
* `escapes_bind`: of two steps that may fail, the first that does decides.
* `Encodable`, `Fits`: a text has a UTF-8 form, and a short one.
* `escapes_writeName`, `escapes_writeText`: a name or a value fails for another
  reason than its length if it has no UTF-8 form.
* `texts`, `Stuck`: the texts of attributes in their order, and that the first
  of them that cannot be written is one without UTF-8 form.
* `Inexpressible`, `escapes_write_iff`: the same for an event, whose attributes
  are counted behind its type.
-/
import AccessLog.Proofs.Wire.RoundTrip

namespace AccessLog.Wire

variable {α β : Type}

/-- Writing fails, and not because something is too long. -/
def Escapes (x : Except WriteFault α) : Prop :=
  ∃ fault, x = .error fault ∧ fault.toFailure.isEmission = false

lemma escapes_ok (a : α) : ¬Escapes (.ok a) :=
  nofun

lemma escapes_error {fault : WriteFault} :
    Escapes (.error fault : Except WriteFault α) ↔ fault.toFailure.isEmission = false :=
  ⟨fun ⟨_, same, h⟩ => by cases same; exact h, fun h => ⟨fault, rfl, h⟩⟩

/-- Of two steps, the first that fails decides. -/
lemma escapes_bind {x : Except WriteFault α} {f : α → Except WriteFault β} :
    Escapes (x >>= f) ↔ Escapes x ∨ ∃ a, x = .ok a ∧ Escapes (f a) := by
  cases x with
  | error fault =>
    refine ⟨fun h => .inl (escapes_error.mpr (escapes_error.mp h)), ?_⟩
    rintro (h | ⟨a, same, -⟩)
    · exact escapes_error.mpr (escapes_error.mp h)
    · cases same
  | ok a =>
    refine ⟨fun h => .inr ⟨a, rfl, h⟩, ?_⟩
    rintro (h | ⟨b, same, h⟩)
    · exact absurd h (escapes_ok a)
    · cases same
      exact h

/-- A length that is checked in front of a value does not count. -/
lemma escapes_guarded {c : Prop} [Decidable c] {fault : WriteFault} {a : α}
    (length : fault.toFailure.isEmission = true) :
    ¬Escapes (do
      if c then throw fault
      return a : Except WriteFault α) := by
  by_cases h : c
  · simp only [h, if_true]
    intro escapes
    have lost := escapes_error.mp escapes
    simp [length] at lost
  · simp only [h, if_false]
    exact escapes_ok a

/-! ### One text -/

/-- A text without surrogates has a UTF-8 form. -/
def Encodable (t : Text) : Prop :=
  ∀ c ∈ t, c.isSurrogate = false

/-- A text has a UTF-8 form of at most `limit` bytes. -/
def Fits (limit : Nat) (t : Text) : Prop :=
  Encodable t ∧ utf8Size t ≤ limit

instance (t : Text) : Decidable (Encodable t) :=
  inferInstanceAs (Decidable (∀ c ∈ t, c.isSurrogate = false))

lemma length_flatMap_utf8 (t : Text) : (t.flatMap CodePoint.utf8).length = utf8Size t := by
  induction t with
  | nil => rfl
  | cons c rest ih =>
    rw [List.flatMap_cons, List.length_append, ih]
    rfl

lemma exists_toUtf8_iff {t : Text} {limit : Nat} :
    (∃ bytes, t.toUtf8 = .ok bytes ∧ bytes.length ≤ limit) ↔ Fits limit t := by
  simp only [Text.toUtf8_eq_ok_iff, Fits, Encodable]
  constructor
  · rintro ⟨_, ⟨encodable, rfl⟩, short⟩
    exact ⟨encodable, length_flatMap_utf8 t ▸ short⟩
  · rintro ⟨encodable, short⟩
    exact ⟨_, ⟨encodable, rfl⟩, (length_flatMap_utf8 t).symm ▸ short⟩

/-- A text without UTF-8 form is not too long but impossible. -/
lemma escapes_utf8 {t : Text} : Escapes (utf8 t) ↔ ¬Encodable t := by
  rw [utf8]
  cases encoded : t.toUtf8 with
  | ok bytes =>
    have encodable : Encodable t := (Text.toUtf8_eq_ok_iff.mp encoded).1
    exact ⟨fun h => absurd h (escapes_ok bytes), fun h => absurd encodable h⟩
  | error fault =>
    refine ⟨fun _ encodable => ?_, fun _ => escapes_error.mpr rfl⟩
    cases encoded.symm.trans (Text.toUtf8_eq_ok_iff.mpr ⟨encodable, rfl⟩)

lemma exists_writeName_iff {role : NameRole} {name : Text} :
    (∃ written, writeName role name = .ok written) ↔ Fits maxName name := by
  rw [← exists_toUtf8_iff]
  simp only [writeName_eq_ok_iff]
  exact ⟨fun ⟨_, bytes, encoded, short, _⟩ => ⟨bytes, encoded, short⟩,
    fun ⟨bytes, encoded, short⟩ => ⟨_, bytes, encoded, short, rfl⟩⟩

lemma exists_writeText_iff {t : Text} :
    (∃ written, writeScalar (.text t) = .ok written) ↔ Fits maxText t := by
  rw [← exists_toUtf8_iff]
  simp only [writeScalar_text_eq_ok_iff]
  exact ⟨fun ⟨_, bytes, encoded, short, _⟩ => ⟨bytes, encoded, short⟩,
    fun ⟨bytes, encoded, short⟩ => ⟨_, bytes, encoded, short, rfl⟩⟩

lemma escapes_writeName {role : NameRole} {name : Text} :
    Escapes (writeName role name) ↔ ¬Encodable name := by
  rw [writeName, escapes_bind, escapes_utf8, or_iff_left_iff_imp]
  rintro ⟨bytes, -, h⟩
  exact absurd h (escapes_guarded rfl)

lemma escapes_writeText {t : Text} : Escapes (writeScalar (.text t)) ↔ ¬Encodable t := by
  rw [writeScalar, escapes_bind, escapes_utf8, or_iff_left_iff_imp]
  rintro ⟨bytes, -, h⟩
  exact absurd h (escapes_guarded rfl)

/-! ### The texts of attributes -/

/-- The texts of attributes in their order, each with the limit of its bytes. -/
def texts (attributes : Table Text) : List (Nat × Text) :=
  attributes.flatMap fun entry => [(maxName, entry.1), (maxText, entry.2)]

/-- The first text that cannot be written is one without UTF-8 form. -/
def Stuck (texts : List (Nat × Text)) : Prop :=
  ∃ before limit t after, texts = before ++ (limit, t) :: after ∧
    (∀ text ∈ before, Fits text.1 text.2) ∧ ¬Encodable t

lemma not_stuck_nil : ¬Stuck [] := by
  rintro ⟨before, limit, t, after, cut, -⟩
  simp at cut

lemma stuck_cons {limit : Nat} {t : Text} {rest : List (Nat × Text)} :
    Stuck ((limit, t) :: rest) ↔ ¬Encodable t ∨ Fits limit t ∧ Stuck rest := by
  constructor
  · rintro ⟨before, limit', t', after, cut, fit, lacks⟩
    cases before with
    | nil =>
      cases cut
      exact .inl lacks
    | cons first others =>
      cases cut
      obtain ⟨here, there⟩ := List.forall_mem_cons.mp fit
      exact .inr ⟨here, others, limit', t', after, rfl, there, lacks⟩
  · rintro (lacks | ⟨here, before, limit', t', after, rfl, there, lacks⟩)
    · exact ⟨[], limit, t, rest, rfl, List.forall_mem_nil _, lacks⟩
    · exact ⟨(limit, t) :: before, limit', t', after, rfl, List.forall_mem_cons.mpr ⟨here, there⟩,
        lacks⟩

/-- An attribute of two texts is written if both fit. -/
lemma exists_writeAttribute_iff {name t : Text} :
    (∃ written, writeAttribute (name, .text t) = .ok written) ↔
      Fits maxName name ∧ Fits maxText t := by
  rw [← @exists_writeName_iff .ofAttribute name, ← exists_writeText_iff]
  simp only [writeAttribute, bind_eq_ok_iff]
  constructor
  · rintro ⟨_, a, wroteName, b, wroteText, -⟩
    exact ⟨⟨a, wroteName⟩, b, wroteText⟩
  · rintro ⟨⟨a, wroteName⟩, b, wroteText⟩
    exact ⟨_, a, wroteName, b, wroteText, rfl⟩

lemma escapes_writeAttribute {name t : Text} :
    Escapes (writeAttribute (name, .text t)) ↔
      ¬Encodable name ∨ Fits maxName name ∧ ¬Encodable t := by
  rw [← @exists_writeName_iff .ofAttribute name, ← @escapes_writeText t,
    ← @escapes_writeName .ofAttribute name, writeAttribute, escapes_bind]
  refine or_congr_right ⟨?_, ?_⟩
  · rintro ⟨a, wroteName, h⟩
    rcases escapes_bind.mp h with lost | ⟨b, -, escaped⟩
    · exact ⟨⟨a, wroteName⟩, lost⟩
    · exact absurd escaped (escapes_ok _)
  · rintro ⟨⟨a, wroteName⟩, lost⟩
    exact ⟨a, wroteName, escapes_bind.mpr (.inl lost)⟩

/-- Attributes fail for another reason than a length if the first text that
cannot be written has no UTF-8 form. -/
lemma escapes_attributes {attributes : Table Text} :
    Escapes ((attributes.mapValues Scalar.text).mapM writeAttribute) ↔
      Stuck (texts attributes) := by
  induction attributes with
  | nil => exact ⟨fun h => absurd h (escapes_ok _), fun h => absurd h not_stuck_nil⟩
  | cons entry rest ih =>
    obtain ⟨name, t⟩ := entry
    have split : texts ((name, t) :: rest) =
        (maxName, name) :: (maxText, t) :: texts rest := rfl
    have first : ((Table.mapValues Scalar.text ((name, t) :: rest)).mapM writeAttribute) =
        (do
          let written ← writeAttribute (name, .text t)
          let others ← (Table.mapValues Scalar.text rest).mapM writeAttribute
          return written :: others) := List.mapM_cons ..
    rw [first, split, stuck_cons, stuck_cons, escapes_bind, escapes_writeAttribute]
    have later : (∃ written, writeAttribute (name, .text t) = .ok written ∧
        Escapes (do
          let others ← (Table.mapValues Scalar.text rest).mapM writeAttribute
          return written :: others)) ↔
        (Fits maxName name ∧ Fits maxText t) ∧ Stuck (texts rest) := by
      rw [← exists_writeAttribute_iff, ← ih]
      constructor
      · rintro ⟨written, wrote, h⟩
        rcases escapes_bind.mp h with lost | ⟨_, -, escaped⟩
        · exact ⟨⟨written, wrote⟩, lost⟩
        · exact absurd escaped (escapes_ok _)
      · rintro ⟨⟨written, wrote⟩, lost⟩
        exact ⟨written, wrote, escapes_bind.mpr (.inl lost)⟩
    rw [later, or_assoc, and_assoc, ← and_or_left]

/-! ### Events of texts -/

/-- The first part of an event that cannot be written is not one that is too
long: its type has no UTF-8 form, or else there are more attributes than can be
counted, or the first text of these that cannot be written has no UTF-8 form. -/
def Inexpressible (type : Text) (attributes : Table Text) : Prop :=
  ¬Encodable type ∨
    Fits maxName type ∧ (maxCount < attributes.length + 1 ∨ Stuck (texts attributes))

/-- The count is written if it is small enough, and nothing else can be wrong
with it. -/
lemma escapes_writeCount {count : Nat} : Escapes (writeCount count) ↔ maxCount < count := by
  rw [writeCount]
  by_cases few : count ≤ maxCount
  · rw [if_pos few]
    exact ⟨fun h => absurd h (escapes_ok _), fun h => absurd few (Nat.not_le.mpr h)⟩
  · rw [if_neg few]
    exact ⟨fun _ => Nat.lt_of_not_le few, fun _ => escapes_error.mpr rfl⟩

/-- An event of texts fails for another reason than a length exactly if it is
inexpressible. -/
lemma escapes_write_iff {type : Text} {attributes : Table Text} :
    Escapes (write ⟨type, attributes.mapValues .text⟩) ↔ Inexpressible type attributes := by
  have count : (attributes.mapValues Scalar.text).length = attributes.length := by
    simp [Table.mapValues]
  have parts : Escapes (writeParts type attributes.length (attributes.mapValues .text)) ↔
      Inexpressible type attributes := by
    rw [Inexpressible, ← @escapes_writeName .ofEvent type, ← @exists_writeName_iff .ofEvent type,
      ← escapes_attributes, ← escapes_writeCount,
      writeParts, escapes_bind]
    refine or_congr_right ⟨?_, ?_⟩
    · rintro ⟨name, wroteName, h⟩
      refine ⟨⟨name, wroteName⟩, ?_⟩
      rcases escapes_bind.mp h with many | ⟨number, -, h⟩
      · exact .inl many
      · rcases escapes_bind.mp h with lost | ⟨body, -, escaped⟩
        · exact .inr lost
        · exact absurd escaped (escapes_ok _)
    · rintro ⟨⟨name, wroteName⟩, h⟩
      refine ⟨name, wroteName, escapes_bind.mpr ?_⟩
      by_cases few : attributes.length + 1 ≤ maxCount
      · have counted : writeCount (attributes.length + 1) =
            .ok (bigEndian 2 (attributes.length + 1)) := if_pos few
        rcases h with many | lost
        · exact .inl many
        · exact .inr ⟨_, counted, escapes_bind.mpr (.inl lost)⟩
      · exact .inl (escapes_writeCount.mpr (Nat.lt_of_not_le few))
  rw [write, count, escapes_bind, parts, or_iff_left_iff_imp]
  rintro ⟨payload, -, h⟩
  exact absurd h (escapes_guarded rfl)

end AccessLog.Wire
