/-
Payloads as they are laid out.

* `Field`: an attribute with the byte that tells its kind and the bytes of its
  value; an event keeps neither of them.
* `readField`, `readFields`, `Layout`, `readLayout`: the parts of a payload.
* `readAttributes_eq`, `readEvent_eq`: an event is read from its layout, where
  the last attribute of a name counts.
* `Field.Announces`, `Field.IsPlain`, `Layout.IsCanonical`: the layouts that
  writers choose.
* `Reads.field`, `Reads.fields`: attributes are found in their written forms with
  the kinds and the bytes that were written.
-/
import AccessLog.Proofs.Wire.Reading

namespace AccessLog.Wire

/-! ### Layouts -/

/-- An attribute as it stands in a payload. -/
structure Field where
  name : Text
  /-- The byte that tells the kind of the value. -/
  token : UInt8
  value : Scalar
  /-- The bytes of the value behind that byte. -/
  body : List UInt8
deriving DecidableEq

/-- What an attribute is read as. -/
def Field.entry (f : Field) : Text × Scalar :=
  (f.name, f.value)

/-- The next attribute. -/
def readField (c : Cursor) : Except ReadFault (Field × Cursor) := do
  let (name, c) ← readName c
  let (token, c) ← readNumber 1 c
  let (value, after) ← readValue (UInt8.ofNat token) c
  return (⟨name, UInt8.ofNat token, value, c.rest.take (after.offset - c.offset)⟩, after)

/-- The next `count` attributes, all of them in order. -/
def readFields : (count : Nat) → Cursor → Except ReadFault (List Field × Cursor)
  | 0, c => .ok ([], c)
  | count + 1, c => do
    let (f, c) ← readField c
    let (others, c) ← readFields count c
    return (f :: others, c)

/-- A payload part by part. -/
structure Layout where
  type : Text
  fields : List Field
deriving DecidableEq

/-- The event of a layout. -/
def Layout.event (l : Layout) : Event :=
  ⟨l.type, Table.ofList (l.fields.map Field.entry)⟩

/-- The layout at the front of a payload, and the cursor behind it. -/
def readLayout (payload : List UInt8) : Except ReadFault (Layout × Cursor) := do
  let (type, c) ← readName (.start payload)
  let (count, c) ← readNumber 2 c
  let (fields, c) ← readFields count c
  return (⟨type, fields⟩, c)

/-- Attributes are read one by one and put into the table. -/
lemma readAttributes_eq (table : Table Scalar) (count : Nat) (c : Cursor) :
    readAttributes table count c =
      (readFields count c).map fun found => (table.putAll (found.1.map Field.entry), found.2) := by
  induction count generalizing table c with
  | zero => rfl
  | succ count ih =>
    simp only [readAttributes, readFields, readField, readScalar, bind_assoc]
    cases readName c with
    | error fault => rfl
    | ok name =>
      simp only [bind, Except.bind, pure, Except.pure]
      cases readNumber 1 name.2 with
      | error fault => rfl
      | ok token =>
        simp only
        cases readValue (UInt8.ofNat token.1) token.2 with
        | error fault => rfl
        | ok value =>
          simp only
          rw [ih]
          cases readFields count value.2 with
          | error fault => rfl
          | ok others => rfl

/-- An event is read from its layout. -/
theorem readEvent_eq (payload : List UInt8) :
    readEvent payload = (readLayout payload).map fun found => (found.1.event, found.2) := by
  rw [readEvent, readLayout]
  cases readName (.start payload) with
  | error fault => rfl
  | ok type =>
    simp only [bind, Except.bind, pure, Except.pure]
    cases readNumber 2 type.2 with
    | error fault => rfl
    | ok count =>
      simp only
      rw [readAttributes_eq]
      cases readFields count.1 count.2 with
      | error fault => rfl
      | ok fields => rfl

/-! ### Canonical layouts -/

/-- The announced encoding, in a number of two bytes. -/
def Field.Announces (f : Field) : Prop :=
  f.name = encodingName ∧ f.token = TypeToken.int16 ∧ f.value = .int encodingUtf8

/-- A text, a number of eight bytes, or a flag that is zero or one. -/
def Field.IsPlain (f : Field) : Prop :=
  f.token = TypeToken.text ∨ f.token = TypeToken.int64 ∨
    f.token = TypeToken.flag ∧ (f.body = [0] ∨ f.body = [1])

/-- The announced encoding comes first, all others are plain, and no name comes
twice. -/
def Layout.IsCanonical (l : Layout) : Prop :=
  match l.fields with
  | [] => False
  | first :: others =>
    first.Announces ∧ (∀ f ∈ others, f.name ≠ encodingName ∧ f.IsPlain) ∧
      (others.map Field.name).Nodup

instance (f : Field) : Decidable f.Announces :=
  inferInstanceAs (Decidable (_ ∧ _ ∧ _))

instance (f : Field) : Decidable f.IsPlain :=
  inferInstanceAs (Decidable (_ ∨ _ ∨ _ ∧ _))

instance (type : Text) (first : Field) (others : List Field) :
    Decidable (Layout.mk type (first :: others)).IsCanonical :=
  inferInstanceAs (Decidable (_ ∧ _ ∧ _))

/-! ### Attributes that were written -/

namespace Reads

/-- An attribute is found in the forms of its name and its value. -/
lemma field {name : Text} {value : Scalar} {token : UInt8} {nameBytes body : List UInt8}
    (foundName : Reads readName nameBytes name) (foundValue : Reads (readValue token) body value) :
    Reads readField (nameBytes ++ token :: body) ⟨name, token, value, body⟩ := by
  intro size offset rest
  have kind := @byte token.toNat token.toNat_lt
  rw [UInt8.ofNat_toNat] at kind
  have first := foundName size offset ([token] ++ (body ++ rest))
  have second := kind size (offset + nameBytes.length) (body ++ rest)
  have third := foundValue size (offset + nameBytes.length + [token].length) rest
  have behind : offset + (nameBytes ++ token :: body).length =
      offset + nameBytes.length + [token].length + body.length := by
    simp only [List.length_append, List.length_cons, List.length_nil]
    omega
  have joined : nameBytes ++ token :: body ++ rest = nameBytes ++ ([token] ++ (body ++ rest)) := by
    simp
  have ahead : offset + nameBytes.length + [token].length + body.length -
      (offset + nameBytes.length + [token].length) = body.length := by omega
  simp only [readField, joined, behind, first, second, third, UInt8.ofNat_toNat, Bind.bind,
    Except.bind, pure, Except.pure, ahead, List.take_left]

/-- The kind and the bytes of a value that was written. -/
lemma plain {value : Scalar} {token : UInt8} {body : List UInt8}
    (wrote : writeScalar value = .ok (token :: body)) (name : Text) :
    (Field.mk name token value body).IsPlain := by
  cases value with
  | flag b =>
    cases wrote
    cases b
    · exact .inr (.inr ⟨rfl, .inl rfl⟩)
    · exact .inr (.inr ⟨rfl, .inr rfl⟩)
  | int n =>
    rw [writeScalar] at wrote
    split at wrote
    · cases wrote
      exact .inr (.inl rfl)
    · cases wrote
  | text t =>
    obtain ⟨bytes, -, -, same⟩ := writeScalar_text_eq_ok_iff.mp wrote
    cases same
    exact .inl rfl

/-- Attributes are found in their written forms, and all of them are plain. -/
lemma fields {attributes : List (Text × Scalar)} {body : List (List UInt8)}
    (wrote : attributes.mapM writeAttribute = .ok body) :
    ∃ fields, fields.map Field.entry = attributes ∧ (∀ f ∈ fields, f.IsPlain) ∧
      Reads (readFields attributes.length) body.flatten fields := by
  induction attributes generalizing body with
  | nil =>
    cases wrote
    exact ⟨[], rfl, List.forall_mem_nil _, fun _ _ _ => rfl⟩
  | cons first rest ih =>
    rw [List.mapM_cons, bind_eq_ok_iff] at wrote
    obtain ⟨_, wroteFirst, wrote⟩ := wrote
    obtain ⟨others, wroteOthers, wrote⟩ := bind_eq_ok_iff.mp wrote
    cases wrote
    rw [writeAttribute] at wroteFirst
    obtain ⟨name, wroteName, wroteFirst⟩ := bind_eq_ok_iff.mp wroteFirst
    obtain ⟨value, wroteValue, wroteFirst⟩ := bind_eq_ok_iff.mp wroteFirst
    cases wroteFirst
    obtain ⟨token, bytes, rfl, foundValue⟩ := Reads.value wroteValue
    obtain ⟨fields, rfl, allPlain, found⟩ := ih wroteOthers
    refine ⟨⟨first.1, token, first.2, bytes⟩ :: fields, rfl,
      List.forall_mem_cons.mpr ⟨plain wroteValue first.1, allPlain⟩, ?_⟩
    rw [List.flatten_cons]
    exact (field (Reads.name wroteName) foundValue).bind
      (fun f c => readFields _ c >>= fun found => .ok (f :: found.1, found.2))
      (found.map _)

end Reads

end AccessLog.Wire
