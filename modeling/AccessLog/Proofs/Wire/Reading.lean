/-
Reading what was written, part by part.

* `bind_eq_ok_iff`, `guarded_eq_ok_iff`, `mapM_eq_ok_iff`, `mapM_eq_error`: when
  steps that may fail give a value, and which of them fails.
* `Reads`: a reader finds a value in some bytes, whatever stands before and
  behind them.
* `Reads.bind`, `Reads.map`: readers one after the other.
* `Reads.number`, `Reads.byte`, `Reads.text`: numbers and texts.
* `writeName_eq_ok_iff`, `writeScalar_text_eq_ok_iff`: what the written form of
  a name and of a text value is, if there is one.
* `signed_unsigned`: the bytes of a signed number.
* `Reads.name`, `Reads.scalar`, `Reads.attributes`: names, values and
  attributes are found in their written forms.
* `writeName_encodingName`, `Reads.encodingValue`, `Reads.announcement`: so is the
  announced encoding.
-/
import Mathlib.Data.List.Forall2
import AccessLog.Proofs.Text.Utf8
import AccessLog.Wire.Read
import AccessLog.Wire.Write

namespace AccessLog

/-- Two steps give a value if the first gives one, from which the second gives
that value. -/
lemma bind_eq_ok_iff {ε α β : Type} {x : Except ε α} {f : α → Except ε β} {b : β} :
    (x >>= f) = .ok b ↔ ∃ a, x = .ok a ∧ f a = .ok b := by
  cases x with
  | error e => exact ⟨nofun, fun ⟨_, h, _⟩ => nomatch h⟩
  | ok a => exact ⟨fun h => ⟨a, rfl, h⟩, fun ⟨_, h, h'⟩ => by cases h; exact h'⟩

/-- A check in front of a value is passed if there is one. -/
lemma guarded_eq_ok_iff {ε α : Type} {c : Prop} [Decidable c] {fault : ε} {a b : α} :
    (do
      if c then throw fault
      return a : Except ε α) = .ok b ↔ ¬c ∧ b = a := by
  by_cases h : c
  · simp only [h, if_true]
    exact ⟨nofun, fun k => absurd trivial k.1⟩
  · simp only [h, if_false]
    exact ⟨fun k => ⟨id, (Except.ok.inj k).symm⟩, fun k => by rw [k.2]; rfl⟩

section Steps

variable {ε α β : Type} {f : α → Except ε β}

/-- Steps one after the other give values if each of them does. -/
lemma mapM_eq_ok_iff {xs : List α} {ys : List β} :
    xs.mapM f = .ok ys ↔ List.Forall₂ (fun x y => f x = .ok y) xs ys := by
  induction xs generalizing ys with
  | nil =>
    rw [List.forall₂_nil_left_iff]
    exact ⟨fun same => (Except.ok.inj same).symm, fun same => same ▸ rfl⟩
  | cons x rest ih =>
    rw [List.mapM_cons, bind_eq_ok_iff, List.forall₂_cons_left_iff]
    refine exists_congr fun y => ?_
    rw [bind_eq_ok_iff]
    constructor
    · rintro ⟨here, others, there, same⟩
      exact ⟨others, here, ih.mp there, (Except.ok.inj same).symm⟩
    · rintro ⟨others, here, there, rfl⟩
      exact ⟨here, others, ih.mpr there, rfl⟩

/-- The first step that fails decides. -/
lemma mapM_eq_error {before after : List α} {x : α} {e : ε}
    (succeed : ∀ b ∈ before, ∃ y, f b = .ok y) (fails : f x = .error e) :
    (before ++ x :: after).mapM f = .error e := by
  induction before with
  | nil =>
    rw [List.nil_append, List.mapM_cons, fails]
    rfl
  | cons b rest ih =>
    obtain ⟨⟨y, here⟩, there⟩ := List.forall_mem_cons.mp succeed
    rw [List.cons_append, List.mapM_cons, here, ih there]
    rfl

end Steps

namespace Wire

variable {α β : Type}

/-! ### Readers -/

/-- A reader finds a value in some bytes and stops right behind them, whatever
stands before and behind. -/
def Reads (reader : Cursor → Except ReadFault (α × Cursor)) (bytes : List UInt8) (a : α) :
    Prop :=
  ∀ size offset rest, reader ⟨size, offset, bytes ++ rest⟩ =
    .ok (a, ⟨size, offset + bytes.length, rest⟩)

namespace Reads

/-- One reader after the other, where the second may depend on what the first
has found. -/
lemma bind {reader : Cursor → Except ReadFault (α × Cursor)} {bytes more : List UInt8} {a : α}
    {b : β} (first : Reads reader bytes a) (next : α → Cursor → Except ReadFault (β × Cursor))
    (second : Reads (next a) more b) :
    Reads (fun c => reader c >>= fun found => next found.1 found.2) (bytes ++ more) b := by
  intro size offset rest
  have here := first size offset (more ++ rest)
  have there := second size (offset + bytes.length) rest
  rw [← List.append_assoc] at here
  rw [Nat.add_assoc, ← List.length_append] at there
  show (reader _ >>= fun found => next found.1 found.2) = _
  rw [here]
  exact there

/-- What a reader finds, made into something else. -/
lemma map {reader : Cursor → Except ReadFault (α × Cursor)} {bytes : List UInt8} {a : α}
    (first : Reads reader bytes a) (f : α → β) :
    Reads (fun c => reader c >>= fun found => .ok (f found.1, found.2)) bytes (f a) := by
  intro size offset rest
  show (reader _ >>= fun found => .ok (f found.1, found.2)) = _
  rw [first]
  rfl

/-- All bytes of a number are there. -/
lemma number (bytes : List UInt8) : Reads (readNumber bytes.length) bytes (ofBigEndian bytes) := by
  intro size offset rest
  rw [readNumber, Cursor.skip]
  simp

/-- A number that fits into the width is found in its bytes. -/
lemma bigEndian {width n : Nat} (fits : n < capacity width) :
    Reads (readNumber width) (Wire.bigEndian width n) n := by
  have found := number (Wire.bigEndian width n)
  rw [length_bigEndian, ofBigEndian_bigEndian, Nat.mod_eq_of_lt fits] at found
  exact found

/-- One byte is a number of its own. -/
lemma byte {n : Nat} (fits : n < 0x100) : Reads (readNumber 1) [UInt8.ofNat n] n :=
  @bigEndian 1 n fits

/-- Two bytes are enough for the length of a text and for a number of attributes. -/
lemma count {n : Nat} (few : n ≤ 0xFFFF) : Reads (readNumber 2) (Wire.bigEndian 2 n) n :=
  bigEndian (Nat.lt_succ_of_le few)

/-- A text is found in its UTF-8 bytes. -/
lemma text {t : Text} {bytes : List UInt8} (encoded : t.toUtf8 = .ok bytes) :
    Reads (readText bytes.length) bytes t := by
  intro size offset rest
  rw [readText, Cursor.skip]
  simp [Text.ofUtf8_toUtf8 encoded]

end Reads

/-! ### Names and values -/

lemma utf8_eq_ok_iff {t : Text} {bytes : List UInt8} :
    utf8 t = .ok bytes ↔ t.toUtf8 = .ok bytes := by
  rw [utf8]
  cases t.toUtf8 with
  | ok _ => exact ⟨fun h => by cases h; rfl, fun h => by cases h; rfl⟩
  | error _ => exact ⟨nofun, nofun⟩

/-- A name has a written form if its bytes can be counted in one. -/
lemma writeName_eq_ok_iff {role : NameRole} {name : Text} {written : List UInt8} :
    writeName role name = .ok written ↔
      ∃ bytes, name.toUtf8 = .ok bytes ∧ bytes.length ≤ maxName ∧
        written = UInt8.ofNat bytes.length :: bytes := by
  rw [writeName, bind_eq_ok_iff]
  simp only [utf8_eq_ok_iff]
  refine exists_congr fun bytes => and_congr_right fun _ => ?_
  rw [guarded_eq_ok_iff, Nat.not_lt]

/-- A text value has a written form if its bytes can be counted in two. -/
lemma writeScalar_text_eq_ok_iff {t : Text} {written : List UInt8} :
    writeScalar (.text t) = .ok written ↔
      ∃ bytes, t.toUtf8 = .ok bytes ∧ bytes.length ≤ maxText ∧
        written = TypeToken.text :: (bigEndian 2 bytes.length ++ bytes) := by
  rw [writeScalar, bind_eq_ok_iff]
  simp only [utf8_eq_ok_iff]
  refine exists_congr fun bytes => and_congr_right fun _ => ?_
  rw [guarded_eq_ok_iff, Nat.not_lt]

/-- The announced encoding has a short name. -/
lemma writeName_encodingName (role : NameRole) :
    writeName role encodingName = .ok [3, 0x65, 0x6E, 0x63] := by
  have encoded : Text.toUtf8 encodingName = .ok [0x65, 0x6E, 0x63] := by decide
  exact writeName_eq_ok_iff.mpr ⟨_, encoded, by decide, rfl⟩

/-- The bytes of a signed number give it back, as far as the width reaches. -/
lemma signed_unsigned {width : Nat} {n : Int} (low : -(capacity width : Int) ≤ 2 * n)
    (high : 2 * n < capacity width) : signed width (unsigned width n) = n := by
  rw [signed, unsigned]
  by_cases negative : n < 0
  · have wrapped : n % (capacity width : Int) = n + capacity width := by
      rw [← Int.add_emod_right, Int.emod_eq_of_lt (by omega) (by omega)]
    rw [wrapped]
    split <;> omega
  · rw [Int.emod_eq_of_lt (by omega) (by omega)]
    split <;> omega

lemma unsigned_lt (width : Nat) (n : Int) : unsigned width n < capacity width := by
  have positive : 0 < capacity width := Nat.pow_pos (by omega)
  have small := Int.emod_lt_of_pos n (by omega : (0 : Int) < capacity width)
  rw [unsigned]
  omega

namespace Reads

/-- A name is found in its written form. -/
lemma name {role : NameRole} {name : Text} {written : List UInt8}
    (wrote : writeName role name = .ok written) : Reads readName written name := by
  obtain ⟨bytes, encoded, short, rfl⟩ := writeName_eq_ok_iff.mp wrote
  rw [maxName] at short
  exact (byte (by omega)).bind readText (text encoded)

/-- A value whose kind is known is found behind the byte that tells it. -/
lemma value {value : Scalar} {written : List UInt8} (wrote : writeScalar value = .ok written) :
    ∃ token rest, written = token :: rest ∧ Reads (readValue token) rest value := by
  cases value with
  | flag b =>
    cases wrote
    have bit : Reads (readNumber 1) [if b then 1 else 0] b.toNat := by
      cases b with
      | true => exact @byte 1 (by omega)
      | false => exact @byte 0 (by omega)
    have found := bit.map fun n => Scalar.flag (n != 0)
    have same : (b.toNat != 0) = b := by cases b <;> rfl
    rw [same] at found
    exact ⟨_, _, rfl, found⟩
  | int n =>
    rw [writeScalar] at wrote
    by_cases fits : fitsInt64 n
    · rw [if_pos fits, Except.ok.injEq] at wrote
      rw [fitsInt64, Bool.and_eq_true, decide_eq_true_eq, decide_eq_true_eq] at fits
      have eight : capacity 8 = 0x10000000000000000 := rfl
      have found := (bigEndian (unsigned_lt 8 n)).map fun number => Scalar.int (signed 8 number)
      rw [signed_unsigned (by omega) (by omega)] at found
      exact ⟨_, _, wrote.symm, found⟩
    · rw [if_neg fits] at wrote
      cases wrote
  | text t =>
    obtain ⟨bytes, encoded, short, rfl⟩ := writeScalar_text_eq_ok_iff.mp wrote
    have found := (count short).bind
      (fun length c => readText length c >>= fun found => .ok (Scalar.text found.1, found.2))
      ((text encoded).map Scalar.text)
    exact ⟨_, _, rfl, found⟩

/-- A value is found in its written form. -/
lemma scalar {value : Scalar} {written : List UInt8} (wrote : writeScalar value = .ok written) :
    Reads readScalar written value := by
  obtain ⟨token, rest, rfl, found⟩ := Reads.value wrote
  have kind := @byte token.toNat token.toNat_lt
  rw [UInt8.ofNat_toNat] at kind
  refine kind.bind (fun token => readValue (UInt8.ofNat token)) ?_
  rw [UInt8.ofNat_toNat]
  exact found

/-- An attribute is put into the table, and the others are read. -/
lemma entry {table result : Table Scalar} {count : Nat} {name : Text} {value : Scalar}
    {nameBytes valueBytes rest : List UInt8} (foundName : Reads readName nameBytes name)
    (foundValue : Reads readScalar valueBytes value)
    (foundRest : Reads (readAttributes (table.put name value) count) rest result) :
    Reads (readAttributes table (count + 1)) (nameBytes ++ (valueBytes ++ rest)) result :=
  foundName.bind
    (fun name c => readScalar c >>= fun found =>
      readAttributes (table.put name found.1) count found.2)
    (foundValue.bind (fun value => readAttributes (table.put name value) count) foundRest)

/-- Attributes are found one after the other in their written forms. -/
lemma attributes {attributes : List (Text × Scalar)} {body : List (List UInt8)}
    (wrote : attributes.mapM writeAttribute = .ok body) (table : Table Scalar) :
    Reads (readAttributes table attributes.length) body.flatten (table.putAll attributes) := by
  induction attributes generalizing table body with
  | nil =>
    cases wrote
    exact fun _ _ _ => rfl
  | cons first rest ih =>
    rw [List.mapM_cons, bind_eq_ok_iff] at wrote
    obtain ⟨_, wroteFirst, wrote⟩ := wrote
    obtain ⟨others, wroteOthers, wrote⟩ := bind_eq_ok_iff.mp wrote
    cases wrote
    rw [writeAttribute] at wroteFirst
    obtain ⟨name, wroteName, wroteFirst⟩ := bind_eq_ok_iff.mp wroteFirst
    obtain ⟨value, wroteValue, wroteFirst⟩ := bind_eq_ok_iff.mp wroteFirst
    cases wroteFirst
    rw [List.flatten_cons, List.append_assoc]
    exact entry (Reads.name wroteName) (scalar wroteValue) (ih wroteOthers _)

/-- The number of the announced encoding is found behind the byte of its kind. -/
lemma encodingValue :
    Reads (readValue TypeToken.int16) (Wire.bigEndian 2 encodingUtf8) (.int encodingUtf8) :=
  (@bigEndian 2 encodingUtf8 (by decide)).map fun n => Scalar.int (signed 2 n)

/-- The announced encoding is found as an attribute of its own. -/
lemma announcement {table result : Table Scalar} {count : Nat} {rest : List UInt8}
    (foundRest : Reads
      (readAttributes (table.put encodingName (.int encodingUtf8)) count) rest result) :
    Reads (readAttributes table (count + 1)) (Wire.announcement ++ rest) result := by
  have value : Reads readScalar (2 :: Wire.bigEndian 2 encodingUtf8) (.int encodingUtf8) :=
    (@byte 2 (by omega)).bind (fun token => readValue (UInt8.ofNat token)) encodingValue
  have parts : Wire.announcement =
      [3, 0x65, 0x6E, 0x63] ++ (2 :: Wire.bigEndian 2 encodingUtf8) := by decide
  rw [parts, List.append_assoc]
  exact entry (Reads.name (writeName_encodingName .ofAttribute)) value foundRest

end Reads

end Wire

end AccessLog
