/-
Payloads that are cut short.

* `Lost`, `Drained`, `Found`, `Meets`: what a reader makes of bytes with nothing
  behind them.
* `Reads.meets_cut`: a cut lies in what the first reader reads, or leaves this
  whole.
* `drained_name`, `drained_scalar`, `lost_scalar`: a name or a value that is cut.
* `lost_attributes`, `lost_event`: attributes that are cut in front of the text at
  their end, or have none there, are not read.
* `EndsInText`, `endsInText_iff`: payloads with a text at their end.
* `Decides`, `readEvent_front`: what is left of that text decides what is read.
* `read_cut_cases`: the cuts that are not noticed, and all the others.
* `read_take`: **what is left of a payload that is cut** is read only if the cut is
  in the text at its end, and only this text is another then.
-/
import AccessLog.Proofs.Wire.Canonical
import AccessLog.Proofs.Wire.Limits

namespace AccessLog.Wire

variable {α β : Type}

/-! ### Readers at the end of a payload -/

/-- A fault for lack of bytes: a number is not whole, or what there is of a text is
none. -/
def ReadFault.IsCut : ReadFault → Prop
  | undecodable _ => True
  | short _ _ _ => True
  | unsupported _ => False

/-- Reading has failed for lack of bytes. -/
def Lost (x : Except ReadFault (α × Cursor)) : Prop :=
  ∃ fault, x = .error fault ∧ fault.IsCut

/-- Reading has failed for lack of bytes, or has left none. -/
def Drained (x : Except ReadFault (α × Cursor)) : Prop :=
  Lost x ∨ ∃ a c, x = .ok (a, c) ∧ c.rest = []

/-- Reading has found a value. -/
def Found (a : α) (x : Except ReadFault (α × Cursor)) : Prop :=
  ∃ c, x = .ok (a, c)

/-- What a reader makes of some bytes with nothing behind them. -/
def Meets (P : Except ReadFault (α × Cursor) → Prop)
    (reader : Cursor → Except ReadFault (α × Cursor)) (bytes : List UInt8) : Prop :=
  ∀ size offset, P (reader ⟨size, offset, bytes⟩)

section Sequences

variable {P : Except ReadFault (β × Cursor) → Prop}
  {reader : Cursor → Except ReadFault (α × Cursor)} {bytes : List UInt8} {a : α}

lemma Meets.drained (lost : Meets Lost reader bytes) : Meets Drained reader bytes :=
  fun size offset => .inl (lost size offset)

/-- What is lost stays lost. -/
lemma Meets.lost_bind (lost : Meets Lost reader bytes)
    (next : α → Cursor → Except ReadFault (β × Cursor)) :
    Meets Lost (fun c => reader c >>= fun found => next found.1 found.2) bytes := by
  intro size offset
  obtain ⟨fault, found, cut⟩ := lost size offset
  refine ⟨fault, ?_, cut⟩
  simp only [found]
  rfl

/-- With nothing left, the next reader decides. -/
lemma Meets.drained_bind (drained : Meets Drained reader bytes)
    (next : α → Cursor → Except ReadFault (β × Cursor)) (starves : ∀ a, Meets Lost (next a) []) :
    Meets Lost (fun c => reader c >>= fun found => next found.1 found.2) bytes := by
  intro size offset
  rcases drained size offset with ⟨fault, found, cut⟩ | ⟨a, ⟨size', offset', rest⟩, found, empty⟩
  · refine ⟨fault, ?_, cut⟩
    simp only [found]
    rfl
  · cases empty
    simp only [found]
    exact starves a size' offset'

/-- What is read whole leaves the rest to the next reader. -/
lemma Reads.meets_bind (first : Reads reader bytes a)
    (next : α → Cursor → Except ReadFault (β × Cursor)) {more : List UInt8}
    (meets : Meets P (next a) more) :
    Meets P (fun c => reader c >>= fun found => next found.1 found.2) (bytes ++ more) := by
  intro size offset
  simp only [first size offset more]
  exact meets _ _

/-- A cut lies in what the first reader reads, or leaves this whole. -/
lemma Reads.meets_cut (first : Reads reader bytes a)
    (next : α → Cursor → Except ReadFault (β × Cursor)) {more : List UInt8} {k : Nat}
    (within : k < bytes.length →
      Meets P (fun c => reader c >>= fun found => next found.1 found.2) (bytes.take k))
    (behind : bytes.length ≤ k → Meets P (next a) (more.take (k - bytes.length))) :
    Meets P (fun c => reader c >>= fun found => next found.1 found.2) ((bytes ++ more).take k) := by
  by_cases inside : k < bytes.length
  · rw [List.take_append_of_le_length inside.le]
    exact within inside
  · rw [not_lt] at inside
    rw [List.take_append, List.take_of_length_le inside]
    exact first.meets_bind next (behind inside)

/-- Of what is left, something else can be made. -/
lemma Meets.drained_map (drained : Meets Drained reader bytes) (f : α → β) :
    Meets Drained (fun c => reader c >>= fun found => .ok (f found.1, found.2)) bytes := by
  intro size offset
  rcases drained size offset with ⟨fault, found, cut⟩ | ⟨a, c, found, empty⟩
  · refine .inl ⟨fault, ?_, cut⟩
    simp only [found]
    rfl
  · refine .inr ⟨f a, c, ?_, empty⟩
    simp only [found]
    rfl

lemma Meets.found_map (found : Meets (Found a) reader bytes) (f : α → β) :
    Meets (Found (f a)) (fun c => reader c >>= fun found => .ok (f found.1, found.2)) bytes := by
  intro size offset
  obtain ⟨c, found⟩ := found size offset
  refine ⟨c, ?_⟩
  simp only [found]
  rfl

end Sequences

/-! ### Numbers and texts -/

/-- The bytes of a number must all be there. -/
lemma lost_number (width : Nat) {bytes : List UInt8} (few : bytes.length < width) :
    Meets Lost (readNumber width) bytes := by
  intro size offset
  refine ⟨.short offset width size, ?_, trivial⟩
  have short : (bytes.take width).length < width := (List.length_take_le' _ _).trans_lt few
  simp only [readNumber, short, if_true]

section Texts

variable {length : Nat} {bytes : List UInt8}

/-- What there is of a text is read as one if it is one. -/
lemma found_text {t : Text} (few : bytes.length ≤ length) (decoded : Text.ofUtf8 bytes = .ok t) :
    Meets (Found t) (readText length) bytes := by
  intro size offset
  refine ⟨(⟨size, offset, bytes⟩ : Cursor).skip length, ?_⟩
  simp only [readText, List.take_of_length_le few, decoded]

lemma lost_text {fault : DecodingFault} (few : bytes.length ≤ length)
    (undecoded : Text.ofUtf8 bytes = .error fault) : Meets Lost (readText length) bytes := by
  intro size offset
  refine ⟨.undecodable fault, ?_, trivial⟩
  simp only [readText, List.take_of_length_le few, undecoded]

lemma drained_text (few : bytes.length ≤ length) : Meets Drained (readText length) bytes := by
  intro size offset
  cases decoded : Text.ofUtf8 bytes with
  | error fault => exact .inl (lost_text few decoded size offset)
  | ok t =>
    refine .inr ⟨t, (⟨size, offset, bytes⟩ : Cursor).skip length, ?_, ?_⟩
    · simp only [readText, List.take_of_length_le few, decoded]
    · exact List.drop_of_length_le few

end Texts

/-! ### Names and values -/

lemma lost_name_nil : Meets Lost readName [] :=
  (lost_number 1 (by decide)).lost_bind readText

lemma lost_scalar_nil : Meets Lost readScalar [] :=
  (lost_number 1 (by decide)).lost_bind fun token => readValue (UInt8.ofNat token)

/-- A name that is cut is read as a shorter one, or not at all. -/
lemma drained_name {role : NameRole} {name : Text} {written : List UInt8}
    (wrote : writeName role name = .ok written) (k : Nat) :
    k < written.length → Meets Drained readName (written.take k) := by
  obtain ⟨bytes, encoded, short, rfl⟩ := writeName_eq_ok_iff.mp wrote
  intro _
  rw [maxName] at short
  have counted : Reads (readNumber 1) [UInt8.ofNat bytes.length] bytes.length :=
    Reads.byte (by omega)
  refine @Reads.meets_cut _ _ _ _ _ _ counted readText bytes k (fun few => ?_) fun _ => ?_
  · have lost : Meets Lost readName ([UInt8.ofNat bytes.length].take k) :=
      (lost_number 1 (by simpa using few)).lost_bind readText
    exact lost.drained
  · exact drained_text (List.length_take_le' _ _)

/-- How many bytes at the end of a value only make its text longer. -/
def Scalar.slack : Scalar → Nat
  | text t => utf8Size t
  | _ => 0

section Values

variable {P : Except ReadFault (Scalar × Cursor) → Prop} {token : UInt8} {body : List UInt8}

/-- A cut in a value is one in front of the byte that tells its kind, or one in the
bytes behind. -/
lemma meets_scalar_cut {k : Nat} (weaker : ∀ x, Lost x → P x)
    (meets : Meets P (readValue token) (body.take (k - 1))) :
    Meets P readScalar ((token :: body).take k) := by
  have kind := @Reads.byte token.toNat token.toNat_lt
  rw [UInt8.ofNat_toNat] at kind
  refine kind.meets_cut (fun token => readValue (UInt8.ofNat token)) (fun few => ?_) fun _ => ?_
  · have lost : Meets Lost readScalar ([token].take k) :=
      (lost_number 1 (by simpa using few)).lost_bind fun token => readValue (UInt8.ofNat token)
    exact fun size offset => weaker _ (lost size offset)
  · rw [UInt8.ofNat_toNat]
    exact meets

/-- A text value behind the number of its bytes. -/
def readTextValue (length : Nat) (c : Cursor) : Except ReadFault (Scalar × Cursor) :=
  readText length c >>= fun found => .ok (Scalar.text found.1, found.2)

/-- A cut in a text value is one in front of the text, or one in the text. -/
lemma meets_text_cut {bytes : List UInt8} {k : Nat} (weaker : ∀ x, Lost x → P x)
    (short : bytes.length ≤ maxText)
    (meets : 2 ≤ k → Meets P (readTextValue bytes.length) (bytes.take (k - 2))) :
    Meets P (readValue TypeToken.text) ((bigEndian 2 bytes.length ++ bytes).take k) := by
  refine (Reads.count short).meets_cut readTextValue (fun few => ?_) fun enough => ?_
  · rw [length_bigEndian] at few
    have lost : Meets Lost (readValue TypeToken.text) ((bigEndian 2 bytes.length).take k) :=
      (lost_number 2 ((List.length_take_le _ _).trans_lt few)).lost_bind readTextValue
    exact fun size offset => weaker _ (lost size offset)
  · rw [length_bigEndian] at enough ⊢
    exact meets enough

/-- A text value of which only some is there. -/
lemma meets_scalar_text {bytes part : List UInt8} (short : bytes.length ≤ maxText)
    (meets : Meets P (readTextValue bytes.length) part) :
    Meets P readScalar (TypeToken.text :: (bigEndian 2 bytes.length ++ part)) := by
  have kind : Reads (readNumber 1) [TypeToken.text] 5 := @Reads.byte 5 (by omega)
  exact kind.meets_bind (fun token => readValue (UInt8.ofNat token))
    ((Reads.count short).meets_bind readTextValue meets)

end Values

/-- A number that is cut is not read. -/
lemma lost_number_cut {width : Nat} {body : List UInt8} (whole : body.length = width)
    (f : Nat → Scalar) {k : Nat} (within : k < body.length) :
    Meets Lost (fun c => readNumber width c >>= fun found => .ok (f found.1, found.2))
      (body.take k) := by
  refine (lost_number width ?_).lost_bind fun n c => .ok (f n, c)
  exact whole ▸ (List.length_take_le _ _).trans_lt within

section Written

variable {value : Scalar} {written : List UInt8}

/-- A value that is cut in front of its text, or has none, is not read. -/
lemma lost_scalar (wrote : writeScalar value = .ok written) {k : Nat}
    (short : k + value.slack < written.length) : Meets Lost readScalar (written.take k) := by
  cases value with
  | flag b =>
    cases wrote
    have within : k - 1 < 1 := by
      simp only [Scalar.slack, List.length_cons, List.length_nil] at short
      omega
    exact meets_scalar_cut (fun _ => id)
      (@lost_number_cut 1 [if b then 1 else 0] rfl (fun n => .flag (n != 0)) _ within)
  | int n =>
    rw [writeScalar] at wrote
    split at wrote
    · cases wrote
      have within : k - 1 < (bigEndian 8 (unsigned 8 n)).length := by
        simp only [Scalar.slack, List.length_cons, length_bigEndian] at short ⊢
        omega
      exact meets_scalar_cut (fun _ => id)
        (lost_number_cut (length_bigEndian _ _) (fun n => .int (signed 8 n)) within)
    · cases wrote
  | text t =>
    obtain ⟨bytes, encoded, few, rfl⟩ := writeScalar_text_eq_ok_iff.mp wrote
    have counted : bytes.length = utf8Size t := by
      rw [(Text.toUtf8_eq_ok_iff.mp encoded).2, length_flatMap_utf8]
    refine meets_scalar_cut (fun _ => id) (meets_text_cut (fun _ => id) few fun enough => ?_)
    simp only [Scalar.slack, List.length_cons, List.length_append, length_bigEndian] at short
    omega

/-- A value that is cut is not read, or read to the end. -/
lemma drained_scalar (wrote : writeScalar value = .ok written) {k : Nat}
    (within : k < written.length) : Meets Drained readScalar (written.take k) := by
  by_cases short : k + value.slack < written.length
  · exact (lost_scalar wrote short).drained
  cases value with
  | flag | int => exact absurd within short
  | text t =>
    obtain ⟨bytes, encoded, few, rfl⟩ := writeScalar_text_eq_ok_iff.mp wrote
    refine meets_scalar_cut (fun _ => .inl) (meets_text_cut (fun _ => .inl) few fun _ => ?_)
    exact (drained_text (List.length_take_le' _ _)).drained_map Scalar.text

end Written

/-! ### Attributes -/

/-- Some bytes are an attribute: its name and its value are found in them, and what
is left of either after a cut is not read, or read to the end. -/
def Holds (entry : Text × Scalar) (bytes : List UInt8) : Prop :=
  ∃ name value, bytes = name ++ value ∧
    Reads readName name entry.1 ∧ Reads readScalar value entry.2 ∧
    (∀ k, k < name.length → Meets Drained readName (name.take k)) ∧
    (∀ k, k < value.length → Meets Drained readScalar (value.take k)) ∧
    ∀ k, k + entry.2.slack < value.length → Meets Lost readScalar (value.take k)

lemma holds_of_writeAttribute {entry : Text × Scalar} {bytes : List UInt8}
    (wrote : writeAttribute entry = .ok bytes) : Holds entry bytes := by
  obtain ⟨name, wroteName, wrote⟩ := bind_eq_ok_iff.mp wrote
  obtain ⟨value, wroteValue, wrote⟩ := bind_eq_ok_iff.mp wrote
  cases wrote
  exact ⟨name, value, rfl, Reads.name wroteName, Reads.scalar wroteValue, drained_name wroteName,
    fun _ => drained_scalar wroteValue, fun _ => lost_scalar wroteValue⟩

lemma holds_announcement : Holds (encodingName, .int encodingUtf8) announcement := by
  have wroteName := writeName_encodingName .ofAttribute
  have lost (k : Nat) (within : k < 3) :
      Meets Lost readScalar ((TypeToken.int16 :: bigEndian 2 encodingUtf8).take k) :=
    meets_scalar_cut (fun _ => id) (lost_number_cut (length_bigEndian _ _)
      (fun n => .int (signed 2 n)) (show k - 1 < 2 by omega))
  refine ⟨[3, 0x65, 0x6E, 0x63], TypeToken.int16 :: bigEndian 2 encodingUtf8, rfl,
    Reads.name wroteName, ?_, drained_name wroteName, fun k within => (lost k within).drained, lost⟩
  exact (@Reads.byte 2 (by omega)).bind (fun token => readValue (UInt8.ofNat token))
    Reads.encodingValue

/-- How many bytes at the end of attributes only make a text longer. -/
def slack (entries : List (Text × Scalar)) : Nat :=
  (entries.getLast?.map fun entry => entry.2.slack).getD 0

lemma slack_singleton (entry : Text × Scalar) : slack [entry] = entry.2.slack :=
  rfl

lemma slack_cons_cons (first second : Text × Scalar) (rest : List (Text × Scalar)) :
    slack (first :: second :: rest) = slack (second :: rest) := by
  rw [slack, List.getLast?_cons_cons, slack]

section Attributes

variable {entries : List (Text × Scalar)} {parts : List (List UInt8)}

/-- Attributes that are all there leave the rest to the next. -/
lemma meets_attributes {P : Except ReadFault (Table Scalar × Cursor) → Prop}
    (holds : List.Forall₂ Holds entries parts) {table : Table Scalar} {count : Nat}
    {more : List UInt8} (meets : Meets P (readAttributes (table.putAll entries) count) more) :
    Meets P (readAttributes table (entries.length + count)) (parts.flatten ++ more) := by
  induction holds generalizing table with
  | nil =>
    rw [List.length_nil, Nat.zero_add]
    exact meets
  | @cons entry part entries parts here there ih =>
    obtain ⟨name, value, rfl, foundName, foundValue, -⟩ := here
    rw [List.length_cons, Nat.add_right_comm, List.flatten_cons, List.append_assoc,
      List.append_assoc]
    exact foundName.meets_bind (fun name c => readScalar c >>= fun found =>
        readAttributes (table.put name found.1) (entries.length + count) found.2)
      (foundValue.meets_bind
        (fun value => readAttributes (table.put entry.1 value) (entries.length + count)) (ih meets))

lemma lost_attributes_nil (table : Table Scalar) (count : Nat) :
    Meets Lost (readAttributes table (count + 1)) [] :=
  lost_name_nil.lost_bind fun name c => readScalar c >>= fun found =>
    readAttributes (table.put name found.1) count found.2

/-- Attributes that are cut in front of the text at their end, or have none there, are
not read. -/
lemma lost_attributes (holds : List.Forall₂ Holds entries parts) (table : Table Scalar) {k : Nat}
    (short : k + slack entries < parts.flatten.length) :
    Meets Lost (readAttributes table entries.length) (parts.flatten.take k) := by
  induction holds generalizing table k with
  | nil => exact absurd short (Nat.not_lt_zero _)
  | @cons entry part entries parts here there ih =>
    obtain ⟨name, value, rfl, foundName, foundValue, nameCut, valueCut, valueShort⟩ := here
    rw [List.flatten_cons, List.append_assoc] at short ⊢
    rw [List.length_append, List.length_append] at short
    -- a cut in the name or in the value leaves nothing to what comes next
    refine foundName.meets_cut (fun name c => readScalar c >>= fun found =>
      readAttributes (table.put name found.1) entries.length found.2) (fun within => ?_)
      fun behind => ?_
    · exact (nameCut k within).drained_bind _ fun name => lost_scalar_nil.lost_bind fun value =>
        readAttributes (table.put name value) entries.length
    · refine foundValue.meets_cut
        (fun value => readAttributes (table.put entry.1 value) entries.length) (fun within => ?_)
        fun behind => ?_
      · cases there with
        | nil =>
          rw [slack_singleton, List.flatten_nil, List.length_nil] at short
          exact (valueShort (k - name.length) (by omega)).lost_bind
            fun value => readAttributes (table.put entry.1 value) 0
        | @cons _ _ others _ _ _ =>
          exact (valueCut _ within).drained_bind
            (fun value => readAttributes (table.put entry.1 value) (others.length + 1))
            fun value => lost_attributes_nil _ _
      · refine ih _ ?_
        cases there with
        | nil =>
          rw [List.flatten_nil, List.length_nil] at short
          omega
        | cons _ _ =>
          rw [slack_cons_cons] at short
          omega

/-- Attributes of which only the value of the last one is not all there. -/
lemma found_attributes (holds : List.Forall₂ Holds entries parts) (table : Table Scalar)
    {name : Text} {value : Scalar} {nameBytes part : List UInt8}
    (foundName : Reads readName nameBytes name) (foundValue : Meets (Found value) readScalar part) :
    Meets (Found (table.putAll (entries ++ [(name, value)])))
      (readAttributes table (entries.length + 1)) (parts.flatten ++ (nameBytes ++ part)) := by
  have put : table.putAll (entries ++ [(name, value)]) = (table.putAll entries).put name value :=
    List.foldl_append
  rw [put]
  exact meets_attributes holds (foundName.meets_bind
    (fun name c => readScalar c >>= fun found =>
      readAttributes ((table.putAll entries).put name found.1) 0 found.2)
    (foundValue.found_map fun value => (table.putAll entries).put name value))

/-- Attributes of which the value of the last one is not read. -/
lemma lost_attributes_last (holds : List.Forall₂ Holds entries parts) (table : Table Scalar)
    {name : Text} {nameBytes part : List UInt8} (foundName : Reads readName nameBytes name)
    (lost : Meets Lost readScalar part) :
    Meets Lost (readAttributes table (entries.length + 1))
      (parts.flatten ++ (nameBytes ++ part)) :=
  meets_attributes holds (foundName.meets_bind
    (fun name c => readScalar c >>= fun found =>
      readAttributes ((table.putAll entries).put name found.1) 0 found.2)
    (lost.lost_bind fun value => readAttributes ((table.putAll entries).put name value) 0))

end Attributes

/-! ### Events -/

/-- An event whose type and number of attributes are known. -/
def readCounted (type : Text) (count : Nat) (c : Cursor) : Except ReadFault (Event × Cursor) :=
  readAttributes [] count c >>= fun found => .ok (⟨type, found.1⟩, found.2)

/-- An event whose type is known. -/
def readTyped (type : Text) (c : Cursor) : Except ReadFault (Event × Cursor) :=
  readNumber 2 c >>= fun found => readCounted type found.1 found.2

lemma readEvent_eq_bind (payload : List UInt8) :
    readEvent payload = (readName (.start payload) >>= fun found => readTyped found.1 found.2) :=
  rfl

/-- The bytes of an event that was written: the announced encoding is an attribute like
the others. -/
lemma exists_holds {type : Text} {attributes : List (Text × Scalar)} {payload : List UInt8}
    (wrote : writeParts type attributes.length attributes = .ok payload) :
    ∃ name parts, writeName .ofEvent type = .ok name ∧ attributes.length + 1 ≤ maxCount ∧
      List.Forall₂ Holds ((encodingName, .int encodingUtf8) :: attributes) parts ∧
      payload = name ++ (bigEndian 2 (attributes.length + 1) ++ parts.flatten) := by
  obtain ⟨name, body, wroteName, few, wroteBody, rfl⟩ := writeParts_eq_ok_iff.mp wrote
  have holds := (mapM_eq_ok_iff.mp wroteBody).imp fun _ _ => holds_of_writeAttribute
  exact ⟨name, announcement :: body, wroteName, few, .cons holds_announcement holds, rfl⟩

/-- An event that is cut in front of the text at its end, or has none there, is not
read. -/
lemma lost_event {type : Text} {attributes : List (Text × Scalar)} {payload : List UInt8}
    (wrote : writeParts type attributes.length attributes = .ok payload) {k : Nat}
    (short : k + slack ((encodingName, .int encodingUtf8) :: attributes) < payload.length) :
    Lost (readEvent (payload.take k)) := by
  obtain ⟨name, parts, wroteName, few, holds, rfl⟩ := exists_holds wrote
  rw [List.length_append, List.length_append, length_bigEndian] at short
  have starves (type : Text) : Meets Lost (readTyped type) [] :=
    (lost_number 2 (by decide)).lost_bind (readCounted type)
  have lost : Meets Lost (fun c => readName c >>= fun found => readTyped found.1 found.2)
      ((name ++ (bigEndian 2 (attributes.length + 1) ++ parts.flatten)).take k) := by
    refine (Reads.name wroteName).meets_cut readTyped (fun within => ?_) fun behind => ?_
    · exact (drained_name wroteName k within).drained_bind readTyped starves
    · refine (Reads.count few).meets_cut (readCounted type) (fun within => ?_) fun enough => ?_
      · rw [length_bigEndian] at within
        exact (lost_number 2 ((List.length_take_le _ _).trans_lt within)).lost_bind
          (readCounted type)
      · rw [length_bigEndian] at enough ⊢
        exact (lost_attributes holds [] (by omega)).lost_bind fun table c =>
          .ok (Event.mk type table, c)
  rw [readEvent_eq_bind]
  exact lost _ _

/-- The bytes of attributes with a text at their end. -/
lemma writeAttributes_last {others : List (Text × Scalar)} {name t : Text}
    {body : List (List UInt8)}
    (wrote : (others ++ [(name, Scalar.text t)]).mapM writeAttribute = .ok body) :
    ∃ parts nameBytes bytes, others.mapM writeAttribute = .ok parts ∧
      writeName .ofAttribute name = .ok nameBytes ∧ t.toUtf8 = .ok bytes ∧
      bytes.length ≤ maxText ∧
      body = parts ++ [nameBytes ++ TypeToken.text :: (bigEndian 2 bytes.length ++ bytes)] := by
  rw [List.mapM_append, List.mapM_cons, List.mapM_nil] at wrote
  obtain ⟨parts, wroteParts, wrote⟩ := bind_eq_ok_iff.mp wrote
  obtain ⟨tail, wroteTail, joined⟩ := bind_eq_ok_iff.mp wrote
  obtain ⟨last, wroteLast, single⟩ := bind_eq_ok_iff.mp wroteTail
  cases joined
  cases single
  obtain ⟨nameBytes, wroteName, wroteLast⟩ := bind_eq_ok_iff.mp wroteLast
  obtain ⟨value, wroteValue, joined⟩ := bind_eq_ok_iff.mp wroteLast
  cases joined
  obtain ⟨bytes, encoded, short, rfl⟩ := writeScalar_text_eq_ok_iff.mp wroteValue
  exact ⟨parts, nameBytes, bytes, wroteParts, wroteName, encoded, short, rfl⟩

/-- Behind the front of an event with a text as its last attribute, the bytes of the text
decide what is read. -/
def Decides (type : Text) (others : List (Text × Scalar)) (name : Text)
    (front bytes : List UInt8) : Prop :=
  (∀ t, Text.ofUtf8 bytes = .ok t → Found ⟨type, Table.putAll
    [(encodingName, .int encodingUtf8)] (others ++ [(name, .text t)])⟩ (readEvent (front ++ bytes))) ∧
  ∀ fault, Text.ofUtf8 bytes = .error fault → Lost (readEvent (front ++ bytes))

/-- An event with a text at its end, of whose bytes only some are there: they decide. -/
lemma readEvent_front {type : Text} {attributes others : List (Text × Scalar)} {name t : Text}
    {payload : List UInt8}
    (wrote : writeParts type attributes.length attributes = .ok payload)
    (ends : attributes = others ++ [(name, .text t)]) :
    ∃ front bytes, t.toUtf8 = .ok bytes ∧ payload = front ++ bytes ∧
      ∀ n, Decides type others name front (bytes.take n) := by
  obtain ⟨typeBytes, body, wroteType, counted, wroteBody, rfl⟩ := writeParts_eq_ok_iff.mp wrote
  rw [ends] at wroteBody
  obtain ⟨parts, nameBytes, bytes, wroteParts, wroteName, encoded, short, rfl⟩ :=
    writeAttributes_last wroteBody
  have holds : List.Forall₂ Holds ((encodingName, .int encodingUtf8) :: others)
      (announcement :: parts) :=
    .cons holds_announcement ((mapM_eq_ok_iff.mp wroteParts).imp fun _ _ => holds_of_writeAttribute)
  have count : attributes.length = others.length + 1 := by
    rw [ends, List.length_append, List.length_singleton]
  refine ⟨typeBytes ++ (bigEndian 2 (attributes.length + 1) ++ ((announcement :: parts).flatten ++
    (nameBytes ++ TypeToken.text :: bigEndian 2 bytes.length))), bytes, encoded, by simp,
    fun n => ?_⟩
  have few : (bytes.take n).length ≤ bytes.length := List.length_take_le' _ _
  -- whatever the bytes of the text give, that is what reading the event gives
  have step {P : Except ReadFault (Event × Cursor) → Prop}
      (meets : Meets P (readCounted type (attributes.length + 1))
        ((announcement :: parts).flatten ++
          (nameBytes ++ TypeToken.text :: (bigEndian 2 bytes.length ++ bytes.take n)))) :
      P (readEvent (typeBytes ++ (bigEndian 2 (attributes.length + 1) ++
        ((announcement :: parts).flatten ++
          (nameBytes ++ TypeToken.text :: bigEndian 2 bytes.length))) ++ bytes.take n)) := by
    have all := (Reads.name wroteType).meets_bind readTyped
      ((Reads.count counted).meets_bind (readCounted type) meets)
    simp only [readEvent_eq_bind, List.append_assoc, List.cons_append] at all ⊢
    exact all _ _
  rw [count] at step ⊢
  constructor
  · intro cut decoded
    have value := meets_scalar_text short ((found_text few decoded).found_map Scalar.text)
    exact step ((found_attributes holds [] (Reads.name wroteName) value).found_map (Event.mk type))
  · intro fault undecoded
    have value := meets_scalar_text short
      ((lost_text few undecoded).lost_bind fun t c => .ok (Scalar.text t, c))
    exact step ((lost_attributes_last holds [] (Reads.name wroteName) value).lost_bind
      fun table c => .ok (Event.mk type table, c))

/-! ### Texts at the end of a payload -/

/-- The last attribute in a payload is a text whose bytes start at the offset, behind the
two bytes that count them. -/
def EndsInText (payload : List UInt8) (name : Text) (offset : Nat) : Prop :=
  ∃ l c f, readLayout payload = .ok (l, c) ∧ l.fields.getLast? = some f ∧ f.name = name ∧
    f.token = TypeToken.text ∧ offset + f.body.length = payload.length + 2

/-- Only texts have the kind of a text, and their bytes are behind two that count them. -/
lemma Spells.exists_text {token : UInt8} {value : Scalar} {body : List UInt8}
    (spells : Spells token value body) (isText : token = TypeToken.text ∨ ∃ t, value = .text t) :
    token = TypeToken.text ∧ ∃ t bytes, value = .text t ∧ t.toUtf8 = .ok bytes ∧
      body.length = bytes.length + 2 := by
  cases spells with
  | @text t bytes encoded short =>
    refine ⟨rfl, t, bytes, rfl, encoded, ?_⟩
    rw [List.length_append, length_bigEndian, Nat.add_comm]
  | int16 | int64 | flag =>
    rcases isText with kind | ⟨t, value⟩
    · exact absurd kind (by decide)
    · cases value

/-- The last attribute that was written is the last in the payload. -/
lemma endsInText_iff {type : Text} {attributes : List (Text × Scalar)} {payload : List UInt8}
    (wrote : writeParts type attributes.length attributes = .ok payload) {name : Text}
    {offset : Nat} :
    EndsInText payload name offset ↔ ∃ others t bytes,
      attributes = others ++ [(name, .text t)] ∧ t.toUtf8 = .ok bytes ∧
        offset + bytes.length = payload.length := by
  obtain ⟨fields, rfl, -, found⟩ := readLayout_writeParts wrote []
  rw [List.append_nil] at found
  obtain ⟨-, parts, -, -, spelled, -⟩ := exists_spelled found le_rfl
  have spells : ∀ f ∈ announced :: fields, Spells f.token f.value f.body := by
    have both : List.Forall₂ (fun f part => Spells f.token f.value f.body ∧ Field.Spelled f part)
        (announced :: fields) parts := spelled.imp fun _ _ here => ⟨here.spells, here⟩
    exact ((List.forall₂_and_left _ _).mp both).1
  constructor
  · rintro ⟨l, c, f, foundAgain, last, rfl, kind, behind⟩
    cases foundAgain.symm.trans found
    obtain ⟨t, bytes, value, encoded, body⟩ :=
      ((spells f (List.mem_of_getLast? last)).exists_text (.inl kind)).2
    cases fields with
    | nil =>
      -- the announced encoding is a number
      obtain rfl := Option.some.inj last
      exact absurd kind (by decide)
    | cons first rest =>
      rw [List.getLast?_cons_cons] at last
      obtain ⟨others, cut⟩ := List.getLast?_eq_some_iff.mp last
      refine ⟨others.map Field.entry, t, bytes, ?_, encoded, by omega⟩
      rw [cut, List.map_append, List.map_singleton, Field.entry, value]
  · rintro ⟨others, t, bytes, cut, encoded, behind⟩
    obtain ⟨before, lastOnes, rfl, -, single⟩ := List.map_eq_append_iff.mp cut
    obtain ⟨f, rfl, entry⟩ := List.map_eq_singleton_iff.mp single
    obtain ⟨rfl, value⟩ := Prod.mk.inj entry
    have isIn : f ∈ announced :: (before ++ [f]) := by simp
    obtain ⟨kind, t', bytes', value', encoded', body⟩ := (spells f isIn).exists_text (.inr ⟨t, value⟩)
    obtain rfl := Scalar.text.inj (value.symm.trans value')
    obtain rfl := Except.ok.inj (encoded.symm.trans encoded')
    exact ⟨_, _, f, found, by simp [List.getLast?_cons], rfl, kind, by omega⟩

lemma lost_read {payload : List UInt8} (lost : Lost (readEvent payload)) :
    ∃ fault, read payload = .error fault ∧ fault.IsCut := by
  obtain ⟨fault, found, cut⟩ := lost
  refine ⟨fault, ?_, cut⟩
  rw [read, found]
  rfl

lemma found_read {payload : List UInt8} {event : Event} (found : Found event (readEvent payload)) :
    read payload = .ok event := by
  obtain ⟨c, found⟩ := found
  rw [read, found]
  rfl

/-- The text at the end of attributes is what may be missing of them. -/
lemma slack_append (entries : List (Text × Scalar)) (name t : Text) :
    slack (entries ++ [(name, .text t)]) = utf8Size t := by
  rw [slack, List.getLast?_concat]
  rfl

/-- Only a text at the end of attributes may be missing of them. -/
lemma exists_of_slack {entries : List (Text × Scalar)} (loose : 0 < slack entries) :
    ∃ others name t, entries = others ++ [(name, .text t)] := by
  rw [slack] at loose
  cases last : entries.getLast? with
  | none =>
    rw [last] at loose
    exact absurd loose (Nat.not_lt_zero _)
  | some entry =>
    obtain ⟨others, rfl⟩ := List.getLast?_eq_some_iff.mp last
    obtain ⟨name, value⟩ := entry
    cases value with
    | text t => exact ⟨others, name, t, rfl⟩
    | flag | int =>
      rw [last] at loose
      exact absurd loose (Nat.not_lt_zero _)

/-- A payload ends in one text at most. -/
lemma EndsInText.unique {payload : List UInt8} {name name' : Text} {offset offset' : Nat}
    (ends : EndsInText payload name offset) (ends' : EndsInText payload name' offset') :
    name = name' ∧ offset = offset' := by
  obtain ⟨l, c, f, found, last, rfl, -, behind⟩ := ends
  obtain ⟨l', c', f', found', last', rfl, -, behind'⟩ := ends'
  cases found.symm.trans found'
  obtain rfl := Option.some.inj (last.symm.trans last')
  exact ⟨rfl, by omega⟩

section Cuts

variable {type : Text} {attributes : List (Text × Scalar)} {payload : List UInt8} {k : Nat}

/-- A payload that is cut in front of a text at its end, or has none there, is not read. -/
lemma lost_of_cut (wrote : writeParts type attributes.length attributes = .ok payload)
    (proper : k < payload.length)
    (cut : ∀ name offset, EndsInText payload name offset → k < offset) :
    Lost (readEvent (payload.take k)) := by
  refine lost_event wrote ?_
  by_cases tight : slack ((encodingName, .int encodingUtf8) :: attributes) = 0
  · rw [tight]
    exact proper
  obtain ⟨front, name, t, ends⟩ := exists_of_slack (Nat.pos_of_ne_zero tight)
  cases front with
  | nil => cases ends
  | cons first others =>
    replace ends : attributes = others ++ [(name, .text t)] := (List.cons.inj ends).2
    obtain ⟨front, bytes, encoded, rfl, -⟩ := readEvent_front wrote ends
    have counted : bytes.length = utf8Size t := by
      rw [(Text.toUtf8_eq_ok_iff.mp encoded).2, length_flatMap_utf8]
    have before := cut name front.length
      ((endsInText_iff wrote).mpr ⟨others, t, bytes, ends, encoded, List.length_append.symm⟩)
    rw [ends, ← List.cons_append, slack_append, List.length_append, counted]
    omega

/-- The text at the end of a payload starts where the offset says. -/
lemma EndsInText.exists_front (wrote : writeParts type attributes.length attributes = .ok payload)
    {name : Text} {offset : Nat} (ends : EndsInText payload name offset) :
    ∃ others t front bytes, attributes = others ++ [(name, .text t)] ∧ t.toUtf8 = .ok bytes ∧
      payload = front ++ bytes ∧ offset = front.length ∧
      ∀ n, Decides type others name front (bytes.take n) := by
  obtain ⟨others, t, bytes, cut, encoded, size⟩ := (endsInText_iff wrote).mp ends
  obtain ⟨front, bytes', encoded', rfl, decides⟩ := readEvent_front wrote cut
  obtain rfl := Except.ok.inj (encoded.symm.trans encoded')
  refine ⟨others, t, front, bytes, cut, encoded, rfl, ?_, decides⟩
  rw [List.length_append] at size
  omega

/-- The text at the end of a payload is the value of its attribute. -/
lemma EndsInText.exists_text (wrote : writeParts type attributes.length attributes = .ok payload)
    {name : Text} {offset : Nat} (ends : EndsInText payload name offset) :
    ∃ t, Text.ofUtf8 (payload.drop offset) = .ok t ∧
      (Table.putAll [(encodingName, .int encodingUtf8)] attributes).get? name = some (.text t) := by
  obtain ⟨others, t, front, bytes, rfl, encoded, rfl, rfl, -⟩ := ends.exists_front wrote
  refine ⟨t, ?_, ?_⟩
  · rw [List.drop_left, Text.ofUtf8_toUtf8 encoded]
  · simp only [Table.putAll, List.foldl_append, List.foldl_cons, List.foldl_nil, Table.get?_put,
      if_true]

/-- A payload that is cut in the text at its end is read if what is left of the text is
one, and only this text is another then. -/
lemma read_of_cut (wrote : writeParts type attributes.length attributes = .ok payload)
    {name : Text} {offset : Nat} (ends : EndsInText payload name offset) (behind : offset ≤ k) :
    (∀ cut, Text.ofUtf8 ((payload.take k).drop offset) = .ok cut →
      read (payload.take k) = .ok ⟨type, (Table.putAll [(encodingName, .int encodingUtf8)]
        attributes).put name (.text cut)⟩) ∧
    ∀ fault, Text.ofUtf8 ((payload.take k).drop offset) = .error fault →
      ∃ fault, read (payload.take k) = .error fault ∧ fault.IsCut := by
  obtain ⟨others, t, front, bytes, rfl, -, rfl, rfl, decides⟩ := ends.exists_front wrote
  have left : (front ++ bytes).take k = front ++ bytes.take (k - front.length) := by
    rw [List.take_append, List.take_of_length_le behind]
  have put (cut : Text) : Table.putAll [(encodingName, .int encodingUtf8)]
      (others ++ [(name, .text cut)]) = (Table.putAll [(encodingName, .int encodingUtf8)]
        (others ++ [(name, .text t)])).put name (.text cut) := by
    simp only [Table.putAll, List.foldl_append, List.foldl_cons, List.foldl_nil, Table.put_put]
  rw [left, List.drop_left]
  obtain ⟨found, lost⟩ := decides (k - front.length)
  refine ⟨fun cut decoded => ?_, fun fault undecoded => lost_read (lost fault undecoded)⟩
  rw [← put]
  exact found_read (found cut decoded)

/-- A cut is in a text at the end, and what is left of the text is one, or else it is
noticed. -/
lemma read_cut_cases (wrote : writeParts type attributes.length attributes = .ok payload)
    (proper : k < payload.length) :
    (∃ name offset cut, EndsInText payload name offset ∧ offset ≤ k ∧
      Text.ofUtf8 ((payload.take k).drop offset) = .ok cut ∧
      read (payload.take k) = .ok ⟨type, (Table.putAll [(encodingName, .int encodingUtf8)]
        attributes).put name (.text cut)⟩) ∨
    (∀ name offset cut, EndsInText payload name offset → offset ≤ k →
      Text.ofUtf8 ((payload.take k).drop offset) ≠ .ok cut) ∧
    ∃ fault, read (payload.take k) = .error fault ∧ fault.IsCut := by
  by_cases inText : ∃ name offset, EndsInText payload name offset ∧ offset ≤ k
  · obtain ⟨name, offset, ends, behind⟩ := inText
    obtain ⟨found, lost⟩ := read_of_cut wrote ends behind
    cases decoded : Text.ofUtf8 ((payload.take k).drop offset) with
    | ok cut => exact .inl ⟨name, offset, cut, ends, behind, decoded, found cut decoded⟩
    | error fault =>
      refine .inr ⟨fun name' offset' cut ends' _ same => ?_, lost fault decoded⟩
      obtain ⟨-, rfl⟩ := ends.unique ends'
      cases decoded.symm.trans same
  · refine .inr ⟨fun name offset _ ends behind => absurd ⟨name, offset, ends, behind⟩ inText, ?_⟩
    exact lost_read (lost_of_cut wrote proper fun name offset ends =>
      Nat.lt_of_not_le fun behind => inText ⟨name, offset, ends, behind⟩)

end Cuts

/-- A fault for lack of bytes is one of decoding or one of the layout. -/
lemma ReadFault.IsCut.toFailure {fault : ReadFault} (cut : fault.IsCut) :
    (∃ decoding, fault.toFailure = .decoding decoding) ∨
      ∃ offset need size, fault.toFailure = .layout (.short offset need size) := by
  cases fault with
  | undecodable decoding => exact .inl ⟨decoding, rfl⟩
  | short offset need size => exact .inr ⟨offset, need, size, rfl⟩
  | unsupported token => cases cut

/-- **What is left of a payload that is cut** is read only if the payload ends in a text,
the cut is behind the start of this text, and what is left of it is a text: then only this
text is another. Every other cut is noticed, for lack of bytes. -/
theorem read_take {type attributes : Value} {payload : List UInt8}
    (wrote : writeValues type attributes = .ok payload) {k : Nat} (proper : k < payload.length) :
    ∃ whole, read payload = .ok whole ∧
      (∀ name offset, EndsInText payload name offset → ∃ t,
        Text.ofUtf8 (payload.drop offset) = .ok t ∧ whole.attributes.get? name = some (.text t)) ∧
      (∀ event, read (payload.take k) = .ok event ↔ ∃ name offset cut,
        EndsInText payload name offset ∧ offset ≤ k ∧
        Text.ofUtf8 ((payload.take k).drop offset) = .ok cut ∧
        event = ⟨whole.type, whole.attributes.put name (.text cut)⟩) ∧
      ∀ fault, read (payload.take k) = .error fault →
        (∃ decoding, fault.toFailure = .decoding decoding) ∨
          ∃ offset need size, fault.toFailure = .layout (.short offset need size) := by
  obtain ⟨type, table, rfl, rfl⟩ := exists_mapping wrote
  rw [writeValues_mapping] at wrote
  replace wrote := orFailure_eq_ok_iff.mp wrote
  have whole := read_write wrote []
  rw [List.append_nil] at whole
  obtain ⟨wroteParts, -⟩ := write_eq_ok_iff.mp wrote
  refine ⟨_, whole, fun name offset ends => ends.exists_text wroteParts, ?_⟩
  rcases read_cut_cases wroteParts proper with
    ⟨name, offset, cut, ends, behind, decoded, found⟩ | ⟨noText, fault, fails, isCut⟩
  · refine ⟨fun event => ⟨fun same => ?_, ?_⟩, fun fault fails => ?_⟩
    · exact ⟨name, offset, cut, ends, behind, decoded, Except.ok.inj (same.symm.trans found)⟩
    · rintro ⟨name', offset', cut', ends', -, decoded', rfl⟩
      obtain ⟨rfl, rfl⟩ := ends.unique ends'
      obtain rfl := Except.ok.inj (decoded.symm.trans decoded')
      exact found
    · cases fails.symm.trans found
  · refine ⟨fun event => ⟨fun same => ?_, ?_⟩, fun fault' fails' => ?_⟩
    · cases same.symm.trans fails
    · rintro ⟨name, offset, cut, ends, behind, decoded, -⟩
      exact absurd decoded (noText name offset cut ends behind)
    · cases fails'.symm.trans fails
      exact isCut.toFailure

/-- A text beyond ASCII at the end: between two of its characters a cut is not noticed,
inside the last one it is. -/
theorem read_take_unicode :
    let front : List UInt8 := [1, 0x45, 0, 3, 3, 0x65, 0x6E, 0x63, 2, 0, 1,
      6, 0x63, 0x61, 0x63, 0x68, 0x65, 0x64, 9, 1, 2, 0xC3, 0xA9, 5, 0, 5]
    let payload := front ++ [0x35, 0x20, 0xE2, 0x82, 0xAC]
    let attributes : Table Scalar := [("cached", .flag true), ("é", .text "5 €")]
    writeValues (.text "E") (mapping (attributes.mapValues Scalar.toValue)) = .ok payload ∧
      read (payload.take 28) =
        .ok ⟨"E", [(encodingName, .int encodingUtf8), ("cached", .flag true), ("é", .text "5 ")]⟩ ∧
      ∀ event, read (payload.take 30) ≠ .ok event := by
  intro front payload attributes
  have wrote : writeValues (.text "E") (mapping (attributes.mapValues Scalar.toValue)) =
      .ok payload := by decide +kernel
  let f : Field := ⟨"é", TypeToken.text, .text "5 €", [0, 5, 0x35, 0x20, 0xE2, 0x82, 0xAC]⟩
  have found : readLayout payload =
      .ok (⟨"E", [announced, ⟨"cached", TypeToken.flag, .flag true, [1]⟩, f]⟩, ⟨31, 31, []⟩) := by
    decide +kernel
  have ends : EndsInText payload "é" 26 := ⟨_, _, f, found, rfl, rfl, rfl, rfl⟩
  have whole : read payload = .ok ⟨"E", [(encodingName, .int encodingUtf8), ("cached", .flag true),
      ("é", .text "5 €")]⟩ := by decide +kernel
  refine ⟨wrote, ?_, fun event same => ?_⟩
  · obtain ⟨_, wholeAgain, -, cut, -⟩ := read_take wrote (by decide : 28 < payload.length)
    cases wholeAgain.symm.trans whole
    exact (cut _).mpr ⟨"é", 26, "5 ", ends, by decide, by decide +kernel, by decide⟩
  · obtain ⟨_, -, -, cut, -⟩ := read_take wrote (by decide : 30 < payload.length)
    obtain ⟨_, _, t, ends', -, decoded, -⟩ := (cut event).mp same
    obtain ⟨rfl, rfl⟩ := ends'.unique ends
    have fails : Text.ofUtf8 ((payload.take 30).drop 26) = .error ⟨2, 2, 0xE2, .unexpectedEnd⟩ := by
      decide +kernel
    cases decoded.symm.trans fails

end AccessLog.Wire
