/-
The payloads that are written.

* `Field.Spelled.writeAttribute_eq`, `Field.Spelled.eq_announcement`: a plain
  attribute is written as it stands, and so is the announced encoding.
* `Layout.IsCanonical.exists_write`: so is a whole payload with a canonical layout.
* `announced`, `readLayout_writeParts`: the layout of an event that was written.
* `writeValues_read`: **what is read is written again byte for byte** if its
  layout is canonical, and every payload that is written has such a layout.
-/
import AccessLog.Proofs.Wire.Consumption
import AccessLog.Proofs.Wire.RoundTrip

namespace AccessLog.Wire

/-! ### Writing what was read -/

lemma fitsInt64_signed {n : Nat} (fits : n < capacity 8) : fitsInt64 (signed 8 n) = true := by
  have eight : capacity 8 = 0x10000000000000000 := rfl
  rw [fitsInt64, Bool.and_eq_true, decide_eq_true_eq, decide_eq_true_eq, signed]
  split <;> omega

/-- A value of one of the three kinds that are written has the bytes that it was
read from. -/
lemma Spells.writeScalar_eq {token : UInt8} {value : Scalar} {body : List UInt8}
    (spells : Spells token value body)
    (plain : token = TypeToken.text ∨ token = TypeToken.int64 ∨
      token = TypeToken.flag ∧ (body = [0] ∨ body = [1])) :
    writeScalar value = .ok (token :: body) := by
  cases spells with
  | text encoded short => exact writeScalar_text_eq_ok_iff.mpr ⟨_, encoded, short, rfl⟩
  | int16 two => rcases plain with wrong | wrong | ⟨wrong, -⟩ <;> exact absurd wrong (by decide)
  | int64 eight =>
    have small := ofBigEndian_lt body
    have digits := bigEndian_ofBigEndian body
    rw [eight] at small digits
    rw [writeScalar, if_pos (fitsInt64_signed small), unsigned_signed small, digits]
  | flag b =>
    rcases plain with wrong | wrong | ⟨-, bit | bit⟩
    · exact absurd wrong (by decide)
    · exact absurd wrong (by decide)
    · obtain rfl := List.head_eq_of_cons_eq bit
      rfl
    · obtain rfl := List.head_eq_of_cons_eq bit
      rfl

/-- A number in two bytes has only one form. -/
lemma Spells.eq_bigEndian {token : UInt8} {value : Scalar} {body : List UInt8}
    (spells : Spells token value body) (kind : token = TypeToken.int16)
    (number : value = .int encodingUtf8) : body = bigEndian 2 encodingUtf8 := by
  cases spells with
  | text | int64 | flag => exact absurd kind (by decide)
  | int16 two =>
    have digits := bigEndian_ofBigEndian body
    have same := unsigned_signed (ofBigEndian_lt body)
    rw [two] at digits same
    rw [Scalar.int.inj number] at same
    rw [← digits, ← same]
    rfl

namespace Field.Spelled

variable {f : Field} {bytes : List UInt8}

/-- A plain attribute is written as it stands. -/
lemma writeAttribute_eq (spelled : f.Spelled bytes) (plain : f.IsPlain) :
    writeAttribute f.entry = .ok bytes := by
  obtain ⟨name, wroteName, rfl, spells⟩ := spelled
  rw [writeAttribute, bind_eq_ok_iff]
  refine ⟨name, wroteName .ofAttribute, bind_eq_ok_iff.mpr ?_⟩
  exact ⟨f.token :: f.body, spells.writeScalar_eq plain, rfl⟩

/-- The announced encoding stands in only one form. -/
lemma eq_announcement (spelled : f.Spelled bytes) (announces : f.Announces) :
    bytes = announcement := by
  obtain ⟨name, wroteName, rfl, spells⟩ := spelled
  obtain ⟨n, token, value, body⟩ := f
  obtain ⟨rfl, rfl, rfl⟩ := announces
  have nameBytes : name = [3, 0x65, 0x6E, 0x63] :=
    Except.ok.inj ((wroteName .ofAttribute).symm.trans (writeName_encodingName _))
  rw [nameBytes, spells.eq_bigEndian rfl rfl]
  rfl

end Field.Spelled

/-- Plain attributes are written as they stand. -/
lemma writeAttributes_eq {fields : List Field} {parts : List (List UInt8)}
    (spelled : List.Forall₂ Field.Spelled fields parts) (plain : ∀ f ∈ fields, f.IsPlain) :
    (fields.map Field.entry).mapM writeAttribute = .ok parts := by
  induction spelled with
  | nil => rfl
  | cons first others ih =>
    obtain ⟨here, there⟩ := List.forall_mem_cons.mp plain
    rw [List.map_cons, List.mapM_cons, first.writeAttribute_eq here, ih there]
    rfl

/-- The attributes of a canonical layout besides the announced encoding. -/
lemma Layout.IsCanonical.event_eq {l : Layout} (canonical : l.IsCanonical) :
    ∃ first others, l.fields = first :: others ∧ first.Announces ∧ (∀ f ∈ others, f.IsPlain) ∧
      l.event.attributes.erase encodingName = others.map Field.entry := by
  obtain ⟨type, _ | ⟨first, others⟩⟩ := l
  · cases canonical
  obtain ⟨announces, apart, nodup⟩ := canonical
  refine ⟨first, others, rfl, announces, fun f isIn => (apart f isIn).2, ?_⟩
  have names : Table.names (others.map Field.entry) = others.map Field.name := by
    simp [Table.names, Field.entry, Function.comp_def]
  have absent : encodingName ∉ Table.names (others.map Field.entry) := by
    rw [names]
    intro isIn
    obtain ⟨f, there, same⟩ := List.mem_map.mp isIn
    exact (apart f there).1 same
  have kept : Table.erase (others.map Field.entry) encodingName = others.map Field.entry := by
    refine List.filter_eq_self.mpr fun entry isIn => decide_eq_true ?_
    exact fun same => absent (same ▸ List.mem_map_of_mem isIn)
  have put := @Table.putAll_cons_of_nodup _ encodingName first.value [] (others.map Field.entry)
    (fun _ _ => List.not_mem_nil) List.not_mem_nil (names ▸ nodup)
  have start : Table.ofList (List.map Field.entry (first :: others)) =
      Table.putAll [(encodingName, first.value)] (others.map Field.entry) := by
    rw [← announces.1]
    rfl
  rw [Layout.event, start, put, List.nil_append, kept, Table.erase,
    List.filter_cons_of_neg (by simp)]
  exact kept

/-- A payload with a canonical layout and nothing behind it is written from what
it is read as. -/
lemma Layout.IsCanonical.exists_write {payload : List UInt8} {l : Layout} {c : Cursor}
    (canonical : l.IsCanonical) (found : readLayout payload = .ok (l, c))
    (whole : c.offset = payload.length) (small : payload.length ≤ maxDatagram) :
    write ⟨l.type, l.event.attributes.erase encodingName⟩ = .ok payload := by
  obtain ⟨name, parts, wroteName, few, spelled, cut, left⟩ := exists_spelled found whole.le
  have behind : c.rest = [] := by
    rw [whole, Nat.sub_self] at left
    exact List.eq_nil_of_length_eq_zero left
  obtain ⟨first, others, fields, announces, plain, attributes⟩ := canonical.event_eq
  rw [fields] at few spelled cut
  cases spelled with
  | @cons _ start _ rest spelledFirst spelledOthers =>
    refine write_eq_ok_iff.mpr
      ⟨writeParts_eq_ok_iff.mpr ⟨name, rest, wroteName .ofEvent, ?_, ?_, ?_⟩, small⟩
    · rw [attributes, List.length_map]
      exact few
    · rw [attributes]
      exact writeAttributes_eq spelledOthers plain
    · rw [attributes, List.length_map, ← spelledFirst.eq_announcement announces, cut, behind,
        List.append_nil, List.flatten_cons]
      rfl

/-! ### Reading what was written -/

/-- The announced encoding as it is written. -/
def announced : Field :=
  ⟨encodingName, TypeToken.int16, .int encodingUtf8, bigEndian 2 encodingUtf8⟩

/-- The layout of an event that was written, and the cursor behind it, whatever
follows. -/
lemma readLayout_writeParts {type : Text} {attributes : List (Text × Scalar)}
    {payload : List UInt8} (wrote : writeParts type attributes.length attributes = .ok payload)
    (more : List UInt8) :
    ∃ fields, fields.map Field.entry = attributes ∧ (∀ f ∈ fields, f.IsPlain) ∧
      readLayout (payload ++ more) = .ok (⟨type, announced :: fields⟩,
        ⟨(payload ++ more).length, payload.length, more⟩) := by
  obtain ⟨name, body, wroteName, few, wroteBody, rfl⟩ := writeParts_eq_ok_iff.mp wrote
  obtain ⟨fields, entries, plain, foundFields⟩ := Reads.fields wroteBody
  refine ⟨fields, entries, plain, ?_⟩
  have foundAll : Reads (readFields (attributes.length + 1)) (announcement ++ body.flatten)
      (announced :: fields) :=
    (Reads.field (Reads.name (writeName_encodingName .ofAttribute)) Reads.encodingValue).bind
      (fun f c => readFields attributes.length c >>= fun found => .ok (f :: found.1, found.2))
      (foundFields.map (announced :: ·))
  have found := (Reads.name wroteName).bind
    (fun type c => readNumber 2 c >>= fun found =>
      readFields found.1 found.2 >>= fun found => .ok (Layout.mk type found.1, found.2))
    ((Reads.count few).bind
      (fun count c => readFields count c >>= fun found =>
        .ok (Layout.mk type found.1, found.2))
      (foundAll.map (Layout.mk type)))
  have here := found (name ++ (bigEndian 2 (attributes.length + 1) ++
    (announcement ++ body.flatten)) ++ more).length 0 more
  rw [Nat.zero_add] at here
  exact here

/-! ### Both ways -/

lemma ofValue_toValue (value : Scalar) : Scalar.ofValue value.toValue = value := by
  cases value <;> rfl

/-- **What is read is written again byte for byte.** A payload that one datagram
holds, that is read to its end and no further, and whose layout is canonical, is
what is written from its type and its attributes without the announced encoding.
Every payload that is written from attributes of different names, none of them
that of the announced encoding, is such a payload. -/
theorem writeValues_read {payload : List UInt8} (small : payload.length ≤ maxDatagram) :
    (∀ l c, readLayout payload = .ok (l, c) → c.offset = payload.length → l.IsCanonical →
      ∃ event, read payload = .ok event ∧
        writeValues (.text event.type)
          (mapping ((event.attributes.erase encodingName).mapValues Scalar.toValue)) =
            .ok payload) ∧
      ∀ type attributes, attributes.names.Nodup → encodingName ∉ attributes.names →
        writeValues (.text type) (mapping attributes) = .ok payload →
        ∃ l c, readLayout payload = .ok (l, c) ∧ c.offset = payload.length ∧ l.IsCanonical := by
  constructor
  · intro l c found whole canonical
    refine ⟨l.event, ?_, ?_⟩
    · rw [read, readEvent_eq, found]
      rfl
    · have same (attributes : Table Scalar) :
          (attributes.mapValues Scalar.toValue).mapValues Scalar.ofValue = attributes := by
        simp [Table.mapValues, Function.comp_def, ofValue_toValue]
      rw [writeValues_mapping, same]
      exact orFailure_eq_ok_iff.mpr (canonical.exists_write found whole small)
  · intro type attributes nodup absent wrote
    rw [writeValues_mapping] at wrote
    obtain ⟨wroteParts, -⟩ := write_eq_ok_iff.mp (orFailure_eq_ok_iff.mp wrote)
    obtain ⟨fields, entries, plain, found⟩ := readLayout_writeParts wroteParts []
    rw [List.append_nil] at found
    dsimp only at entries
    have names : fields.map Field.name = attributes.names := by
      rw [← Table.names_mapValues Scalar.ofValue attributes, ← entries]
      simp [Table.names, Field.entry, Function.comp_def]
    refine ⟨_, _, found, rfl, ⟨rfl, rfl, rfl⟩, fun f isIn => ⟨?_, plain f isIn⟩, names ▸ nodup⟩
    rintro same
    exact absent (names ▸ same ▸ List.mem_map_of_mem isIn)

/-- A text beyond ASCII, an empty one, a flag and a negative number. -/
theorem writeValues_read_unicode :
    let payload : List UInt8 :=
      [1, 0x45, 0, 5, 3, 0x65, 0x6E, 0x63, 2, 0, 1,
        5, 0x63, 0x61, 0x66, 0xC3, 0xA9, 5, 0, 5, 0x35, 0x20, 0xE2, 0x82, 0xAC,
        0, 5, 0, 0,
        6, 0x63, 0x61, 0x63, 0x68, 0x65, 0x64, 9, 1,
        6, 0x6F, 0x66, 0x66, 0x73, 0x65, 0x74, 7, 0xFF, 0xFF, 0xFF, 0xFF, 0xFF, 0xFF, 0xFF, 0xF9]
    let layout : Layout := ⟨"E", [announced,
      ⟨"café", 5, .text "5 €", [0, 5, 0x35, 0x20, 0xE2, 0x82, 0xAC]⟩, ⟨[], 5, .text [], [0, 0]⟩,
      ⟨"cached", 9, .flag true, [1]⟩,
      ⟨"offset", 7, .int (-7), [0xFF, 0xFF, 0xFF, 0xFF, 0xFF, 0xFF, 0xFF, 0xF9]⟩]⟩
    payload.length ≤ maxDatagram ∧ readLayout payload = .ok (layout, ⟨54, 54, []⟩) ∧
      layout.IsCanonical ∧
      ∃ event, read payload = .ok event ∧
        writeValues (.text event.type)
          (mapping ((event.attributes.erase encodingName).mapValues Scalar.toValue)) =
            .ok payload := by
  intro payload layout
  have small : payload.length ≤ maxDatagram := by decide
  have found : readLayout payload = .ok (layout, ⟨54, 54, []⟩) := by decide +kernel
  have canonical : layout.IsCanonical := by decide
  exact ⟨small, found, canonical, (writeValues_read small).1 layout _ found rfl canonical⟩
end AccessLog.Wire
