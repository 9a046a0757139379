/-
The names of attributes on the wire.

* `Table.length_putAll_iff`: entries that are put one after the other keep their number if no
  name comes again.
* `countOnWire`, `countOnWire_eq`: the number of attributes that a payload announces is that of
  its layout.
* `Layout.length_event_iff`: as many attributes are read exactly if their names are different.
* `exists_layout`, `get?_encodingName_iff`: the layout of what was written, and what the announced
  encoding is read as.
* `names_written_iff`: **the names that are written are different**, and the announced encoding
  is read as such, exactly if no attribute takes its name.
-/
import AccessLog.Proofs.Wire.Canonical

namespace AccessLog

namespace Table

variable {α : Type}

lemma length_put (table : Table α) (name : Text) (a : α) :
    (table.put name a).length = if name ∈ table.names then table.length else table.length + 1 := by
  by_cases known : name ∈ table.names
  · simp [put, has_eq_true_iff.mpr known, known]
  · simp [put, has_eq_false_iff.mpr known, known]

/-- A name that comes again takes the place of the one before. -/
lemma length_putAll_le (table : Table α) (entries : List (Text × α)) :
    (table.putAll entries).length ≤ table.length + entries.length := by
  induction entries generalizing table with
  | nil => exact Nat.le_refl _
  | cons entry rest ih =>
    have later := ih (table.put entry.1 entry.2)
    rw [length_put] at later
    rw [List.length_cons]
    show (putAll (table.put entry.1 entry.2) rest).length ≤ _
    split at later <;> omega

/-- Entries that are put one after the other keep their number exactly if no name comes again. -/
lemma length_putAll_iff (table : Table α) (entries : List (Text × α)) :
    (table.putAll entries).length = table.length + entries.length ↔
      (names entries).Nodup ∧ ∀ name ∈ names entries, name ∉ table.names := by
  induction entries generalizing table with
  | nil => simp [putAll, names]
  | cons entry rest ih =>
    obtain ⟨name, a⟩ := entry
    have step : putAll table ((name, a) :: rest) = putAll (table.put name a) rest := rfl
    have split : names ((name, a) :: rest) = name :: names rest := rfl
    rw [step, split, List.length_cons, List.nodup_cons, List.forall_mem_cons]
    by_cases known : name ∈ table.names
    · have few := length_putAll_le (table.put name a) rest
      rw [length_put, if_pos known] at few
      constructor
      · intro many
        omega
      · exact fun h => absurd known h.2.1
    · have here : (table.put name a).length = table.length + 1 := by
        rw [length_put, if_neg known]
      have longer : names (table.put name a) = table.names ++ [name] := by
        rw [names_put, if_neg (by simp [has_eq_false_iff.mpr known])]
      have later := ih (table.put name a)
      rw [here, longer, Nat.add_right_comm] at later
      rw [← Nat.add_assoc, later]
      simp only [List.mem_append, List.mem_singleton, not_or]
      constructor
      · rintro ⟨nodup, apart⟩
        exact ⟨⟨fun isIn => (apart name isIn).2 rfl, nodup⟩, known,
          fun other isIn => (apart other isIn).1⟩
      · rintro ⟨⟨once, nodup⟩, -, apart⟩
        refine ⟨nodup, fun other isIn => ⟨apart other isIn, ?_⟩⟩
        rintro rfl
        exact once isIn

end Table

namespace Wire

/-! ### What a payload announces -/

/-- The number of attributes that a payload announces behind the name of the event. -/
def countOnWire (payload : List UInt8) : Except ReadFault Nat := do
  let (_, c) ← readName (.start payload)
  let (count, _) ← readNumber 2 c
  return count

lemma length_readFields {count : Nat} {c after : Cursor} {fields : List Field}
    (found : readFields count c = .ok (fields, after)) : fields.length = count := by
  induction count generalizing c fields with
  | zero => cases found; rfl
  | succ count ih =>
    obtain ⟨⟨f, next⟩, -, found⟩ := bind_eq_ok_iff.mp found
    obtain ⟨⟨others, last⟩, foundOthers, same⟩ := bind_eq_ok_iff.mp found
    cases same
    rw [List.length_cons, ih foundOthers]

/-- The number that is announced is that of the attributes in the layout. -/
lemma countOnWire_eq {payload : List UInt8} {l : Layout} {c : Cursor}
    (found : readLayout payload = .ok (l, c)) : countOnWire payload = .ok l.fields.length := by
  obtain ⟨⟨type, afterName⟩, name, found⟩ := bind_eq_ok_iff.mp found
  obtain ⟨⟨count, afterCount⟩, number, found⟩ := bind_eq_ok_iff.mp found
  obtain ⟨⟨fields, last⟩, foundFields, same⟩ := bind_eq_ok_iff.mp found
  cases same
  rw [countOnWire, name, length_readFields foundFields]
  simp only [bind, Except.bind]
  rw [number]
  rfl

namespace Layout

/-- The names of the attributes in order, repeated ones included. -/
def names (l : Layout) : List Text :=
  l.fields.map Field.name

lemma names_entries (l : Layout) : Table.names (l.fields.map Field.entry) = l.names := by
  simp [Table.names, names, Field.entry, Function.comp_def]

/-- As many attributes are read as there are in the layout exactly if no name comes twice. -/
lemma length_event_iff (l : Layout) :
    l.event.attributes.length = l.fields.length ↔ l.names.Nodup := by
  have all := Table.length_putAll_iff [] (l.fields.map Field.entry)
  rw [List.length_map, List.length_nil, Nat.zero_add, names_entries] at all
  rw [event, Table.ofList, all, and_iff_left_iff_imp]
  exact fun _ _ _ => List.not_mem_nil

end Layout

/-! ### What is written -/

lemma asRead_eq_int_iff {v : Value} {n : Int} : asRead v = .int n ↔ v = .int n := by
  cases v <;> simp [asRead]

lemma toValue_eq_int_iff {s : Scalar} {n : Int} : s.toValue = .int n ↔ s = .int n := by
  cases s <;> simp [Scalar.toValue]

/-- The layout of what was written: the announced encoding and then the attributes. -/
lemma exists_layout {type : Text} {attributes : Table Value} {payload : List UInt8}
    (wrote : writeValues (.text type) (mapping attributes) = .ok payload) :
    ∃ l c, readLayout payload = .ok (l, c) ∧ c.offset = payload.length ∧
      read payload = .ok l.event ∧ l.names = encodingName :: attributes.names := by
  rw [writeValues_mapping] at wrote
  obtain ⟨wroteParts, -⟩ := write_eq_ok_iff.mp (orFailure_eq_ok_iff.mp wrote)
  obtain ⟨fields, entries, -, found⟩ := readLayout_writeParts wroteParts []
  rw [List.append_nil] at found
  refine ⟨_, _, found, rfl, ?_, ?_⟩
  · rw [read, readEvent_eq, found]
    rfl
  · dsimp only at entries
    rw [← Table.names_mapValues Scalar.ofValue attributes, ← entries]
    simp [Layout.names, Table.names, Field.entry, Function.comp_def, announced]

/-- The announced encoding is read as such unless an attribute of its name says something else. -/
lemma get?_encodingName_iff {type : Text} {attributes : Table Value} {payload : List UInt8}
    {event : Event} (nodup : attributes.names.Nodup)
    (wrote : writeValues (.text type) (mapping attributes) = .ok payload)
    (wasRead : read payload = .ok event) :
    event.attributes.get? encodingName = some (.int encodingUtf8) ↔
      ∀ v, attributes.get? encodingName = some v → v = .int encodingUtf8 := by
  obtain ⟨again, foundAgain, -, -, inFront⟩ := read_writeValues wrote []
  rw [List.append_nil, wasRead] at foundAgain
  obtain rfl := Except.ok.inj foundAgain
  have shown := congrArg (Table.get? · encodingName) (inFront nodup)
  simp only [Table.get?_mapValues, Table.get?_cons, if_true] at shown
  calc event.attributes.get? encodingName = some (.int encodingUtf8)
      ↔ (event.attributes.get? encodingName).map Scalar.toValue = some (.int encodingUtf8) := by
        simp only [Option.map_eq_some_iff, toValue_eq_int_iff, exists_eq_right]
    _ ↔ ((attributes.get? encodingName).map asRead).getD (.int encodingUtf8) =
          .int encodingUtf8 := by rw [shown, Option.some.injEq]
    _ ↔ _ := by
        cases attributes.get? encodingName with
        | none => simp
        | some v => simp [asRead_eq_int_iff]

/-- **The names that are written are different** exactly if no attribute has the name of the
announced encoding. Whatever has a written form is laid out with the announced encoding first and
then the attributes under their names in order, and it announces that many. Only if an attribute
has that name as well, one name comes twice; then not as many attributes are read as are
announced, and the encoding is read as that attribute, which may be anything. -/
theorem names_written_iff {type : Text} {attributes : Table Value} {payload : List UInt8}
    (nodup : attributes.names.Nodup)
    (wrote : writeValues (.text type) (mapping attributes) = .ok payload) :
    ∃ l c event, readLayout payload = .ok (l, c) ∧ c.offset = payload.length ∧
      read payload = .ok event ∧ l.names = encodingName :: attributes.names ∧
      countOnWire payload = .ok (attributes.length + 1) ∧
      (l.names.Nodup ↔ encodingName ∉ attributes.names) ∧
      (event.attributes.length = attributes.length + 1 ↔ encodingName ∉ attributes.names) ∧
      (event.attributes.get? encodingName = some (.int encodingUtf8) ↔
        ∀ v, attributes.get? encodingName = some v → v = .int encodingUtf8) := by
  obtain ⟨l, c, found, whole, wasRead, names⟩ := exists_layout wrote
  have count : l.fields.length = attributes.length + 1 := by
    simpa [Layout.names, Table.names] using congrArg List.length names
  have different : l.names.Nodup ↔ encodingName ∉ attributes.names := by
    rw [names, List.nodup_cons, and_iff_left nodup]
  have all : l.event.attributes.length = attributes.length + 1 ↔
      encodingName ∉ attributes.names := by
    rw [← count, l.length_event_iff, different]
  exact ⟨l, c, l.event, found, whole, wasRead, names, count ▸ countOnWire_eq found, different,
    all, get?_encodingName_iff nodup wrote wasRead⟩

/-- An attribute that is named like the announced encoding. -/
theorem names_written_iff_text :
    let attributes : Table Value := [("url", .text "/"), ("enc", .text "x")]
    ∃ payload l c event, attributes.names.Nodup ∧
      writeValues (.text "T") (mapping attributes) = .ok payload ∧
      readLayout payload = .ok (l, c) ∧ read payload = .ok event ∧ ¬l.names.Nodup ∧
      countOnWire payload = .ok 3 ∧ event.attributes.length ≠ 3 ∧
      event.attributes.get? encodingName ≠ some (.int encodingUtf8) := by
  intro attributes
  have nodup : attributes.names.Nodup := by decide
  obtain ⟨payload, wrote⟩ :
      ∃ payload, writeValues (.text "T") (mapping attributes) = .ok payload := ⟨_, rfl⟩
  obtain ⟨l, c, event, found, -, wasRead, -, count, different, all, first⟩ :=
    names_written_iff nodup wrote
  refine ⟨payload, l, c, event, nodup, wrote, found, wasRead, ?_, count, ?_, ?_⟩
  · exact fun h => absurd (different.mp h) (by decide)
  · exact fun h => absurd (all.mp h) (by decide)
  · exact fun h => absurd (first.mp h (.text "x") rfl) (by decide)

/-- The announced encoding is lost: two attributes of its name are written, and one is read. -/
theorem encoding_name_twice :
    ∃ payload, writeValues (.text "T") (mapping [("enc", .text "x")]) = .ok payload ∧
      (readLayout payload).map (fun found => found.1.names) = .ok ["enc", "enc"] ∧
      countOnWire payload = .ok 2 ∧
      read payload = .ok ⟨"T", [("enc", .text "x")]⟩ := by
  refine ⟨_, rfl, ?_, ?_, ?_⟩ <;> decide +kernel

end Wire

end AccessLog
