/-
Events on the wire and back.

* `Table.mapValues`: other values under the same names.
* `Table.putAll_cons_of_nodup`: entries put into a table with one entry, if no
  name comes twice.
* `Table.put_put`: of two values put under one name the second stays.
* `writeParts_eq_ok_iff`, `write_eq_ok_iff`: which events have a written form,
  and which form that is.
* `readEvent_writeParts`, `read_write`: what is read from it, whatever follows.
* `writeValues_mapping`: a mapping of values under texts is written as the event
  with their scalars.
* `exists_mapping`: what is written is a mapping of values under texts.
* `read_writeValues`: **what is written is read**: type and attributes in order,
  behind the announced encoding.
-/
import AccessLog.Proofs.Wire.Reading
import AccessLog.Wire.Values

namespace AccessLog

namespace Table

variable {α β : Type}

/-! ### Other values under the same names -/

/-- The same names in the same order with other values. -/
def mapValues (f : α → β) (table : Table α) : Table β :=
  table.map fun entry => (entry.1, f entry.2)

lemma has_mapValues (f : α → β) (table : Table α) (name : Text) :
    (table.mapValues f).has name = table.has name := by
  simp [mapValues, has, Function.comp_def]

lemma names_mapValues (f : α → β) (table : Table α) : (table.mapValues f).names = table.names := by
  simp [mapValues, names, Function.comp_def]

lemma get?_mapValues (f : α → β) (table : Table α) (name : Text) :
    (table.mapValues f).get? name = (table.get? name).map f := by
  induction table with
  | nil => rfl
  | cons entry rest ih =>
    rw [mapValues, List.map_cons, get?_cons, get?_cons]
    split
    · rfl
    · exact ih

lemma erase_mapValues (f : α → β) (table : Table α) (name : Text) :
    (table.mapValues f).erase name = (table.erase name).mapValues f := by
  simp [mapValues, erase, List.filter_map, Function.comp_def]

lemma put_mapValues (f : α → β) (table : Table α) (name : Text) (a : α) :
    (table.put name a).mapValues f = (table.mapValues f).put name (f a) := by
  rw [put, put, has_mapValues]
  split
  · simp only [mapValues, List.map_map]
    refine List.map_congr_left fun entry _ => ?_
    by_cases here : entry.1 = name <;> simp [here]
  · simp [mapValues]

lemma putAll_mapValues (f : α → β) (table : Table α) (entries : List (Text × α)) :
    (table.putAll entries).mapValues f = (table.mapValues f).putAll (mapValues f entries) := by
  induction entries generalizing table with
  | nil => rfl
  | cons entry rest ih =>
    have first : (putAll table (entry :: rest)).mapValues f =
        ((table.put entry.1 entry.2).mapValues f).putAll (mapValues f rest) := ih _
    rw [first, put_mapValues]
    rfl

/-! ### Tables that start with a given name -/

lemma has_eq_false_iff {table : Table α} {name : Text} :
    table.has name = false ↔ name ∉ table.names := by
  rw [← has_eq_true_iff, Bool.not_eq_true]

lemma mem_names_append_singleton {table : Table α} {name other : Text} {a : α} :
    other ∈ names (table ++ [(name, a)]) ↔ other ∈ table.names ∨ other = name := by
  simp [names]

/-- A new name goes to the end. -/
lemma put_of_not_mem {table : Table α} {name : Text} (a : α) (new : name ∉ table.names) :
    table.put name a = table ++ [(name, a)] := by
  rw [put, has_eq_false_iff.mpr new]
  rfl

/-- Nothing is put in the place of a name that is not there. -/
lemma replaced_of_not_mem {table : Table α} {name : Text} (a : α) (new : name ∉ table.names) :
    table.map (fun entry => if entry.1 = name then (name, a) else entry) = table := by
  have same : ∀ entry ∈ table, (if entry.1 = name then (name, a) else entry) = id entry :=
    fun entry isIn => if_neg fun h => new (List.mem_map.mpr ⟨entry, isIn, h⟩)
  rw [List.map_congr_left same, List.map_id]

/-- Of two values put under one name the second counts. -/
lemma put_put (table : Table α) (name : Text) (a b : α) :
    (table.put name a).put name b = table.put name b := by
  by_cases known : table.has name
  · have still : (table.put name a).has name = true := by
      rw [has_eq_true_iff, names_put, if_pos known]
      exact has_eq_true_iff.mp known
    rw [put, if_pos still, put, if_pos known, put, if_pos known, List.map_map]
    refine List.map_congr_left fun entry _ => ?_
    by_cases here : entry.1 = name <;> simp [here]
  · have new : name ∉ table.names := fun isIn => known (has_eq_true_iff.mpr isIn)
    rw [put_of_not_mem a new, put_of_not_mem b new, put]
    simp [has, replaced_of_not_mem b new]

/-- The first name keeps its place. -/
lemma put_cons_self {table : Table α} {name : Text} (a b : α) (single : name ∉ table.names) :
    put ((name, a) :: table) name b = (name, b) :: table := by
  simp [put, has, replaced_of_not_mem b single]

/-- Entries without a repeated name, put into a table that starts with a name:
an entry of that name stays in front, and the others follow in order. -/
lemma putAll_cons_of_nodup {name : Text} {a : α} {done entries : Table α}
    (apart : ∀ other ∈ entries.names, other ∉ done.names) (single : name ∉ done.names)
    (nodup : entries.names.Nodup) :
    putAll ((name, a) :: done) entries =
      (name, (entries.get? name).getD a) :: (done ++ entries.erase name) := by
  induction entries generalizing a done with
  | nil => simp [putAll, erase]
  | cons entry rest ih =>
    obtain ⟨other, b⟩ := entry
    obtain ⟨once, nodup⟩ := List.nodup_cons.mp nodup
    have apartRest : ∀ other ∈ names rest, other ∉ done.names :=
      fun other h => apart other (List.mem_cons_of_mem _ h)
    by_cases same : other = name
    · subst same
      have absent : get? rest other = none :=
        get?_eq_none_iff.mpr (has_eq_false_iff.mpr once)
      have kept : erase rest other = erase ((other, b) :: rest) other := by simp [erase]
      calc putAll ((other, a) :: done) ((other, b) :: rest)
          = putAll ((other, b) :: done) rest :=
            congrArg (putAll · rest) (put_cons_self a b single)
        _ = (other, b) :: (done ++ erase rest other) := by
            rw [ih apartRest single nodup, absent]
            rfl
        _ = _ := by rw [get?_cons, if_pos rfl, kept]; rfl
    · have new : other ∉ names ((name, a) :: done) := by
        intro h
        rcases List.mem_cons.mp h with here | there
        · exact same here
        · exact apart other List.mem_cons_self there
      have kept : erase ((other, b) :: rest) name = (other, b) :: erase rest name := by
        simp [erase, same]
      have apartLonger : ∀ third ∈ names rest, third ∉ names (done ++ [(other, b)]) := by
        intro third h h'
        rcases mem_names_append_singleton.mp h' with before | rfl
        · exact apartRest third h before
        · exact once h
      have singleLonger : name ∉ names (done ++ [(other, b)]) := by
        intro h
        rcases mem_names_append_singleton.mp h with before | rfl
        · exact single before
        · exact same rfl
      calc putAll ((name, a) :: done) ((other, b) :: rest)
          = putAll ((name, a) :: (done ++ [(other, b)])) rest :=
            congrArg (putAll · rest) (put_of_not_mem b new)
        _ = (name, (get? rest name).getD a) :: (done ++ [(other, b)] ++ erase rest name) :=
            ih apartLonger singleLonger nodup
        _ = _ := by rw [get?_cons, if_neg same, kept, List.append_assoc]; rfl

end Table

namespace Wire

/-! ### Events -/

/-- An event has a written form if its parts have and one datagram holds them. -/
lemma write_eq_ok_iff {event : Event} {payload : List UInt8} :
    write event = .ok payload ↔
      writeParts event.type event.attributes.length event.attributes = .ok payload ∧
        payload.length ≤ maxDatagram := by
  rw [write, bind_eq_ok_iff]
  simp only [guarded_eq_ok_iff, Nat.not_lt]
  constructor
  · rintro ⟨bytes, wrote, small, rfl⟩
    exact ⟨wrote, small⟩
  · rintro ⟨wrote, small⟩
    exact ⟨payload, wrote, small, rfl⟩

/-- The parts of an event with a written form. -/
lemma writeParts_eq_ok_iff {type : Text} {count : Nat} {attributes : List (Text × Scalar)}
    {payload : List UInt8} :
    writeParts type count attributes = .ok payload ↔
      ∃ name body, writeName .ofEvent type = .ok name ∧ count + 1 ≤ maxCount ∧
        attributes.mapM writeAttribute = .ok body ∧
        payload = name ++ (bigEndian 2 (count + 1) ++ (announcement ++ body.flatten)) := by
  simp only [writeParts, bind_eq_ok_iff, writeCount]
  constructor
  · rintro ⟨name, wroteName, number, counted, body, wroteBody, joined⟩
    by_cases few : count + 1 ≤ maxCount
    · rw [if_pos few] at counted
      cases counted
      cases joined
      exact ⟨name, body, wroteName, few, wroteBody, by simp⟩
    · rw [if_neg few] at counted
      cases counted
  · rintro ⟨name, body, wroteName, few, wroteBody, rfl⟩
    exact ⟨name, wroteName, _, if_pos few, body, wroteBody, by simp [pure, Except.pure]⟩

/-- The event at the front of a payload is the one that was written there, its
attributes behind the announced encoding, and the cursor is right behind it. -/
lemma readEvent_writeParts {type : Text} {attributes : List (Text × Scalar)}
    {payload : List UInt8} (wrote : writeParts type attributes.length attributes = .ok payload)
    (more : List UInt8) :
    readEvent (payload ++ more) =
      .ok (⟨type, Table.putAll [(encodingName, .int encodingUtf8)] attributes⟩,
        ⟨(payload ++ more).length, payload.length, more⟩) := by
  obtain ⟨name, body, wroteName, few, wroteBody, rfl⟩ := writeParts_eq_ok_iff.mp wrote
  have foundAttributes : Reads (readAttributes [] (attributes.length + 1)) _ _ :=
    Reads.announcement (Reads.attributes wroteBody _)
  have found := (Reads.name wroteName).bind
    (fun type c => readNumber 2 c >>= fun found =>
      readAttributes [] found.1 found.2 >>= fun found => .ok (Event.mk type found.1, found.2))
    ((Reads.count few).bind
      (fun count c => readAttributes [] count c >>= fun found =>
        .ok (Event.mk type found.1, found.2))
      (foundAttributes.map (Event.mk type)))
  have here := found (name ++ (bigEndian 2 (attributes.length + 1) ++
    (announcement ++ body.flatten)) ++ more).length 0 more
  rw [Nat.zero_add] at here
  exact here

/-- What is read from the written form of an event. -/
lemma read_write {event : Event} {payload : List UInt8} (wrote : write event = .ok payload)
    (more : List UInt8) :
    read (payload ++ more) =
      .ok ⟨event.type, Table.putAll [(encodingName, .int encodingUtf8)] event.attributes⟩ := by
  rw [read, readEvent_writeParts (write_eq_ok_iff.mp wrote).1]
  rfl

/-! ### Events given as values -/

lemma orFailure_eq_ok_iff {α : Type} {x : Except WriteFault α} {a : α} :
    orFailure x = .ok a ↔ x = .ok a := by
  cases x with
  | ok _ => exact ⟨fun h => by cases h; rfl, fun h => by cases h; rfl⟩
  | error _ => exact ⟨nofun, nofun⟩

/-- A mapping of values under texts. -/
def mapping (attributes : Table Value) : Value :=
  .dict (attributes.map fun entry => (.text entry.1, entry.2))

lemma namedScalars_mapping (attributes : Table Value) :
    namedScalars (attributes.map fun entry => (.text entry.1, entry.2)) =
      (attributes.mapValues .ofValue, true) := by
  induction attributes with
  | nil => rfl
  | cons entry rest ih =>
    obtain ⟨first, all⟩ := Prod.mk.inj ih
    rw [namedScalars, List.map_cons, List.takeWhile_cons_of_pos rfl, List.all_cons, all,
      List.filterMap_cons, first]
    rfl

/-- A mapping of values under texts is written as the event with their scalars. -/
lemma writeValues_mapping (type : Text) (attributes : Table Value) :
    writeValues (.text type) (mapping attributes) =
      orFailure (write ⟨type, attributes.mapValues .ofValue⟩) := by
  have count : (attributes.mapValues Scalar.ofValue).length = attributes.length := by
    simp [Table.mapValues]
  rw [mapping, writeValues, length?, write, count]
  simp only [namedScalars_mapping, List.length_map]
  cases wroteName : writeName .ofEvent type with
  | error fault =>
    have refused : writeParts type attributes.length (attributes.mapValues .ofValue) =
        .error fault := by
      rw [writeParts, wroteName]
      rfl
    rw [refused]
    rfl
  | ok name =>
    cases writeParts type attributes.length (attributes.mapValues .ofValue) with
    | error fault => rfl
    | ok payload =>
      by_cases large : maxDatagram < payload.length
      · simp only [orFailure, bind, Except.bind, large, if_true]
        rfl
      · simp only [orFailure, bind, Except.bind, large, if_false]
        rfl

/-- Entries under texts are those of a mapping. -/
lemma exists_mapping_of_all {entries : List (Value × Value)}
    (named : entries.all (·.1.isText) = true) : ∃ attributes, mapping attributes = .dict entries := by
  induction entries with
  | nil => exact ⟨[], rfl⟩
  | cons entry rest ih =>
    rw [List.all_cons, Bool.and_eq_true] at named
    obtain ⟨attributes, same⟩ := ih named.2
    obtain ⟨name, v⟩ := entry
    cases name with
    | text name => exact ⟨(name, v) :: attributes, by rw [mapping, List.map_cons, Value.dict.inj same]⟩
    | _ => cases named.1

/-- Only a mapping under texts has a written form, and only with a text for its type. -/
lemma exists_mapping {type attributes : Value} {payload : List UInt8}
    (wrote : writeValues type attributes = .ok payload) :
    ∃ t table, type = .text t ∧ attributes = mapping table := by
  cases type with
  | text t =>
    cases attributes with
    | dict entries =>
      obtain ⟨_, -, wrote⟩ := bind_eq_ok_iff.mp wrote
      obtain ⟨parts, -, wrote⟩ := bind_eq_ok_iff.mp wrote
      by_cases named : entries.all (·.1.isText) = true
      · obtain ⟨table, same⟩ := exists_mapping_of_all named
        exact ⟨t, table, rfl, same.symm⟩
      · simp only [named] at wrote
        cases wrote
    | text | bytes | list | tuple =>
      obtain ⟨_, -, wrote⟩ := bind_eq_ok_iff.mp wrote
      obtain ⟨parts, -, wrote⟩ := bind_eq_ok_iff.mp wrote
      cases wrote
    | null | flag | int | float | object =>
      obtain ⟨_, -, wrote⟩ := bind_eq_ok_iff.mp wrote
      cases wrote
  | _ => cases wrote

/-- What a value is read as: a flag, an integer or a text as it is, and
anything else as the text that shows it. -/
def asRead : Value → Value
  | .flag b => .flag b
  | .int n => .int n
  | .text t => .text t
  | v => .text v.shown

lemma toValue_ofValue (v : Value) : (Scalar.ofValue v).toValue = asRead v := by
  cases v <;> rfl

/-- **What is written is read.** For whatever type and mapping of values under
names there is a written form of, that form is read as the same type and the
same attributes in order, behind the announced encoding, whatever follows. An
attribute with the name of the announced one gives it its value. -/
theorem read_writeValues {type : Text} {attributes : Table Value} {payload : List UInt8}
    (wrote : writeValues (.text type) (mapping attributes) = .ok payload) (more : List UInt8) :
    ∃ event, read (payload ++ more) = .ok event ∧ event.type = type ∧
      event.attributes.mapValues Scalar.toValue =
        Table.putAll [(encodingName, .int encodingUtf8)] (attributes.mapValues asRead) ∧
      (attributes.names.Nodup → event.attributes.mapValues Scalar.toValue =
        (encodingName, ((attributes.get? encodingName).map asRead).getD (.int encodingUtf8)) ::
          (attributes.erase encodingName).mapValues asRead) := by
  have values : (attributes.mapValues Scalar.ofValue).mapValues Scalar.toValue =
      attributes.mapValues asRead := by
    simp [Table.mapValues, toValue_ofValue]
  rw [writeValues_mapping] at wrote
  replace wrote := orFailure_eq_ok_iff.mp wrote
  have all : (Table.putAll [(encodingName, Scalar.int encodingUtf8)]
      (attributes.mapValues Scalar.ofValue)).mapValues Scalar.toValue =
      Table.putAll [(encodingName, .int encodingUtf8)] (attributes.mapValues asRead) := by
    rw [Table.putAll_mapValues, values]
    rfl
  refine ⟨_, read_write wrote more, rfl, all, fun nodup => ?_⟩
  rw [← Table.names_mapValues asRead] at nodup
  have inFront := @Table.putAll_cons_of_nodup _ encodingName (.int encodingUtf8) []
    (attributes.mapValues asRead) (fun _ _ => List.not_mem_nil) List.not_mem_nil nodup
  rw [all, inFront, Table.get?_mapValues, Table.erase_mapValues]
  rfl

/-- Texts beyond ASCII, a flag, a negative number, and another value for the
announced encoding. -/
theorem read_writeValues_unicode :
    let attributes : Table Value :=
      [("café", .text "5 €"), ("cached", .flag true), ("enc", .null), ("offset", .int (-7))]
    let again : Table Value :=
      [("enc", .text "None"), ("café", .text "5 €"), ("cached", .flag true), ("offset", .int (-7))]
    ∃ payload, writeValues (.text "E") (mapping attributes) = .ok payload ∧
      ∀ more, ∃ event, read (payload ++ more) = .ok event ∧ event.type = "E" ∧
        event.attributes.mapValues Scalar.toValue = again := by
  intro attributes again
  obtain ⟨payload, wrote⟩ :
      ∃ payload, writeValues (.text "E") (mapping attributes) = .ok payload := ⟨_, rfl⟩
  refine ⟨payload, wrote, fun more => ?_⟩
  obtain ⟨event, found, type, -, inFront⟩ := read_writeValues wrote more
  refine ⟨event, found, type, ?_⟩
  rw [inFront (by decide)]
  decide

end Wire

end AccessLog
