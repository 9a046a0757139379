/-
How long the written form of an event is, and what stands in its way.

* `Part`, `Event.parts`: what is written of an event, in order.
* `writeParts_eq`: an event is written part by part.
* `Part.Fits`, `Part.Refused`: the condition that a part is under, and what is
  wrong with it otherwise.
* `Part.write_cases`: a part that fits is written in as many bytes as it takes,
  and any other is refused.
* `Part.total`, `size_eq`: the size of an event is that of its parts.
* `Part.exists_written`, `Part.refused_first`: parts that all fit are written, and
  of others the first that does not fit decides.
* `writeValues_outcome`: **the events that have a written form**, how long it is,
  and the failure of each of the others.
-/
import AccessLog.Proofs.Wire.Canonical
import AccessLog.Proofs.Wire.Limits

namespace AccessLog.Wire

/-! ### Parts -/

/-- What is written of an event. -/
inductive Part where
  | name (role : NameRole) (name : Text)
  | count (n : Nat)
  | announcement
  | value (value : Scalar)
deriving DecidableEq

/-- The parts of an event in order: each attribute is its name and its value. -/
def Event.parts (event : Event) : List Part :=
  .name .ofEvent event.type :: .count (event.attributes.length + 1) :: .announcement ::
    event.attributes.flatMap fun entry => [.name .ofAttribute entry.1, .value entry.2]

namespace Part

/-- The written form of a part. -/
def write : Part → Except WriteFault (List UInt8)
  | name role t => writeName role t
  | count n => writeCount n
  | announcement => .ok Wire.announcement
  | value v => writeScalar v

/-- The number of bytes of a part. -/
def size : Part → Nat
  | name _ t => 1 + utf8Size t
  | count _ => 2
  | announcement => 7
  | value v => 1 + scalarSize v

/-- A part can be written: a text has a UTF-8 form that is not too long for the
bytes that count it, and a number is in the range of its bytes. -/
def Fits : Part → Prop
  | name _ t => Wire.Fits maxName t
  | count n => n ≤ maxCount
  | announcement => True
  | value (.flag _) => True
  | value (.int n) => -0x8000000000000000 ≤ n ∧ n < 0x8000000000000000
  | value (.text t) => Wire.Fits maxText t

instance (part : Part) : Decidable part.Fits :=
  match part with
  | name _ t => inferInstanceAs (Decidable (Encodable t ∧ utf8Size t ≤ maxName))
  | count n => inferInstanceAs (Decidable (n ≤ maxCount))
  | announcement => inferInstanceAs (Decidable True)
  | value (.flag _) => inferInstanceAs (Decidable True)
  | value (.int n) =>
    inferInstanceAs (Decidable (-0x8000000000000000 ≤ n ∧ n < 0x8000000000000000))
  | value (.text t) => inferInstanceAs (Decidable (Encodable t ∧ utf8Size t ≤ maxText))

/-- What is wrong with a part that cannot be written. A text without UTF-8 form is
not looked at any further. -/
inductive Refused : Part → WriteFault → Prop
  | unencodableName {role : NameRole} {t : Text} {fault : EncodingFault}
      (lacks : t.toUtf8 = .error fault) : Refused (name role t) (.unencodable fault)
  | longName {role : NameRole} {t : Text} (encodable : Encodable t)
      (long : maxName < utf8Size t) : Refused (name role t) (.longName role t)
  | count {n : Nat} (many : maxCount < n) : Refused (count n) .manyAttributes
  | int {n : Int} (wide : n < -0x8000000000000000 ∨ 0x8000000000000000 ≤ n) :
      Refused (value (.int n)) .wideInt
  | unencodableText {t : Text} {fault : EncodingFault} (lacks : t.toUtf8 = .error fault) :
      Refused (value (.text t)) (.unencodable fault)
  | longText {t : Text} (encodable : Encodable t) (long : maxText < utf8Size t) :
      Refused (value (.text t)) (.longText (utf8Size t))

/-- A text that fits has as many bytes as were counted; one that does not has no
bytes at all or too many. -/
lemma utf8_cases (limit : Nat) (t : Text) :
    (Wire.Fits limit t ∧ ∃ bytes, utf8 t = .ok bytes ∧ bytes.length = utf8Size t ∧
      ¬limit < bytes.length) ∨
    (¬Wire.Fits limit t ∧ ∃ fault, t.toUtf8 = .error fault ∧ utf8 t = .error (.unencodable fault)) ∨
    (¬Wire.Fits limit t ∧ Encodable t ∧ ∃ bytes, utf8 t = .ok bytes ∧
      bytes.length = utf8Size t ∧ limit < bytes.length) := by
  cases encoded : t.toUtf8 with
  | error fault =>
    have lacks : ¬Encodable t := fun encodable =>
      nomatch encoded.symm.trans (Text.toUtf8_eq_ok_iff.mpr ⟨encodable, rfl⟩)
    refine .inr (.inl ⟨fun fits => lacks fits.1, fault, rfl, ?_⟩)
    rw [utf8, encoded]
  | ok bytes =>
    obtain ⟨encodable, same⟩ := Text.toUtf8_eq_ok_iff.mp encoded
    have counted : bytes.length = utf8Size t := same ▸ length_flatMap_utf8 t
    have wrote : utf8 t = .ok bytes := utf8_eq_ok_iff.mpr encoded
    by_cases long : limit < bytes.length
    · refine .inr (.inr ⟨fun fits => ?_, encodable, bytes, wrote, counted, long⟩)
      exact absurd (counted ▸ fits.2) (Nat.not_le.mpr long)
    · exact .inl ⟨⟨encodable, counted ▸ Nat.not_lt.mp long⟩, bytes, wrote, counted, long⟩

/-- A part that fits is written in as many bytes as it takes, and any other part is
refused. -/
lemma write_cases (part : Part) :
    (part.Fits ∧ ∃ bytes, part.write = .ok bytes ∧ bytes.length = part.size) ∨
      (¬part.Fits ∧ ∃ fault, part.Refused fault ∧ part.write = .error fault) := by
  cases part with
  | name role t =>
    rw [write, writeName]
    rcases utf8_cases maxName t with ⟨fits, bytes, wrote, counted, short⟩ |
      ⟨misfit, fault, lacks, wrote⟩ | ⟨misfit, encodable, bytes, wrote, counted, long⟩
    · refine .inl ⟨fits, UInt8.ofNat bytes.length :: bytes, ?_, ?_⟩
      · rw [wrote]
        exact if_neg short
      · rw [List.length_cons, counted, size, Nat.add_comm]
    · refine .inr ⟨misfit, _, .unencodableName lacks, ?_⟩
      rw [wrote]
      rfl
    · refine .inr ⟨misfit, _, .longName encodable (counted ▸ long), ?_⟩
      rw [wrote]
      exact if_pos long
  | count n =>
    rw [write, writeCount]
    by_cases few : n ≤ maxCount
    · exact .inl ⟨few, _, if_pos few, length_bigEndian 2 n⟩
    · exact .inr ⟨few, _, .count (Nat.lt_of_not_le few), if_neg few⟩
  | announcement => exact .inl ⟨trivial, _, rfl, rfl⟩
  | value v =>
    cases v with
    | flag b => exact .inl ⟨trivial, _, rfl, rfl⟩
    | int n =>
      rw [write, writeScalar]
      have range : fitsInt64 n = true ↔ (value (.int n)).Fits := by
        rw [fitsInt64, Bool.and_eq_true, decide_eq_true_eq, decide_eq_true_eq, Fits]
      by_cases fits : (value (.int n)).Fits
      · refine .inl ⟨fits, _, if_pos (range.mpr fits), ?_⟩
        rw [List.length_cons, length_bigEndian]
        rfl
      · refine .inr ⟨fits, _, .int ?_, if_neg fun h => fits (range.mp h)⟩
        rw [Fits] at fits
        omega
    | text t =>
      rw [write, writeScalar]
      rcases utf8_cases maxText t with ⟨fits, bytes, wrote, counted, short⟩ |
        ⟨misfit, fault, lacks, wrote⟩ | ⟨misfit, encodable, bytes, wrote, counted, long⟩
      · refine .inl ⟨fits, TypeToken.text :: (bigEndian 2 bytes.length ++ bytes), ?_, ?_⟩
        · rw [wrote]
          exact if_neg short
        · rw [List.length_cons, List.length_append, length_bigEndian, counted, size, scalarSize]
          omega
      · refine .inr ⟨misfit, _, .unencodableText lacks, ?_⟩
        rw [wrote]
        rfl
      · refine .inr ⟨misfit, _, .longText encodable (counted ▸ long), ?_⟩
        rw [wrote, ← counted]
        exact if_pos long

end Part

/-! ### Events part by part -/

/-- Attributes are written name by name and value by value. -/
lemma writeAttributes_parts (attributes : List (Text × Scalar)) :
    (attributes.mapM writeAttribute).map List.flatten =
      ((attributes.flatMap fun entry => [Part.name .ofAttribute entry.1, .value entry.2]).mapM
        Part.write).map List.flatten := by
  induction attributes with
  | nil => rfl
  | cons entry rest ih =>
    rw [List.flatMap_cons, List.cons_append, List.cons_append, List.nil_append, List.mapM_cons,
      List.mapM_cons, List.mapM_cons, writeAttribute, Part.write, Part.write]
    cases writeName .ofAttribute entry.1 with
    | error fault => rfl
    | ok name =>
      cases writeScalar entry.2 with
      | error fault => rfl
      | ok value =>
        simp only [bind, Except.bind, pure, Except.pure]
        revert ih
        cases rest.mapM writeAttribute <;>
        cases (rest.flatMap fun entry =>
          [Part.name .ofAttribute entry.1, .value entry.2]).mapM Part.write <;>
        simp [Except.map]

/-- An event is written part by part. -/
lemma writeParts_eq (event : Event) :
    writeParts event.type event.attributes.length event.attributes =
      (event.parts.mapM Part.write).map List.flatten := by
  rw [writeParts, Event.parts, List.mapM_cons, List.mapM_cons, List.mapM_cons]
  simp only [Part.write]
  cases writeName .ofEvent event.type with
  | error fault => rfl
  | ok name =>
    cases writeCount (event.attributes.length + 1) with
    | error fault => rfl
    | ok number =>
      have attributes := writeAttributes_parts event.attributes
      simp only [bind, Except.bind, pure, Except.pure]
      revert attributes
      cases event.attributes.mapM writeAttribute <;>
      cases (event.attributes.flatMap fun entry =>
        [Part.name .ofAttribute entry.1, .value entry.2]).mapM Part.write <;>
      simp [Except.map]

namespace Part

/-- The number of bytes of several parts. -/
def total (parts : List Part) : Nat :=
  parts.foldr (fun part n => part.size + n) 0

/-- Parts that all fit are written in as many bytes as they take. -/
lemma exists_written {parts : List Part} (fit : ∀ part ∈ parts, part.Fits) :
    ∃ written, parts.mapM write = .ok written ∧ written.flatten.length = total parts := by
  induction parts with
  | nil => exact ⟨[], rfl, rfl⟩
  | cons part rest ih =>
    obtain ⟨here, there⟩ := List.forall_mem_cons.mp fit
    obtain ⟨others, wroteOthers, length⟩ := ih there
    rcases part.write_cases with ⟨-, bytes, wrote, counted⟩ | ⟨misfit, -⟩
    · refine ⟨bytes :: others, ?_, ?_⟩
      · rw [List.mapM_cons, wrote, wroteOthers]
        rfl
      · rw [List.flatten_cons, List.length_append, counted, length]
        rfl
    · exact absurd here misfit

/-- The first part that does not fit decides. -/
lemma refused_first {before after : List Part} {part : Part} (fit : ∀ p ∈ before, p.Fits)
    (misfit : ¬part.Fits) :
    ∃ fault, part.Refused fault ∧ (before ++ part :: after).mapM write = .error fault := by
  rcases part.write_cases with ⟨fits, -⟩ | ⟨-, fault, refused, fails⟩
  · exact absurd fits misfit
  · refine ⟨fault, refused, mapM_eq_error (fun p isIn => ?_) fails⟩
    rcases p.write_cases with ⟨-, bytes, wrote, -⟩ | ⟨wrong, -⟩
    · exact ⟨bytes, wrote⟩
    · exact absurd (fit p isIn) wrong

/-- All parts fit, or there is a first that does not. -/
lemma fit_or_exists_first (parts : List Part) :
    (∀ part ∈ parts, part.Fits) ∨ ∃ before part after, parts = before ++ part :: after ∧
      (∀ p ∈ before, p.Fits) ∧ ¬part.Fits := by
  induction parts with
  | nil => exact .inl (List.forall_mem_nil _)
  | cons part rest ih =>
    by_cases here : part.Fits
    · rcases ih with there | ⟨before, first, after, rfl, fit, misfit⟩
      · exact .inl (List.forall_mem_cons.mpr ⟨here, there⟩)
      · exact .inr ⟨part :: before, first, after, rfl, List.forall_mem_cons.mpr ⟨here, fit⟩, misfit⟩
    · exact .inr ⟨[], part, rest, rfl, List.forall_mem_nil _, here⟩

end Part

/-- The size of an event is that of its parts. -/
lemma size_eq (event : Event) : size event = Part.total event.parts := by
  have attributes : Part.total (event.attributes.flatMap fun entry =>
      [Part.name .ofAttribute entry.1, .value entry.2]) =
      event.attributes.foldr
        (fun entry n => 2 + utf8Size entry.1 + scalarSize entry.2 + n) 0 := by
    induction event.attributes with
    | nil => rfl
    | cons entry rest ih =>
      rw [List.flatMap_cons, List.foldr_cons, ← ih]
      simp only [Part.total, List.cons_append, List.nil_append, List.foldr_cons, Part.size]
      omega
  rw [size, ← attributes]
  simp only [Part.total, Event.parts, List.foldr_cons, Part.size]
  omega

/-! ### Outcomes -/

/-- **The events that have a written form** are those whose parts all fit and that
take no more than one datagram holds; the form has as many bytes as the event
takes. If all parts fit but the event takes more than that, it is too large, and
otherwise the first part that does not fit is refused. -/
theorem writeValues_outcome (type : Text) (attributes : Table Scalar) :
    let event : Event := ⟨type, attributes⟩
    let outcome := writeValues (.text type) (mapping (attributes.mapValues Scalar.toValue))
    ((∃ payload, outcome = .ok payload) ↔
      (∀ part ∈ event.parts, part.Fits) ∧ size event ≤ maxDatagram) ∧
    (∀ payload, outcome = .ok payload → payload.length = size event) ∧
    ((∀ part ∈ event.parts, part.Fits) → maxDatagram < size event →
      outcome = .error (.plain (.eventTooLarge (.int (size event)) (.int maxDatagram)))) ∧
    ∀ before part after, event.parts = before ++ part :: after →
      (∀ p ∈ before, p.Fits) → ¬part.Fits →
        ∃ fault, part.Refused fault ∧ outcome = .error fault.toFailure := by
  intro event outcome
  have same : outcome = orFailure (write event) := by
    have values : (attributes.mapValues Scalar.toValue).mapValues Scalar.ofValue = attributes := by
      simp [Table.mapValues, Function.comp_def, ofValue_toValue]
    exact (writeValues_mapping _ _).trans (by rw [values])
  -- with all parts fitting, only the size of the datagram is left
  have fitting (fit : ∀ part ∈ event.parts, part.Fits) : ∃ payload,
      payload.length = size event ∧ writeParts event.type event.attributes.length
        event.attributes = .ok payload := by
    obtain ⟨written, wrote, length⟩ := Part.exists_written fit
    refine ⟨written.flatten, length.trans (size_eq event).symm, ?_⟩
    rw [writeParts_eq, wrote]
    rfl
  have refused {before after : List Part} {part : Part}
      (cut : event.parts = before ++ part :: after) (fit : ∀ p ∈ before, p.Fits)
      (misfit : ¬part.Fits) :
      ∃ fault, part.Refused fault ∧ outcome = .error fault.toFailure := by
    obtain ⟨fault, isRefused, fails⟩ := @Part.refused_first before after part fit misfit
    refine ⟨fault, isRefused, ?_⟩
    rw [same, write, writeParts_eq, cut, fails]
    rfl
  have written {payload : List UInt8} (wrote : outcome = .ok payload) :
      (∀ part ∈ event.parts, part.Fits) ∧ payload.length = size event ∧
        payload.length ≤ maxDatagram := by
    rcases Part.fit_or_exists_first event.parts with fit | ⟨before, part, after, cut, fit, misfit⟩
    · obtain ⟨wroteParts, small⟩ := write_eq_ok_iff.mp (orFailure_eq_ok_iff.mp (same ▸ wrote))
      obtain ⟨other, length, wroteOther⟩ := fitting fit
      obtain rfl := Except.ok.inj (wroteParts.symm.trans wroteOther)
      exact ⟨fit, length, small⟩
    · obtain ⟨fault, -, fails⟩ := refused cut fit misfit
      cases wrote.symm.trans fails
  refine ⟨⟨?_, ?_⟩, fun payload wrote => (written wrote).2.1, fun fit large => ?_,
    fun before part after cut fit misfit => refused cut fit misfit⟩
  · rintro ⟨payload, wrote⟩
    obtain ⟨fit, length, small⟩ := written wrote
    exact ⟨fit, length ▸ small⟩
  · rintro ⟨fit, small⟩
    obtain ⟨payload, length, wrote⟩ := fitting fit
    exact ⟨payload, same.trans (orFailure_eq_ok_iff.mpr
      (write_eq_ok_iff.mpr ⟨wrote, length ▸ small⟩))⟩
  · obtain ⟨payload, length, wrote⟩ := fitting fit
    rw [same, write, wrote, ← length]
    simp only [bind, Except.bind, length ▸ large, if_true]
    rfl

/-- An integer that is too wide stands in front of a name without UTF-8 form; without
both of them the event is written. -/
theorem writeValues_outcome_wide_int :
    let lone : Text := [.ofNat 0xD800]
    let front : Table Scalar := [("é", .text "5 €"), ("n", .int (-0x8000000000000000))]
    let attributes : Table Scalar := [("é", .text "5 €"), ("n", .int 0x8000000000000000),
      (lone, .flag true)]
    writeValues (.text "E") (mapping (attributes.mapValues Scalar.toValue)) =
        .error (.layout .wideInt) ∧
      ∃ payload, writeValues (.text "E") (mapping (front.mapValues Scalar.toValue)) =
        .ok payload ∧ payload.length = 33 := by
  intro lone front attributes
  constructor
  · obtain ⟨-, -, -, first⟩ := writeValues_outcome "E" attributes
    obtain ⟨fault, refused, fails⟩ := first
      [.name .ofEvent "E", .count 4, .announcement, .name .ofAttribute "é", .value (.text "5 €"),
        .name .ofAttribute "n"]
      (.value (.int 0x8000000000000000)) [.name .ofAttribute lone, .value (.flag true)] (by decide)
      (by decide) (by decide)
    cases refused
    exact fails
  · obtain ⟨written, length, -⟩ := writeValues_outcome "E" front
    obtain ⟨payload, wrote⟩ := written.mpr ⟨by decide, by decide⟩
    exact ⟨payload, wrote, (length payload wrote).trans (by decide)⟩

end AccessLog.Wire
