/-
Whether the call for an event returns.

* `Emission.ofTexts`: an event of texts, as records are.
* `Emitter.emit_result_iff`: a call returns unless the event has no written form
  for another reason than a fault of its own, or something else than input or
  output fails.
* `Emitter.emit_failed`: a call that does not return changes nothing.
* `Emitter.emit_returns_iff`: **an event of texts is sent or dropped**, whatever
  the network refuses, exactly if it is expressible.
-/
import AccessLog.Proofs.Emitter.Accounts
import AccessLog.Proofs.Wire.Limits

namespace AccessLog

/-- An event with a type and attributes that are texts. -/
def Emission.ofTexts (type : Text) (attributes : Table Text) : Emission :=
  ⟨.text type, Wire.mapping (attributes.mapValues .text)⟩

namespace Emitter

variable {e : Emitter} {n : Network}

/-- If only input and output can fail, a call returns unless the event has no
written form for a reason that does not count as a fault of the event. -/
lemma emit_result_iff (io : n.OnlyIO) (event : Emission) :
    (e.emit n event).result = .ok () ↔
      ∀ f, e.written event = .error f → f.isEmission = true := by
  cases wrote : e.written event with
  | error f =>
    obtain ⟨-, ⟨emission, -, result⟩ | ⟨other, -, result⟩⟩ := emit_unwritten wrote n
    · exact ⟨fun _ g same => by cases same; exact emission, fun _ => result⟩
    · rw [result]
      refine ⟨nofun, fun h => ?_⟩
      have emission := h f rfl
      simp [other] at emission
  | ok payload =>
    refine ⟨nofun, fun _ => ?_⟩
    obtain ⟨-, ⟨-, result, -⟩ | ⟨f, failed, ⟨-, result, -⟩ | ⟨other, -⟩⟩⟩ := emit_written wrote n
    · exact result
    · exact result
    · have inputOutput := e.send_onlyIO io payload f failed
      simp [other] at inputOutput

/-- A call that does not return leaves the emitter and the network alone. -/
lemma emit_failed (io : n.OnlyIO) {event : Emission} {f : Failure}
    (failed : (e.emit n event).result = .error f) :
    (e.emit n event).emitter = e ∧ (e.emit n event).network = n := by
  cases wrote : e.written event with
  | error g =>
    obtain ⟨network, ⟨-, -, result⟩ | ⟨-, emitter, -⟩⟩ := emit_unwritten wrote n
    · cases result.symm.trans failed
    · exact ⟨emitter, network⟩
  | ok payload =>
    have returned : (e.emit n event).result = .ok () :=
      (emit_result_iff io event).mpr fun g unwritten => by cases wrote.symm.trans unwritten
    cases returned.symm.trans failed

/-! ### Events of texts -/

/-- The type of an event of texts, which is that of the options if it is empty. -/
def typeOf (e : Emitter) (type : Text) : Text :=
  if type.isEmpty then e.options.type else type

/-- The written form of an event of texts is that of the event with its type and
these texts. -/
lemma written_ofTexts (type : Text) (attributes : Table Text) :
    e.written (.ofTexts type attributes) =
      Wire.orFailure (Wire.write ⟨e.typeOf type, attributes.mapValues .text⟩) := by
  have kind : e.eventType (.ofTexts type attributes) = .text (e.typeOf type) := by
    rw [eventType, typeOf, Emission.ofTexts]
    cases type <;> rfl
  have entries : eventAttributes (.ofTexts type attributes) =
      Wire.mapping (attributes.mapValues .text) := by
    rw [eventAttributes, Emission.ofTexts]
    cases attributes <;> rfl
  have scalars : (attributes.mapValues Value.text).mapValues Wire.Scalar.ofValue =
      attributes.mapValues .text := by
    simp [Table.mapValues, Wire.Scalar.ofValue, Value.shown_text]
  rw [written, kind, entries, Wire.writeValues_mapping, scalars]

/-- **An event of texts is sent or dropped**, whatever the network refuses and
whatever the emitter has done before, exactly if it is expressible: the call
returns then, and one of the two counters goes up by one. If the first part that
cannot be written is a text without UTF-8 form or the number of the attributes,
the call fails, and neither counter changes. -/
theorem emit_returns_iff (e : Emitter) {n : Network} (io : n.OnlyIO) (type : Text)
    (attributes : Table Text) :
    let event := Emission.ofTexts type attributes
    ((e.emit n event).result = .ok () ↔ ¬Wire.Inexpressible (e.typeOf type) attributes) ∧
      ((e.emit n event).result = .ok () →
        ((e.emit n event).emitter.sent = e.sent + 1 ∧
            (e.emit n event).emitter.dropped = e.dropped) ∨
          ((e.emit n event).emitter.sent = e.sent ∧
            (e.emit n event).emitter.dropped = e.dropped + 1)) ∧
      ∀ f, (e.emit n event).result = .error f →
        (e.emit n event).emitter = e ∧ (e.emit n event).network = n := by
  intro event
  refine ⟨?_, fun returned => ?_, fun f failed => emit_failed io failed⟩
  · rw [emit_result_iff io, written_ofTexts, ← Wire.escapes_write_iff, Wire.Escapes]
    cases Wire.write ⟨e.typeOf type, attributes.mapValues .text⟩ with
    | ok payload =>
      refine ⟨fun _ => Wire.escapes_ok payload, fun _ f same => ?_⟩
      cases same
    | error fault =>
      constructor
      · rintro counts ⟨_, same, other⟩
        cases same
        have emission := counts fault.toFailure rfl
        simp [other] at emission
      · intro spared f same
        cases same
        by_contra other
        exact spared ⟨fault, rfl, by simpa using other⟩
  · rcases e.emit_counts n event with
      ⟨-, sent, dropped, -⟩ | ⟨sent, -, ⟨-, dropped⟩ | ⟨f, failed, -⟩⟩
    · exact .inl ⟨sent, dropped⟩
    · exact .inr ⟨sent, dropped⟩
    · cases failed.symm.trans returned

/-- A value that no datagram holds, and a network that refuses everything. -/
theorem emit_returns_long_value :
    let refusing : Network := { coming := fun _ => List.replicate 9 (some (.io none "down")) }
    let attributes : Table Text := [("path", List.replicate 70000 '/'), ("agent", "€")]
    refusing.OnlyIO ∧
      (({} : Emitter).emit refusing (.ofTexts "T" attributes)).result = .ok () := by
  intro refusing attributes
  have io : refusing.OnlyIO := by
    intro kind f isIn
    obtain rfl := Option.some.inj (List.eq_of_mem_replicate isIn)
    rfl
  have size (k : Nat) : Wire.utf8Size (List.replicate k '/') = k := by
    induction k with
    | zero => rfl
    | succ k ih => rw [List.replicate_succ, Wire.utf8Size, List.foldr_cons, ← Wire.utf8Size, ih,
        Nat.add_comm]; rfl
  have encodable : Wire.Encodable (List.replicate 70000 '/') := fun c isIn => by
    rw [List.eq_of_mem_replicate isIn]
    rfl
  have long : ¬Wire.Fits Wire.maxText (List.replicate 70000 '/') := fun fits => by
    have short := fits.2
    rw [size, Wire.maxText] at short
    omega
  have expressible : ¬Wire.Inexpressible (typeOf {} "T") attributes := by
    rintro (lacks | ⟨-, many | stuck⟩)
    · exact lacks (by decide)
    · exact absurd many (by decide)
    · rcases Wire.stuck_cons.mp stuck with lacks | ⟨-, stuck⟩
      · exact lacks (by decide)
      · rcases Wire.stuck_cons.mp stuck with lacks | ⟨fits, -⟩
        · exact lacks encodable
        · exact long fits
  exact ⟨io, (emit_returns_iff {} io "T" attributes).1.mpr expressible⟩

/-- With as many attributes as two bytes count, the announced encoding is one too
many: the call fails and nothing is counted. -/
theorem emit_many_attributes_fails :
    let attributes : Table Text := (List.range 65535).map fun i => (Text.ofNat i, [])
    let r := ({} : Emitter).emit {} (.ofTexts "T" attributes)
    r.result = .error (.layout .wideCount) ∧ r.emitter.sent = 0 ∧ r.emitter.dropped = 0 := by
  intro attributes
  have length : (attributes.mapValues Wire.Scalar.text).length = 65535 := by
    simp [attributes, Table.mapValues]
  have many : Wire.writeCount 65536 = .error .manyAttributes := rfl
  have failed : Wire.write ⟨typeOf {} "T", attributes.mapValues .text⟩ =
      .error .manyAttributes := by
    have named : Wire.writeName .ofEvent (typeOf {} "T") = .ok [1, 0x54] := by decide
    rw [Wire.write, length, Wire.writeParts, named]
    simp only [bind, Except.bind, many]
  have unwritten : written {} (.ofTexts "T" attributes) = .error (.layout .wideCount) := by
    rw [written_ofTexts, failed]
    rfl
  -- the list is long, and is not to be computed any more
  clear_value attributes
  obtain ⟨-, ⟨emission, -⟩ | ⟨-, emitter, result⟩⟩ := emit_unwritten unwritten {}
  · cases emission
  · exact ⟨result, congrArg Emitter.sent emitter, congrArg Emitter.dropped emitter⟩

end Emitter

end AccessLog
