/-
Bytes that are read as a text are the bytes of that text.

* `isContinuation_iff`, `isSecondOfThree_iff`, `isSecondOfFour_iff`: which bytes
  may stand behind the first of a sequence, by their numbers.
* `Text.IsSequence`, `Text.isSequence_one` to `Text.isSequence_four`: a whole
  sequence is that of the code point it is read as; a longer form than needed
  and a surrogate are none.
* `Text.Continues`, `Text.continues_of_ofUtf8From`: bytes that are read are the
  sequences of what they are read as.
* `Text.ofUtf8_eq_ok_iff`: **every text has one form in bytes**, and no other
  bytes are read as it.
-/
import AccessLog.Proofs.Text.Utf8

namespace AccessLog

/-! ### Bytes of a sequence -/

lemma isContinuation_iff {b : UInt8} :
    isContinuation b = true ↔ 0x80 ≤ b.toNat ∧ b.toNat < 0xC0 := by
  rw [isContinuation, Bool.and_eq_true, decide_eq_true_eq, decide_eq_true_eq]

lemma isSecondOfThree_iff {b0 b1 : UInt8} :
    isSecondOfThree b0 b1 = true ↔ isContinuation b1 = true ∧
      (b0.toNat = 0xE0 → 0xA0 ≤ b1.toNat) ∧ (b0.toNat = 0xED → b1.toNat < 0xA0) := by
  simp only [isSecondOfThree, Bool.and_eq_true, Bool.or_eq_true, decide_eq_true_eq, ne_eq,
    ← UInt8.toNat_inj, UInt8.reduceToNat, ← imp_iff_not_or, and_assoc]

lemma isSecondOfFour_iff {b0 b1 : UInt8} :
    isSecondOfFour b0 b1 = true ↔ isContinuation b1 = true ∧
      (b0.toNat = 0xF0 → 0x90 ≤ b1.toNat) ∧ (b0.toNat = 0xF4 → b1.toNat < 0x90) := by
  simp only [isSecondOfFour, Bool.and_eq_true, Bool.or_eq_true, decide_eq_true_eq, ne_eq,
    ← UInt8.toNat_inj, UInt8.reduceToNat, ← imp_iff_not_or, and_assoc]

/-- A continuation byte is that of the six bits it holds. -/
lemma continuation_eq {b : UInt8} (continues : isContinuation b = true) {n : Nat}
    (low : n % 0x40 = b.toNat - 0x80) : continuation n = b := by
  obtain ⟨_, _⟩ := isContinuation_iff.mp continues
  rw [← UInt8.toNat_inj, toNat_continuation]
  omega

/-- A first byte is that of its number. -/
lemma lead_eq {b : UInt8} {n : Nat} (number : n = b.toNat) : UInt8.ofNat n = b := by
  rw [number, UInt8.ofNat_toNat]

namespace Text

/-! ### Whole sequences -/

variable {b0 b1 b2 b3 : UInt8}

/-- The bytes are the shortest sequence of a code point that is no surrogate. -/
structure IsSequence (c : CodePoint) (bytes : List UInt8) : Prop where
  encodable : c.isSurrogate = false
  utf8 : c.utf8 = bytes

/-- A number that is in range and not that of a surrogate has the sequence of
its code point. -/
lemma isSequence_ofNat {n : Nat} {bytes : List UInt8} (range : n < 0x110000)
    (apart : n < 0xD800 ∨ 0xE000 ≤ n) (utf8 : CodePoint.utf8 ⟨n, range⟩ = bytes) :
    IsSequence (.ofNat n) bytes := by
  have point : CodePoint.ofNat n = ⟨n, range⟩ := CodePoint.ext (CodePoint.toNat_ofNat range)
  rw [point]
  refine ⟨?_, utf8⟩
  simp only [CodePoint.isSurrogate, Bool.and_eq_false_iff, decide_eq_false_iff_not]
  omega

lemma isSequence_one (lead : b0.toNat < 0x80) : IsSequence (.ofNat b0.toNat) [b0] := by
  refine isSequence_ofNat (by omega) (by omega) ?_
  simp only [CodePoint.utf8, lead, if_true, UInt8.ofNat_toNat]

lemma isSequence_two (lead : 0xC2 ≤ b0.toNat ∧ b0.toNat < 0xE0)
    (second : isContinuation b1 = true) :
    IsSequence (.ofNat ((b0.toNat - 0xC0) * 0x40 + (b1.toNat - 0x80))) [b0, b1] := by
  obtain ⟨_, _⟩ := isContinuation_iff.mp second
  obtain ⟨n, number⟩ : ∃ n, (b0.toNat - 0xC0) * 0x40 + (b1.toNat - 0x80) = n := ⟨_, rfl⟩
  rw [number]
  refine isSequence_ofNat (by omega) (by omega) ?_
  have wide : ¬n < 0x80 := by omega
  have narrow : n < 0x800 := by omega
  have first : UInt8.ofNat (0xC0 + n / 0x40) = b0 := lead_eq (by omega)
  have last : continuation n = b1 := continuation_eq second (by omega)
  simp only [CodePoint.utf8, wide, narrow, if_false, if_true, first, last]

lemma isSequence_three (lead : 0xE0 ≤ b0.toNat ∧ b0.toNat < 0xF0)
    (second : isSecondOfThree b0 b1 = true) (third : isContinuation b2 = true) :
    IsSequence
      (.ofNat ((b0.toNat - 0xE0) * 0x1000 + (b1.toNat - 0x80) * 0x40 + (b2.toNat - 0x80)))
      [b0, b1, b2] := by
  obtain ⟨continues, shortest, apart⟩ := isSecondOfThree_iff.mp second
  obtain ⟨_, _⟩ := isContinuation_iff.mp continues
  obtain ⟨_, _⟩ := isContinuation_iff.mp third
  obtain ⟨n, number⟩ : ∃ n,
      (b0.toNat - 0xE0) * 0x1000 + (b1.toNat - 0x80) * 0x40 + (b2.toNat - 0x80) = n := ⟨_, rfl⟩
  rw [number]
  refine isSequence_ofNat (by omega) (by omega) ?_
  have wide : ¬n < 0x80 := by omega
  have wider : ¬n < 0x800 := by omega
  have narrow : n < 0x10000 := by omega
  have first : UInt8.ofNat (0xE0 + n / 0x1000) = b0 := lead_eq (by omega)
  have middle : continuation (n / 0x40) = b1 := continuation_eq continues (by omega)
  have last : continuation n = b2 := continuation_eq third (by omega)
  simp only [CodePoint.utf8, wide, wider, narrow, if_false, if_true, first, middle, last]

lemma isSequence_four (lead : 0xF0 ≤ b0.toNat ∧ b0.toNat < 0xF5)
    (second : isSecondOfFour b0 b1 = true) (third : isContinuation b2 = true)
    (fourth : isContinuation b3 = true) :
    IsSequence
      (.ofNat ((b0.toNat - 0xF0) * 0x40000 + (b1.toNat - 0x80) * 0x1000 +
        (b2.toNat - 0x80) * 0x40 + (b3.toNat - 0x80)))
      [b0, b1, b2, b3] := by
  obtain ⟨continues, shortest, lastPlane⟩ := isSecondOfFour_iff.mp second
  obtain ⟨_, _⟩ := isContinuation_iff.mp continues
  obtain ⟨_, _⟩ := isContinuation_iff.mp third
  obtain ⟨_, _⟩ := isContinuation_iff.mp fourth
  obtain ⟨n, number⟩ : ∃ n, (b0.toNat - 0xF0) * 0x40000 + (b1.toNat - 0x80) * 0x1000 +
    (b2.toNat - 0x80) * 0x40 + (b3.toNat - 0x80) = n := ⟨_, rfl⟩
  rw [number]
  refine isSequence_ofNat (by omega) (by omega) ?_
  have wide : ¬n < 0x80 := by omega
  have wider : ¬n < 0x800 := by omega
  have widest : ¬n < 0x10000 := by omega
  have first : UInt8.ofNat (0xF0 + n / 0x40000) = b0 := lead_eq (by omega)
  have next : continuation (n / 0x1000) = b1 := continuation_eq continues (by omega)
  have middle : continuation (n / 0x40) = b2 := continuation_eq third (by omega)
  have last : continuation n = b3 := continuation_eq fourth (by omega)
  simp only [CodePoint.utf8, wide, wider, widest, if_false, first, next, middle, last]

/-! ### Texts -/

/-- Some bytes are the sequences of what a text has behind the code points done,
which are listed last first. -/
def Continues (done t : Text) (bytes : List UInt8) : Prop :=
  ∃ more, t = done.reverse ++ more ∧ (∀ c ∈ more, c.isSurrogate = false) ∧
    bytes = more.flatMap CodePoint.utf8

/-- One more sequence in front. -/
lemma IsSequence.continues {done t : Text} {c : CodePoint} {sequence bytes : List UInt8}
    (first : IsSequence c sequence) (others : Continues (c :: done) t bytes) :
    Continues done t (sequence ++ bytes) := by
  obtain ⟨more, rfl, encodable, rfl⟩ := others
  refine ⟨c :: more, by simp, List.forall_mem_cons.mpr ⟨first.encodable, encodable⟩, ?_⟩
  rw [List.flatMap_cons, first.utf8]

/-- Bytes that are read are the sequences of what they are read as. -/
lemma continues_of_ofUtf8From {position : Nat} {done t : Text} {bytes : List UInt8}
    (found : ofUtf8From position done bytes = .ok t) : Continues done t bytes := by
  -- one case for each length of the sequence in front; in all others reading fails
  fun_induction ofUtf8From position done bytes with
  | case1 =>
    obtain rfl := Except.ok.inj found
    exact ⟨[], (List.append_nil _).symm, List.forall_mem_nil _, rfl⟩
  | case2 position done b0 rest n0 lead ih =>
    exact (isSequence_one lead).continues (ih found)
  | case5 position done b0 n0 wide legal b1 rest n1 lead second ih =>
    simp only [Bool.or_eq_true, decide_eq_true_eq, not_or, not_lt, not_le] at legal
    exact (isSequence_two ⟨legal.1, lead⟩ second).continues (ih found)
  | case9 position done b0 n0 wide legal b1 n1 above lead second b2 rest n2 third ih =>
    exact (isSequence_three ⟨not_lt.mp above, lead⟩ (by simpa using second) third).continues
      (ih found)
  | case15 position done b0 n0 wide legal b1 n1 _ above second b2 n2 third b3 rest n3 fourth ih =>
    simp only [Bool.or_eq_true, decide_eq_true_eq, not_or, not_lt, not_le] at legal
    exact (isSequence_four ⟨not_lt.mp above, legal.2⟩ (by simpa using second)
      (by simpa using third) fourth).continues (ih found)
  | _ => cases found

/-- **Every text has one form in bytes**: bytes are read as a text exactly if
they are what that text is written as. -/
theorem ofUtf8_eq_ok_iff {bytes : List UInt8} {t : Text} :
    ofUtf8 bytes = .ok t ↔ t.toUtf8 = .ok bytes := by
  refine ⟨fun found => ?_, ofUtf8_toUtf8⟩
  obtain ⟨more, rfl, encodable, rfl⟩ := continues_of_ofUtf8From found
  exact toUtf8_eq_ok_iff.mpr ⟨encodable, rfl⟩

end Text

end AccessLog
