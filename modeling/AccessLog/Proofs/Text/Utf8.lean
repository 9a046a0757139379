/-
Texts in UTF-8 and back.

* `toNat_continuation`, `isContinuation_continuation`: the bytes behind the first
  of a sequence.
* `Text.ofUtf8From_one`, `Text.ofUtf8From_two`, `Text.ofUtf8From_three`,
  `Text.ofUtf8From_four`: what a whole sequence in front is read as.
* `Text.ofUtf8From_utf8`: the sequence of a code point is read as that code
  point, whatever follows.
* `Text.toUtf8_eq_ok_iff`: which texts have bytes, and which bytes those are.
* `Text.ofUtf8_toUtf8`: **the bytes of a text are read as that text**.
-/
import Mathlib.Data.List.TakeWhile
import AccessLog.Text.Encoding

namespace AccessLog

/-! ### Bytes of a sequence -/

lemma toNat_byte {n : Nat} (h : n < 0x100) : (UInt8.ofNat n).toNat = n := by
  rw [UInt8.toNat_ofNat']
  exact Nat.mod_eq_of_lt h

@[simp] lemma toNat_continuation (n : Nat) : (continuation n).toNat = 0x80 + n % 0x40 := by
  rw [continuation, toNat_byte (by omega)]

@[simp] lemma isContinuation_continuation (n : Nat) : isContinuation (continuation n) = true := by
  simp only [isContinuation, toNat_continuation, Bool.and_eq_true, decide_eq_true_eq]
  omega

namespace Text

/-! ### Whole sequences -/

variable {position : Nat} {done : Text} {rest : List UInt8} {b0 b1 b2 b3 : UInt8}

/-- One byte below `0x80` is read as the code point of its number. -/
lemma ofUtf8From_one (lead : b0.toNat < 0x80) :
    ofUtf8From position done (b0 :: rest) =
      ofUtf8From (position + 1) (.ofNat b0.toNat :: done) rest := by
  rw [ofUtf8From.eq_def]
  simp only [lead, if_true]

/-- A sequence of two bytes. -/
lemma ofUtf8From_two (lead : 0xC2 ≤ b0.toNat ∧ b0.toNat < 0xE0)
    (second : isContinuation b1 = true) :
    ofUtf8From position done (b0 :: b1 :: rest) =
      ofUtf8From (position + 2)
        (.ofNat ((b0.toNat - 0xC0) * 0x40 + (b1.toNat - 0x80)) :: done) rest := by
  have wide : ¬b0.toNat < 0x80 := by omega
  have legal : ¬(b0.toNat < 0xC2 ∨ 0xF5 ≤ b0.toNat) := by omega
  rw [ofUtf8From]
  simp only [wide, if_false, Bool.or_eq_true, decide_eq_true_eq, legal, lead.2, if_true, second]

/-- A sequence of three bytes. -/
lemma ofUtf8From_three (lead : 0xE0 ≤ b0.toNat ∧ b0.toNat < 0xF0)
    (second : isSecondOfThree b0 b1 = true) (third : isContinuation b2 = true) :
    ofUtf8From position done (b0 :: b1 :: b2 :: rest) =
      ofUtf8From (position + 3)
        (.ofNat ((b0.toNat - 0xE0) * 0x1000 + (b1.toNat - 0x80) * 0x40 + (b2.toNat - 0x80)) :: done)
        rest := by
  have wide : ¬b0.toNat < 0x80 := by omega
  have legal : ¬(b0.toNat < 0xC2 ∨ 0xF5 ≤ b0.toNat) := by omega
  have wider : ¬b0.toNat < 0xE0 := by omega
  rw [ofUtf8From]
  simp only [wide, if_false, Bool.or_eq_true, decide_eq_true_eq, legal, wider, lead.2, if_true,
    second, third, Bool.not_true, Bool.false_eq_true]

/-- A sequence of four bytes. -/
lemma ofUtf8From_four (lead : 0xF0 ≤ b0.toNat ∧ b0.toNat < 0xF5)
    (second : isSecondOfFour b0 b1 = true) (third : isContinuation b2 = true)
    (fourth : isContinuation b3 = true) :
    ofUtf8From position done (b0 :: b1 :: b2 :: b3 :: rest) =
      ofUtf8From (position + 4)
        (.ofNat ((b0.toNat - 0xF0) * 0x40000 + (b1.toNat - 0x80) * 0x1000 +
          (b2.toNat - 0x80) * 0x40 + (b3.toNat - 0x80)) :: done) rest := by
  have wide : ¬b0.toNat < 0x80 := by omega
  have legal : ¬(b0.toNat < 0xC2 ∨ 0xF5 ≤ b0.toNat) := by omega
  have wider : ¬b0.toNat < 0xE0 := by omega
  have widest : ¬b0.toNat < 0xF0 := by omega
  rw [ofUtf8From]
  simp only [wide, if_false, Bool.or_eq_true, decide_eq_true_eq, legal, wider, widest, second,
    third, fourth, Bool.not_true, Bool.false_eq_true, if_true]

/-! ### Code points -/

/-- The sequence of a code point is read as that code point, whatever follows. -/
lemma ofUtf8From_utf8 {c : CodePoint} (encodable : c.isSurrogate = false) :
    ofUtf8From position done (c.utf8 ++ rest) =
      ofUtf8From (position + c.utf8.length) (c :: done) rest := by
  obtain ⟨n, small⟩ := c
  have apart : n < 0xD800 ∨ 0xE000 ≤ n := by
    simp only [CodePoint.isSurrogate, Bool.and_eq_false_iff, decide_eq_false_iff_not] at encodable
    omega
  -- the number of the code point from those of its bytes, for each length
  have number {k : Nat} (h : k = n) : CodePoint.ofNat k = ⟨n, small⟩ := by
    subst h
    exact CodePoint.ofNat_toNat ⟨k, small⟩
  rw [CodePoint.utf8]
  by_cases one : n < 0x80
  · have lead : (UInt8.ofNat n).toNat = n := toNat_byte (by omega)
    simp only [one, if_true, List.cons_append, List.nil_append, List.length_singleton]
    rw [ofUtf8From_one (by omega), number lead]
  by_cases two : n < 0x800
  · have lead : (UInt8.ofNat (0xC0 + n / 0x40)).toNat = 0xC0 + n / 0x40 := toNat_byte (by omega)
    simp only [one, two, if_true, if_false, List.cons_append, List.nil_append, List.length_cons,
      List.length_nil]
    rw [ofUtf8From_two (by omega) (isContinuation_continuation _), number]
    rw [lead, toNat_continuation]
    omega
  by_cases three : n < 0x10000
  · have lead : (UInt8.ofNat (0xE0 + n / 0x1000)).toNat = 0xE0 + n / 0x1000 :=
      toNat_byte (by omega)
    have second : isSecondOfThree (UInt8.ofNat (0xE0 + n / 0x1000)) (continuation (n / 0x40)) =
        true := by
      simp only [isSecondOfThree, isContinuation_continuation, Bool.true_and, Bool.and_eq_true,
        Bool.or_eq_true, decide_eq_true_eq, ne_eq, ← UInt8.toNat_inj, lead, toNat_continuation,
        UInt8.reduceToNat]
      omega
    simp only [one, two, three, if_true, if_false, List.cons_append, List.nil_append,
      List.length_cons, List.length_nil]
    rw [ofUtf8From_three (by omega) second (isContinuation_continuation _), number]
    rw [lead, toNat_continuation, toNat_continuation]
    omega
  · have lead : (UInt8.ofNat (0xF0 + n / 0x40000)).toNat = 0xF0 + n / 0x40000 :=
      toNat_byte (by omega)
    have second : isSecondOfFour (UInt8.ofNat (0xF0 + n / 0x40000)) (continuation (n / 0x1000)) =
        true := by
      simp only [isSecondOfFour, isContinuation_continuation, Bool.true_and, Bool.and_eq_true,
        Bool.or_eq_true, decide_eq_true_eq, ne_eq, ← UInt8.toNat_inj, lead, toNat_continuation,
        UInt8.reduceToNat]
      omega
    simp only [one, two, three, if_false, List.cons_append, List.nil_append, List.length_cons,
      List.length_nil]
    rw [ofUtf8From_four (by omega) second (isContinuation_continuation _)
      (isContinuation_continuation _), number]
    rw [lead, toNat_continuation, toNat_continuation, toNat_continuation]
    omega

/-! ### Texts -/

/-- No run of a class is found exactly if no code point is of it. -/
lemma firstRun?_eq_none_iff {p : CodePoint → Bool} {t : Text} :
    t.firstRun? p = none ↔ ∀ c ∈ t, p c = false := by
  rw [firstRun?]
  cases found : t.dropWhile (!p ·) with
  | nil => simpa using List.dropWhile_eq_nil_iff.mp found
  | cons c rest =>
    have first : p c = true := by
      simpa [found] using List.head_dropWhile_not (l := t) (!p ·) (by simp [found])
    have isIn : c ∈ t := (List.dropWhile_suffix (!p ·)).subset (by simp [found])
    simp only [first, List.takeWhile_cons_of_pos, reduceCtorEq, false_iff, not_forall]
    exact ⟨c, isIn, by simp [first]⟩

/-- A text has bytes if it has no surrogate, and these are the sequences of its
code points. -/
lemma toUtf8_eq_ok_iff {t : Text} {bytes : List UInt8} :
    t.toUtf8 = .ok bytes ↔
      (∀ c ∈ t, c.isSurrogate = false) ∧ bytes = t.flatMap CodePoint.utf8 := by
  rw [toUtf8]
  cases found : t.firstRun? CodePoint.isSurrogate with
  | none =>
    have encodable := firstRun?_eq_none_iff.mp found
    exact ⟨fun same => ⟨encodable, (Except.ok.inj same).symm⟩, fun h => by rw [h.2]⟩
  | some run =>
    refine ⟨nofun, fun h => ?_⟩
    rw [firstRun?_eq_none_iff.mpr h.1] at found
    cases found

/-- The sequences of several code points are read one after the other. -/
lemma ofUtf8From_flatMap {t : Text} (encodable : ∀ c ∈ t, c.isSurrogate = false) :
    ofUtf8From position done (t.flatMap CodePoint.utf8) = .ok (done.reverse ++ t) := by
  induction t generalizing position done with
  | nil => simp [ofUtf8From]
  | cons c rest ih =>
    rw [List.flatMap_cons, ofUtf8From_utf8 (encodable c List.mem_cons_self),
      ih fun c' h => encodable c' (List.mem_cons_of_mem _ h)]
    simp

/-- **The bytes of a text are read as that text.** -/
theorem ofUtf8_toUtf8 {t : Text} {bytes : List UInt8} (encoded : t.toUtf8 = .ok bytes) :
    ofUtf8 bytes = .ok t := by
  obtain ⟨encodable, rfl⟩ := toUtf8_eq_ok_iff.mp encoded
  exact ofUtf8From_flatMap encodable

end Text

end AccessLog
