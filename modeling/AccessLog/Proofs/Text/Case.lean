/-
Letter case of ASCII texts, and texts in Latin-1.

* `Text.IsAscii`, `CodePoint.lowerAscii`: texts of ASCII, and the lower-case form of
  their code points.
* `CodePoint.exists_lowerRuns`: of the runs of code points with a lower-case form only the first
  holds some of ASCII.
* `Text.lower_of_isAscii`: the lower-case form of an ASCII text, code point by code point.
* `Text.toLatin1_eq_ok_iff`: a text has a form in Latin-1 if its code points are bytes.
-/
import AccessLog.Proofs.Text.Utf8
import AccessLog.Text.Case

namespace AccessLog

/-- All code points are of ASCII. -/
def Text.IsAscii (t : Text) : Prop :=
  ∀ c ∈ t, c.toNat < 0x80

instance (t : Text) : Decidable t.IsAscii :=
  inferInstanceAs (Decidable (∀ c ∈ t, _))

namespace CodePoint

/-- A capital ASCII letter becomes the small one. -/
def lowerAscii (c : CodePoint) : CodePoint :=
  if 0x41 ≤ c.toNat ∧ c.toNat ≤ 0x5A then .ofNat (c.toNat + 0x20) else c

lemma toNat_lowerAscii (c : CodePoint) :
    c.lowerAscii.toNat =
      if 0x41 ≤ c.toNat ∧ c.toNat ≤ 0x5A then c.toNat + 0x20 else c.toNat := by
  rw [lowerAscii]
  split
  · exact toNat_ofNat (by omega)
  · rfl

/-- Of the runs of code points with a lower-case form only the first holds some of ASCII. -/
lemma exists_lowerRuns :
    ∃ others, lowerRuns = (0x41, 0x5A, 1, 0x61) :: others ∧ ∀ run ∈ others, 0x80 ≤ run.1 :=
  ⟨lowerRuns.tail, rfl, by decide +kernel⟩

lemma lower_of_lt {c : CodePoint} (ascii : c.toNat < 0x80) : c.lower = [c.lowerAscii] := by
  obtain ⟨others, runs, beyond⟩ := exists_lowerRuns
  rw [lower, lowerAscii, if_neg (by omega), runs, List.find?_cons, List.find?_eq_none.mpr ?_]
  · by_cases capital : 0x41 ≤ c.toNat ∧ c.toNat ≤ 0x5A
    · have form : 0x61 + (c.toNat - 0x41) = c.toNat + 0x20 := by omega
      simp [capital, Nat.mod_one, form]
    · have small : (decide (0x41 ≤ c.toNat) && decide (c.toNat ≤ 0x5A)) = false := by
        simpa using capital
      simp [small, capital]
  · intro run isIn
    have above : ¬run.1 ≤ c.toNat := by have := beyond run isIn; omega
    simp [above]

end CodePoint

namespace Text

/-- The lower-case form of an ASCII text, code point by code point. -/
lemma lower_of_isAscii {t : Text} (ascii : t.IsAscii) : t.lower = t.map CodePoint.lowerAscii := by
  have from' (before done : Text) : lowerFrom before done t =
      done.reverse ++ t.map CodePoint.lowerAscii := by
    induction t generalizing before done with
    | nil => simp [lowerFrom]
    | cons c rest ih =>
      obtain ⟨here, there⟩ := List.forall_mem_cons.mp ascii
      have form : lowerAt before c rest = [c.lowerAscii] := by
        rw [lowerAt, if_neg (by omega), CodePoint.lower_of_lt here]
      rw [lowerFrom, form, ih there]
      simp
  exact from' [] []

lemma isAscii_lower {t : Text} (ascii : t.IsAscii) : t.lower.IsAscii := by
  rw [lower_of_isAscii ascii]
  intro c isIn
  obtain ⟨d, isIn', rfl⟩ := List.mem_map.mp isIn
  have below := ascii d isIn'
  rw [CodePoint.toNat_lowerAscii]
  split <;> omega

/-- An ASCII text in lower case stays as it is. -/
lemma lower_lower {t : Text} (ascii : t.IsAscii) : t.lower.lower = t.lower := by
  rw [lower_of_isAscii (isAscii_lower ascii), lower_of_isAscii ascii, List.map_map]
  refine List.map_congr_left fun c _ => CodePoint.ext ?_
  simp only [Function.comp, CodePoint.toNat_lowerAscii]
  by_cases capital : 0x41 ≤ c.toNat ∧ c.toNat ≤ 0x5A
  · rw [if_pos capital, if_neg (by omega)]
  · rw [if_neg capital, if_neg capital]

/-- A text has a form in Latin-1 if its code points are bytes. -/
lemma toLatin1_eq_ok_iff {t : Text} {bytes : List UInt8} :
    t.toLatin1 = .ok bytes ↔
      (∀ c ∈ t, c.toNat < 0x100) ∧ bytes = t.map fun c => UInt8.ofNat c.toNat := by
  rw [toLatin1]
  cases found : t.firstRun? fun c => 256 ≤ c.toNat with
  | none =>
    have small := firstRun?_eq_none_iff.mp found
    simp only [decide_eq_false_iff_not, Nat.not_le] at small
    exact ⟨fun same => ⟨small, (Except.ok.inj same).symm⟩, fun h => by rw [h.2]⟩
  | some run =>
    refine ⟨nofun, fun h => ?_⟩
    rw [firstRun?_eq_none_iff.mpr fun c isIn => by simpa using h.1 c isIn] at found
    cases found

end Text

end AccessLog
