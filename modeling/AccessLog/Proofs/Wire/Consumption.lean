/-
What readers have read.

* `Cursor.Sound`, `Cursor.Leads`: a cursor on a payload, and one behind it.
* `Yields`: a reader that finds a value has read a form of it, unless it has gone
  behind the end of the payload.
* `Yields.bind`, `Yields.map`, `Yields.mono`: readers one after the other.
* `bigEndian_ofBigEndian`, `unsigned_signed`: numbers from their bytes.
* `Spells`, `Field.Spelled`: the bytes that a value and an attribute are read
  from.
* `Yields.number`, `Yields.text`, `Yields.name`, `Yields.value`, `Yields.field`,
  `Yields.fields`: what numbers, texts and attributes have been read from.
* `exists_spelled`: the bytes of a payload that is read no further than its end.
-/
import Mathlib.Data.List.Induction
import AccessLog.Proofs.Text.Decoding
import AccessLog.Proofs.Wire.Layout

namespace AccessLog.Wire

variable {α β : Type}

/-! ### What a reader has read -/

/-- What lies in front of a cursor is what is left of its payload. -/
def Cursor.Sound (c : Cursor) : Prop :=
  c.rest.length = c.size - c.offset

/-- One cursor comes before another on the same payload. -/
structure Cursor.Leads (c after : Cursor) : Prop where
  sound : after.Sound
  size : after.size = c.size
  forward : c.offset ≤ after.offset

/-- Whatever a reader finds, it goes forward, and unless it goes behind the end
it has read some bytes that are a form of what it has found. -/
def Yields (reader : Cursor → Except ReadFault (α × Cursor)) (form : α → List UInt8 → Prop) :
    Prop :=
  ∀ ⦃c : Cursor⦄ ⦃a : α⦄ ⦃after : Cursor⦄, c.Sound → reader c = .ok (a, after) →
    c.Leads after ∧ (after.offset ≤ after.size →
      ∃ bytes, form a bytes ∧ c.rest = bytes ++ after.rest)

lemma Cursor.sound_start (payload : List UInt8) : (Cursor.start payload).Sound :=
  rfl

lemma Cursor.Sound.leads_skip {c : Cursor} (sound : c.Sound) (n : Nat) : c.Leads (c.skip n) := by
  refine ⟨?_, rfl, Nat.le_add_right _ _⟩
  rw [Sound, skip, List.length_drop, sound]
  exact Nat.sub_sub ..

lemma Cursor.Leads.trans {c d e : Cursor} (first : c.Leads d) (second : d.Leads e) : c.Leads e :=
  ⟨second.sound, second.size.trans first.size, first.forward.trans second.forward⟩

/-- The bytes between two cursors, the second of which is not behind the end. -/
lemma Cursor.Leads.length_eq {c after : Cursor} (sound : c.Sound) (leads : c.Leads after)
    (inside : after.offset ≤ after.size) {bytes : List UInt8} (cut : c.rest = bytes ++ after.rest) :
    bytes.length = after.offset - c.offset := by
  have whole := congrArg List.length cut
  have behind := leads.sound
  have size := leads.size
  have forward := leads.forward
  rw [List.length_append] at whole
  rw [Sound] at sound behind
  omega

namespace Yields

variable {reader : Cursor → Except ReadFault (α × Cursor)} {form : α → List UInt8 → Prop}

lemma mono (yields : Yields reader form) {other : α → List UInt8 → Prop}
    (implies : ∀ a bytes, form a bytes → other a bytes) : Yields reader other := by
  intro c a after sound found
  obtain ⟨leads, read⟩ := yields sound found
  refine ⟨leads, fun inside => ?_⟩
  obtain ⟨bytes, isForm, cut⟩ := read inside
  exact ⟨bytes, implies a bytes isForm, cut⟩

/-- One reader after the other, where the second may depend on what the first
has found. -/
lemma bind (first : Yields reader form) {next : α → Cursor → Except ReadFault (β × Cursor)}
    {later : α → β → List UInt8 → Prop} (second : ∀ a, Yields (next a) (later a)) :
    Yields (fun c => reader c >>= fun found => next found.1 found.2)
      (fun b bytes => ∃ a front back, bytes = front ++ back ∧ form a front ∧ later a b back) := by
  intro c b after sound found
  obtain ⟨⟨a, middle⟩, foundFirst, foundSecond⟩ := bind_eq_ok_iff.mp found
  obtain ⟨leadsFirst, readFirst⟩ := first sound foundFirst
  obtain ⟨leadsSecond, readSecond⟩ := second a leadsFirst.sound foundSecond
  refine ⟨leadsFirst.trans leadsSecond, fun inside => ?_⟩
  -- a reader that has not gone behind the end in the end has not done so before
  have forward := leadsSecond.forward
  have size := leadsSecond.size
  obtain ⟨front, isFront, cut⟩ := readFirst (by omega)
  obtain ⟨back, isBack, rest⟩ := readSecond inside
  exact ⟨front ++ back, ⟨a, front, back, rfl, isFront, isBack⟩, by
    rw [cut, rest, List.append_assoc]⟩

/-- What a reader finds, made into something else. -/
lemma map (yields : Yields reader form) (f : α → β) :
    Yields (fun c => reader c >>= fun found => .ok (f found.1, found.2))
      (fun b bytes => ∃ a, b = f a ∧ form a bytes) := by
  intro c b after sound found
  obtain ⟨⟨a, next⟩, foundFirst, same⟩ := bind_eq_ok_iff.mp found
  cases same
  obtain ⟨leads, read⟩ := yields sound foundFirst
  refine ⟨leads, fun inside => ?_⟩
  obtain ⟨bytes, isForm, cut⟩ := read inside
  exact ⟨bytes, ⟨a, rfl, isForm⟩, cut⟩

/-- A number is that of its bytes. -/
lemma number (width : Nat) :
    Yields (readNumber width) fun n bytes => bytes.length = width ∧ n = ofBigEndian bytes := by
  intro c n after sound found
  simp only [readNumber] at found
  split at found
  · cases found
  · next enough =>
    cases found
    rw [List.length_take] at enough
    refine ⟨sound.leads_skip width, fun _ => ⟨c.rest.take width, ⟨?_, rfl⟩, ?_⟩⟩
    · rw [List.length_take]
      omega
    · exact (List.take_append_drop width c.rest).symm

/-- A text is that of its bytes, if these are all there. -/
lemma text (length : Nat) :
    Yields (readText length) fun t bytes => bytes.length = length ∧ t.toUtf8 = .ok bytes := by
  intro c t after sound found
  rw [readText] at found
  split at found
  · next t' decoded =>
    cases found
    refine ⟨sound.leads_skip length, fun inside => ⟨c.rest.take length, ⟨?_, ?_⟩, ?_⟩⟩
    · have there := sound
      rw [Cursor.Sound] at there
      rw [Cursor.skip] at inside
      rw [List.length_take]
      dsimp only at inside
      omega
    · exact Text.ofUtf8_eq_ok_iff.mp decoded
    · exact (List.take_append_drop length c.rest).symm
  · cases found

end Yields

/-! ### Numbers -/

lemma ofBigEndian_lt (bytes : List UInt8) : ofBigEndian bytes < capacity bytes.length := by
  induction bytes using List.reverseRecOn with
  | nil => decide
  | append_singleton front b ih =>
    have small := b.toNat_lt
    rw [ofBigEndian_append, List.length_append, List.length_singleton, capacity_succ]
    omega

/-- Bytes are those of the number that they are read as. -/
lemma bigEndian_ofBigEndian (bytes : List UInt8) :
    bigEndian bytes.length (ofBigEndian bytes) = bytes := by
  induction bytes using List.reverseRecOn with
  | nil => rfl
  | append_singleton front b ih =>
    have small := b.toNat_lt
    have others : (256 * ofBigEndian front + b.toNat) / 256 = ofBigEndian front := by omega
    have last : UInt8.ofNat (256 * ofBigEndian front + b.toNat) = b := by
      rw [← UInt8.toNat_inj, UInt8.toNat_ofNat']
      omega
    rw [ofBigEndian_append, List.length_append, List.length_singleton, bigEndian, others, last, ih]

lemma unsigned_signed {width n : Nat} (fits : n < capacity width) :
    unsigned width (signed width n) = n := by
  rw [unsigned, signed]
  split
  · rw [Int.emod_eq_of_lt (by omega) (by omega)]
    omega
  · have wrapped : ((n : Int) - capacity width) % (capacity width : Int) = n := by
      rw [Int.sub_emod_right, Int.emod_eq_of_lt (by omega) (by omega)]
    rw [wrapped]
    omega

/-! ### Attributes -/

/-- The bytes that a value is read from, by its kind. -/
inductive Spells : UInt8 → Scalar → List UInt8 → Prop
  | text {t : Text} {bytes : List UInt8} (encoded : t.toUtf8 = .ok bytes)
      (short : bytes.length ≤ maxText) :
      Spells TypeToken.text (.text t) (bigEndian 2 bytes.length ++ bytes)
  | int16 {bytes : List UInt8} (two : bytes.length = 2) :
      Spells TypeToken.int16 (.int (signed 2 (ofBigEndian bytes))) bytes
  | int64 {bytes : List UInt8} (eight : bytes.length = 8) :
      Spells TypeToken.int64 (.int (signed 8 (ofBigEndian bytes))) bytes
  | flag (b : UInt8) : Spells TypeToken.flag (.flag (b.toNat != 0)) [b]

/-- The bytes that an attribute is read from. -/
def Field.Spelled (f : Field) (bytes : List UInt8) : Prop :=
  ∃ name, (∀ role, writeName role f.name = .ok name) ∧ bytes = name ++ f.token :: f.body ∧
    Spells f.token f.value f.body

lemma Field.Spelled.spells {f : Field} {bytes : List UInt8} (spelled : f.Spelled bytes) :
    Spells f.token f.value f.body := by
  obtain ⟨-, -, -, spells⟩ := spelled
  exact spells

namespace Yields

lemma name : Yields readName fun name bytes => ∀ role, writeName role name = .ok bytes := by
  refine ((number 1).bind text).mono ?_
  rintro name _ ⟨length, front, back, rfl, ⟨one, rfl⟩, same, encoded⟩ role
  obtain ⟨b, rfl⟩ := List.length_eq_one_iff.mp one
  have number : ofBigEndian [b] = b.toNat := by simp [ofBigEndian]
  rw [number] at same
  refine writeName_eq_ok_iff.mpr ⟨back, encoded, ?_, ?_⟩
  · have small := b.toNat_lt
    rw [same, maxName]
    omega
  · rw [same, UInt8.ofNat_toNat, List.singleton_append]

lemma value (token : UInt8) : Yields (readValue token) (Spells token) := by
  by_cases isText : token = TypeToken.text
  · subst isText
    refine ((number 2).bind fun length => (text length).map Scalar.text).mono ?_
    rintro _ _ ⟨length, front, back, rfl, ⟨two, rfl⟩, t, rfl, same, encoded⟩
    have digits := bigEndian_ofBigEndian front
    have small := ofBigEndian_lt front
    rw [two] at digits small
    rw [← digits, ← same]
    refine .text encoded ?_
    have capacity : capacity 2 = 0x10000 := rfl
    rw [same, maxText]
    omega
  by_cases isInt16 : token = TypeToken.int16
  · subst isInt16
    refine ((number 2).map fun n => Scalar.int (signed 2 n)).mono ?_
    rintro _ bytes ⟨_, rfl, two, rfl⟩
    exact .int16 two
  by_cases isInt64 : token = TypeToken.int64
  · subst isInt64
    refine ((number 8).map fun n => Scalar.int (signed 8 n)).mono ?_
    rintro _ bytes ⟨_, rfl, eight, rfl⟩
    exact .int64 eight
  by_cases isFlag : token = TypeToken.flag
  · subst isFlag
    refine ((number 1).map fun n => Scalar.flag (n != 0)).mono ?_
    rintro _ bytes ⟨_, rfl, one, rfl⟩
    obtain ⟨b, rfl⟩ := List.length_eq_one_iff.mp one
    have number : ofBigEndian [b] = b.toNat := by simp [ofBigEndian]
    rw [number]
    exact .flag b
  · intro c v after _ found
    simp only [readValue, isText, isInt16, isInt64, isFlag, if_false] at found
    cases found

lemma field : Yields readField Field.Spelled := by
  intro c f after sound found
  obtain ⟨⟨name, c₁⟩, foundName, found⟩ := bind_eq_ok_iff.mp found
  obtain ⟨⟨token, c₂⟩, foundToken, found⟩ := bind_eq_ok_iff.mp found
  obtain ⟨⟨v, c₃⟩, foundValue, found⟩ := bind_eq_ok_iff.mp found
  cases found
  obtain ⟨leadsName, readName⟩ := Yields.name sound foundName
  obtain ⟨leadsToken, readToken⟩ := number 1 leadsName.sound foundToken
  obtain ⟨leadsValue, readValue⟩ := value _ leadsToken.sound foundValue
  refine ⟨leadsName.trans (leadsToken.trans leadsValue), fun inside => ?_⟩
  have insideToken : c₂.offset ≤ c₂.size := by
    have forward := leadsValue.forward
    have size := leadsValue.size
    omega
  have insideName : c₁.offset ≤ c₁.size := by
    have forward := leadsToken.forward
    have size := leadsToken.size
    omega
  obtain ⟨nameBytes, isName, cutName⟩ := readName insideName
  obtain ⟨tokenBytes, ⟨one, rfl⟩, cutToken⟩ := readToken insideToken
  obtain ⟨body, spells, cutValue⟩ := readValue inside
  obtain ⟨b, rfl⟩ := List.length_eq_one_iff.mp one
  have number : UInt8.ofNat (ofBigEndian [b]) = b := by simp [ofBigEndian]
  have taken : c₂.rest.take (after.offset - c₂.offset) = body := by
    rw [← leadsValue.length_eq leadsToken.sound inside cutValue, cutValue, List.take_left]
  rw [number] at spells
  refine ⟨nameBytes ++ b :: body, ⟨nameBytes, isName, ?_, ?_⟩, ?_⟩
  · simp only [number, taken]
  · simp only [number, taken]
    exact spells
  · rw [cutName, cutToken, cutValue]
    simp

lemma fields (count : Nat) :
    Yields (readFields count) fun fields bytes =>
      fields.length = count ∧ ∃ parts, List.Forall₂ Field.Spelled fields parts ∧
        bytes = parts.flatten := by
  induction count with
  | zero =>
    intro c fields after sound found
    cases found
    exact ⟨⟨sound, rfl, Nat.le_refl _⟩, fun _ => ⟨[], ⟨rfl, [], .nil, rfl⟩, rfl⟩⟩
  | succ count ih =>
    refine (field.bind fun f => ih.map (f :: ·)).mono ?_
    rintro _ _ ⟨f, front, back, rfl, spelled, others, rfl, length, parts, all, rfl⟩
    exact ⟨congrArg (· + 1) length, front :: parts, .cons spelled all, rfl⟩

end Yields

/-! ### Payloads -/

/-- A payload that is read no further than its end is the type, the number of the
attributes, the bytes of each of them, and what is left. -/
lemma exists_spelled {payload : List UInt8} {l : Layout} {c : Cursor}
    (found : readLayout payload = .ok (l, c)) (inside : c.offset ≤ payload.length) :
    ∃ name parts, (∀ role, writeName role l.type = .ok name) ∧ l.fields.length ≤ maxCount ∧
      List.Forall₂ Field.Spelled l.fields parts ∧
      payload = name ++ (bigEndian 2 l.fields.length ++ (parts.flatten ++ c.rest)) ∧
      c.rest.length = payload.length - c.offset := by
  obtain ⟨⟨type, c₁⟩, foundType, found⟩ := bind_eq_ok_iff.mp found
  obtain ⟨⟨count, c₂⟩, foundCount, found⟩ := bind_eq_ok_iff.mp found
  obtain ⟨⟨fields, c₃⟩, foundFields, found⟩ := bind_eq_ok_iff.mp found
  cases found
  obtain ⟨leadsType, readType⟩ := Yields.name (Cursor.sound_start payload) foundType
  obtain ⟨leadsCount, readCount⟩ := Yields.number 2 leadsType.sound foundCount
  obtain ⟨leadsFields, readFields⟩ := Yields.fields count leadsCount.sound foundFields
  have size : c.size = payload.length :=
    leadsFields.size.trans (leadsCount.size.trans leadsType.size)
  have insideType : c₁.offset ≤ c₁.size := by
    rw [leadsType.size]
    exact (leadsCount.trans leadsFields).forward.trans inside
  have insideCount : c₂.offset ≤ c₂.size := by
    rw [leadsCount.size, leadsType.size]
    exact leadsFields.forward.trans inside
  obtain ⟨name, wroteName, cutName⟩ := readType insideType
  obtain ⟨digits, ⟨two, rfl⟩, cutCount⟩ := readCount insideCount
  obtain ⟨bytes, ⟨length, parts, spelled, rfl⟩, cutFields⟩ := readFields (size ▸ inside)
  have few := ofBigEndian_lt digits
  have number := bigEndian_ofBigEndian digits
  have capacity : capacity 2 = 0x10000 := rfl
  rw [two, ← length] at few number
  refine ⟨name, parts, wroteName, ?_, spelled, ?_, ?_⟩
  · show fields.length ≤ 0xFFFF
    omega
  · rw [number, ← cutFields, ← cutCount, ← cutName]
    rfl
  · rw [← size]
    exact leadsFields.sound

end AccessLog.Wire
