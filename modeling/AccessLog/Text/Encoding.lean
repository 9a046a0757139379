/-
Texts as bytes.

* `Encoding`: UTF-8 and Latin-1.
* `EncodingFault`: the first run of code points that an encoding lacks.
* `DecodingFault`: the first bytes that are no UTF-8.
* `Text.toLatin1`, `Text.ofLatin1`: one byte per code point.
* `Text.toUtf8`, `Text.ofUtf8`: one to four bytes per code point, in the
  shortest form only and without surrogates.
-/
import AccessLog.Text.Quoted

namespace AccessLog

/-- The two encodings of texts. -/
inductive Encoding where
  | utf8
  | latin1
deriving DecidableEq

/-- The first run of code points that an encoding has no bytes for. -/
structure EncodingFault where
  /-- The encoding asked for. -/
  encoding : Encoding
  /-- The index of the first code point of the run. -/
  position : Nat
  /-- The run. -/
  run : Text
deriving DecidableEq

/-- What is wrong with bytes that are no UTF-8. -/
inductive DecodingReason where
  | invalidStart
  | invalidContinuation
  | unexpectedEnd
deriving DecidableEq

/-- The first bytes that are no UTF-8: the longest part of a sequence that
could still have become one. -/
structure DecodingFault where
  /-- The index of the first byte. -/
  position : Nat
  /-- The number of bytes. -/
  length : Nat
  /-- The first byte. -/
  byte : UInt8
  /-- What is wrong with them. -/
  reason : DecodingReason
deriving DecidableEq

namespace EncodingFault

/-- The wording of a fault. -/
def message (fault : EncodingFault) : Text :=
  let (name, why) : Text × Text := match fault.encoding with
    | .utf8 => ("utf-8", "surrogates not allowed")
    | .latin1 => ("latin-1", "ordinal not in range(256)")
  let place : Text := match fault.run with
    | [c] => "character '" ++ c.escaped ++ "' in position " ++ Text.ofNat fault.position
    | run =>
      "characters in position " ++ Text.ofNat fault.position ++ "-" ++
        Text.ofNat (fault.position + run.length - 1)
  "'" ++ name ++ "' codec can't encode " ++ place ++ ": " ++ why

end EncodingFault

namespace DecodingReason

/-- The wording of a reason. -/
def message : DecodingReason → Text
  | invalidStart => "invalid start byte"
  | invalidContinuation => "invalid continuation byte"
  | unexpectedEnd => "unexpected end of data"

end DecodingReason

namespace DecodingFault

/-- The wording of a fault. -/
def message (fault : DecodingFault) : Text :=
  let place : Text :=
    if fault.length = 1 then
      "byte 0x" ++ Text.ofHex 2 fault.byte.toNat ++ " in position " ++ Text.ofNat fault.position
    else
      "bytes in position " ++ Text.ofNat fault.position ++ "-" ++
        Text.ofNat (fault.position + fault.length - 1)
  "'utf-8' codec can't decode " ++ place ++ ": " ++ fault.reason.message

end DecodingFault

/-! ### Runs of unwanted code points -/

/-- The first maximal run of code points of a class, with its position. -/
def Text.firstRun? (p : CodePoint → Bool) (t : Text) : Option (Nat × Text) :=
  match (t.dropWhile (!p ·)).takeWhile p with
  | [] => none
  | run => some ((t.takeWhile (!p ·)).length, run)

/-! ### Latin-1 -/

/-- Each code point below 256 as one byte. -/
def Text.toLatin1 (t : Text) : Except EncodingFault (List UInt8) :=
  match t.firstRun? fun c => 256 ≤ c.toNat with
  | some (position, run) => .error ⟨.latin1, position, run⟩
  | none => .ok (t.map fun c => UInt8.ofNat c.toNat)

/-- Each byte as one code point. -/
def Text.ofLatin1 (bytes : List UInt8) : Text :=
  bytes.map CodePoint.ofByte

/-! ### UTF-8 -/

/-- The lowest six bits of a number as a continuation byte. -/
def continuation (n : Nat) : UInt8 :=
  UInt8.ofNat (0x80 + n % 0x40)

/-- The shortest sequence for a code point. -/
def CodePoint.utf8 (c : CodePoint) : List UInt8 :=
  let n := c.toNat
  if n < 0x80 then [UInt8.ofNat n]
  else if n < 0x800 then [UInt8.ofNat (0xC0 + n / 0x40), continuation n]
  else if n < 0x10000 then
    [UInt8.ofNat (0xE0 + n / 0x1000), continuation (n / 0x40), continuation n]
  else
    [UInt8.ofNat (0xF0 + n / 0x40000), continuation (n / 0x1000),
      continuation (n / 0x40), continuation n]

/-- A text without surrogates as UTF-8. -/
def Text.toUtf8 (t : Text) : Except EncodingFault (List UInt8) :=
  match t.firstRun? CodePoint.isSurrogate with
  | some (position, run) => .error ⟨.utf8, position, run⟩
  | none => .ok (t.flatMap CodePoint.utf8)

/-- A continuation byte. -/
def isContinuation (b : UInt8) : Bool :=
  0x80 ≤ b.toNat && b.toNat < 0xC0

/-- The second bytes that may follow the first byte of a sequence of three:
no longer form than needed and no surrogate. -/
def isSecondOfThree (b0 b1 : UInt8) : Bool :=
  isContinuation b1 && (b0 ≠ 0xE0 || 0xA0 ≤ b1.toNat) && (b0 ≠ 0xED || b1.toNat < 0xA0)

/-- The second bytes that may follow the first byte of a sequence of four:
no longer form than needed and nothing above the last plane. -/
def isSecondOfFour (b0 b1 : UInt8) : Bool :=
  isContinuation b1 && (b0 ≠ 0xF0 || 0x90 ≤ b1.toNat) && (b0 ≠ 0xF4 || b1.toNat < 0x90)

/-- The code points of the bytes from `position` on, put behind `done`, which
holds the ones before, last first. -/
def Text.ofUtf8From (position : Nat) (done : Text) :
    List UInt8 → Except DecodingFault Text
  | [] => .ok done.reverse
  | b0 :: rest =>
    let n0 := b0.toNat
    if n0 < 0x80 then ofUtf8From (position + 1) (.ofNat n0 :: done) rest
    else if n0 < 0xC2 || 0xF5 ≤ n0 then .error ⟨position, 1, b0, .invalidStart⟩
    else match rest with
      | [] => .error ⟨position, 1, b0, .unexpectedEnd⟩
      | b1 :: rest =>
        let n1 := b1.toNat - 0x80
        if n0 < 0xE0 then
          if isContinuation b1 then
            ofUtf8From (position + 2) (.ofNat ((n0 - 0xC0) * 0x40 + n1) :: done) rest
          else .error ⟨position, 1, b0, .invalidContinuation⟩
        else if n0 < 0xF0 then
          if !isSecondOfThree b0 b1 then .error ⟨position, 1, b0, .invalidContinuation⟩
          else match rest with
            | [] => .error ⟨position, 2, b0, .unexpectedEnd⟩
            | b2 :: rest =>
              let n2 := b2.toNat - 0x80
              if isContinuation b2 then
                ofUtf8From (position + 3)
                  (.ofNat ((n0 - 0xE0) * 0x1000 + n1 * 0x40 + n2) :: done) rest
              else .error ⟨position, 2, b0, .invalidContinuation⟩
        else
          if !isSecondOfFour b0 b1 then .error ⟨position, 1, b0, .invalidContinuation⟩
          else match rest with
            | [] => .error ⟨position, 2, b0, .unexpectedEnd⟩
            | b2 :: rest =>
              let n2 := b2.toNat - 0x80
              if !isContinuation b2 then .error ⟨position, 2, b0, .invalidContinuation⟩
              else match rest with
                | [] => .error ⟨position, 3, b0, .unexpectedEnd⟩
                | b3 :: rest =>
                  let n3 := b3.toNat - 0x80
                  if isContinuation b3 then
                    ofUtf8From (position + 4)
                      (.ofNat ((n0 - 0xF0) * 0x40000 + n1 * 0x1000 + n2 * 0x40 + n3) :: done)
                      rest
                  else .error ⟨position, 3, b0, .invalidContinuation⟩

/-- The text of UTF-8 bytes. -/
def Text.ofUtf8 (bytes : List UInt8) : Except DecodingFault Text :=
  ofUtf8From 0 [] bytes

end AccessLog
