/-
Addresses of the internet protocols.

* `octets?`: the four numbers of a dotted address of version 4.
* `groups?`: the eight groups of an address of version 6.
* `isMulticast`: an address of either version that stands for a group of
  receivers; a host name is none.
-/
import AccessLog.Text.Basic

namespace AccessLog.Address

/-- A number from 0 to 255 without a zero in front. -/
def octet? (t : Text) : Option Nat :=
  if t.isEmpty || !t.all CodePoint.isDigit || 3 < t.length then none
  else if 1 < t.length && t.head? = some (CodePoint.ofChar '0') then none
  else
    let n := Text.digitsValue t
    if n ≤ 255 then some n else none

/-- The four numbers of an address of version 4. -/
def octets? (t : Text) : Option (List Nat) :=
  match t.splitOn '.' with
  | [a, b, c, d] => [a, b, c, d].mapM octet?
  | _ => none

/-- A number of one to four hexadecimal digits. -/
def group? (t : Text) : Option Nat :=
  if t.isEmpty || 4 < t.length then none
  else t.foldlM (fun n c => c.hexValue?.map (16 * n + ·)) 0

/-- The pieces between the colons, where four numbers at the end are two groups. -/
def pieces? (t : Text) : Option (List Text) :=
  let parts := t.splitOn ':'
  if parts.length < 3 then none
  else match parts.getLast? with
    | some last =>
      if last.contains '.' then
        match octets? last with
        | some [a, b, c, d] =>
          some (parts.dropLast ++ [Text.ofHex 1 (256 * a + b), Text.ofHex 1 (256 * c + d)])
        | _ => none
      else some parts
    | none => none

/-- The positions of the empty pieces that are neither first nor last. -/
def gaps (parts : List Text) : List Nat :=
  (List.range parts.length).filter fun i =>
    0 < i && i + 1 < parts.length && (parts.getD i []).isEmpty

/-- The pieces on one side of the gap; the piece at the end of the address may
be empty only if it is the only one. -/
def side? (outer : Option Text) (parts : List Text) : Option (List Text) :=
  if outer = some [] then
    if parts.length = 1 then some [] else none
  else some parts

/-- The eight groups of an address of version 6, where one gap stands for as
many zeros as are missing. -/
def groups? (t : Text) : Option (List Nat) := do
  let parts ← pieces? t
  if 9 < parts.length then none
  else match gaps parts with
    | [] => if parts.length = 8 then parts.mapM group? else none
    | [gap] =>
      let high ← side? parts.head? (parts.take gap)
      let low ← side? parts.getLast? (parts.drop (gap + 1))
      if 8 ≤ high.length + low.length then none
      else
        let high ← high.mapM group?
        let low ← low.mapM group?
        some (high ++ List.replicate (8 - (high.length + low.length)) 0 ++ low)
    | _ => none

/-- The name of a zone is not empty and holds no mark of a zone or of a net. -/
def isZone (t : Text) : Bool :=
  !t.isEmpty && !t.contains '%' && !t.contains '/'

/-- The part of an address in front of its zone, if it has one. -/
def withoutZone? (t : Text) : Option Text :=
  match t.cut '%' with
  | (address, none) => some address
  | (address, some zone) => if isZone zone then some address else none

/-- The address stands for a group of receivers. -/
def isMulticast (t : Text) : Bool :=
  match octets? t with
  | some (a :: _) => 224 ≤ a && a < 240
  | _ => match (withoutZone? t).bind groups? with
    | some (g :: _) => 0xFF00 ≤ g
    | _ => false

end AccessLog.Address
