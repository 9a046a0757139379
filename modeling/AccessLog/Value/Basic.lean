/-
Values.

* `Value`: what tokens give, records hold and options are given as.
* `Value.truthy`: neither empty nor zero nor absent.
* `Value.same`: equality, where numbers are compared by their exact value and
  mappings without regard to the order.
* `Value.hashable`: the values that can be a key or a member of a set.
* `Value.items?`: the elements of a value that has some.
-/
import AccessLog.Decimal.Binary64

namespace AccessLog

/-- A dynamic value; `object` is one of which only the text that shows it is
known. -/
inductive Value where
  | null
  | flag (b : Bool)
  | int (n : Int)
  | float (x : Binary64)
  | text (t : Text)
  | bytes (bs : List UInt8)
  | list (items : List Value)
  | tuple (items : List Value)
  | dict (entries : List (Value × Value))
  | object (shown : Text)

namespace Value

instance : Inhabited Value := ⟨null⟩

instance : Coe Text Value := ⟨text⟩

instance : Coe String Value := ⟨fun s => text s⟩

instance : Coe Bool Value := ⟨flag⟩

instance : Coe Int Value := ⟨int⟩

/-! ### Decidable equality -/

mutual

/-- Two values are built alike. -/
def decEq : (a b : Value) → Decidable (a = b)
  | null, b => match b with
    | null => isTrue rfl
    | flag _ | int _ | float _ | text _ | bytes _ | list _ | tuple _ | dict _ | object _ =>
      isFalse nofun
  | flag x, b => match b with
    | flag y => decidable_of_iff (x = y) (by simp)
    | null | int _ | float _ | text _ | bytes _ | list _ | tuple _ | dict _ | object _ =>
      isFalse nofun
  | int x, b => match b with
    | int y => decidable_of_iff (x = y) (by simp)
    | null | flag _ | float _ | text _ | bytes _ | list _ | tuple _ | dict _ | object _ =>
      isFalse nofun
  | float x, b => match b with
    | float y => decidable_of_iff (x = y) (by simp)
    | null | flag _ | int _ | text _ | bytes _ | list _ | tuple _ | dict _ | object _ =>
      isFalse nofun
  | text x, b => match b with
    | text y => decidable_of_iff (x = y) (by simp)
    | null | flag _ | int _ | float _ | bytes _ | list _ | tuple _ | dict _ | object _ =>
      isFalse nofun
  | bytes x, b => match b with
    | bytes y => decidable_of_iff (x = y) (by simp)
    | null | flag _ | int _ | float _ | text _ | list _ | tuple _ | dict _ | object _ =>
      isFalse nofun
  | list xs, b => match b with
    | list ys => match decEqAll xs ys with
      | isTrue h => isTrue (by rw [h])
      | isFalse h => isFalse (by simpa using h)
    | null | flag _ | int _ | float _ | text _ | bytes _ | tuple _ | dict _ | object _ =>
      isFalse nofun
  | tuple xs, b => match b with
    | tuple ys => match decEqAll xs ys with
      | isTrue h => isTrue (by rw [h])
      | isFalse h => isFalse (by simpa using h)
    | null | flag _ | int _ | float _ | text _ | bytes _ | list _ | dict _ | object _ =>
      isFalse nofun
  | dict xs, b => match b with
    | dict ys => match decEqEntries xs ys with
      | isTrue h => isTrue (by rw [h])
      | isFalse h => isFalse (by simpa using h)
    | null | flag _ | int _ | float _ | text _ | bytes _ | list _ | tuple _ | object _ =>
      isFalse nofun
  | object x, b => match b with
    | object y => decidable_of_iff (x = y) (by simp)
    | null | flag _ | int _ | float _ | text _ | bytes _ | list _ | tuple _ | dict _ =>
      isFalse nofun

/-- Two lists of values are built alike. -/
def decEqAll : (xs ys : List Value) → Decidable (xs = ys)
  | [], [] => isTrue rfl
  | [], _ :: _ => isFalse nofun
  | _ :: _, [] => isFalse nofun
  | x :: xs, y :: ys => match decEq x y, decEqAll xs ys with
    | isTrue h, isTrue hs => isTrue (by rw [h, hs])
    | isFalse h, _ => isFalse fun e => h (List.cons.inj e).1
    | _, isFalse hs => isFalse fun e => hs (List.cons.inj e).2

/-- Two lists of entries are built alike. -/
def decEqEntries : (xs ys : List (Value × Value)) → Decidable (xs = ys)
  | [], [] => isTrue rfl
  | [], _ :: _ => isFalse nofun
  | _ :: _, [] => isFalse nofun
  | (k, v) :: xs, (k', v') :: ys => match decEq k k', decEq v v', decEqEntries xs ys with
    | isTrue hk, isTrue hv, isTrue hs => isTrue (by rw [hk, hv, hs])
    | isFalse h, _, _ => isFalse fun e => h (Prod.mk.inj (List.cons.inj e).1).1
    | _, isFalse h, _ => isFalse fun e => h (Prod.mk.inj (List.cons.inj e).1).2
    | _, _, isFalse h => isFalse fun e => h (List.cons.inj e).2

end

instance : DecidableEq Value := decEq

/-! ### Truth, equality and membership -/

/-- A value counts as true unless it is absent, false, zero or empty. -/
def truthy : Value → Bool
  | null => false
  | flag b => b
  | int n => n != 0
  | float x => !x.isZero
  | text t => !t.isEmpty
  | bytes bs => !bs.isEmpty
  | list xs => !xs.isEmpty
  | tuple xs => !xs.isEmpty
  | dict es => !es.isEmpty
  | object _ => true

/-- The exact value of a number; a flag counts as zero or one. -/
def number? : Value → Option Number
  | flag b => some (.ofInt b.toInt)
  | int n => some (.ofInt n)
  | float x => some (.ofBinary64 x)
  | _ => none

mutual

/-- Equality of what two values stand for. -/
def same : Value → Value → Bool
  | null, b => match b with
    | null => true
    | _ => false
  | text s, b => match b with
    | text t => s == t
    | _ => false
  | bytes s, b => match b with
    | bytes t => s == t
    | _ => false
  | list xs, b => match b with
    | list ys => sameAll xs ys
    | _ => false
  | tuple xs, b => match b with
    | tuple ys => sameAll xs ys
    | _ => false
  | dict es, b => match b with
    | dict es' => es.length == es'.length && sameEntries es es'
    | _ => false
  | object _, _ => false
  | flag x, b => (b.number?.map (Number.same (.ofInt x.toInt))).getD false
  | int n, b => (b.number?.map (Number.same (.ofInt n))).getD false
  | float x, b => (b.number?.map (Number.same (.ofBinary64 x))).getD false

/-- Equality of lists, element by element. -/
def sameAll : List Value → List Value → Bool
  | [], ys => ys.isEmpty
  | x :: xs, ys => match ys with
    | [] => false
    | y :: ys => same x y && sameAll xs ys

/-- Every entry of the first list stands in the second. -/
def sameEntries : List (Value × Value) → List (Value × Value) → Bool
  | [], _ => true
  | (k, v) :: es, es' => es'.any (fun (k', v') => same k k' && same v v') && sameEntries es es'

end

mutual

/-- A value can be a key if neither it nor a part of it can change. -/
def hashable : Value → Bool
  | list _ => false
  | dict _ => false
  | tuple xs => hashableAll xs
  | _ => true

/-- All of the values can be keys. -/
def hashableAll : List Value → Bool
  | [] => true
  | x :: xs => hashable x && hashableAll xs

end

/-- The elements of a text are its code points, those of a byte string numbers
and those of a mapping its keys; other scalars have none. -/
def items? : Value → Option (List Value)
  | text t => some (t.map fun c => text [c])
  | bytes bs => some (bs.map fun b => int b.toNat)
  | list xs => some xs
  | tuple xs => some xs
  | dict es => some (es.map (·.1))
  | _ => none

/-- A mapping from pairs: a key that comes again keeps its place and takes the
new value. -/
def ofPairs (pairs : List (Value × Value)) : Value :=
  dict <| pairs.foldl (fun entries (k, v) =>
    if entries.any (·.1.same k) then
      entries.map fun (k', v') => if k'.same k then (k', v) else (k', v')
    else entries ++ [(k, v)]) []

/-- The text, if the value is one. -/
def text? : Value → Option Text
  | text t => some t
  | _ => none

/-- Neither a text nor anything of use as one. -/
def isText (v : Value) : Bool :=
  v.text?.isSome

end Value

end AccessLog
