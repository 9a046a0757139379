/-
Tables in the order of insertion.

* `Table`: texts with what is stored under them.
* `Table.put`: a new name goes to the end, a known one keeps its place.
* `Table.get?`, `Table.erase`, `Table.names`.
* `Table.get?_put`, `Table.names_put`, `Table.get?_erase`: what a change of one
  name does to the others.
-/
import AccessLog.Text.Basic

namespace AccessLog

/-- Entries under names, in the order in which the names came. -/
abbrev Table (α : Type) := List (Text × α)

namespace Table

variable {α : Type}

/-- What is stored under a name. -/
def get? (table : Table α) (name : Text) : Option α :=
  (table.find? fun entry => entry.1 = name).map (·.2)

/-- Something is stored under the name. -/
def has (table : Table α) (name : Text) : Bool :=
  table.any fun entry => entry.1 = name

/-- Stored under the name from now on, in the place of what was there, or at
the end. -/
def put (table : Table α) (name : Text) (a : α) : Table α :=
  if table.has name then table.map fun entry => if entry.1 = name then (name, a) else entry
  else table ++ [(name, a)]

/-- Nothing is stored under the name any more. -/
def erase (table : Table α) (name : Text) : Table α :=
  table.filter fun entry => entry.1 ≠ name

/-- The names in order. -/
def names (table : Table α) : List Text :=
  table.map (·.1)

/-- The entries put one after the other. -/
def putAll (table : Table α) (entries : List (Text × α)) : Table α :=
  entries.foldl (fun t entry => t.put entry.1 entry.2) table

/-- The table of some entries, where the last entry of a name counts. -/
def ofList (entries : List (Text × α)) : Table α :=
  putAll [] entries

/-- The entries in the order of their names. -/
def sorted (table : Table α) : Table α :=
  table.mergeSort fun a b => Text.le a.1 b.1

theorem get?_eq_none_iff {table : Table α} {name : Text} :
    table.get? name = none ↔ table.has name = false := by
  simp [get?, has]

theorem has_eq_true_iff {table : Table α} {name : Text} :
    table.has name = true ↔ name ∈ table.names := by
  simp [has, names]

@[simp] theorem get?_nil (name : Text) : get? ([] : Table α) name = none := rfl

theorem get?_cons (entry : Text × α) (table : Table α) (name : Text) :
    get? (entry :: table) name = if entry.1 = name then some entry.2 else get? table name := by
  by_cases h : entry.1 = name <;> simp [get?, h]

theorem get?_append (first second : Table α) (name : Text) :
    get? (first ++ second) name = (get? first name).or (get? second name) := by
  induction first with
  | nil => simp
  | cons entry rest ih =>
    rw [List.cons_append, get?_cons, get?_cons, ih]
    split <;> rfl

theorem names_put (table : Table α) (name : Text) (a : α) :
    names (put table name a) = if has table name then names table else names table ++ [name] := by
  by_cases h : has table name
  · have key : ∀ entry : Text × α, (if entry.1 = name then (name, a) else entry).1 = entry.1 := by
      intro entry
      split <;> simp_all
    simp [put, names, h, key]
  · simp [put, names, h]

/-- Only the value under the one name is another. -/
theorem get?_replaced (table : Table α) (name other : Text) (a : α) :
    get? (table.map fun entry => if entry.1 = name then (name, a) else entry) other =
      if other = name then (get? table name).map fun _ => a else get? table other := by
  induction table with
  | nil => simp
  | cons entry rest ih =>
    rw [List.map_cons, get?_cons, get?_cons, get?_cons, ih]
    by_cases same : other = name
    · subst same
      by_cases here : entry.1 = other <;> simp [here]
    · by_cases here : entry.1 = name
      · have apart : ¬name = other := fun h => same h.symm
        simp [here, apart, same]
      · simp [here, same]

theorem get?_put (table : Table α) (name other : Text) (a : α) :
    get? (put table name a) other = if other = name then some a else get? table other := by
  by_cases h : has table name
  · obtain ⟨b, found⟩ : ∃ b, get? table name = some b := by
      rw [← Option.isSome_iff_exists, Option.isSome_iff_ne_none, ne_eq, get?_eq_none_iff]
      simp [h]
    simp [put, h, get?_replaced, found]
  · have absent : get? table name = none := get?_eq_none_iff.mpr (by simpa using h)
    rw [put, if_neg h, get?_append, get?_cons, get?_nil]
    by_cases same : other = name
    · simp [same, absent]
    · simp [same, eq_comm (a := name)]

theorem get?_erase (table : Table α) (name other : Text) :
    get? (erase table name) other = if other = name then none else get? table other := by
  induction table with
  | nil => simp [erase]
  | cons entry rest ih =>
    rw [erase] at ih
    rw [get?_cons, erase]
    by_cases here : entry.1 = name
    · rw [List.filter_cons_of_neg (by simpa using here), ih]
      by_cases same : other = name
      · simp [same]
      · have apart : ¬entry.1 = other := fun h => same (h ▸ here)
        simp [same, apart]
    · rw [List.filter_cons_of_pos (by simpa using here), get?_cons, ih]
      by_cases same : other = name
      · simp [same, here]
      · simp [same]

end Table

end AccessLog
