/-
Method and path of a request in the context of lines.

* `Context.bound`, `Scope.binds`: what is bound for method and path, and what a
  request binds.
* `Context.bound_enter`, `Context.bound_leave`: a layer binds them at its entry,
  and at its end they are as they were.
* `Told.Carries`, `Told.carries_notice`: a line shows the method and the path of a
  request.
* `Stack.Within`: layers around one another have bound them, each above what was
  bound before it.
* `Stack.within_enter`, `Stack.within_unwind`: they are bound from the entry of the
  layers to their end, in all attempts, and then as they were before all layers.
-/
import Mathlib.Data.List.Basic
import AccessLog.Diagnostics.Line

namespace AccessLog

/-! ### Tables in order -/

namespace Text

lemma le_total (s t : Text) : s.le t || t.le s := by
  induction s generalizing t with
  | nil => rfl
  | cons a s ih =>
    cases t with
    | nil => rfl
    | cons b t =>
      rcases Nat.lt_trichotomy a.toNat b.toNat with below | same | above
      · simp [le, below]
      · simpa [le, same] using ih t
      · simp [le, above]

lemma le_trans (s t u : Text) (first : s.le t) (second : t.le u) : s.le u := by
  induction s generalizing t u with
  | nil => rfl
  | cons a s ih =>
    cases t with
    | nil => cases first
    | cons b t =>
      cases u with
      | nil => cases second
      | cons c u =>
        rw [le] at first second ⊢
        grind

lemma le_refl (t : Text) : t.le t := by
  simpa using le_total t t

end Text

namespace Table

variable {α : Type}

lemma get?_eq_head? (table : Table α) (name : Text) :
    table.get? name = (table.filter fun entry => entry.1 = name).head?.map (·.2) := by
  rw [List.head?_filter, get?]

/-- Entries of one name keep their order. -/
lemma filter_sorted (table : Table α) (name : Text) :
    (sorted table).filter (fun entry => entry.1 = name) =
      table.filter fun entry => entry.1 = name := by
  have own : (table.filter fun entry => entry.1 = name).Sublist (sorted table) := by
    refine List.sublist_mergeSort (fun a b c => Text.le_trans a.1 b.1 c.1)
      (fun a b => Text.le_total a.1 b.1) ?_ List.filter_sublist
    refine List.pairwise_of_forall_mem_list fun a isA b isB => ?_
    have sameA : a.1 = name := by simpa using (List.mem_filter.mp isA).2
    have sameB : b.1 = name := by simpa using (List.mem_filter.mp isB).2
    rw [sameA, sameB]
    exact Text.le_refl name
  have inside := own.filter fun entry => entry.1 = name
  rw [List.filter_filter] at inside
  simp only [Bool.and_self] at inside
  refine (inside.eq_of_length ?_).symm
  exact ((List.mergeSort_perm table _).filter _).length_eq.symm

@[simp] lemma get?_sorted (table : Table α) (name : Text) :
    (sorted table).get? name = table.get? name := by
  rw [get?_eq_head?, filter_sorted, ← get?_eq_head?]

/-- What is left out is stored under other names. -/
lemma get?_filter (keep : Text → Bool) {name : Text} (kept : keep name) (table : Table α) :
    get? (table.filter fun entry => keep entry.1) name = table.get? name := by
  induction table with
  | nil => rfl
  | cons entry rest ih =>
    by_cases here : entry.1 = name
    · rw [List.filter_cons_of_pos (by rwa [here]), get?_cons, get?_cons, if_pos here, if_pos here]
    · rw [get?_cons, if_neg here, ← ih, List.filter_cons]
      split
      · rw [get?_cons, if_neg here]
      · rfl

end Table

/-! ### One layer -/

/-- What is bound for method and path, if anything is. -/
def Context.bound (context : Context) : Option Value × Option Value :=
  (context.get? Context.methodName, context.get? Context.pathName)

/-- What a request binds for its method and its path. -/
def Scope.binds (scope : Scope) : Option Value × Option Value :=
  (some (scope.value "method"), some (scope.value "path"))

namespace Context

/-- Method and path are bound under two names. -/
lemma methodName_ne_pathName : methodName ≠ pathName := by
  decide

@[simp] lemma bound_enter (context : Context) (scope : Scope) :
    (context.enter scope).bound = scope.binds := by
  simp only [bound, enter, Table.get?_put, if_neg methodName_ne_pathName, if_true]
  rfl

lemma get?_restore (context before : Context) (name other : Text) :
    (context.restore before name).get? other =
      if other = name then before.get? name else context.get? other := by
  rw [restore]
  cases known : before.get? name with
  | none => rw [Table.get?_erase]
  | some v =>
    rw [Table.get?_put, Table.get?_erase]
    split <;> rfl

/-- At the end of a layer method and path are bound as before it, or not at all,
whatever has been bound in between. -/
@[simp] lemma bound_leave (context before : Context) :
    (context.leave before).bound = before.bound := by
  simp only [bound, leave, get?_restore, if_neg methodName_ne_pathName, if_true]

end Context

/-! ### Lines -/

/-- A line shows the method and the path of a request. -/
def Told.Carries (scope : Scope) (t : Told) : Prop :=
  ∃ line, Line.ofTold? t = some line ∧ line.others.bound = scope.binds

/-- Neither is left out of a line, since a line has other names of its own. -/
lemma Line.bound_others (l : Line) : l.others.bound = l.context.bound := by
  have kept {name : Text} (other : (!ownNames.contains name) = true) :
      l.others.get? name = l.context.get? name := by
    rw [others, Table.get?_filter (fun name => !ownNames.contains name) other, Table.get?_sorted]
  rw [Context.bound, kept rfl, kept rfl, Context.bound]

/-- A notice shows what is bound in its context. -/
lemma Told.carries_notice {scope : Scope} {context : Context} (binds : context.bound = scope.binds)
    (n : Notice) : Told.Carries scope (.notice n context) :=
  ⟨_, rfl, (Line.bound_others _).trans binds⟩

/-! ### Layers around one another -/

namespace Stack

/-- Method and path of a request are bound in a context by layers around one
another, given what was bound before each of them, from the innermost to the
outermost; without layers they are bound as before all of them. -/
def Within (scope : Scope) (before : Context) : (befores : List Context) → Context → Prop
  | [], context => context.bound = before.bound
  | outside :: befores, context => context.bound = scope.binds ∧ Within scope before befores outside

variable {scope : Scope} {before context : Context} {befores : List Context}

lemma Within.congr {other : Context} (within : Within scope before befores context)
    (same : other.bound = context.bound) : Within scope before befores other := by
  cases befores with
  | nil => exact same.trans within
  | cons outside befores => exact ⟨same.trans within.1, within.2⟩

/-- Any layer has bound them. -/
lemma Within.bound (within : Within scope before befores context) (layered : befores ≠ []) :
    context.bound = scope.binds := by
  cases befores with
  | nil => exact absurd rfl layered
  | cons outside befores => exact within.1

/-- The layers bind method and path of the request that they take up, and make
their attempts in between. -/
lemma within_enter {clock : Clock} {frames : List Frame} {notes : List Noted}
    (layers : List (Nat × Layer))
    (within : Within scope before (frames.map (·.before)) context)
    (noted : ∀ n ∈ notes, n.context.bound = scope.binds) :
    let entry := enter scope clock frames notes context layers
    Within scope before (entry.frames.map (·.before)) entry.context ∧
      ∀ n ∈ entry.notes, n.context.bound = scope.binds := by
  induction layers generalizing frames notes context with
  | nil => exact ⟨within, noted⟩
  | cons layer inner ih =>
    have back : Within scope before (frames.map (·.before))
        ((context.enter scope).leave context) :=
      within.congr (Context.bound_leave _ _)
    rw [enter]
    rcases entered : Exchange.enter layer.2 scope clock with e | ⟨x, result⟩
    · exact ⟨back, noted⟩
    · have more : ∀ n ∈ notes ++ x.attempts.map
          (fun a => ⟨layer.1, layer.2.eventType, a, context.enter scope⟩ : Attempt → Noted),
          n.context.bound = scope.binds := by
        refine List.forall_mem_append.mpr ⟨noted, List.forall_mem_map.mpr fun a _ => ?_⟩
        exact Context.bound_enter context scope
      cases result with
      | error e => exact ⟨back, more⟩
      | ok _ => exact ih ⟨Context.bound_enter context scope, within⟩ more

/-- The attempts that layers make at their end are made while method and path
are bound, and after it both are bound as before all layers. -/
lemma within_unwind {scope' : Scope} {clock : Clock} {outcome : Except Failure Unit}
    {outer after : List Frame} {notes : List Noted} {final : Except Failure Unit} {left : Context}
    (done : unwind scope' clock context outcome outer = (after, notes, final, left))
    (within : Within scope before (outer.map (·.before)) context) :
    left.bound = before.bound ∧ (∀ n ∈ notes, n.context.bound = scope.binds) ∧
      after.map (·.before) = outer.map (·.before) := by
  induction outer generalizing context outcome after notes with
  | nil =>
    cases done
    exact ⟨within, List.forall_mem_nil _, rfl⟩
  | cons f outer ih =>
    rw [unwind] at done
    rcases acted : f.act context (Exchange.ended f.layer scope' clock) with ⟨next, first, result⟩
    simp only [acted] at done
    generalize rest : unwind scope' clock _ _ outer = inside at done
    obtain ⟨others, more, final', left'⟩ := inside
    cases done
    cases acted
    obtain ⟨back, noted, same⟩ := ih rest (within.2.congr (Context.bound_leave context f.before))
    have here : ∀ n ∈ (f.act context (Exchange.ended f.layer scope' clock)).2.1,
        n.context.bound = scope.binds := List.forall_mem_map.mpr fun _ _ => within.1
    refine ⟨back, List.forall_mem_append.mpr ⟨here, noted⟩, ?_⟩
    rw [List.map_cons, List.map_cons, same]

end Stack

end AccessLog
