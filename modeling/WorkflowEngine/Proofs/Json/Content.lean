import Mathlib.Data.List.Nodup
import WorkflowEngine.Json.Reader
import WorkflowEngine.Number.Format

/-!
# The content of JSON values

A text has no spelling for a number that is not finite, so `Json.asWritten` is what a
text of a value can hold: the same value with null in the place of such numbers.  A
value is `Storable` if a text can hold everything else in it, which asks for distinct
keys and for integers that are not too long.  Both are what reading leaves behind.
-/

namespace WorkflowEngine

section Results

variable {ε ε' α β : Type} {result : Except ε α}

/-- Faults are put in other words where there is no value. -/
theorem mapError_eq_ok_iff {f : ε → ε'} {x : α} : result.mapError f = .ok x ↔ result = .ok x := by
  cases result with
  | error fault => simp [Except.mapError]
  | ok y => simp [Except.mapError]

theorem map_eq_ok_iff {f : α → β} {y : β} :
    result.map f = .ok y ↔ ∃ x, result = .ok x ∧ f x = y := by
  cases result with
  | error fault => simp [Except.map]
  | ok x => simp [Except.map]

/-- A result of which something can be computed that only values have is a value. -/
theorem exists_of_toOption_map {view : α → β} {y : β} (h : result.toOption.map view = some y) :
    ∃ x, result = .ok x ∧ view x = y := by
  cases result with
  | error fault => cases h
  | ok x => exact ⟨x, rfl, Option.some.inj h⟩

end Results

namespace Members

theorem get?_cons (k : Text) (v : Json) (o : Members) (key : Text) :
    Members.get? ((k, v) :: o) key = if key = k then some v else o.get? key := by
  rw [get?, List.lookup_cons]
  by_cases hk : key = k
  · simp [hk]
  · have hbeq : (key == k) = false := beq_eq_false_iff_ne.mpr hk
    rw [if_neg hk, hbeq]
    rfl

theorem get?_eq_none_iff {o : Members} {key : Text} :
    o.get? key = none ↔ key ∉ o.map Prod.fst := by
  induction o with
  | nil => simp [get?]
  | cons m o ih =>
    obtain ⟨k, v⟩ := m
    rw [get?_cons, List.map_cons, List.mem_cons, not_or]
    by_cases hk : key = k
    · simp [hk]
    · rw [if_neg hk, ih]
      exact ⟨fun h => ⟨hk, h⟩, And.right⟩

theorem mem_keys_of_get? {o : Members} {key : Text} {v : Json} (h : o.get? key = some v) :
    key ∈ o.map Prod.fst := by
  by_contra hnot
  rw [get?_eq_none_iff.mpr hnot] at h
  contradiction

theorem get?_eq_some_iff {o : Members} (hkeys : (o.map Prod.fst).Nodup) {key : Text}
    {value : Json} : o.get? key = some value ↔ (key, value) ∈ o := by
  induction o with
  | nil => simp [get?]
  | cons m o ih =>
    obtain ⟨k, v⟩ := m
    rw [List.map_cons, List.nodup_cons] at hkeys
    rw [get?_cons, List.mem_cons, Prod.mk.injEq]
    by_cases hk : key = k
    · subst hk
      have hnot : (key, value) ∉ o := fun hin =>
        hkeys.1 (List.mem_map.mpr ⟨(key, value), hin, rfl⟩)
      simp [hnot, eq_comm]
    · rw [if_neg hk, ih hkeys.2]
      simp [hk]

theorem get?_map (f : Json → Json) (o : Members) (key : Text) :
    Members.get? (o.map fun m => (m.1, f m.2)) key = (o.get? key).map f := by
  induction o with
  | nil => rfl
  | cons m o ih =>
    obtain ⟨k, v⟩ := m
    rw [List.map_cons, get?_cons, get?_cons, ih]
    by_cases hk : key = k
    · simp [hk]
    · simp [hk]

theorem get?_of_field {o : Members} {key : Text} {v : Json} (h : (Json.obj o).field key = v)
    (hv : v ≠ .null) : o.get? key = some v := by
  rw [Json.field] at h
  cases hget : o.get? key with
  | none =>
    rw [hget] at h
    exact absurd h.symm hv
  | some w =>
    rw [hget] at h
    rw [← h]
    rfl

theorem has_iff {o : Members} {key : Text} : o.has key = true ↔ key ∈ o.map Prod.fst := by
  rw [has, List.any_eq_true, List.mem_map]
  simp only [beq_iff_eq]

end Members

namespace Json

/-! ## Induction -/

/-- To show something of every value, show it of an array when it holds of the items
and of an object when it holds of the values of its members. -/
theorem nestedInduction {motive : Json → Prop}
    (null : motive .null) (bool : ∀ b, motive (.bool b)) (int : ∀ n, motive (.int n))
    (float : ∀ x, motive (.float x)) (str : ∀ t, motive (.str t))
    (arr : ∀ xs, (∀ x ∈ xs, motive x) → motive (.arr xs))
    (obj : ∀ ms : Members, (∀ m ∈ ms, motive m.2) → motive (.obj ms)) (j : Json) : motive j := by
  refine Json.rec (motive_1 := motive) (motive_2 := fun xs => ∀ x ∈ xs, motive x)
    (motive_3 := fun ms => ∀ m ∈ ms, motive m.2) (motive_4 := fun m => motive m.2)
    null bool int float str arr obj ?_ ?_ ?_ ?_ ?_ j
  · intro x hx
    simp at hx
  · intro x xs hx hxs y hy
    rcases List.mem_cons.mp hy with rfl | hy
    · exact hx
    · exact hxs y hy
  · intro m hm
    simp at hm
  · intro m ms hm hms n hn
    rcases List.mem_cons.mp hn with rfl | hn
    · exact hm
    · exact hms n hn
  · intro key value hvalue
    exact hvalue

/-! ## Tests of the parts of a value -/

section Tests

variable {leaf : Json → Bool} {name : Text → Bool}

theorem itemsPass_cons (x : Json) (xs : List Json) :
    itemsPass leaf name (x :: xs) = (x.passes leaf name && itemsPass leaf name xs) := rfl

theorem membersPass_cons (m : Text × Json) (ms : Members) :
    membersPass leaf name (m :: ms) =
      (name m.1 && m.2.passes leaf name && membersPass leaf name ms) := rfl

theorem passes_arr (xs : List Json) :
    (Json.arr xs).passes leaf name = true ↔ ∀ x ∈ xs, x.passes leaf name = true := by
  change itemsPass leaf name xs = true ↔ _
  induction xs with
  | nil => exact ⟨fun _ x hx => absurd hx List.not_mem_nil, fun _ => rfl⟩
  | cons x xs ih => rw [itemsPass_cons, Bool.and_eq_true, ih, List.forall_mem_cons]

theorem passes_obj (ms : Members) :
    (Json.obj ms).passes leaf name = true ↔
      ∀ m ∈ ms, name m.1 = true ∧ m.2.passes leaf name = true := by
  change membersPass leaf name ms = true ↔ _
  induction ms with
  | nil => exact ⟨fun _ m hm => absurd hm List.not_mem_nil, fun _ => rfl⟩
  | cons m ms ih =>
    rw [membersPass_cons, Bool.and_eq_true, Bool.and_eq_true, ih, List.forall_mem_cons]

theorem passes_of_mem_items {j x : Json} (hj : j.passes leaf name = true) (hx : x ∈ j.items) :
    x.passes leaf name = true := by
  cases j with
  | arr xs => exact (passes_arr xs).mp hj x hx
  | _ => contradiction

theorem passes_field {j : Json} (hnull : leaf .null = true) (hj : j.passes leaf name = true)
    (key : Text) : (j.field key).passes leaf name = true := by
  cases j with
  | obj ms =>
    rw [field]
    cases hget : Members.get? ms key with
    | none => exact hnull
    | some v =>
      have hmem : (key, v) ∈ ms := by
        obtain ⟨before, after, hsplit, -⟩ := List.lookup_eq_some_iff.mp hget
        rw [hsplit]
        simp
      exact ((passes_obj ms).mp hj _ hmem).2
  | _ => exact hnull

end Tests

@[simp] theorem isFinite_arr (xs : List Json) :
    (Json.arr xs).isFinite = true ↔ ∀ x ∈ xs, x.isFinite = true :=
  passes_arr xs

@[simp] theorem isFinite_obj (ms : Members) :
    (Json.obj ms).isFinite = true ↔ ∀ m ∈ ms, m.2.isFinite = true := by
  rw [isFinite, passes_obj]
  simp only [true_and]

theorem isFinite_of_mem_items {j x : Json} (hj : j.isFinite = true) (hx : x ∈ j.items) :
    x.isFinite = true :=
  passes_of_mem_items hj hx

theorem isFinite_field {j : Json} (hj : j.isFinite = true) (key : Text) :
    (j.field key).isFinite = true :=
  passes_field rfl hj key

@[simp] theorem isProper_str (t : Text) : (Json.str t).isProper = t.isProper := rfl

@[simp] theorem isProper_arr (xs : List Json) :
    (Json.arr xs).isProper = true ↔ ∀ x ∈ xs, x.isProper = true :=
  passes_arr xs

@[simp] theorem isProper_obj (ms : Members) :
    (Json.obj ms).isProper = true ↔ ∀ m ∈ ms, m.1.isProper = true ∧ m.2.isProper = true :=
  passes_obj ms

@[simp] theorem isProper_strings (ss : List String) : (strings ss).isProper = true := by
  rw [strings, isProper_arr, List.forall_mem_map]
  exact fun _ _ => rfl

/-! ## What a text can hold -/

mutual

/-- The value with null in the place of numbers that are not finite. -/
def asWritten : Json → Json
  | .float x => if x.isFinite then .float x else .null
  | .arr xs => .arr (itemsAsWritten xs)
  | .obj ms => .obj (membersAsWritten ms)
  | j => j

/-- The same for items. -/
def itemsAsWritten : List Json → List Json
  | [] => []
  | x :: xs => x.asWritten :: itemsAsWritten xs

/-- The same for the values of members. -/
def membersAsWritten : List (Text × Json) → List (Text × Json)
  | [] => []
  | (key, value) :: ms => (key, value.asWritten) :: membersAsWritten ms

end

theorem itemsAsWritten_eq_map (xs : List Json) : itemsAsWritten xs = xs.map asWritten := by
  induction xs with
  | nil => rfl
  | cons x xs ih => exact congrArg (x.asWritten :: ·) ih

theorem membersAsWritten_eq_map (ms : Members) :
    membersAsWritten ms = ms.map fun m => (m.1, m.2.asWritten) := by
  induction ms with
  | nil => rfl
  | cons m ms ih => exact congrArg ((m.1, m.2.asWritten) :: ·) ih

@[simp] theorem asWritten_arr (xs : List Json) :
    (Json.arr xs).asWritten = .arr (xs.map asWritten) :=
  congrArg Json.arr (itemsAsWritten_eq_map xs)

@[simp] theorem asWritten_obj (ms : Members) :
    (Json.obj ms).asWritten = .obj (ms.map fun m => (m.1, m.2.asWritten)) :=
  congrArg Json.obj (membersAsWritten_eq_map ms)

@[simp] theorem asWritten_str (t : Text) : (Json.str t).asWritten = .str t := rfl

theorem asWritten_float (x : Binary64) :
    (Json.float x).asWritten = if x.isFinite then .float x else .null := rfl

theorem isProper_asWritten (j : Json) : j.asWritten.isProper = j.isProper := by
  induction j using nestedInduction with
  | float x =>
    rw [asWritten_float]
    split <;> rfl
  | arr xs ih =>
    rw [Bool.eq_iff_iff, asWritten_arr, isProper_arr, isProper_arr, List.forall_mem_map]
    exact forall₂_congr fun x hx => by rw [ih x hx]
  | obj ms ih =>
    rw [Bool.eq_iff_iff, asWritten_obj, isProper_obj, isProper_obj, List.forall_mem_map]
    exact forall₂_congr fun m hm => by rw [ih m hm]
  | _ => rfl

theorem field_asWritten (j : Json) (key : Text) :
    j.asWritten.field key = (j.field key).asWritten := by
  cases j with
  | obj ms =>
    rw [asWritten_obj, field, field, Members.get?_map]
    cases Members.get? ms key <;> rfl
  | float x =>
    rw [asWritten_float]
    split <;> rfl
  | _ => rfl

theorem items_asWritten (j : Json) : j.asWritten.items = j.items.map asWritten := by
  cases j with
  | arr xs => rw [asWritten_arr, items, items]
  | float x =>
    rw [asWritten_float]
    split <;> rfl
  | _ => rfl

theorem text_asWritten (j : Json) : j.asWritten.text = j.text := by
  cases j with
  | float x =>
    rw [asWritten_float]
    split <;> rfl
  | _ => rfl

/-- A value is written as it is exactly if all its numbers are finite. -/
theorem asWritten_eq_self_iff (j : Json) : j.asWritten = j ↔ j.isFinite = true := by
  induction j using nestedInduction with
  | null | bool _ | int _ | str _ => exact ⟨fun _ => rfl, fun _ => rfl⟩
  | float x =>
    have hfinite : (Json.float x).isFinite = x.isFinite := rfl
    rw [asWritten_float, hfinite]
    by_cases hx : x.isFinite = true
    · simp [hx]
    · simp [hx]
  | arr xs ih =>
    rw [asWritten_arr, isFinite_arr, Json.arr.injEq]
    constructor
    · intro h x hx
      obtain ⟨i, hi, rfl⟩ := List.getElem_of_mem hx
      apply (ih _ hx).mp
      have hget := congrArg (·[i]?) h
      simpa [hi] using hget
    · intro h
      exact (List.map_congr_left fun x hx => (ih x hx).mpr (h x hx)).trans (List.map_id _)
  | obj ms ih =>
    rw [asWritten_obj, isFinite_obj, Json.obj.injEq]
    constructor
    · intro h m hm
      obtain ⟨i, hi, rfl⟩ := List.getElem_of_mem hm
      apply (ih _ hm).mp
      have hget := congrArg (·[i]?) h
      simp only [List.getElem?_map, List.getElem?_eq_getElem hi, Option.map_some,
        Option.some.injEq] at hget
      exact congrArg Prod.snd hget
    · intro h
      refine (List.map_congr_left fun m hm => ?_).trans (List.map_id _)
      exact Prod.ext rfl ((ih m hm).mpr (h m hm))

/-- A value that a text can hold but for numbers that are not finite: the keys of each
object are distinct, and no integer has more digits than are accepted. -/
inductive Storable : Json → Prop where
  | null : Storable .null
  | bool (b : Bool) : Storable (.bool b)
  | int {n : Int} (hn : (digitChars n.natAbs).length ≤ digitLimit) : Storable (.int n)
  | float (x : Binary64) : Storable (.float x)
  | str (t : Text) : Storable (.str t)
  | arr {xs : List Json} (hxs : ∀ x ∈ xs, Storable x) : Storable (.arr xs)
  | obj {ms : Members} (hkeys : (ms.map Prod.fst).Nodup) (hms : ∀ m ∈ ms, Storable m.2) :
    Storable (.obj ms)

end Json

end WorkflowEngine
