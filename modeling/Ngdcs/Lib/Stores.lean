import Mathlib.Data.List.Basic

/-! Stores into an array of fixed length, one element at a time. A store outside the array has no
result; consecutive stores are one write of all the elements. -/
namespace Stores

variable {α : Type*}

/-- `a[i] = x` -/
def store (a : List α) (i : ℕ) (x : α) : Option (List α) :=
  if i < a.length then some (a.set i x) else none

/-- Consecutive stores from index `i` on. -/
def stores (a : List α) (i : ℕ) : List α → Option (List α)
  | [] => some a
  | x :: xs => (store a i x).bind fun a => stores a (i + 1) xs

/-- The array with `xs` written over its elements from `i` on. -/
def overwrite (a : List α) (i : ℕ) (xs : List α) : List α :=
  a.take i ++ xs ++ a.drop (i + xs.length)

@[simp] theorem overwrite_nil (a : List α) (i : ℕ) : overwrite a i [] = a := by
  simp [overwrite]

theorem length_overwrite {a xs : List α} {i : ℕ} (h : i + xs.length ≤ a.length) :
    (overwrite a i xs).length = a.length := by
  rw [overwrite, List.length_append, List.length_append, List.length_take, List.length_drop]
  omega

theorem getElem?_overwrite_of_lt {a xs : List α} {i j : ℕ} (hi : i ≤ a.length) (h : j < i) :
    (overwrite a i xs)[j]? = a[j]? := by
  rw [overwrite, List.append_assoc, List.getElem?_append_left (by rw [List.length_take]; omega),
    List.getElem?_take_of_lt h]

theorem getElem?_overwrite_add {a xs : List α} {i j : ℕ} (hi : i ≤ a.length)
    (h : j < xs.length) : (overwrite a i xs)[i + j]? = xs[j]? := by
  have htake : (a.take i).length = i := by
    rw [List.length_take]
    omega
  rw [overwrite, List.append_assoc, List.getElem?_append_right (by omega), htake,
    Nat.add_sub_cancel_left, List.getElem?_append_left h]

theorem stores_eq {a xs : List α} {i : ℕ} (h : i + xs.length ≤ a.length) :
    stores a i xs = some (overwrite a i xs) := by
  induction xs generalizing a i with
  | nil => simp [stores]
  | cons x xs ih =>
    rw [List.length_cons] at h
    have hi : i < a.length := by omega
    have hrest : i + 1 + xs.length ≤ (a.set i x).length := by
      rw [List.length_set]
      omega
    have htake : (a.set i x).take (i + 1) = a.take i ++ [x] := by
      rw [List.take_succ_eq_append_getElem (by simpa using hi), List.take_set_of_le (Nat.le_refl i),
        List.getElem_set_self]
    have hdrop : (a.set i x).drop (i + 1 + xs.length) = a.drop (i + 1 + xs.length) :=
      List.drop_set_of_lt (by omega)
    rw [stores, store, if_pos hi, Option.bind_some, ih hrest, overwrite, htake, hdrop, overwrite,
      List.length_cons, List.append_assoc, List.append_assoc, List.append_assoc, List.singleton_append,
      List.cons_append, Nat.add_right_comm, Nat.add_assoc]

@[simp] theorem stores_singleton (a : List α) (i : ℕ) (x : α) : stores a i [x] = store a i x := by
  rw [stores]
  cases store a i x <;> rfl

theorem length_store {a b : List α} {i : ℕ} {x : α} (h : store a i x = some b) :
    b.length = a.length := by
  unfold store at h
  split_ifs at h
  rw [← Option.some.inj h, List.length_set]

theorem length_stores {a b xs : List α} {i : ℕ} (h : stores a i xs = some b) :
    b.length = a.length := by
  induction xs generalizing a i with
  | nil => exact congrArg List.length (Option.some.inj h).symm
  | cons x xs ih =>
    obtain ⟨c, hc, hrest⟩ := Option.bind_eq_some_iff.mp h
    exact (ih hrest).trans (length_store hc)

theorem stores_none {a xs : List α} {i : ℕ} (hxs : xs ≠ []) (h : a.length < i + xs.length) :
    stores a i xs = none := by
  induction xs generalizing a i with
  | nil => exact absurd rfl hxs
  | cons x xs ih =>
    rw [List.length_cons] at h
    unfold stores store
    split_ifs with hi
    · have hne : xs ≠ [] := by
        rintro rfl
        simp at h
        omega
      rw [Option.bind_some]
      apply ih hne
      rw [List.length_set]
      omega
    · rfl

theorem stores_append (a xs ys : List α) (i : ℕ) :
    stores a i (xs ++ ys) = (stores a i xs).bind fun a => stores a (i + xs.length) ys := by
  induction xs generalizing a i with
  | nil => rfl
  | cons x xs ih =>
    rw [List.cons_append, stores, stores]
    cases store a i x with
    | none => rfl
    | some b =>
      rw [Option.bind_some, Option.bind_some, ih, List.length_cons]
      simp only [Nat.add_assoc, Nat.add_comm 1]

theorem stores_isSome_iff {a xs : List α} (i : ℕ) (hxs : xs ≠ []) :
    (stores a i xs).isSome ↔ i + xs.length ≤ a.length := by
  constructor
  · intro h
    by_contra hlt
    rw [stores_none hxs (Nat.lt_of_not_le hlt)] at h
    cases h
  · intro h
    rw [stores_eq h]
    rfl

end Stores
