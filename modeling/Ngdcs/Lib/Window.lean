import Ngdcs.Lib.Stores
import Mathlib.Tactic.SplitIfs

/-! The last few values of a stream, kept in an array of fixed length: the array fills up, and
then its elements move down by one place for each new value. -/
namespace Window
open Stores

variable {α β : Type*}

/-- The last `m` values. -/
def recent (m : ℕ) (vs : List α) : List α := vs.drop (vs.length - m)

@[simp] theorem length_recent (m : ℕ) (vs : List α) :
    (recent m vs).length = min vs.length m := by
  rw [recent, List.length_drop]
  omega

theorem recent_of_le {m : ℕ} {vs : List α} (h : vs.length ≤ m) : recent m vs = vs := by
  rw [recent, Nat.sub_eq_zero_of_le h, List.drop_zero]

theorem recent_min (m : ℕ) (vs : List α) : recent (min vs.length m) vs = recent m vs := by
  rw [recent, recent]
  congr 1
  omega

theorem recent_concat {m : ℕ} {vs : List α} (v : α) (h : m ≤ vs.length) (hm : 0 < m) :
    recent m (vs ++ [v]) = (recent m vs).tail ++ [v] := by
  rw [recent, recent, List.tail_drop, List.length_append, List.length_singleton,
    List.drop_append_of_le_length (by omega)]
  congr 2
  omega

theorem recent_map (m : ℕ) (f : α → β) (vs : List α) :
    recent m (vs.map f) = (recent m vs).map f := by
  rw [recent, recent, List.length_map, List.map_drop]

/-- `a[i-1] = f(a[i])` for `n` values of `i`. -/
def shiftDown (f : α → α) : ℕ → ℕ → List α → Option (List α)
  | 0, _, a => some a
  | n + 1, i, a => do
    let x ← a[i]?
    let a ← store a (i - 1) (f x)
    shiftDown f n (i + 1) a

theorem shiftDown_eq (f : α → α) (n i : ℕ) (a : List α) (hi : 1 ≤ i) (h : i + n = a.length) :
    shiftDown f n i a =
      some (a.take (i - 1) ++ (a.drop i).map f ++ a.drop (a.length - 1)) := by
  induction n generalizing i a with
  | zero =>
    rw [Nat.add_zero] at h
    rw [shiftDown, h, List.drop_length, List.map_nil, List.append_nil, List.take_append_drop]
  | succ n ih =>
    have hlt : i < a.length := by omega
    have htake : (a.set (i - 1) (f a[i])).take i = a.take (i - 1) ++ [f a[i]] := by
      obtain ⟨j, rfl⟩ : ∃ j, i = j + 1 := ⟨i - 1, by omega⟩
      rw [Nat.add_sub_cancel, List.take_succ_eq_append_getElem (by simpa using by omega),
        List.take_set_of_le (Nat.le_refl j), List.getElem_set_self]
    have hdrop : (a.set (i - 1) (f a[i])).drop (i + 1) = a.drop (i + 1) :=
      List.drop_set_of_lt (by omega)
    have hlast : (a.set (i - 1) (f a[i])).drop (a.length - 1) = a.drop (a.length - 1) :=
      List.drop_set_of_lt (by omega)
    have hlen : (a.set (i - 1) (f a[i])).length = a.length := List.length_set
    rw [shiftDown, List.getElem?_eq_getElem hlt, Option.bind_eq_bind, Option.bind_some, store,
      if_pos (by omega), Option.bind_eq_bind, Option.bind_some,
      ih (i + 1) _ (by omega) (by rw [hlen]; omega), Nat.add_sub_cancel, htake, hdrop, hlen, hlast,
      List.drop_eq_getElem_cons hlt, List.map_cons, List.append_assoc, List.append_assoc,
      List.append_assoc]
    rfl

/-- In an array of `n` elements, moving every element down and storing a new one in the last
place. -/
def scroll (n : ℕ) (f : α → α) (v : α) (a : List α) : Option (List α) := do
  let a ← shiftDown f (n - 1) 1 a
  store a (n - 1) v

theorem scroll_eq (f : α → α) (v : α) {a : List α} {n : ℕ} (hn : a.length = n) (h : 0 < n) :
    scroll n f v a = some (a.tail.map f ++ [v]) := by
  have hshift := shiftDown_eq f (n - 1) 1 a (Nat.le_refl 1) (by omega)
  rw [Nat.sub_self, List.take_zero, List.nil_append, List.drop_one, hn] at hshift
  have hlen : (a.tail.map f ++ a.drop (n - 1)).length = n := by
    rw [List.length_append, List.length_map, List.length_tail, List.length_drop]
    omega
  have htake : (a.tail.map f ++ a.drop (n - 1)).take (n - 1) = a.tail.map f :=
    List.take_left' (by rw [List.length_map, List.length_tail, hn])
  rw [scroll, hshift, Option.bind_eq_bind, Option.bind_some, ← stores_singleton,
    stores_eq (by rw [hlen, List.length_singleton]; omega), overwrite, htake,
    List.length_singleton, Nat.sub_add_cancel h, List.drop_of_length_le (Nat.le_of_eq hlen),
    List.append_nil]

end Window
