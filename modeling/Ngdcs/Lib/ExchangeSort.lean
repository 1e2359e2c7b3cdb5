import Mathlib.Data.List.Perm.Basic

/-! The exchange sort of two nested loops, for any comparison whose negation is transitive. -/
namespace ExchangeSort

variable {α : Type*} (greater : α → α → Bool)

/-- The inner loop: `x` is compared with each later element and exchanged with it where it is
greater. The element that ends up in its place, and the later ones. -/
def exchange (x : α) : List α → α × List α
  | [] => (x, [])
  | y :: ys =>
    if greater x y then
      let r := exchange y ys
      (r.1, x :: r.2)
    else
      let r := exchange x ys
      (r.1, y :: r.2)

/-- The outer loop over the first `n` places. -/
def sortFirst : ℕ → List α → List α
  | 0, l => l
  | _ + 1, [] => []
  | n + 1, x :: xs =>
    let r := exchange greater x xs
    r.1 :: sortFirst n r.2

def exchangeSort (l : List α) : List α := sortFirst greater l.length l

variable {greater}

theorem exchange_perm (x : α) (l : List α) :
    ((exchange greater x l).1 :: (exchange greater x l).2).Perm (x :: l) := by
  induction l generalizing x with
  | nil => exact List.Perm.refl _
  | cons y ys ih =>
    rw [exchange]
    split_ifs
    · exact (List.Perm.swap _ _ _).trans (((ih y).cons x))
    · exact (List.Perm.swap _ _ _).trans (((ih x).cons y).trans (List.Perm.swap _ _ _))

theorem sortFirst_perm (n : ℕ) (l : List α) : (sortFirst greater n l).Perm l := by
  induction n generalizing l with
  | zero => exact List.Perm.refl _
  | succ n ih =>
    cases l with
    | nil => exact List.Perm.refl _
    | cons x xs => exact ((ih _).cons _).trans (exchange_perm x xs)

theorem exchangeSort_perm (l : List α) : (exchangeSort greater l).Perm l := sortFirst_perm _ l

variable (hasymm : ∀ a b, greater a b = true → greater b a = false)
  (htrans : ∀ a b c, greater a b = false → greater b c = false → greater a c = false)

include hasymm htrans

/-- The element in the first place is not greater than what was there, nor than the later
ones. -/
theorem exchange_least (x : α) (l : List α) : greater (exchange greater x l).1 x = false ∧
    ∀ z ∈ (exchange greater x l).2, greater (exchange greater x l).1 z = false := by
  have hrefl (a : α) : greater a a = false := by
    cases h : greater a a with
    | false => rfl
    | true => exact h ▸ hasymm a a h
  induction l generalizing x with
  | nil => exact ⟨hrefl x, nofun⟩
  | cons y ys ih =>
    rw [exchange]
    split_ifs with hxy
    · obtain ⟨hy, hrest⟩ := ih y
      have hx := htrans _ _ _ hy (hasymm x y hxy)
      refine ⟨hx, fun z hz => ?_⟩
      rcases List.mem_cons.mp hz with rfl | hz
      · exact hx
      · exact hrest z hz
    · obtain ⟨hx, hrest⟩ := ih x
      refine ⟨hx, fun z hz => ?_⟩
      rcases List.mem_cons.mp hz with rfl | hz
      · exact htrans _ _ _ hx (by simpa using hxy)
      · exact hrest z hz

theorem sortFirst_sorted {n : ℕ} {l : List α} (hn : l.length ≤ n) :
    (sortFirst greater n l).Pairwise fun a b => greater a b = false := by
  induction n generalizing l with
  | zero =>
    rw [List.length_eq_zero_iff.mp (Nat.le_zero.mp hn)]
    exact List.Pairwise.nil
  | succ n ih =>
    cases l with
    | nil => exact List.Pairwise.nil
    | cons x xs =>
      have hlength := (@exchange_perm _ greater x xs).length_eq
      simp only [List.length_cons, Nat.add_right_cancel_iff] at hlength
      refine List.Pairwise.cons (fun z hz => ?_) (ih ?_)
      · exact (exchange_least hasymm htrans x xs).2 z ((sortFirst_perm n _).mem_iff.mp hz)
      · rw [hlength]
        exact Nat.le_of_succ_le_succ hn

theorem exchangeSort_sorted (l : List α) :
    (exchangeSort greater l).Pairwise fun a b => greater a b = false :=
  sortFirst_sorted hasymm htrans (Nat.le_refl _)

end ExchangeSort
