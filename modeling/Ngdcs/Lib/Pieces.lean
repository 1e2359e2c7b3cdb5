import Mathlib.Data.List.Basic

/-! Lists cut into pieces of one length, and the pieces of a list that was put together from
such pieces. A list that grows is cut into pairs as it comes. -/
namespace Pieces

variable {α : Type*}

/-- The elements from `i * size` on, `size` of them. -/
def piece (size i : ℕ) (s : List α) : List α := (s.drop (i * size)).take size

theorem length_flatten_pieces {size : ℕ} {pieces : List (List α)}
    (h : ∀ p ∈ pieces, p.length = size) : pieces.flatten.length = pieces.length * size := by
  induction pieces with
  | nil => exact (Nat.zero_mul size).symm
  | cons p pieces ih =>
    rw [List.flatten_cons, List.length_append, h p List.mem_cons_self,
      ih fun q hq => h q (List.mem_cons_of_mem p hq), List.length_cons, Nat.succ_mul, Nat.add_comm]

theorem map_piece_flatten {size : ℕ} {pieces : List (List α)}
    (h : ∀ p ∈ pieces, p.length = size) :
    (List.range pieces.length).map (fun i => piece size i pieces.flatten) = pieces := by
  induction pieces with
  | nil => rfl
  | cons p pieces ih =>
    have hp : p.length = size := h p List.mem_cons_self
    rw [List.length_cons, List.range_succ_eq_map, List.map_cons, List.map_map, List.flatten_cons]
    congr 1
    · rw [piece, Nat.zero_mul, List.drop_zero, List.take_left' hp]
    · refine Eq.trans (List.map_congr_left fun i _ => ?_)
        (ih fun q hq => h q (List.mem_cons_of_mem p hq))
      have hindex : (i + 1) * size = p.length + i * size := by
        rw [hp, Nat.add_mul, Nat.one_mul, Nat.add_comm]
      rw [Function.comp_apply, piece, hindex, List.drop_length_add_append, piece]

/-- The elements two by two, without the last one of an odd number. -/
def pairs : List α → List (α × α)
  | a :: b :: l => (a, b) :: pairs l
  | _ => []

/-- The last element of an odd number of them. -/
def leftover : List α → List α
  | _ :: _ :: l => leftover l
  | l => l

@[simp] theorem pairs_nil : pairs ([] : List α) = [] := rfl

@[simp] theorem leftover_nil : leftover ([] : List α) = [] := rfl

@[simp] theorem pairs_pair (a b : α) : pairs [a, b] = [(a, b)] := rfl

@[simp] theorem leftover_pair (a b : α) : leftover [a, b] = [] := rfl

/-- More elements pair with what is left over. -/
theorem pairs_append (u v : List α) : pairs (u ++ v) = pairs u ++ pairs (leftover u ++ v) := by
  induction u using pairs.induct with
  | case1 a b l ih => rw [List.cons_append, List.cons_append, pairs, ih]; rfl
  | case2 l h =>
    match l, h with
    | [], _ => rfl
    | [_], _ => rfl
    | a :: b :: l, h => exact absurd rfl (h a b l)

theorem leftover_append (u v : List α) : leftover (u ++ v) = leftover (leftover u ++ v) := by
  induction u using pairs.induct with
  | case1 a b l ih => rw [List.cons_append, List.cons_append, leftover, ih]; rfl
  | case2 l h =>
    match l, h with
    | [], _ => rfl
    | [_], _ => rfl
    | a :: b :: l, h => exact absurd rfl (h a b l)

theorem length_leftover (u : List α) : (leftover u).length = u.length % 2 := by
  induction u using pairs.induct with
  | case1 a b l ih => rw [leftover, ih, List.length_cons, List.length_cons]; omega
  | case2 l h =>
    match l, h with
    | [], _ => rfl
    | [_], _ => rfl
    | a :: b :: l, h => exact absurd rfl (h a b l)

end Pieces
