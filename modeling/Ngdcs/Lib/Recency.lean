import Mathlib.Data.List.Nodup
import Mathlib.Data.List.Dedup

/-! Lists of a fixed number of slots with the most recently used name in front. The slots
behind the names are blank. -/
namespace Recency

variable {α : Type*} (blank : α)

/-- The first `n` names, filled up with blank slots. -/
def padded (n : ℕ) (names : List α) : List α :=
  names.take n ++ List.replicate (n - names.length) blank

@[simp] theorem length_padded (n : ℕ) (names : List α) : (padded blank n names).length = n := by
  rw [padded, List.length_append, List.length_take, List.length_replicate]
  omega

@[simp] theorem padded_zero (names : List α) : padded blank 0 names = [] := by
  simp [padded]

theorem padded_nil (n : ℕ) : padded blank (n + 1) [] = blank :: padded blank n [] := by
  simp [padded, List.replicate_succ]

theorem padded_cons (n : ℕ) (name : α) (names : List α) :
    padded blank (n + 1) (name :: names) = name :: padded blank n names := by
  simp [padded]

variable [DecidableEq α]

/-- The names among the slots. -/
def names (slots : List α) : List α := slots.filter (· ≠ blank)

theorem names_padded (n : ℕ) (l : List α) :
    names blank (padded blank n l) = names blank (l.take n) := by
  simp [names, padded]

/-- `name` moves or comes to the front, the others keep their order, and as many as there are
slots stay. -/
def touch (name : α) (slots : List α) : List α :=
  name :: padded blank (slots.length - 1) (slots.filter (· ≠ name))

variable {blank}

theorem nodup_touch {name : α} {slots : List α} (hname : name ≠ blank)
    (h : (names blank slots).Nodup) : (names blank (touch blank name slots)).Nodup := by
  have hcons : names blank (touch blank name slots) =
      name :: names blank ((slots.filter (· ≠ name)).take (slots.length - 1)) := by
    rw [touch, names, List.filter_cons_of_pos (by simpa using hname), ← names, names_padded]
  have hsub : (names blank ((slots.filter (· ≠ name)).take (slots.length - 1))).Sublist
      (names blank slots) :=
    ((List.take_sublist _ _).trans List.filter_sublist).filter _
  rw [hcons, List.nodup_cons]
  constructor
  · intro hmem
    simpa using List.of_mem_filter (List.mem_of_mem_take (List.mem_of_mem_filter hmem))
  · exact h.sublist hsub

/-- Only the name in the last slot can be lost, and only to a name that is new. -/
theorem lost_of_touch {name x : α} {slots : List α} (hx : x ∈ slots)
    (hlost : x ∉ touch blank name slots) :
    name ∉ slots ∧ slots.getLast? = some x ∧ x ∉ slots.dropLast := by
  have hne : x ≠ name := by
    rintro rfl
    exact hlost (by simp [touch])
  have hmem : x ∈ slots.filter (· ≠ name) := List.mem_filter.mpr ⟨hx, by simpa using hne⟩
  have htake : x ∉ (slots.filter (· ≠ name)).take (slots.length - 1) := fun h =>
    hlost (List.mem_cons_of_mem _ (List.mem_append_left _ h))
  have hnew : name ∉ slots := by
    intro hin
    have hlt : (slots.filter (· ≠ name)).length < slots.length :=
      List.length_filter_lt_length_iff_exists.mpr ⟨name, hin, by simp⟩
    rw [List.take_of_length_le (by omega)] at htake
    exact htake hmem
  have hall : slots.filter (· ≠ name) = slots :=
    List.filter_eq_self.mpr fun y hy => by simpa using fun h : y = name => hnew (h ▸ hy)
  rw [hall, ← List.dropLast_eq_take] at htake
  have hlast : slots = slots.dropLast ++ [slots.getLast (List.ne_nil_of_mem hx)] :=
    (List.dropLast_append_getLast _).symm
  refine ⟨hnew, ?_, htake⟩
  rw [List.getLast?_eq_some_getLast (List.ne_nil_of_mem hx)]
  rw [hlast, List.mem_append, List.mem_singleton] at hx
  exact congrArg some (hx.resolve_left htake).symm

end Recency
