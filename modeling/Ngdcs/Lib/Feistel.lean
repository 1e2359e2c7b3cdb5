import Mathlib.Logic.Function.Basic
import Mathlib.Tactic.TypeStar

/-! Feistel networks: blocks of two halves that are changed in turns, each by a function of the
other, and how that is undone. -/
namespace Feistel

open Function

section

variable {ι β : Type*} {f g : ι → β → β}

/-- The steps `f i` for the indices of a list in turn. -/
def turns (f : ι → β → β) (is : List ι) (b : β) : β := is.foldl (fun b i => f i b) b

theorem turns_append (is js : List ι) (b : β) :
    turns f (is ++ js) b = turns f js (turns f is b) := List.foldl_append

/-- Steps are undone from the last to the first. -/
theorem leftInverse_turns (h : ∀ i, LeftInverse (g i) (f i)) (is : List ι) :
    LeftInverse (turns g is.reverse) (turns f is) := by
  intro b
  induction is generalizing b with
  | nil => rfl
  | cons i is ih =>
    have hrest : turns g is.reverse (turns f (i :: is) b) = f i b := ih (f i b)
    rw [List.reverse_cons, turns_append, hrest]
    exact h i b

end

section

variable {α : Type*} (xor : α → α → α) (F : α → α)

/-- A half is changed by a key, and then the other one by what the first has become. -/
def mix (k : α) (b : α × α) : α × α := (xor b.1 k, xor b.2 (F (xor b.1 k)))

def unmix (k : α) (b : α × α) : α × α := (xor b.1 k, xor b.2 (F b.1))

/-- `mix` with the halves in the other order. -/
def mixSwapped (k : α) (b : α × α) : α × α := (mix xor F k b.swap).swap

def unmixSwapped (k : α) (b : α × α) : α × α := (unmix xor F k b.swap).swap

variable {xor} (hxor : ∀ a b, xor (xor a b) b = a)

include hxor

theorem unmix_mix (k : α) : LeftInverse (unmix xor F k) (mix xor F k) := by
  intro b
  rw [unmix, mix, hxor, hxor]

theorem mix_unmix (k : α) : LeftInverse (mix xor F k) (unmix xor F k) := by
  intro b
  rw [unmix, mix, hxor, hxor]

theorem unmixSwapped_mixSwapped (k : α) :
    LeftInverse (unmixSwapped xor F k) (mixSwapped xor F k) := by
  intro b
  rw [unmixSwapped, mixSwapped, Prod.swap_swap, unmix_mix F hxor k, Prod.swap_swap]

theorem mixSwapped_unmixSwapped (k : α) :
    LeftInverse (mixSwapped xor F k) (unmixSwapped xor F k) := by
  intro b
  rw [unmixSwapped, mixSwapped, Prod.swap_swap, mix_unmix F hxor k, Prod.swap_swap]

end

end Feistel
