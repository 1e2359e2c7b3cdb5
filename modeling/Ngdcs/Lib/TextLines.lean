import Mathlib.Data.List.Basic
import Mathlib.Tactic.SplitIfs

/-! Text files read with `fgets`, and the bytes of a C string in its buffer. A file of lines that
fit into the buffer is read line by line. -/
namespace TextLines

variable {n : ℕ}

/-- What `fgets` stores in a buffer of `n + 1` bytes, and what it leaves in the file. -/
def takeLine : ℕ → List UInt8 → List UInt8 × List UInt8
  | 0, s => ([], s)
  | _ + 1, [] => ([], [])
  | n + 1, b :: s =>
    if b = 10 then ([10], s)
    else
      let r := takeLine n s
      (b :: r.1, r.2)

/-- What the buffer holds after each call until `fgets` returns NULL. -/
def fgetsLoop (n : ℕ) : ℕ → List UInt8 → List (List UInt8)
  | 0, _ => []
  | fuel + 1, s =>
    if s = [] then []
    else
      let r := takeLine n s
      r.1 :: fgetsLoop n fuel r.2

/-- Each call takes a byte at least. -/
def fgetsAll (n : ℕ) (s : List UInt8) : List (List UInt8) := fgetsLoop n s.length s

/-- A line that is stored whole. -/
structure FitsBuffer (n : ℕ) (line : List UInt8) : Prop where
  newline : ∃ body, 10 ∉ body ∧ line = body ++ [10]
  length_le : line.length ≤ n

theorem takeLine_line {line : List UInt8} (h : FitsBuffer n line) (rest : List UInt8) :
    takeLine n (line ++ rest) = (line, rest) := by
  obtain ⟨⟨body, hbody, rfl⟩, hlength⟩ := h
  induction body generalizing n with
  | nil =>
    obtain ⟨n, rfl⟩ := Nat.exists_eq_succ_of_ne_zero (Nat.ne_of_gt hlength)
    rfl
  | cons b body ih =>
    obtain ⟨hb, hbody⟩ := not_or.mp (List.mem_cons.not.mp hbody)
    obtain ⟨n, rfl⟩ := Nat.exists_eq_succ_of_ne_zero (Nat.ne_of_gt (Nat.zero_lt_of_lt hlength))
    have hrest := ih hbody (Nat.le_of_succ_le_succ hlength)
    simp only [List.cons_append] at hrest ⊢
    rw [takeLine, if_neg (Ne.symm hb), hrest]

theorem fgetsLoop_flatten {fuel : ℕ} {lines : List (List UInt8)}
    (h : ∀ line ∈ lines, FitsBuffer n line) (hfuel : lines.flatten.length ≤ fuel) :
    fgetsLoop n fuel lines.flatten = lines := by
  induction lines generalizing fuel with
  | nil => cases fuel <;> rfl
  | cons line lines ih =>
    have hline := h line List.mem_cons_self
    obtain ⟨body, -, hbody⟩ := hline.newline
    have hpos : 0 < line.length := by simp [hbody]
    rw [List.flatten_cons, List.length_append] at hfuel
    obtain ⟨fuel, rfl⟩ := Nat.exists_eq_succ_of_ne_zero (show fuel ≠ 0 by omega)
    have hne : line ++ lines.flatten ≠ [] := by simp [hbody]
    rw [List.flatten_cons, fgetsLoop, if_neg hne, takeLine_line hline]
    exact congrArg (line :: ·) (ih (fun l hl => h l (List.mem_cons_of_mem line hl)) (by omega))

theorem fgetsAll_flatten {lines : List (List UInt8)} (h : ∀ line ∈ lines, FitsBuffer n line) :
    fgetsAll n lines.flatten = lines :=
  fgetsLoop_flatten h (Nat.le_refl _)

/-! ### Files of any text -/

/-- What a call of `fgets` stores: no more than the buffer holds, with a newline at its end or
none at all. -/
structure Piece (n : ℕ) (piece : List UInt8) : Prop where
  length_le : piece.length ≤ n
  newline : 10 ∈ piece → ∃ body, 10 ∉ body ∧ piece = body ++ [10]

theorem takeLine_piece (n : ℕ) (s : List UInt8) : Piece n (takeLine n s).1 := by
  induction n generalizing s with
  | zero => exact ⟨Nat.le_refl 0, nofun⟩
  | succ n ih =>
    cases s with
    | nil => exact ⟨Nat.zero_le _, nofun⟩
    | cons b s =>
      rw [takeLine]
      by_cases hb : b = 10
      · rw [if_pos hb]
        exact ⟨Nat.succ_le_succ (Nat.zero_le n), fun _ => ⟨[], nofun, rfl⟩⟩
      · rw [if_neg hb]
        obtain ⟨hlength, hnewline⟩ := ih s
        refine ⟨Nat.succ_le_succ hlength, fun hmem => ?_⟩
        obtain ⟨body, hbody, heq⟩ :=
          hnewline ((List.mem_cons.mp hmem).resolve_left fun h => hb h.symm)
        refine ⟨b :: body, ?_, congrArg (b :: ·) heq⟩
        exact List.mem_cons.not.mpr (not_or.mpr ⟨fun h => hb h.symm, hbody⟩)

theorem fgetsAll_piece {n : ℕ} {s piece : List UInt8} (h : piece ∈ fgetsAll n s) :
    Piece n piece := by
  have hloop (fuel : ℕ) (s : List UInt8) (h : piece ∈ fgetsLoop n fuel s) : Piece n piece := by
    induction fuel generalizing s with
    | zero => cases h
    | succ fuel ih =>
      rw [fgetsLoop] at h
      split_ifs at h with hs
      · cases h
      · rcases List.mem_cons.mp h with rfl | hrest
        · exact takeLine_piece n s
        · exact ih _ hrest
  exact hloop s.length s h

end TextLines
