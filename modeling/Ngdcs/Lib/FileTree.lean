import Mathlib.Data.List.Infix
import Mathlib.Logic.Function.Basic

/-! A tree of directories and files, the walk along the components of a path, and the directory
that `mkdir` makes at its end. -/
namespace FileTrees

variable {α M : Type*}

/-- A directory or a file, with its mode. -/
inductive Node (M : Type*) where
  | dir (mode : M)
  | file (mode : M)
  deriving DecidableEq

def Node.mode : Node M → M
  | .dir m => m
  | .file m => m

/-- What stands at each location. A location is the list of names from it up to the root; only
directories have entries. -/
structure FileTree (α M : Type*) where
  node : List α → Option (Node M)
  root_dir : ∃ m, node [] = some (.dir m)
  parent_dir : ∀ a l, node (a :: l) ≠ none → ∃ m, node l = some (.dir m)

/-- What stands between two slashes of a path; `empty` is nothing. -/
inductive Component (α : Type*) where
  | empty
  | dot
  | dotDot
  | name (a : α)
  deriving DecidableEq

namespace FileTree

def isDir (t : FileTree α M) (l : List α) : Bool :=
  match t.node l with
  | some (.dir _) => true
  | _ => false

theorem isDir_iff {t : FileTree α M} {l : List α} :
    t.isDir l = true ↔ ∃ m, t.node l = some (.dir m) := by
  unfold isDir
  split
  · next m h => exact iff_of_true rfl ⟨m, h⟩
  · next h => exact iff_of_false Bool.noConfusion fun ⟨m, hm⟩ => h m hm

theorem node_ne_none {t : FileTree α M} {l : List α} {n : Node M} (h : t.node l = some n) :
    t.node l ≠ none := Option.ne_none_iff_exists'.mpr ⟨n, h⟩

/-- Everything above what exists exists. -/
theorem node_of_suffix (t : FileTree α M) {l l' : List α} (h : t.node l ≠ none)
    (hsuffix : l' <:+ l) : t.node l' ≠ none := by
  induction l with
  | nil => rwa [List.suffix_nil.mp hsuffix]
  | cons a l ih =>
    rcases List.suffix_cons_iff.mp hsuffix with rfl | hsuffix
    · exact h
    · obtain ⟨m, hm⟩ := t.parent_dir a l h
      exact ih (node_ne_none hm) hsuffix

/-- `t'` has everything that `t` has, unchanged. -/
def Extends (t' t : FileTree α M) : Prop := ∀ l n, t.node l = some n → t'.node l = some n

section Walk

variable (t : FileTree α M) (maySearch : List α → Bool)

/-- One component of a walk. A slash asks for a directory, and what follows it for permission to
search the directory. -/
def lookup (l : List α) : Component α → Option (List α)
  | .empty => if t.isDir l then some l else none
  | .dot => if t.isDir l ∧ maySearch l then some l else none
  | .dotDot => if t.isDir l ∧ maySearch l then some l.tail else none
  | .name a =>
    if t.isDir l ∧ maySearch l ∧ (t.node (a :: l)).isSome then some (a :: l) else none

def walk (l : List α) (cs : List (Component α)) : Option (List α) :=
  cs.foldlM (t.lookup maySearch) l

variable {t maySearch} {t' : FileTree α M} {l l' : List α}

theorem walk_append {cs cs' : List (Component α)} (h : t.walk maySearch l cs = some l') :
    t.walk maySearch l (cs ++ cs') = t.walk maySearch l' cs' := by
  unfold walk at h ⊢
  rw [List.foldlM_append, h]
  rfl

theorem walk_append_singleton {cs : List (Component α)} {c : Component α}
    (h : t.walk maySearch l cs = some l') :
    t.walk maySearch l (cs ++ [c]) = t.lookup maySearch l' c := by
  rw [walk_append h]
  exact Option.bind_fun_some _

/-- What a walk comes to exists. -/
theorem node_of_lookup {c : Component α} (h : t.lookup maySearch l c = some l') :
    t.node l' ≠ none := by
  have hnode : t.isDir l = true → t.node l ≠ none := by
    intro hdir
    obtain ⟨m, hm⟩ := isDir_iff.mp hdir
    exact node_ne_none hm
  cases c with
  | empty =>
    obtain ⟨hdir, hl⟩ := Option.ite_none_right_eq_some.mp h
    exact Option.some.inj hl ▸ hnode hdir
  | dot =>
    obtain ⟨⟨hdir, -⟩, hl⟩ := Option.ite_none_right_eq_some.mp h
    exact Option.some.inj hl ▸ hnode hdir
  | dotDot =>
    obtain ⟨⟨hdir, -⟩, hl⟩ := Option.ite_none_right_eq_some.mp h
    exact Option.some.inj hl ▸ t.node_of_suffix (hnode hdir) (List.tail_suffix l)
  | name a =>
    obtain ⟨⟨-, -, hsome⟩, hl⟩ := Option.ite_none_right_eq_some.mp h
    exact Option.some.inj hl ▸ Option.isSome_iff_ne_none.mp hsome

/-- Slashes at the end of a path ask for a directory and lead nowhere else. -/
theorem walk_replicate_empty (hdir : t.isDir l = true) (k : ℕ) :
    t.walk maySearch l (List.replicate k .empty) = some l := by
  induction k with
  | zero => rfl
  | succ k ih =>
    unfold walk at ih ⊢
    rw [List.replicate_succ, List.foldlM_cons, lookup, if_pos hdir]
    exact ih

theorem eq_of_walk_replicate_empty {k : ℕ}
    (h : t.walk maySearch l (List.replicate k .empty) = some l') : l' = l := by
  induction k with
  | zero => exact (Option.some.inj h).symm
  | succ k ih =>
    unfold walk at ih h
    rw [List.replicate_succ, List.foldlM_cons] at h
    obtain ⟨l₁, hl₁, hrest⟩ := Option.bind_eq_some_iff.mp h
    obtain ⟨-, hl⟩ := Option.ite_none_right_eq_some.mp hl₁
    rw [← Option.some.inj hl] at hrest
    exact ih hrest

theorem Extends.isDir (hext : t'.Extends t) (h : t.isDir l = true) : t'.isDir l = true := by
  obtain ⟨m, hm⟩ := isDir_iff.mp h
  exact isDir_iff.mpr ⟨m, hext l _ hm⟩

theorem Extends.isSome (hext : t'.Extends t) (h : (t.node l).isSome = true) :
    (t'.node l).isSome = true := by
  obtain ⟨n, hn⟩ := Option.isSome_iff_exists.mp h
  exact Option.isSome_iff_exists.mpr ⟨n, hext l n hn⟩

theorem Extends.lookup (hext : t'.Extends t) {c : Component α}
    (h : t.lookup maySearch l c = some l') : t'.lookup maySearch l c = some l' := by
  cases c with
  | empty =>
    obtain ⟨hdir, hl⟩ := Option.ite_none_right_eq_some.mp h
    exact (if_pos (hext.isDir hdir)).trans hl
  | dot | dotDot =>
    obtain ⟨⟨hdir, hsearch⟩, hl⟩ := Option.ite_none_right_eq_some.mp h
    exact (if_pos ⟨hext.isDir hdir, hsearch⟩).trans hl
  | name a =>
    obtain ⟨⟨hdir, hsearch, hnode⟩, hl⟩ := Option.ite_none_right_eq_some.mp h
    exact (if_pos ⟨hext.isDir hdir, hsearch, hext.isSome hnode⟩).trans hl

/-- A walk goes the same way in a tree that has grown. -/
theorem Extends.walk (hext : t'.Extends t) {cs : List (Component α)}
    (h : t.walk maySearch l cs = some l') : t'.walk maySearch l cs = some l' := by
  induction cs generalizing l with
  | nil => exact h
  | cons c cs ih =>
    unfold FileTree.walk at h ih ⊢
    rw [List.foldlM_cons] at h ⊢
    obtain ⟨l₁, hl, hrest⟩ := Option.bind_eq_some_iff.mp h
    exact Option.bind_eq_some_iff.mpr ⟨l₁, hext.lookup hl, ih hrest⟩

end Walk

section Mkdir

variable [DecidableEq α] (t : FileTree α M)

/-- The tree with a new directory in the directory `l`. -/
def make (a : α) (l : List α) (m : M) (hdir : t.isDir l = true) (hnew : t.node (a :: l) = none) :
    FileTree α M where
  node := Function.update t.node (a :: l) (some (.dir m))
  root_dir := by
    rw [Function.update_of_ne (List.cons_ne_nil a l).symm]
    exact t.root_dir
  parent_dir := by
    intro b l' h
    by_cases hsame : b :: l' = a :: l
    · obtain ⟨rfl, rfl⟩ := List.cons_eq_cons.mp hsame
      rw [Function.update_of_ne (List.cons_ne_self b l').symm]
      exact isDir_iff.mp hdir
    · rw [Function.update_of_ne hsame] at h
      obtain ⟨m', hm'⟩ := t.parent_dir b l' h
      refine ⟨m', ?_⟩
      rw [Function.update_of_ne, hm']
      rintro rfl
      exact nomatch hm'.symm.trans hnew

variable (maySearch mayMake : List α → Bool)

/-- `mkdir` of one name below a directory: the tree afterwards, and the new location. -/
def mkdirAt (l : List α) (m : M) : Component α → Option (FileTree α M × List α)
  | .name a =>
    if h : t.isDir l = true ∧ maySearch l = true ∧ t.node (a :: l) = none ∧
        mayMake (a :: l) = true then some (t.make a l m h.1 h.2.2.1, a :: l)
    else none
  | _ => none

/-- `mkdir` of a path, which may end in slashes. -/
def mkdir (m : M) (l : List α) : List (Component α) → Option (FileTree α M × List α)
  | [] => none
  | c :: cs =>
    if cs.all (· = .empty) then t.mkdirAt maySearch mayMake l m c
    else (t.lookup maySearch l c).bind fun l' => mkdir m l' cs

variable {t maySearch mayMake}

section Make

variable {a : α} {l : List α} {m : M} (hdir : t.isDir l = true) (hnew : t.node (a :: l) = none)

@[simp] theorem node_make_self : (t.make a l m hdir hnew).node (a :: l) = some (.dir m) :=
  Function.update_self ..

theorem node_make_of_ne {l' : List α} (h : l' ≠ a :: l) :
    (t.make a l m hdir hnew).node l' = t.node l' := Function.update_of_ne h _ _

theorem node_make_of_node {l' : List α} (h : t.node l' ≠ none) :
    (t.make a l m hdir hnew).node l' = t.node l' :=
  node_make_of_ne hdir hnew fun hsame => h (hsame ▸ hnew)

theorem extends_make : (t.make a l m hdir hnew).Extends t := by
  intro l' n hn
  rw [node_make_of_node hdir hnew (node_ne_none hn), hn]

theorem lookup_make (hsearch : maySearch l = true) :
    (t.make a l m hdir hnew).lookup maySearch l (.name a) = some (a :: l) :=
  if_pos ⟨(extends_make hdir hnew).isDir hdir, hsearch, by rw [node_make_self]; rfl⟩

end Make

theorem map_snd_mkdirAt {a : α} {l : List α} {m : M} :
    (t.mkdirAt maySearch mayMake l m (.name a)).map Prod.snd =
      if t.isDir l = true ∧ maySearch l = true ∧ t.node (a :: l) = none ∧
        mayMake (a :: l) = true then some (a :: l) else none := by
  show Option.map Prod.snd (dite _ _ _) = _
  split
  · rfl
  · rfl

/-- Where the walk so far comes to an end, `mkdir` makes the last name of the path there. -/
theorem mkdir_append_singleton {m : M} {l l' : List α} {cs : List (Component α)}
    {c : Component α} (h : t.walk maySearch l cs = some l') :
    t.mkdir maySearch mayMake m l (cs ++ [c]) = t.mkdirAt maySearch mayMake l' m c := by
  induction cs generalizing l with
  | nil =>
    cases h
    exact if_pos rfl
  | cons c₁ cs ih =>
    obtain ⟨l₁, hl, hrest⟩ := Option.bind_eq_some_iff.mp h
    rw [List.cons_append, mkdir]
    split
    · next hall =>
      have hc : c = .empty := of_decide_eq_true (List.all_eq_true.mp hall c (by simp))
      cases c₁ with
      | name a =>
        obtain ⟨⟨-, -, hsome⟩, -⟩ := Option.ite_none_right_eq_some.mp hl
        rw [hc]
        refine dif_neg fun hnew => ?_
        rw [hnew.2.2.1] at hsome
        cases hsome
      | empty | dot | dotDot =>
        rw [hc]
        rfl
    · rw [hl]
      exact ih hrest

end Mkdir

end FileTree

end FileTrees
