import Ngdcs.Lib.FileTree

/-! Making the missing directories of a path, from its first component to its last. Each is made
with the mode that the directory before it has, as far as the process lets it. -/
namespace FileTrees

variable {α M : Type*}

/-- What a process may do at each location, and what is left of the mode it asks for. -/
structure Process (α M : Type*) where
  maySearch : List α → Bool
  mayMake : List α → Bool
  masked : M → M
  masked_masked : ∀ m, masked (masked m) = masked m

/-- The tree, where the walk has come to, the mode to ask for next, and the locations of the
directories made so far, in order. -/
structure Making (α M : Type*) where
  tree : FileTree α M
  place : List α
  desired : M
  made : List (List α)

namespace Making

variable [DecidableEq α] (p : Process α M)

/-- What stands there gives the mode to ask for next; what is missing is made. -/
def next (s : Making α M) (c : Component α) : Option (Making α M) :=
  match s.tree.lookup p.maySearch s.place c with
  | some l => (s.tree.node l).map fun n => { s with place := l, desired := n.mode }
  | none =>
    (s.tree.mkdirAt p.maySearch p.mayMake s.place (p.masked s.desired) c).map fun r =>
      { s with tree := r.1, place := r.2, made := s.made ++ [r.2] }

/-- All components in turn, and whether the last was reached. -/
def makePath (s : Making α M) : List (Component α) → Making α M × Bool
  | [] => (s, true)
  | c :: cs =>
    match s.next p c with
    | none => (s, false)
    | some s' => makePath s' cs

variable {p} {s s' : Making α M} {c : Component α}

/-- Everything a step can do. -/
theorem next_cases (h : s.next p c = some s') :
    (∃ l n, s.tree.lookup p.maySearch s.place c = some l ∧ s.tree.node l = some n ∧
      s' = { s with place := l, desired := n.mode }) ∨
    ∃ a hdir hnew, c = .name a ∧ p.maySearch s.place = true ∧ p.mayMake (a :: s.place) = true ∧
      s' = { s with
        tree := s.tree.make a s.place (p.masked s.desired) hdir hnew
        place := a :: s.place
        made := s.made ++ [a :: s.place] } := by
  unfold next at h
  split at h
  · next l hl =>
    obtain ⟨n, hn, hs⟩ := Option.map_eq_some_iff.mp h
    exact Or.inl ⟨l, n, hl, hn, hs.symm⟩
  · next hl =>
    obtain ⟨r, hr, hs⟩ := Option.map_eq_some_iff.mp h
    cases c with
    | name a =>
      obtain ⟨⟨hdir, hsearch, hnew, hmake⟩, hr⟩ := Option.dite_none_right_eq_some.mp hr
      refine Or.inr ⟨a, hdir, hnew, rfl, hsearch, hmake, ?_⟩
      rw [← hs, ← Option.some.inj hr]
    | empty | dot | dotDot => cases hr

theorem map_place_next (s : Making α M) (c : Component α) :
    (s.next p c).map place = (s.tree.lookup p.maySearch s.place c).or
      ((s.tree.mkdirAt p.maySearch p.mayMake s.place (p.masked s.desired) c).map Prod.snd) := by
  unfold next
  cases hl : s.tree.lookup p.maySearch s.place c with
  | none =>
    rw [Option.none_or]
    exact Option.map_map ..
  | some l =>
    obtain ⟨n, hn⟩ := Option.ne_none_iff_exists'.mp (FileTree.node_of_lookup hl)
    show ((s.tree.node l).map _).map place = some l
    rw [hn]
    rfl

end Making

section Reached

variable (t : FileTree α M) (p : Process α M)

/-- A directory, or what is missing and may be made one. -/
def mayBeDir (l : List α) : Bool := t.isDir l || (t.node l).isNone

/-- One component of the walk, where what is missing has been made. -/
def reached (l : List α) : Component α → Option (List α)
  | .empty => if mayBeDir t l then some l else none
  | .dot => if mayBeDir t l ∧ p.maySearch l then some l else none
  | .dotDot => if mayBeDir t l ∧ p.maySearch l then some l.tail else none
  | .name a =>
    if mayBeDir t l ∧ p.maySearch l ∧ ((t.node (a :: l)).isSome ∨ p.mayMake (a :: l)) then
      some (a :: l)
    else none

/-- The locations on the way. -/
def visits (l : List α) : List (Component α) → List (List α)
  | [] => []
  | c :: cs =>
    match reached t p l c with
    | none => []
    | some l' => l' :: visits l' cs

/-- Where the walk ends, if it gets there. -/
def arrives (l : List α) (cs : List (Component α)) : Option (List α) := cs.foldlM (reached t p) l

/-- What stands at a location, or else the nearest above it. -/
def nearest : List α → Option (Node M)
  | [] => t.node []
  | a :: l => (t.node (a :: l)).or (nearest l)

variable {t p} {l l' : List α} {c : Component α} {cs : List (Component α)}

theorem visits_cons_of_some (h : reached t p l c = some l') :
    visits t p l (c :: cs) = l' :: visits t p l' cs := by
  rw [visits, h]

theorem visits_cons_of_none (h : reached t p l c = none) : visits t p l (c :: cs) = [] := by
  rw [visits, h]

theorem arrives_cons :
    arrives t p l (c :: cs) = (reached t p l c).bind fun l' => arrives t p l' cs :=
  List.foldlM_cons

end Reached

variable [DecidableEq α]

/-- How far the making has come from `l₀` in the tree `t₀`, with `d₀` to ask for first: behind the
components `done`, it has been at the locations `visited`. -/
structure Progress (p : Process α M) (t₀ : FileTree α M) (l₀ : List α) (d₀ : M)
    (done : List (Component α)) (visited : List (List α)) (s : Making α M) : Prop where
  ext : s.tree.Extends t₀
  made_iff : ∀ l, l ∈ s.made ↔ t₀.node l = none ∧ s.tree.node l ≠ none
  visited_iff : ∀ l, l ∈ s.made ↔ t₀.node l = none ∧ l ∈ visited
  dirs : ∀ l ∈ s.made, s.tree.isDir l = true ∧ p.mayMake l = true
  downwards : s.made.Pairwise fun l m => ¬m <:+ l
  walked : s.tree.walk p.maySearch l₀ done = some s.place
  onPath : ∀ l ∈ visited, ∃ cs, cs <+: done ∧ s.tree.walk p.maySearch l₀ cs = some l
  place_node : s.tree.node s.place ≠ none
  desired : visited = [] ∧ s.desired = d₀ ∨
    visited ≠ [] ∧ ∀ n, s.tree.node s.place = some n → p.masked s.desired = p.masked n.mode
  first : ∀ l ∈ s.made, visited.head? = some l → t₀.node l.tail ≠ none
  modes : ∀ l ∈ s.made, ∀ n u, s.tree.node l = some n → s.tree.node l.tail = some u →
    n.mode = p.masked (if visited.head? = some l then d₀ else u.mode)

namespace Progress

variable {p : Process α M} {t₀ : FileTree α M} {l₀ : List α} {d₀ : M}
  {done : List (Component α)} {visited : List (List α)} {s s' : Making α M} {c : Component α}

theorem start (hbase : t₀.node l₀ ≠ none) : Progress p t₀ l₀ d₀ [] [] ⟨t₀, l₀, d₀, []⟩ where
  ext := fun _ _ hn => hn
  made_iff := fun _ => iff_of_false List.not_mem_nil fun h => h.2 h.1
  visited_iff := fun _ => iff_of_false List.not_mem_nil fun h => List.not_mem_nil h.2
  dirs := fun _ h => absurd h List.not_mem_nil
  downwards := .nil
  walked := rfl
  onPath := fun _ h => absurd h List.not_mem_nil
  place_node := hbase
  desired := Or.inl ⟨rfl, rfl⟩
  first := fun _ h => absurd h List.not_mem_nil
  modes := fun _ h => absurd h List.not_mem_nil

theorem visited_node (h : Progress p t₀ l₀ d₀ done visited s) {l : List α} (hl : l ∈ visited) :
    s.tree.node l ≠ none := by
  cases hn : t₀.node l with
  | none => exact ((h.made_iff l).mp ((h.visited_iff l).mpr ⟨hn, hl⟩)).2
  | some n => exact FileTree.node_ne_none (h.ext l n hn)

/-- What has been made since the first location was visited is told from it. -/
theorem head?_append (h : Progress p t₀ l₀ d₀ done visited s) {l : List α} (hl : l ∈ s.made)
    (l' : List α) : (visited ++ [l']).head? = visited.head? := by
  cases visited with
  | nil => exact absurd ((h.visited_iff l).mp hl).2 List.not_mem_nil
  | cons l₁ rest => rfl

theorem found (h : Progress p t₀ l₀ d₀ done visited s) {l : List α} {n : Node M}
    (hl : s.tree.lookup p.maySearch s.place c = some l) (hn : s.tree.node l = some n) :
    Progress p t₀ l₀ d₀ (done ++ [c]) (visited ++ [l])
      { s with place := l, desired := n.mode } where
  ext := h.ext
  made_iff := h.made_iff
  visited_iff := fun l' => by
    rw [List.mem_append, List.mem_singleton, and_or_left, ← h.visited_iff l']
    refine ⟨Or.inl, ?_⟩
    rintro (hmade | ⟨hnew, rfl⟩)
    · exact hmade
    · exact (h.made_iff l').mpr ⟨hnew, FileTree.node_ne_none hn⟩
  dirs := h.dirs
  downwards := h.downwards
  walked := (FileTree.walk_append_singleton h.walked).trans hl
  onPath := fun l' hl' => by
    rcases List.mem_append.mp hl' with hl' | hl'
    · obtain ⟨cs, hcs, hwalk⟩ := h.onPath l' hl'
      exact ⟨cs, hcs.trans (List.prefix_append _ _), hwalk⟩
    · rw [List.mem_singleton.mp hl']
      exact ⟨done ++ [c], List.prefix_rfl, (FileTree.walk_append_singleton h.walked).trans hl⟩
  place_node := FileTree.node_ne_none hn
  desired := Or.inr ⟨by simp, fun n' hn' => by rw [Option.some.inj (hn.symm.trans hn')]⟩
  first := fun l' hl' => by
    rw [h.head?_append hl']
    exact h.first l' hl'
  modes := fun l' hl' => by
    rw [h.head?_append hl']
    exact h.modes l' hl'

theorem made {a : α} (h : Progress p t₀ l₀ d₀ done visited s) (hdir : s.tree.isDir s.place = true)
    (hnew : s.tree.node (a :: s.place) = none) (hsearch : p.maySearch s.place = true)
    (hmake : p.mayMake (a :: s.place) = true) :
    Progress p t₀ l₀ d₀ (done ++ [.name a]) (visited ++ [a :: s.place])
      { s with
        tree := s.tree.make a s.place (p.masked s.desired) hdir hnew
        place := a :: s.place
        made := s.made ++ [a :: s.place] } := by
  have hext := FileTree.extends_make (m := p.masked s.desired) hdir hnew
  have hold : ∀ {l}, l ∈ s.made → s.tree.node l ≠ none := fun hl => ((h.made_iff _).mp hl).2
  have hnew₀ : t₀.node (a :: s.place) = none := by
    by_contra hsome
    obtain ⟨n, hn⟩ := Option.ne_none_iff_exists'.mp hsome
    exact nomatch hnew.symm.trans (h.ext _ n hn)
  have hwalk : (s.tree.make a s.place (p.masked s.desired) hdir hnew).walk p.maySearch l₀
      (done ++ [.name a]) = some (a :: s.place) :=
    (FileTree.walk_append_singleton (hext.walk h.walked)).trans
      (FileTree.lookup_make hdir hnew hsearch)
  constructor
  case ext => exact fun l n hn => hext l n (h.ext l n hn)
  case made_iff =>
    intro l
    rw [List.mem_append, List.mem_singleton]
    by_cases hl : l = a :: s.place
    · subst hl
      exact iff_of_true (Or.inr rfl)
        ⟨hnew₀, FileTree.node_ne_none (FileTree.node_make_self hdir hnew)⟩
    · show _ ↔ _ ∧ (s.tree.make a s.place _ hdir hnew).node l ≠ none
      rw [FileTree.node_make_of_ne hdir hnew hl, ← h.made_iff l, or_iff_left hl]
  case visited_iff =>
    intro l
    rw [List.mem_append, List.mem_append, List.mem_singleton, and_or_left, ← h.visited_iff l]
    exact or_congr_right ⟨fun hl => ⟨hl ▸ hnew₀, hl⟩, fun hl => hl.2⟩
  case dirs =>
    intro l hl
    rcases List.mem_append.mp hl with hl | hl
    · exact ⟨hext.isDir (h.dirs l hl).1, (h.dirs l hl).2⟩
    · rw [List.mem_singleton.mp hl]
      exact ⟨FileTree.isDir_iff.mpr ⟨_, FileTree.node_make_self hdir hnew⟩, hmake⟩
  case downwards =>
    refine List.pairwise_append.mpr ⟨h.downwards, List.pairwise_singleton _ _, ?_⟩
    intro l hl l' hl' hsuffix
    rw [List.mem_singleton.mp hl'] at hsuffix
    exact s.tree.node_of_suffix (hold hl) hsuffix hnew
  case walked => exact hwalk
  case onPath =>
    intro l hl
    rcases List.mem_append.mp hl with hl | hl
    · obtain ⟨cs, hcs, hl⟩ := h.onPath l hl
      exact ⟨cs, hcs.trans (List.prefix_append _ _), hext.walk hl⟩
    · rw [List.mem_singleton.mp hl]
      exact ⟨_, List.prefix_rfl, hwalk⟩
  case place_node => exact FileTree.node_ne_none (FileTree.node_make_self hdir hnew)
  case desired =>
    refine Or.inr ⟨by simp, fun n hn => ?_⟩
    rw [FileTree.node_make_self] at hn
    rw [← Option.some.inj hn]
    exact (p.masked_masked _).symm
  case first =>
    intro l hl hhead
    rcases List.mem_append.mp hl with hl | hl
    · rw [h.head?_append hl] at hhead
      exact h.first l hl hhead
    · rw [List.mem_singleton.mp hl] at hhead ⊢
      intro hplace
      have hvisited := ((h.visited_iff _).mp ((h.made_iff _).mpr ⟨hplace, h.place_node⟩)).2
      rw [List.head?_append_of_ne_nil _ (List.ne_nil_of_mem hvisited)] at hhead
      exact h.visited_node (List.mem_of_mem_head? hhead) hnew
  case modes =>
    intro l hl n u hn hu
    rcases List.mem_append.mp hl with hl | hl
    · have htail := s.tree.node_of_suffix (hold hl) (List.tail_suffix l)
      rw [FileTree.node_make_of_node hdir hnew (hold hl)] at hn
      rw [FileTree.node_make_of_node hdir hnew htail] at hu
      rw [h.head?_append hl]
      exact h.modes l hl n u hn hu
    · rw [List.mem_singleton.mp hl] at hn hu ⊢
      rw [FileTree.node_make_self] at hn
      rw [List.tail_cons, FileTree.node_make_of_node hdir hnew h.place_node] at hu
      rw [← Option.some.inj hn]
      rcases h.desired with ⟨rfl, hdesired⟩ | ⟨hvisited, hdesired⟩
      · rw [hdesired]
        exact congrArg p.masked (if_pos rfl).symm
      · rw [if_neg]
        · exact hdesired u hu
        · intro hhead
          rw [List.head?_append_of_ne_nil _ hvisited] at hhead
          exact h.visited_node (List.mem_of_mem_head? hhead) hnew

/-- One more component, whatever stands there. -/
theorem next (h : Progress p t₀ l₀ d₀ done visited s) (hnext : s.next p c = some s') :
    Progress p t₀ l₀ d₀ (done ++ [c]) (visited ++ [s'.place]) s' := by
  obtain ⟨l, n, hl, hn, rfl⟩ | ⟨a, hdir, hnew, rfl, hsearch, hmake, rfl⟩ :=
    Making.next_cases hnext
  · exact h.found hl hn
  · exact h.made hdir hnew hsearch hmake

theorem isDir_place (h : Progress p t₀ l₀ d₀ done visited s) :
    mayBeDir t₀ s.place = s.tree.isDir s.place := by
  obtain ⟨n, hn⟩ := Option.ne_none_iff_exists'.mp h.place_node
  unfold mayBeDir
  cases hn₀ : t₀.node s.place with
  | none =>
    rw [(h.dirs _ ((h.made_iff _).mpr ⟨hn₀, h.place_node⟩)).1]
    exact Bool.or_true _
  | some n₀ =>
    unfold FileTree.isDir
    rw [hn₀, h.ext _ _ hn₀]
    exact Bool.or_false _

theorem exists_or_mayMake (h : Progress p t₀ l₀ d₀ done visited s) (l : List α) :
    ((t₀.node l).isSome = true ∨ p.mayMake l = true) ↔
      ((s.tree.node l).isSome = true ∨ p.mayMake l = true) := by
  constructor
  · exact Or.imp_left h.ext.isSome
  · rintro (hsome | hmake)
    · cases hn₀ : t₀.node l with
      | some n => exact Or.inl rfl
      | none =>
        have hmade := (h.made_iff l).mpr ⟨hn₀, Option.isSome_iff_ne_none.mp hsome⟩
        exact Or.inr (h.dirs l hmade).2
    · exact Or.inr hmake

/-- Where a step comes to is told from the tree at the start. -/
theorem map_place_next (h : Progress p t₀ l₀ d₀ done visited s) (c : Component α) :
    (s.next p c).map Making.place = reached t₀ p s.place c := by
  rw [Making.map_place_next]
  cases c with
  | empty | dot | dotDot =>
    unfold reached
    rw [h.isDir_place]
    exact Option.or_none
  | name a =>
    simp only [reached, h.isDir_place, h.exists_or_mayMake]
    show (if _ then _ else none).or _ = _
    rw [FileTree.map_snd_mkdirAt]
    by_cases hdir : s.tree.isDir s.place = true ∧ p.maySearch s.place = true
    · cases hn : s.tree.node (a :: s.place) with
      | some n => simp only [hdir.1, hdir.2, Option.isSome_some, true_and, true_or, if_true,
          Option.some_or]
      | none => simp only [hdir.1, hdir.2, Option.isSome_none, Bool.false_eq_true, true_and,
          false_or, and_false, if_false, Option.none_or]
    · rw [if_neg fun hall => hdir ⟨hall.1, hall.2.1⟩, if_neg fun hall => hdir ⟨hall.1, hall.2.1⟩,
        if_neg fun hall => hdir ⟨hall.1, hall.2.1⟩]
      rfl

/-- The locations that the making has been at behind all components it came to. -/
theorem makePath (h : Progress p t₀ l₀ d₀ done visited s) (cs : List (Component α)) :
    ∃ done', done' <+: done ++ cs ∧
      Progress p t₀ l₀ d₀ done' (visited ++ visits t₀ p s.place cs) (s.makePath p cs).1 := by
  induction cs generalizing done visited s with
  | nil =>
    simp only [visits, List.append_nil]
    exact ⟨done, List.prefix_rfl, h⟩
  | cons c cs ih =>
    have hplace := h.map_place_next c
    cases hnext : s.next p c with
    | none =>
      rw [hnext] at hplace
      rw [visits_cons_of_none hplace.symm, List.append_nil, Making.makePath, hnext]
      exact ⟨done, List.prefix_append _ _, h⟩
    | some s' =>
      rw [hnext] at hplace
      obtain ⟨done', hdone, hprogress⟩ := ih (h.next hnext)
      rw [visits_cons_of_some hplace.symm, Making.makePath, hnext]
      rw [List.append_assoc, List.singleton_append] at hdone hprogress
      exact ⟨done', hdone, hprogress⟩

/-- The making ends well if and only if the walk arrives, and then it ends there. -/
theorem arrives_eq (h : Progress p t₀ l₀ d₀ done visited s) (cs : List (Component α)) :
    arrives t₀ p s.place cs =
      if (s.makePath p cs).2 = true then some (s.makePath p cs).1.place else none := by
  induction cs generalizing done visited s with
  | nil => rfl
  | cons c cs ih =>
    rw [arrives_cons, ← h.map_place_next c, Making.makePath]
    cases hnext : s.next p c with
    | none => rfl
    | some s' => exact ih (h.next hnext)

theorem walked_makePath (h : Progress p t₀ l₀ d₀ done visited s) {cs : List (Component α)}
    (hok : (s.makePath p cs).2 = true) :
    (s.makePath p cs).1.tree.walk p.maySearch l₀ (done ++ cs) =
      some (s.makePath p cs).1.place := by
  induction cs generalizing done visited s with
  | nil =>
    rw [List.append_nil]
    exact h.walked
  | cons c cs ih =>
    rw [Making.makePath] at hok ⊢
    cases hnext : s.next p c with
    | none =>
      rw [hnext] at hok
      cases hok
    | some s' =>
      rw [hnext] at hok
      rw [List.append_cons]
      exact ih (h.next hnext) hok

end Progress

/-- Everything made is a directory with the mode of the one it is in. -/
def Making.RightModes (s : Making α M) : Prop :=
  ∀ l ∈ s.made, ∃ m, s.tree.node l = some (.dir m) ∧ s.tree.node l.tail = some (.dir m)

namespace Progress

variable {p : Process α M} {t₀ : FileTree α M} {l₀ : List α} {d₀ : M}
  {done : List (Component α)} {visited : List (List α)} {s : Making α M}

theorem parent_of_made (h : Progress p t₀ l₀ d₀ done visited s) {l : List α} (hl : l ∈ s.made) :
    ∃ m, s.tree.node l.tail = some (.dir m) := by
  obtain ⟨hnew, hnode⟩ := (h.made_iff l).mp hl
  cases l with
  | nil =>
    obtain ⟨m, hm⟩ := t₀.root_dir
    exact nomatch hnew.symm.trans hm
  | cons a l => exact s.tree.parent_dir a l hnode

/-- The modes are right if and only if each mode to ask for, of what is missing in a directory
that exists, comes out as the mode of that directory. -/
theorem rightModes_iff (h : Progress p t₀ l₀ d₀ done visited s) :
    s.RightModes ↔ ∀ l ∈ visited, t₀.node l = none → ∀ u, t₀.node l.tail = some u →
      p.masked (if visited.head? = some l then d₀ else u.mode) = u.mode := by
  constructor
  · intro hright l hl hnew u hu
    have hmade := (h.visited_iff l).mpr ⟨hnew, hl⟩
    obtain ⟨m, hm, hparent⟩ := hright l hmade
    have hmode := h.modes l hmade _ u hm (h.ext _ _ hu)
    rw [← hmode, ← Option.some.inj (hparent.symm.trans (h.ext _ _ hu))]
  · intro hall l hl
    obtain ⟨m, hm⟩ := FileTree.isDir_iff.mp (h.dirs l hl).1
    obtain ⟨m', hm'⟩ := h.parent_of_made hl
    obtain ⟨hnew, hvisited⟩ := (h.visited_iff l).mp hl
    have hmode : m = p.masked (if visited.head? = some l then d₀ else m') :=
      h.modes l hl _ _ hm hm'
    suffices hsame : m = m' by
      rw [hsame] at hm
      exact ⟨m', hm, hm'⟩
    cases hu : t₀.node l.tail with
    | some u =>
      obtain rfl := Option.some.inj ((h.ext _ _ hu).symm.trans hm')
      exact hmode.trans (hall l hvisited hnew _ hu)
    | none =>
      -- a directory made in one that was made itself: the first was not, so both are masked
      have hmade := (h.made_iff l.tail).mpr ⟨hu, FileTree.node_ne_none hm'⟩
      obtain ⟨m'', hm''⟩ := h.parent_of_made hmade
      have hparent := h.modes l.tail hmade _ _ hm' hm''
      rw [if_neg fun hhead => h.first l hl hhead hu] at hmode
      exact hmode.trans ((congrArg p.masked hparent).trans ((p.masked_masked _).trans hparent.symm))

/-- Where the modes are right, everything has the mode of the nearest directory that existed. -/
theorem nearest_eq (h : Progress p t₀ l₀ d₀ done visited s) (hright : s.RightModes) {l : List α}
    (hl : s.tree.node l ≠ none) : nearest t₀ l = s.tree.node l := by
  induction l with
  | nil =>
    obtain ⟨m, hm⟩ := t₀.root_dir
    rw [nearest, h.ext [] _ hm, hm]
  | cons a l ih =>
    rw [nearest]
    cases hn : t₀.node (a :: l) with
    | some n =>
      rw [h.ext _ _ hn]
      rfl
    | none =>
      obtain ⟨m, hm, hparent⟩ := hright _ ((h.made_iff _).mpr ⟨hn, hl⟩)
      rw [List.tail_cons] at hparent
      rw [Option.none_or, hm, ← hparent]
      exact ih (FileTree.node_ne_none hparent)

end Progress

end FileTrees
