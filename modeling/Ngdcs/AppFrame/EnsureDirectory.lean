import Ngdcs.Lib.CStrings
import Ngdcs.Lib.MakePath

/-! `appFrame::ensureDirectoryExists`: the directory of a path is looked for, and else made, with
the missing ones above it. -/
namespace AppFrame
open CStrings FileTrees

/-- A C string that is not empty. The empty one, which names no directory, is left out. -/
abbrev Path := { path : List UInt8 // path ≠ [] ∧ 0 ∉ path }

/-- `st_mode & 0x1ff` -/
abbrev Mode := BitVec 9

abbrev Location := List (List UInt8)

abbrev Tree := FileTree (List UInt8) Mode

/-- What the calls depend on beside the files: the current directory, the umask, and which
directories may be searched, and which made. -/
structure Environment where
  cwd : Location
  umask : Mode
  maySearch : Location → Bool
  mayMake : Location → Bool

/-- What stands between two slashes. -/
def component (name : List UInt8) : Component (List UInt8) :=
  if name = [] then .empty
  else if name = bytes "." then .dot
  else if name = bytes ".." then .dotDot
  else .name name

def components (path : List UInt8) : List (Component (List UInt8)) :=
  ((if path.head? = some 47 then path.tail else path).splitOn 47).map component

/-- `while (strlen(copy) > 1 && *(copy+strlen(copy)-1) == '/')`, from the last byte on. -/
def trimReversed : List UInt8 → List UInt8
  | b :: c :: s => if b = 47 then trimReversed (c :: s) else b :: c :: s
  | s => s

def trimSlashes (path : List UInt8) : List UInt8 := (trimReversed path.reverse).reverse

/-- The files, `desired_mode`, and the directories made so far. -/
structure Ensuring where
  tree : Tree
  desiredMode : Mode
  made : List Location

/-- The files afterwards, the directories made, in order, and what is returned. -/
structure Outcome where
  tree : Tree
  made : List Location
  result : ℤ

namespace Environment

variable (env : Environment)

/-- Where a path starts. -/
def start (path : List UInt8) : Location := if path.head? = some 47 then [] else env.cwd

def stat (t : Tree) (path : List UInt8) : Option (Node Mode) :=
  (t.walk env.maySearch (env.start path) (components path)).bind t.node

def mkdir (t : Tree) (path : List UInt8) (mode : Mode) : Option (Tree × Location) :=
  t.mkdir env.maySearch env.mayMake (mode &&& ~~~env.umask) (env.start path) (components path)

/-- One prefix of the path. -/
def ensurePrefix (s : Ensuring) (copy : List UInt8) : Option Ensuring :=
  match env.stat s.tree copy with
  | some n => some { s with desiredMode := n.mode }
  | none => (env.mkdir s.tree copy s.desiredMode).map fun r =>
      { s with tree := r.1, made := s.made ++ [r.2] }

/-- The loop; `last_slash` is the last byte of `done`. -/
def ensureLoop (s : Ensuring) (done rest : List UInt8) : Outcome :=
  let copy := done ++ rest.takeWhile (· ≠ 47)
  match env.ensurePrefix s copy with
  | none => ⟨s.tree, s.made, -1⟩
  | some s =>
    match _h : rest.dropWhile (· ≠ 47) with
    | [] => ⟨s.tree, s.made, 0⟩
    | slash :: rest' => ensureLoop s (copy ++ [slash]) rest'
termination_by rest.length
decreasing_by
  have hle := (List.dropWhile_sublist (p := fun b : UInt8 => decide (b ≠ 47)) (l := rest)).length_le
  rw [_h, List.length_cons] at hle
  exact hle

section Turns

variable {env} {s s' : Ensuring} {done rest : List UInt8}

theorem ensureLoop_of_none (h : env.ensurePrefix s (done ++ rest.takeWhile (· ≠ 47)) = none) :
    env.ensureLoop s done rest = ⟨s.tree, s.made, -1⟩ := by
  rw [ensureLoop]
  simp only [h]

theorem ensureLoop_of_nil (h : env.ensurePrefix s (done ++ rest.takeWhile (· ≠ 47)) = some s')
    (hrest : rest.dropWhile (· ≠ 47) = []) :
    env.ensureLoop s done rest = ⟨s'.tree, s'.made, 0⟩ := by
  rw [ensureLoop]
  simp only [h]
  split
  · rfl
  · next hcons => exact nomatch hrest.symm.trans hcons

theorem ensureLoop_of_cons {slash : UInt8} {rest' : List UInt8}
    (h : env.ensurePrefix s (done ++ rest.takeWhile (· ≠ 47)) = some s')
    (hrest : rest.dropWhile (· ≠ 47) = slash :: rest') :
    env.ensureLoop s done rest =
      env.ensureLoop s' (done ++ rest.takeWhile (· ≠ 47) ++ [slash]) rest' := by
  rw [ensureLoop]
  simp only [h]
  split
  · next hnil => exact nomatch hnil.symm.trans hrest
  · next hcons =>
    obtain ⟨rfl, rfl⟩ := List.cons_eq_cons.mp (hcons.symm.trans hrest)
    rfl

end Turns

/-- `mode & 0300` is 0300. -/
def ownerMayUse (n : Node Mode) : Bool := n.mode &&& 0o300 = 0o300

def ensureDirectoryExists (t : Tree) (dir : Path) : Outcome :=
  if (env.stat t dir.val).any ownerMayUse then ⟨t, [], 0⟩
  else
    match env.stat t (bytes ".") with
    | none => ⟨t, [], -1⟩
    | some n =>
      let copy := trimSlashes dir.val
      env.ensureLoop ⟨t, n.mode, []⟩ (copy.take 1) (copy.drop 1)

/-- What the walks rest on. -/
def process : Process (List UInt8) Mode where
  maySearch := env.maySearch
  mayMake := env.mayMake
  masked m := m &&& ~~~env.umask
  masked_masked m := by rw [BitVec.and_assoc, BitVec.and_self]

end Environment

section Components

theorem start_append (env : Environment) {x y : List UInt8} (hx : x ≠ []) :
    env.start (x ++ y) = env.start x := by
  unfold Environment.start
  rw [List.head?_append_of_ne_nil x hx]

theorem components_append_slash {x : List UInt8} (hx : x ≠ []) (y : List UInt8) :
    components (x ++ 47 :: y) = components x ++ (y.splitOn 47).map component := by
  unfold components
  rw [List.head?_append_of_ne_nil x hx, ← List.map_append]
  split
  · rw [List.tail_append_of_ne_nil hx, List.splitOn_append_cons_self]
  · rw [List.splitOn_append_cons_self]

theorem splitOn_name {name : List UInt8} (h : 47 ∉ name) : name.splitOn 47 = [name] :=
  List.splitOn_eq_singleton h

/-- The path is the trimmed one with slashes behind it. -/
theorem exists_trimReversed (s : List UInt8) :
    ∃ k, s = List.replicate k 47 ++ trimReversed s := by
  induction s with
  | nil => exact ⟨0, rfl⟩
  | cons b s ih =>
    cases s with
    | nil => exact ⟨0, rfl⟩
    | cons c s =>
      rw [trimReversed]
      split
      · next hb =>
        obtain ⟨k, hk⟩ := ih
        exact ⟨k + 1, by rw [List.replicate_succ, List.cons_append, ← hk, hb]⟩
      · exact ⟨0, rfl⟩

theorem trimReversed_ne_nil {s : List UInt8} (hs : s ≠ []) : trimReversed s ≠ [] := by
  induction s with
  | nil => exact hs
  | cons b s ih =>
    cases s with
    | nil => exact hs
    | cons c s =>
      rw [trimReversed]
      split
      · exact ih (List.cons_ne_nil c s)
      · exact List.cons_ne_nil _ _

theorem trimSlashes_ne_nil {s : List UInt8} (hs : s ≠ []) : trimSlashes s ≠ [] := by
  unfold trimSlashes
  rw [ne_eq, List.reverse_eq_nil_iff]
  exact trimReversed_ne_nil (mt List.reverse_eq_nil_iff.mp hs)

theorem exists_trimSlashes (s : List UInt8) : ∃ k, s = trimSlashes s ++ List.replicate k 47 := by
  obtain ⟨k, hk⟩ := exists_trimReversed s.reverse
  refine ⟨k, ?_⟩
  unfold trimSlashes
  rw [← List.reverse_replicate, ← List.reverse_append, ← hk, List.reverse_reverse]

theorem components_append_slashes {x : List UInt8} (hx : x ≠ []) (k : ℕ) :
    components (x ++ List.replicate k 47) = components x ++ List.replicate k .empty := by
  induction k generalizing x with
  | zero => simp
  | succ k ih =>
    rw [List.replicate_succ, List.append_cons, ih (by simp), components_append_slash hx,
      List.append_assoc]
    rfl

end Components

section Loop

variable {env : Environment} {t₀ : Tree} {b : Location} {d₀ : Mode}
  {cs : List (Component (List UInt8))} {visited : List Location}
  {s : Making (List UInt8) Mode} {done pre : List UInt8}

/-- The state of the loop, with where it is left out. -/
def ensuring (s : Making (List UInt8) Mode) : Ensuring := ⟨s.tree, s.desired, s.made⟩

def outcome (r : Making (List UInt8) Mode × Bool) : Outcome :=
  ⟨r.1.tree, r.1.made, if r.2 then 0 else -1⟩

theorem ensurePrefix_eq {c : Component (List UInt8)} {copy : List UInt8}
    (hwalk : s.tree.walk env.maySearch b cs = some s.place) (hstart : env.start copy = b)
    (hcs : components copy = cs ++ [c]) :
    env.ensurePrefix (ensuring s) copy = (s.next env.process c).map ensuring := by
  have hmkdir : env.mkdir s.tree copy s.desired = s.tree.mkdirAt env.maySearch env.mayMake s.place
      (s.desired &&& ~~~env.umask) c := by
    unfold Environment.mkdir
    rw [hstart, hcs]
    exact FileTree.mkdir_append_singleton hwalk
  have hstat : env.stat s.tree copy =
      (s.tree.lookup env.maySearch s.place c).bind s.tree.node := by
    unfold Environment.stat
    rw [hstart, hcs, FileTree.walk_append_singleton hwalk]
  unfold Environment.ensurePrefix Making.next
  rw [show (ensuring s).tree = s.tree from rfl, hstat,
    show env.process.maySearch = env.maySearch from rfl]
  cases hl : s.tree.lookup env.maySearch s.place c with
  | none =>
    show (env.mkdir s.tree copy s.desired).map _ = Option.map ensuring (Option.map _ _)
    rw [hmkdir, Option.map_map]
    rfl
  | some l =>
    obtain ⟨n, hn⟩ := Option.ne_none_iff_exists'.mp (FileTree.node_of_lookup hl)
    show _ = Option.map ensuring (Option.map _ (s.tree.node l))
    rw [Option.bind_some, hn]
    rfl

/-- Behind `done`, the next name of the path is the component after `cs`, with `pre` before what
is left of it. -/
def Follows (env : Environment) (done pre : List UInt8) (b : Location)
    (cs : List (Component (List UInt8))) : Prop :=
  47 ∉ pre ∧ done ≠ [] ∧ ∀ name, 47 ∉ name →
    env.start (done ++ name) = b ∧ components (done ++ name) = cs ++ [component (pre ++ name)]

theorem Follows.next {name : List UInt8} (h : Follows env done pre b cs) (hname : 47 ∉ name) :
    Follows env (done ++ name ++ [47]) [] b (cs ++ [component (pre ++ name)]) := by
  obtain ⟨-, hdone, hfollows⟩ := h
  obtain ⟨hstart, hcs⟩ := hfollows name hname
  have hne : done ++ name ≠ [] := List.append_ne_nil_of_left_ne_nil hdone name
  refine ⟨List.not_mem_nil, List.append_ne_nil_of_left_ne_nil hne [47], fun name' hname' => ?_⟩
  rw [List.append_assoc _ [47], start_append env hne, List.singleton_append,
    components_append_slash hne, hcs, splitOn_name hname']
  exact ⟨hstart, rfl⟩

/-- Before the loop: the starting character is skipped. -/
theorem follows_start (env : Environment) {copy : List UInt8} (h : copy ≠ []) :
    ∃ pre, Follows env (copy.take 1) pre (env.start copy) [] ∧
      components copy = ((pre ++ copy.drop 1).splitOn 47).map component := by
  cases copy with
  | nil => exact absurd rfl h
  | cons c rest =>
    by_cases hc : c = 47
    · subst hc
      refine ⟨[], ⟨List.not_mem_nil, List.cons_ne_nil _ _, fun name hname => ⟨rfl, ?_⟩⟩, rfl⟩
      show (name.splitOn 47).map component = _
      rw [splitOn_name hname]
      rfl
    · have hhead : ∀ x : List UInt8, (c :: x).head? ≠ some 47 := fun x hx => hc (Option.some.inj hx)
      have hcs : ∀ x : List UInt8,
          components (c :: x) = ((c :: x).splitOn 47).map component := by
        intro x
        unfold components
        rw [if_neg (hhead x)]
      have hpre : ∀ {name : List UInt8}, 47 ∉ name → 47 ∉ c :: name := fun hname hmem =>
        (List.mem_cons.mp hmem).elim (fun heq => hc heq.symm) hname
      refine ⟨[c], ⟨hpre List.not_mem_nil, List.cons_ne_nil _ _, fun name hname => ⟨?_, ?_⟩⟩,
        hcs rest⟩
      · unfold Environment.start
        rw [if_neg (hhead rest), List.take_succ_cons, List.take_zero, List.singleton_append,
          if_neg (hhead name)]
      · show components (c :: name) = _
        rw [hcs, splitOn_name (hpre hname)]
        rfl

/-- The loop over the slashes makes the path component by component. -/
theorem ensureLoop_eq {rest : List UInt8} (h : Progress env.process t₀ b d₀ cs visited s)
    (hfollows : Follows env done pre b cs) :
    env.ensureLoop (ensuring s) done rest =
      outcome (s.makePath env.process (((pre ++ rest).splitOn 47).map component)) := by
  induction hlength : rest.length using Nat.strong_induction_on
    generalizing s cs visited done pre rest with
  | _ n ih =>
    subst hlength
    have hname : 47 ∉ rest.takeWhile (· ≠ 47) := fun hmem => by
      simpa using List.mem_takeWhile_imp hmem
    obtain ⟨hpre, hdone, hnext⟩ := hfollows
    obtain ⟨hstart, hcs⟩ := hnext _ hname
    have hnopre : 47 ∉ pre ++ rest.takeWhile (· ≠ 47) := fun hmem =>
      (List.mem_append.mp hmem).elim hpre hname
    have hrest : rest.takeWhile (· ≠ 47) ++ rest.dropWhile (· ≠ 47) = rest :=
      List.takeWhile_append_dropWhile
    have hprefix := ensurePrefix_eq h.walked hstart hcs
    cases htail : rest.dropWhile (· ≠ 47) with
    | nil =>
      have hsplit : (pre ++ rest).splitOn 47 = [pre ++ rest.takeWhile (· ≠ 47)] := by
        rw [← splitOn_name hnopre]
        rw [htail, List.append_nil] at hrest
        rw [hrest]
      rw [hsplit, List.map_cons, List.map_nil, Making.makePath]
      cases hmaking : s.next env.process (component (pre ++ rest.takeWhile (· ≠ 47))) with
      | none =>
        rw [hmaking] at hprefix
        exact Environment.ensureLoop_of_none hprefix
      | some s' =>
        rw [hmaking] at hprefix
        exact Environment.ensureLoop_of_nil hprefix htail
    | cons slash rest' =>
      have hslash : slash = 47 := by
        have := List.head?_dropWhile_not (fun b : UInt8 => decide (b ≠ 47)) rest
        rw [htail] at this
        simpa using this
      subst hslash
      have hsplit : (pre ++ rest).splitOn 47 =
          (pre ++ rest.takeWhile (· ≠ 47)) :: rest'.splitOn 47 := by
        rw [← List.splitOn_append_cons_self_of_not_mem hnopre, List.append_assoc, ← htail, hrest]
      rw [hsplit, List.map_cons, Making.makePath]
      cases hmaking : s.next env.process (component (pre ++ rest.takeWhile (· ≠ 47))) with
      | none =>
        rw [hmaking] at hprefix
        exact Environment.ensureLoop_of_none hprefix
      | some s' =>
        rw [hmaking] at hprefix
        rw [Environment.ensureLoop_of_cons hprefix htail]
        have hlt : rest'.length < rest.length := by
          have := congrArg List.length hrest
          rw [htail, List.length_append, List.length_cons] at this
          omega
        exact ih _ hlt (h.next hmaking) (Follows.next ⟨hpre, hdone, hnext⟩ hname) rfl

end Loop

/-- What `ensureDirectoryExists` promises: where it returns 0, the path is a directory that its
owner can write and search. Only missing prefixes of the path are made, from the root downwards,
each with the mode of the directory it is in. -/
structure KeepsPromise (env : Environment) (t : Tree) (dir : List UInt8) (o : Outcome) :
    Prop where
  exists_of_zero : o.result = 0 →
    ∃ m, env.stat o.tree dir = some (.dir m) ∧ m &&& 0o300 = 0o300
  made_iff : ∀ l, l ∈ o.made ↔ t.node l = none ∧ o.tree.node l ≠ none
  onPath : ∀ l ∈ o.made, ∃ cs, cs <+: components dir ∧
    o.tree.walk env.maySearch (env.start dir) cs = some l
  downwards : o.made.Pairwise fun l m => ¬m <:+ l
  modes : ∀ l ∈ o.made, ∃ m, o.tree.node l = some (.dir m) ∧ o.tree.node l.tail = some (.dir m)
  unchanged : o.tree.Extends t

/-- Of the prefixes of `copy` that are missing in a directory that exists, each gets the mode of
that directory, though the first is made with `mode` and all are under the umask; and the nearest
to its end that exists is a directory that its owner can write and search. -/
structure PrefixesFit (env : Environment) (t : Tree) (copy : List UInt8) (mode : Mode) :
    Prop where
  modes : ∀ l ∈ visits t env.process (env.start copy) (components copy), t.node l = none →
    ∀ u, t.node l.tail = some u →
      (if (visits t env.process (env.start copy) (components copy)).head? = some l then mode
        else u.mode) &&& ~~~env.umask = u.mode
  usable : ∀ l, arrives t env.process (env.start copy) (components copy) = some l →
    ∃ m, nearest t l = some (.dir m) ∧ m &&& 0o300 = 0o300

/-- What is there with the mode asked for is a directory; or else the prefixes fit, where the
current directory can be looked at. -/
def PathFits (env : Environment) (t : Tree) (dir : List UInt8) : Prop :=
  ((env.stat t dir).any Environment.ownerMayUse = true →
    ∃ m, env.stat t dir = some (.dir m)) ∧
  ((env.stat t dir).any Environment.ownerMayUse = false → ∀ n, env.stat t (bytes ".") = some n →
    PrefixesFit env t (trimSlashes dir) n.mode)

section Promise

variable {env : Environment} {t : Tree}

theorem keepsPromise_of_unmade {dir : List UInt8} {r : ℤ}
    (h : r = 0 → ∃ m, env.stat t dir = some (.dir m) ∧ m &&& 0o300 = 0o300) :
    KeepsPromise env t dir ⟨t, [], r⟩ where
  exists_of_zero := h
  made_iff := fun _ => iff_of_false List.not_mem_nil fun hl => hl.2 hl.1
  onPath := fun _ hl => absurd hl List.not_mem_nil
  downwards := .nil
  modes := fun _ hl => absurd hl List.not_mem_nil
  unchanged := fun _ _ hn => hn

/-- The walk starts in a directory: the root, or the current one, which has been looked at. -/
theorem node_start {n : Node Mode} (h : env.stat t (bytes ".") = some n) (path : List UInt8) :
    t.node (env.start path) ≠ none := by
  unfold Environment.start
  split
  · obtain ⟨m, hm⟩ := t.root_dir
    exact FileTree.node_ne_none hm
  · obtain ⟨l, hl, -⟩ := Option.bind_eq_some_iff.mp h
    have hlookup : t.lookup env.maySearch env.cwd .dot = some l :=
      (Option.bind_fun_some _).symm.trans hl
    obtain ⟨⟨hdir, -⟩, -⟩ := Option.ite_none_right_eq_some.mp hlookup
    obtain ⟨m, hm⟩ := FileTree.isDir_iff.mp hdir
    exact FileTree.node_ne_none hm

/-- Slashes at its end ask no more of the path than that it is a directory. -/
theorem stat_eq_dir_iff {copy : List UInt8} {k : ℕ} {l : Location} {m : Mode} (hcopy : copy ≠ [])
    (hwalk : t.walk env.maySearch (env.start copy) (components copy) = some l) :
    env.stat t (copy ++ List.replicate k 47) = some (.dir m) ↔ t.node l = some (.dir m) := by
  unfold Environment.stat
  rw [start_append env hcopy, components_append_slashes hcopy, FileTree.walk_append hwalk]
  constructor
  · intro h
    obtain ⟨l', hl', hn⟩ := Option.bind_eq_some_iff.mp h
    rwa [FileTree.eq_of_walk_replicate_empty hl'] at hn
  · intro h
    rw [FileTree.walk_replicate_empty (FileTree.isDir_iff.mpr ⟨m, h⟩)]
    exact h

/-- The loop keeps the promise if and only if the prefixes fit. -/
theorem keepsPromise_outcome {copy : List UInt8} {n : Node Mode} (k : ℕ) (hcopy : copy ≠ [])
    (hcwd : env.stat t (bytes ".") = some n) :
    KeepsPromise env t (copy ++ List.replicate k 47)
        (outcome (Making.makePath env.process ⟨t, env.start copy, n.mode, []⟩ (components copy))) ↔
      PrefixesFit env t copy n.mode := by
  have hstart : Progress env.process t (env.start copy) n.mode [] []
      ⟨t, env.start copy, n.mode, []⟩ := .start (node_start hcwd copy)
  obtain ⟨cs, hcs, hprogress⟩ := hstart.makePath (components copy)
  have harrives := hstart.arrives_eq (components copy)
  have hwalked := @Progress.walked_makePath _ _ _ _ _ _ _ _ _ _ hstart (components copy)
  rw [List.nil_append] at hcs hprogress hwalked
  generalize Making.makePath env.process ⟨t, env.start copy, n.mode, []⟩ (components copy) = r at *
  obtain ⟨s, ok⟩ := r
  have hnode : ok = true → s.RightModes → ∀ m,
      env.stat s.tree (copy ++ List.replicate k 47) = some (.dir m) ↔
        nearest t s.place = some (.dir m) := by
    intro hok hright m
    rw [hprogress.nearest_eq hright hprogress.place_node]
    exact stat_eq_dir_iff hcopy (hwalked hok)
  constructor
  · intro h
    refine ⟨hprogress.rightModes_iff.mp h.modes, fun l hl => ?_⟩
    obtain ⟨hok, hplace⟩ := Option.ite_none_right_eq_some.mp (harrives.symm.trans hl)
    obtain ⟨m, hm, huse⟩ := h.exists_of_zero (if_pos hok)
    rw [← Option.some.inj hplace]
    exact ⟨m, (hnode hok h.modes m).mp hm, huse⟩
  · intro h
    have hright := hprogress.rightModes_iff.mpr h.modes
    refine ⟨fun hzero => ?_, hprogress.made_iff, fun l hl => ?_, hprogress.downwards, hright,
      hprogress.ext⟩
    · have hok : ok = true := by
        cases ok with
        | true => rfl
        | false => cases hzero
      obtain ⟨m, hm, huse⟩ := h.usable s.place (harrives.trans (if_pos hok))
      exact ⟨m, (hnode hok hright m).mpr hm, huse⟩
    · obtain ⟨cs', hcs', hwalk⟩ := hprogress.onPath l ((hprogress.visited_iff l).mp hl).2
      rw [components_append_slashes hcopy, start_append env hcopy]
      exact ⟨cs', (hcs'.trans hcs).trans (List.prefix_append _ _), hwalk⟩

/-- The promise is kept if and only if what is found with the mode asked for is a directory, and
else the prefixes of the path fit. -/
theorem ensureDirectoryExists_iff (env : Environment) (t : Tree) (dir : Path) :
    KeepsPromise env t dir.val (env.ensureDirectoryExists t dir) ↔ PathFits env t dir.val := by
  unfold Environment.ensureDirectoryExists PathFits
  cases hfound : (env.stat t dir.val).any Environment.ownerMayUse with
  | true =>
    rw [if_pos rfl]
    constructor
    · intro h
      obtain ⟨m, hm, -⟩ := h.exists_of_zero rfl
      exact ⟨fun _ => ⟨m, hm⟩, Bool.noConfusion⟩
    · intro ⟨h, _⟩
      obtain ⟨m, hm⟩ := h rfl
      rw [hm] at hfound
      exact keepsPromise_of_unmade fun _ => ⟨m, hm, of_decide_eq_true hfound⟩
  | false =>
    rw [if_neg Bool.false_ne_true]
    cases hcwd : env.stat t (bytes ".") with
    | none =>
      exact iff_of_true (keepsPromise_of_unmade fun h => absurd h (by decide))
        ⟨Bool.noConfusion, fun _ _ hn => nomatch hn⟩
    | some n =>
      have hcopy := trimSlashes_ne_nil dir.property.1
      obtain ⟨k, hk⟩ := exists_trimSlashes dir.val
      obtain ⟨pre, hfollows, hcs⟩ := follows_start env hcopy
      have hloop : env.ensureLoop ⟨t, n.mode, []⟩ ((trimSlashes dir.val).take 1)
          ((trimSlashes dir.val).drop 1) = outcome (Making.makePath env.process
            ⟨t, env.start (trimSlashes dir.val), n.mode, []⟩
            (components (trimSlashes dir.val))) := by
        rw [hcs]
        exact ensureLoop_eq (Progress.start (node_start hcwd _)) hfollows
      show KeepsPromise env t dir.val (env.ensureLoop _ _ _) ↔ _
      rw [hloop]
      have hpromise := keepsPromise_outcome k hcopy hcwd
      rw [← hk] at hpromise
      rw [hpromise]
      exact ⟨fun h => ⟨Bool.noConfusion, fun _ n' hn' => Option.some.inj hn' ▸ h⟩,
        fun h => h.2 rfl n rfl⟩

end Promise

/-- A file that its owner may execute, where a directory is to be. -/
def executable : Tree where
  node l :=
    if l = [] then some (.dir 0o755)
    else if l = [bytes "data"] then some (.file 0o755)
    else none
  root_dir := ⟨0o755, rfl⟩
  parent_dir := by
    intro a l h
    by_cases hl : l = []
    · exact ⟨0o755, if_pos hl⟩
    · refine absurd ((if_neg (List.cons_ne_nil a l)).trans (if_neg fun hsame => hl ?_)) h
      exact (List.cons_eq_cons.mp hsame).2

/-- Nothing is wrong with the process: it stands in the root, and may do anything. -/
def unmasked : Environment := ⟨[], 0, fun _ => true, fun _ => true⟩

/-- The file is taken for the directory. -/
theorem not_keepsPromise : ¬∀ (env : Environment) (t : Tree) (dir : Path),
    KeepsPromise env t dir.val (env.ensureDirectoryExists t dir) := by
  intro h
  have hpromise := h unmasked executable ⟨bytes "/data", by decide⟩
  have hstat : unmasked.stat executable (bytes "/data") = some (.file 0o755) := by decide
  have hunmade : unmasked.ensureDirectoryExists executable ⟨bytes "/data", by decide⟩ =
      ⟨executable, [], 0⟩ := if_pos (by decide)
  rw [hunmade] at hpromise
  obtain ⟨m, hm, -⟩ := hpromise.exists_of_zero rfl
  exact nomatch hstat.symm.trans hm

end AppFrame
