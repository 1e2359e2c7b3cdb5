import Mathlib.Data.List.Nodup
import Ngdcs.Recordings.ScanDirs

/-! When the recordings that `scanDirs` returns do not depend on the order in which `readdir` returns
the entries. -/
namespace Recordings

open CStrings ExchangeSort Ftp

/-- The start time in the name of a recorded file, where there is one. -/
def decode (name : List UInt8) : Option ℤ :=
  (timeText name).bind fun p =>
    let r := strptime startFormat p ⟨0, 0, 0, 0, 0, 0⟩
    if r.1 then some (timegm r.2).1 else none

/-- What should become of a file: its entry, if it is a recorded one with a start time. -/
def expectedFile (root subdir : List UInt8) (e : FileEntry) : Option Recording := do
  let type ← recordingTypeOf e.name
  let startTime ← decode e.name
  let mtime ← e.mtime
  return newRecording root subdir e.name type startTime mtime

/-- What should become of an entry of the data directory. -/
def expectedEntry (root : List UInt8) (d : RootEntry) : List Recording :=
  if d.skipped then [] else (d.files.getD []).filterMap (expectedFile root d.name)

/-- The content of the data directory. Names of one directory are different, and have no slash. -/
structure DataDir where
  path : List UInt8
  entries : List RootEntry
  distinct : (entries.map RootEntry.name).Nodup
  noSlash : ∀ d ∈ entries, 47 ∉ d.name
  filesDistinct : ∀ d ∈ entries, ((d.files.getD []).map FileEntry.name).Nodup

/-- The same entry, whose files may come in another order. -/
structure Reread (d d' : RootEntry) : Prop where
  name : d.name = d'.name
  isDir : d.isDir = d'.isDir
  files : Option.Rel List.Perm d.files d'.files

/-- The same entries in another order, with their files in other orders. -/
def Reordered (entries order : List RootEntry) : Prop :=
  ∃ mid, entries.Perm mid ∧ List.Forall₂ Reread mid order

/-- A subdirectory that is scanned. -/
def Scanned (dir : DataDir) (d : RootEntry) (files : List FileEntry) : Prop :=
  d ∈ dir.entries ∧ d.skipped = false ∧ d.files = some files

/-- The recordings do not depend on the order, nor on what is in the local variable at first. -/
structure OrderFree (dir : DataDir) : Prop where
  same : ∀ order order', Reordered dir.entries order → Reordered dir.entries order' → ∀ tm tm',
    (scanDirs dir.path (some order) tm).1.Perm (scanDirs dir.path (some order') tm').1
  once : ∀ order, Reordered dir.entries order → ∀ tm d files, Scanned dir d files → ∀ e ∈ files,
    (recordingTypeOf e.name).isSome → (decode e.name).isSome →
      ((scanDirs dir.path (some order) tm).1.map Recording.path).count
        (pathOf dir.path d.name e.name) = 1
  named : ∃ startOf : List UInt8 → ℤ, ∀ order, Reordered dir.entries order → ∀ tm,
    ∀ r ∈ (scanDirs dir.path (some order) tm).1, r.startTime = startOf r.file
  sorted : ∀ order tm,
    (scanDirs dir.path (some order) tm).1.Pairwise fun a b => later a b = false

/-- A recorded file is added to the list. -/
def FileEntry.Good (e : FileEntry) : Prop := (decode e.name).isSome ∧ e.mtime.isSome

/-- A recorded file has no start time, and ends the scan of its subdirectory. -/
def FileEntry.GivesUp (e : FileEntry) : Prop :=
  (decode e.name).isSome = false ∧ ((timeText e.name).isSome = false ∨ e.mtime.isSome = false)

/-- The recorded files of a subdirectory are all of the same kind. -/
def Uniform (files : List FileEntry) : Prop :=
  (∀ e ∈ files, (recordingTypeOf e.name).isSome → e.Good) ∨
    ∀ e ∈ files, (recordingTypeOf e.name).isSome → e.GivesUp

variable {root subdir name : List UInt8} {type : RecordingType} {startTime endTime : ℤ}

@[simp] theorem path_newRecording :
    (newRecording root subdir name type startTime endTime).path = pathOf root subdir name := by
  cases type <;> rfl

@[simp] theorem file_newRecording :
    (newRecording root subdir name type startTime endTime).file = name := by
  cases type <;> rfl

@[simp] theorem startTime_newRecording :
    (newRecording root subdir name type startTime endTime).startTime = startTime := by
  cases type <;> rfl

theorem pathOf_inj {subdir' name' : List UInt8} (hslash : 47 ∉ subdir) (hslash' : 47 ∉ subdir')
    (h : pathOf root subdir name = pathOf root subdir' name') : subdir = subdir' ∧ name = name' := by
  have hrest := List.cons_inj_right _ |>.mp (List.append_cancel_left h)
  have hsubdir := congrArg (List.takeWhile (· ≠ 47)) hrest
  rw [takeWhile_ne_append hslash, takeWhile_ne_append hslash'] at hsubdir
  subst hsubdir
  exact ⟨rfl, List.cons_inj_right _ |>.mp (List.append_cancel_left hrest)⟩

theorem later_asymm (a b : Recording) (h : later a b = true) : later b a = false := by
  simp only [later, Bool.or_eq_true, Bool.and_eq_true, decide_eq_true_eq, Bool.or_eq_false_iff,
    Bool.and_eq_false_iff, decide_eq_false_iff_not] at h ⊢
  omega

theorem not_later_trans (a b c : Recording) (hab : later a b = false) (hbc : later b c = false) :
    later a c = false := by
  simp only [later, Bool.or_eq_false_iff, Bool.and_eq_false_iff, decide_eq_false_iff_not] at *
  omega

/-! ### Orders -/

theorem Reread.refl (d : RootEntry) : Reread d d := by
  refine ⟨rfl, rfl, ?_⟩
  cases d.files with
  | none => exact Option.Rel.none
  | some files => exact Option.Rel.some (List.Perm.refl _)

theorem Reordered.refl (entries : List RootEntry) : Reordered entries entries :=
  ⟨entries, List.Perm.refl _, List.forall₂_same.mpr fun d _ => Reread.refl d⟩

theorem Reread.skipped {d d' : RootEntry} (h : Reread d d') : d.skipped = d'.skipped := by
  unfold RootEntry.skipped
  rw [h.name, h.isDir]

theorem Reread.files_perm {d d' : RootEntry} (h : Reread d d') :
    (d.files.getD []).Perm (d'.files.getD []) := by
  have hfiles := h.files
  generalize d.files = files at hfiles ⊢
  generalize d'.files = files' at hfiles ⊢
  cases hfiles with
  | none => exact List.Perm.refl _
  | some hperm => exact hperm

theorem exists_of_forall₂ {α β : Type*} {R : α → β → Prop} {l : List α} {l' : List β}
    (h : List.Forall₂ R l l') {b : β} (hb : b ∈ l') : ∃ a ∈ l, R a b := by
  induction h with
  | nil => cases hb
  | cons hr _ ih =>
    rcases List.mem_cons.mp hb with rfl | hb
    · exact ⟨_, List.mem_cons_self, hr⟩
    · obtain ⟨a, ha, hab⟩ := ih hb
      exact ⟨a, List.mem_cons_of_mem _ ha, hab⟩

theorem Reordered.exists {entries order : List RootEntry} (h : Reordered entries order)
    {d' : RootEntry} (hd' : d' ∈ order) : ∃ d ∈ entries, Reread d d' := by
  obtain ⟨mid, hperm, hreread⟩ := h
  obtain ⟨d, hd, hr⟩ := exists_of_forall₂ hreread hd'
  exact ⟨d, hperm.mem_iff.mpr hd, hr⟩

/-- The subdirectory `d` comes first, and its files in the order `files'`. -/
theorem Reordered.first {entries : List RootEntry} {d : RootEntry} (hd : d ∈ entries)
    {files files' : List FileEntry} (hfiles : d.files = some files) (hperm : files.Perm files') :
    ∃ rest, Reordered entries ({ d with files := some files' } :: rest) := by
  obtain ⟨before, after, rfl⟩ := List.append_of_mem hd
  refine ⟨before ++ after, d :: (before ++ after), List.perm_middle, ?_⟩
  refine List.Forall₂.cons ⟨rfl, rfl, ?_⟩ (List.forall₂_same.mpr fun d _ => Reread.refl d)
  rw [hfiles]
  exact Option.Rel.some hperm

theorem Reordered.names_perm {entries order : List RootEntry} (h : Reordered entries order) :
    (entries.map RootEntry.name).Perm (order.map RootEntry.name) := by
  obtain ⟨mid, hperm, hreread⟩ := h
  have hnames : mid.map RootEntry.name = order.map RootEntry.name := by
    clear hperm
    induction hreread with
    | nil => rfl
    | cons hr _ ih => exact congrArg₂ List.cons hr.name ih
  rw [← hnames]
  exact hperm.map _

/-! ### Start times -/

variable {t : ℤ} {p : List UInt8} {tm : Tm}

theorem timeText_of_decode (h : decode name = some t) :
    ∃ p, timeText name = some p ∧ ∀ tm, (timegm (strptime startFormat p tm).2).1 = t := by
  obtain ⟨p, hp, htime⟩ := Option.bind_eq_some_iff.mp h
  dsimp only at htime
  split_ifs at htime with hsuccess
  refine ⟨p, hp, fun tm => ?_⟩
  rw [strptime_success hsuccess tm]
  exact Option.some.inj htime

theorem strptime_of_decode_none (hp : timeText name = some p) (h : decode name = none) (tm : Tm) :
    (strptime startFormat p tm).1 = false := by
  unfold decode at h
  rw [hp, Option.bind_some] at h
  dsimp only at h
  by_contra hsuccess
  have hsame := strptime_success (Bool.of_not_eq_false hsuccess) ⟨0, 0, 0, 0, 0, 0⟩
  rw [hsame, if_pos (Bool.of_not_eq_false hsuccess)] at h
  cases h

theorem expectedFile_eq {e : FileEntry} {mtime : ℤ} (htype : recordingTypeOf e.name = some type)
    (hstart : decode e.name = some startTime) (hmtime : e.mtime = some mtime) :
    expectedFile root subdir e = some (newRecording root subdir e.name type startTime mtime) := by
  unfold expectedFile
  rw [htype, hstart, hmtime]
  rfl

theorem of_mem_expectedFile {e : FileEntry} {r : Recording} (h : expectedFile root subdir e = some r) :
    r.path = pathOf root subdir e.name ∧ r.file = e.name ∧ decode e.name = some r.startTime := by
  unfold expectedFile at h
  obtain ⟨type, -, h⟩ := Option.bind_eq_some_iff.mp h
  obtain ⟨startTime, hstart, h⟩ := Option.bind_eq_some_iff.mp h
  obtain ⟨mtime, -, h⟩ := Option.bind_eq_some_iff.mp h
  obtain rfl := Option.some.inj h
  rw [path_newRecording, file_newRecording, startTime_newRecording]
  exact ⟨rfl, rfl, hstart⟩

theorem expectedFile_of_none {e : FileEntry} (h : recordingTypeOf e.name = none) :
    expectedFile root subdir e = none := by
  unfold expectedFile
  rw [h]
  rfl

/-! ### Uniform subdirectories -/

/-- A file that is not a recorded one is passed over. -/
theorem scanSubdir_none {e : FileEntry} (h : recordingTypeOf e.name = none) (es : List FileEntry)
    (tm : Tm) : scanSubdir root subdir (e :: es) tm = scanSubdir root subdir es tm := by
  rw [scanSubdir, h]

/-- A recorded file that is added. -/
theorem scanSubdir_add {e : FileEntry} {mtime : ℤ} (htype : recordingTypeOf e.name = some type)
    (hp : timeText e.name = some p) (hmtime : e.mtime = some mtime) (es : List FileEntry) (tm : Tm) :
    ∃ tm', (scanSubdir root subdir (e :: es) tm).recordings =
      newRecording root subdir e.name type (timegm (strptime startFormat p tm).2).1 mtime ::
        (scanSubdir root subdir es tm').recordings := by
  rw [scanSubdir, htype, hp, hmtime]
  exact ⟨_, rfl⟩

/-- A recorded file that ends the scan. -/
theorem scanSubdir_givesUp {e : FileEntry} (htype : (recordingTypeOf e.name).isSome)
    (hends : (timeText e.name).isSome = false ∨ e.mtime.isSome = false) (es : List FileEntry)
    (tm : Tm) : (scanSubdir root subdir (e :: es) tm).recordings = [] := by
  obtain ⟨type, htype⟩ := Option.isSome_iff_exists.mp htype
  rw [scanSubdir, htype]
  cases hp : timeText e.name with
  | none => rfl
  | some p =>
    cases hmtime : e.mtime with
    | none => rfl
    | some mtime =>
      rw [hp, hmtime] at hends
      rcases hends with hends | hends <;> cases hends

theorem scanSubdir_good {files : List FileEntry} (tm : Tm)
    (hgood : ∀ e ∈ files, (recordingTypeOf e.name).isSome → e.Good) :
    (scanSubdir root subdir files tm).recordings = files.filterMap (expectedFile root subdir) := by
  induction files generalizing tm with
  | nil => rfl
  | cons e es ih =>
    obtain ⟨he, hes⟩ := List.forall_mem_cons.mp hgood
    cases htype : recordingTypeOf e.name with
    | none =>
      rw [scanSubdir_none htype, List.filterMap_cons_none (expectedFile_of_none htype)]
      exact ih tm hes
    | some type =>
      obtain ⟨hdecode, hmtime⟩ := he (htype ▸ rfl)
      obtain ⟨startTime, hdecode⟩ := Option.isSome_iff_exists.mp hdecode
      obtain ⟨mtime, hmtime⟩ := Option.isSome_iff_exists.mp hmtime
      obtain ⟨p, hp, htime⟩ := timeText_of_decode hdecode
      obtain ⟨tm', hadd⟩ := scanSubdir_add htype hp hmtime es tm
      rw [hadd, List.filterMap_cons_some (expectedFile_eq htype hdecode hmtime), htime, ih tm' hes]

theorem scanSubdir_bad {files : List FileEntry} (tm : Tm)
    (hbad : ∀ e ∈ files, (recordingTypeOf e.name).isSome → e.GivesUp) :
    (scanSubdir root subdir files tm).recordings = files.filterMap (expectedFile root subdir) := by
  induction files with
  | nil => rfl
  | cons e es ih =>
    obtain ⟨he, hes⟩ := List.forall_mem_cons.mp hbad
    cases htype : recordingTypeOf e.name with
    | none =>
      rw [scanSubdir_none htype, List.filterMap_cons_none (expectedFile_of_none htype)]
      exact ih hes
    | some type =>
      have hsome : (recordingTypeOf e.name).isSome := htype ▸ rfl
      rw [scanSubdir_givesUp hsome (he hsome).2, eq_comm, List.filterMap_eq_nil_iff]
      intro e' he'
      cases hexpected : expectedFile root subdir e' with
      | none => rfl
      | some r =>
        have hdecode := (of_mem_expectedFile hexpected).2.2
        have hsome' : (recordingTypeOf e'.name).isSome := by
          by_contra hnone
          rw [expectedFile_of_none (by simpa using hnone)] at hexpected
          cases hexpected
        have hnone := (hbad e' he' hsome').1
        rw [hdecode] at hnone
        cases hnone

theorem scanSubdir_uniform {files : List FileEntry} (h : Uniform files) (tm : Tm) :
    (scanSubdir root subdir files tm).recordings = files.filterMap (expectedFile root subdir) :=
  h.elim (scanSubdir_good tm) (scanSubdir_bad tm)

theorem Uniform.perm {files files' : List FileEntry} (hperm : files.Perm files')
    (h : Uniform files) : Uniform files' :=
  h.imp (fun h e he => h e (hperm.mem_iff.mpr he)) fun h e he => h e (hperm.mem_iff.mpr he)

/-- All the subdirectories that are scanned are uniform. -/
def AllUniform (entries : List RootEntry) : Prop :=
  ∀ d ∈ entries, d.skipped = false → Uniform (d.files.getD [])

theorem scanRoot_uniform {entries : List RootEntry} (h : AllUniform entries) (tm : Tm) :
    (scanRoot root entries tm).recordings = entries.flatMap (expectedEntry root) := by
  induction entries generalizing tm with
  | nil => rfl
  | cons d ds ih =>
    obtain ⟨hd, hds⟩ := List.forall_mem_cons.mp h
    rw [scanRoot, List.flatMap_cons, expectedEntry]
    by_cases hskipped : d.skipped = true
    · rw [if_pos hskipped, if_pos hskipped, List.nil_append]
      exact ih hds tm
    · have huniform := hd (by simpa using hskipped)
      rw [if_neg hskipped, if_neg hskipped]
      cases hfiles : d.files with
      | none => exact ih hds tm
      | some files =>
        rw [hfiles, Option.getD_some] at huniform
        exact congrArg₂ _ (scanSubdir_uniform huniform tm) (ih hds _)

theorem AllUniform.reordered {entries order : List RootEntry} (h : AllUniform entries)
    (horder : Reordered entries order) : AllUniform order := by
  intro d' hd' hskipped
  obtain ⟨d, hd, hreread⟩ := horder.exists hd'
  exact (h d hd (hreread.skipped.trans hskipped)).perm hreread.files_perm

theorem Reread.expectedEntry_perm {d d' : RootEntry} (h : Reread d d') :
    (expectedEntry root d).Perm (expectedEntry root d') := by
  unfold expectedEntry
  rw [h.skipped, h.name]
  split_ifs
  · exact List.Perm.refl _
  · exact h.files_perm.filterMap _

theorem Reordered.expected_perm {entries order : List RootEntry} (h : Reordered entries order) :
    (entries.flatMap (expectedEntry root)).Perm (order.flatMap (expectedEntry root)) := by
  obtain ⟨mid, hperm, hreread⟩ := h
  refine (hperm.flatMap_right _).trans ?_
  clear hperm
  induction hreread with
  | nil => exact List.Perm.refl _
  | cons hr _ ih =>
    rw [List.flatMap_cons, List.flatMap_cons]
    exact hr.expectedEntry_perm.append ih

variable {dir : DataDir} {order : List RootEntry}

/-- In every order the scan finds what it should. -/
theorem scanDirs_perm (h : AllUniform dir.entries) (horder : Reordered dir.entries order) (tm : Tm) :
    (scanDirs dir.path (some order) tm).1.Perm
      (dir.entries.flatMap (expectedEntry dir.path)) := by
  refine (exchangeSort_perm _).trans ?_
  rw [scanRoot_uniform (h.reordered horder)]
  exact horder.expected_perm.symm

/-! ### Each file once -/

theorem mem_expectedEntry {d : RootEntry} {r : Recording} (h : r ∈ expectedEntry root d) :
    ∃ e ∈ d.files.getD [], expectedFile root d.name e = some r := by
  unfold expectedEntry at h
  split_ifs at h
  · cases h
  · exact List.mem_filterMap.mp h

/-- The paths of the files are all different. -/
theorem nodup_paths (dir : DataDir) :
    ((dir.entries.flatMap (expectedEntry dir.path)).map Recording.path).Nodup := by
  rw [List.map_flatMap, List.nodup_flatMap]
  constructor
  · intro d hd
    have hnames := dir.filesDistinct d hd
    rw [expectedEntry]
    split_ifs
    · exact List.nodup_nil
    · rw [List.Nodup, List.pairwise_map] at hnames ⊢
      refine hnames.filterMap _ fun e e' hne r hr r' hr' heq => ?_
      rw [(of_mem_expectedFile hr).1, (of_mem_expectedFile hr').1] at heq
      exact hne (pathOf_inj (dir.noSlash d hd) (dir.noSlash d hd) heq).2
  · have hnames := dir.distinct
    rw [List.Nodup, List.pairwise_map] at hnames
    refine hnames.imp_of_mem fun {d d'} hd hd' hne => ?_
    intro path hpath hpath'
    obtain ⟨r, hr, rfl⟩ := List.mem_map.mp hpath
    obtain ⟨r', hr', heq⟩ := List.mem_map.mp hpath'
    obtain ⟨e, -, he⟩ := mem_expectedEntry hr
    obtain ⟨e', -, he'⟩ := mem_expectedEntry hr'
    rw [(of_mem_expectedFile he).1, (of_mem_expectedFile he').1] at heq
    exact hne (pathOf_inj (dir.noSlash d' hd') (dir.noSlash d hd) heq).1.symm

theorem orderFree_of_allUniform (h : AllUniform dir.entries) : OrderFree dir where
  same := fun order order' horder horder' tm tm' =>
    (scanDirs_perm h horder tm).trans (scanDirs_perm h horder' tm').symm
  once := by
    intro order horder tm d files hscanned e he htype hdecode
    obtain ⟨hd, hskipped, hfiles⟩ := hscanned
    have hnodup := nodup_paths dir
    rw [((scanDirs_perm h horder tm).map Recording.path).count_eq]
    apply List.count_eq_one_of_mem hnodup
    have huniform := h d hd hskipped
    rw [hfiles, Option.getD_some] at huniform
    have hmtime : e.mtime.isSome := by
      rcases huniform with hgood | hbad
      · exact (hgood e he htype).2
      · rw [(hbad e he htype).1] at hdecode
        cases hdecode
    obtain ⟨type, htype⟩ := Option.isSome_iff_exists.mp htype
    obtain ⟨startTime, hdecode⟩ := Option.isSome_iff_exists.mp hdecode
    obtain ⟨mtime, hmtime⟩ := Option.isSome_iff_exists.mp hmtime
    have hexpected := @expectedFile_eq dir.path d.name type startTime e mtime htype hdecode hmtime
    refine List.mem_map.mpr ⟨_, ?_, (of_mem_expectedFile hexpected).1⟩
    refine List.mem_flatMap.mpr ⟨d, hd, ?_⟩
    rw [expectedEntry, hskipped, if_neg Bool.false_ne_true, hfiles]
    exact List.mem_filterMap.mpr ⟨e, he, hexpected⟩
  named := by
    refine ⟨fun name => (decode name).getD 0, ?_⟩
    intro order horder tm r hr
    obtain ⟨d, -, hr⟩ := List.mem_flatMap.mp ((scanDirs_perm h horder tm).mem_iff.mp hr)
    obtain ⟨e, -, he⟩ := mem_expectedEntry hr
    obtain ⟨-, hfile, hdecode⟩ := of_mem_expectedFile he
    dsimp only
    rw [hfile, hdecode]
    rfl
  sorted := fun order tm => exchangeSort_sorted later_asymm not_later_trans _

/-! ### Where a recording comes from -/

theorem mem_scanSubdir {files : List FileEntry} {r : Recording}
    (h : r ∈ (scanSubdir root subdir files tm).recordings) :
    ∃ e ∈ files, e.mtime.isSome ∧ r.path = pathOf root subdir e.name := by
  induction files generalizing tm with
  | nil => cases h
  | cons e es ih =>
    cases htype : recordingTypeOf e.name with
    | none =>
      rw [scanSubdir_none htype] at h
      obtain ⟨e', he', hsource⟩ := ih h
      exact ⟨e', List.mem_cons_of_mem _ he', hsource⟩
    | some type =>
      have hsome : (recordingTypeOf e.name).isSome := htype ▸ rfl
      cases hp : timeText e.name with
      | none =>
        rw [scanSubdir_givesUp hsome (Or.inl (hp ▸ rfl))] at h
        cases h
      | some p =>
        cases hmtime : e.mtime with
        | none =>
          rw [scanSubdir_givesUp hsome (Or.inr (hmtime ▸ rfl))] at h
          cases h
        | some mtime =>
          obtain ⟨tm', hadd⟩ := @scanSubdir_add root subdir type p e mtime htype hp hmtime es tm
          rw [hadd] at h
          rcases List.mem_cons.mp h with rfl | h
          · exact ⟨e, List.mem_cons_self, hmtime ▸ rfl, path_newRecording⟩
          · obtain ⟨e', he', hsource⟩ := ih h
            exact ⟨e', List.mem_cons_of_mem _ he', hsource⟩

theorem mem_scanRoot {entries : List RootEntry} {r : Recording}
    (h : r ∈ (scanRoot root entries tm).recordings) :
    ∃ d ∈ entries, ∃ files, d.files = some files ∧
      ∃ tm', r ∈ (scanSubdir root d.name files tm').recordings := by
  induction entries generalizing tm with
  | nil => cases h
  | cons d ds ih =>
    rw [scanRoot] at h
    by_cases hskipped : d.skipped = true
    · rw [if_pos hskipped] at h
      obtain ⟨d', hd', hsource⟩ := ih h
      exact ⟨d', List.mem_cons_of_mem _ hd', hsource⟩
    · rw [if_neg hskipped] at h
      cases hfiles : d.files with
      | none =>
        rw [hfiles] at h
        obtain ⟨d', hd', hsource⟩ := ih h
        exact ⟨d', List.mem_cons_of_mem _ hd', hsource⟩
      | some files =>
        rw [hfiles] at h
        rcases List.mem_append.mp h with h | h
        · exact ⟨d, List.mem_cons_self, files, hfiles, tm, h⟩
        · obtain ⟨d', hd', hsource⟩ := ih h
          exact ⟨d', List.mem_cons_of_mem _ hd', hsource⟩

theorem scanRoot_first {d : RootEntry} {files : List FileEntry} (hskipped : d.skipped = false)
    (hfiles : d.files = some files) (ds : List RootEntry) :
    ∃ tm', (scanRoot root (d :: ds) tm).recordings =
      (scanSubdir root d.name files tm).recordings ++ (scanRoot root ds tm').recordings := by
  rw [scanRoot, hskipped, hfiles]
  exact ⟨_, rfl⟩

section

variable {d : RootEntry} {files : List FileEntry} (h : OrderFree dir) (hscanned : Scanned dir d files)

include h hscanned

/-- A file with a start time is found in every order. -/
theorem OrderFree.found {e : FileEntry} (he : e ∈ files) (htype : (recordingTypeOf e.name).isSome)
    (hdecode : (decode e.name).isSome) (horder : Reordered dir.entries order) :
    ∃ d' ∈ order, d'.name = d.name ∧ ∃ files', d'.files = some files' ∧
      ∃ tm, ∃ r ∈ (scanSubdir dir.path d.name files' tm).recordings,
        r.path = pathOf dir.path d.name e.name := by
  have honce := h.once order horder ⟨0, 0, 0, 0, 0, 0⟩ d files hscanned e he htype hdecode
  have hmem : pathOf dir.path d.name e.name ∈
      (scanDirs dir.path (some order) ⟨0, 0, 0, 0, 0, 0⟩).1.map Recording.path :=
    List.count_pos_iff.mp (by omega)
  obtain ⟨r, hr, hpath⟩ := List.mem_map.mp hmem
  obtain ⟨d', hd', files', hfiles', tm, hr⟩ := mem_scanRoot ((exchangeSort_perm _).mem_iff.mp hr)
  obtain ⟨d'', hd'', hreread⟩ := horder.exists hd'
  obtain ⟨e', -, -, hpath'⟩ := mem_scanSubdir hr
  have hname : d'.name = d.name := by
    refine (pathOf_inj ?_ (dir.noSlash d hscanned.1) (hpath'.symm.trans hpath)).1
    exact hreread.name ▸ dir.noSlash d'' hd''
  exact ⟨d', hd', hname, files', hfiles', tm, r, hname ▸ hr, hpath⟩

/-- So `stat` succeeds for it. -/
theorem OrderFree.mtime {e : FileEntry} (he : e ∈ files) (htype : (recordingTypeOf e.name).isSome)
    (hdecode : (decode e.name).isSome) : e.mtime.isSome := by
  obtain ⟨d', hd', hname, files', hfiles', tm, r, hr, hpath⟩ :=
    h.found hscanned he htype hdecode (Reordered.refl dir.entries)
  obtain ⟨hd, -, hfiles⟩ := hscanned
  obtain rfl := List.inj_on_of_nodup_map dir.distinct hd' hd hname
  obtain rfl := Option.some.inj (hfiles'.symm.trans hfiles)
  obtain ⟨e', he', hmtime, hpath'⟩ := mem_scanSubdir hr
  have hnames := dir.filesDistinct d' hd
  rw [hfiles, Option.getD_some] at hnames
  have hslash := dir.noSlash d' hd
  obtain rfl := List.inj_on_of_nodup_map hnames he' he
    (pathOf_inj hslash hslash (hpath'.symm.trans hpath)).2
  exact hmtime

/-- No recorded file of its subdirectory ends the scan: it might come first. -/
theorem OrderFree.goesOn {e b : FileEntry} (he : e ∈ files)
    (htype : (recordingTypeOf e.name).isSome) (hdecode : (decode e.name).isSome) (hb : b ∈ files)
    (hbtype : (recordingTypeOf b.name).isSome) :
    ¬((timeText b.name).isSome = false ∨ b.mtime.isSome = false) := by
  intro hends
  obtain ⟨before, after, hsplit⟩ := List.append_of_mem hb
  have hperm : files.Perm (b :: (before ++ after)) := hsplit ▸ List.perm_middle
  obtain ⟨rest, horder⟩ := Reordered.first hscanned.1 hscanned.2.2 hperm
  obtain ⟨d', hd', hname, files', hfiles', tm, r, hr, -⟩ := h.found hscanned he htype hdecode horder
  rcases List.mem_cons.mp hd' with rfl | hd'
  · obtain rfl := Option.some.inj hfiles'
    rw [scanSubdir_givesUp hbtype hends] at hr
    cases hr
  · have hnames := horder.names_perm.nodup_iff.mp dir.distinct
    rw [List.map_cons, List.nodup_cons] at hnames
    exact hnames.1 (hname ▸ List.mem_map_of_mem hd')

/-- A recorded file without a start time ends the scan: the time that it would get is not its
own. -/
theorem OrderFree.givesUp {e : FileEntry} (he : e ∈ files)
    (htype : (recordingTypeOf e.name).isSome) (hdecode : (decode e.name).isSome = false) :
    (timeText e.name).isSome = false ∨ e.mtime.isSome = false := by
  by_contra hadds
  obtain ⟨hd, hskipped, hfiles⟩ := hscanned
  obtain ⟨p, hp⟩ := Option.isSome_iff_exists.mp (Bool.of_not_eq_false fun hp => hadds (Or.inl hp))
  obtain ⟨mtime, hmtime⟩ :=
    Option.isSome_iff_exists.mp (Bool.of_not_eq_false fun hm => hadds (Or.inr hm))
  obtain ⟨type, htype⟩ := Option.isSome_iff_exists.mp htype
  obtain ⟨before, after, hsplit⟩ := List.append_of_mem he
  have hperm : files.Perm (e :: (before ++ after)) := hsplit ▸ List.perm_middle
  obtain ⟨rest, horder⟩ := Reordered.first hd hfiles hperm
  obtain ⟨startOf, hnamed⟩ := h.named
  have hstart (tm : Tm) : (timegm (strptime startFormat p tm).2).1 = startOf e.name := by
    obtain ⟨tm', hadd⟩ :=
      @scanSubdir_add dir.path d.name type p e mtime htype hp hmtime (before ++ after) tm
    have hmem := hnamed _ horder tm (newRecording dir.path d.name e.name type
      (timegm (strptime startFormat p tm).2).1 mtime)
    rw [startTime_newRecording, file_newRecording] at hmem
    apply hmem
    refine (exchangeSort_perm _).mem_iff.mpr ?_
    obtain ⟨tm'', hfirst⟩ := @scanRoot_first dir.path tm
      { d with files := some (e :: (before ++ after)) } _ hskipped rfl rest
    rw [hfirst, hadd]
    exact List.mem_append_left _ List.mem_cons_self
  have hfails := strptime_of_decode_none hp (by simpa using hdecode) ⟨0, 0, 0, 0, 0, 0⟩
  have hcarried := strptime_keeps_sec hfails
    ((strptime startFormat p ⟨0, 0, 0, 0, 0, 0⟩).2.sec + 1)
  rw [hstart, hstart] at hcarried
  omega

theorem OrderFree.uniform : Uniform files := by
  have hbad (e : FileEntry) (he : e ∈ files) (htype : (recordingTypeOf e.name).isSome)
      (hdecode : (decode e.name).isSome = false) : e.GivesUp :=
    ⟨hdecode, h.givesUp hscanned he htype hdecode⟩
  by_cases hsome : ∃ e ∈ files, (recordingTypeOf e.name).isSome ∧ (decode e.name).isSome
  · obtain ⟨e, he, htype, hdecode⟩ := hsome
    refine Or.inl fun e' he' htype' => ?_
    cases hdecode' : (decode e'.name).isSome with
    | true => exact ⟨hdecode', h.mtime hscanned he' htype' hdecode'⟩
    | false =>
      exact absurd (hbad e' he' htype' hdecode').2
        (h.goesOn hscanned he htype hdecode he' htype')
  · refine Or.inr fun e he htype => hbad e he htype ?_
    by_contra hdecode
    exact hsome ⟨e, he, htype, Bool.of_not_eq_false hdecode⟩

end

def exampleFiles : List FileEntry :=
  [⟨bytes "old_raw", some 0⟩, ⟨bytes "ang20240102t030405_raw", some 1704164700⟩]

def exampleSubdir (files : List FileEntry) : RootEntry := ⟨bytes "20240102", true, some files⟩

def exampleDir : DataDir where
  path := bytes "/data"
  entries := [exampleSubdir exampleFiles]
  distinct := by decide
  noSlash := by decide
  filesDistinct := by decide

end Recordings
