import Ngdcs.Recordings.FileNames

/-! The data directory as files are made and deleted in it, and what a scan of it would find. -/
namespace Recordings

open CStrings

namespace DataDir

/-- The entries are changed one by one, and keep their names. -/
def modify (dir : DataDir) (f : RootEntry → RootEntry) (hname : ∀ d, (f d).name = d.name)
    (hfiles : ∀ d, ((d.files.getD []).map FileEntry.name).Nodup →
      (((f d).files.getD []).map FileEntry.name).Nodup) : DataDir where
  path := dir.path
  entries := dir.entries.map f
  distinct := by
    rw [List.map_map, show RootEntry.name ∘ f = RootEntry.name from funext hname]
    exact dir.distinct
  noSlash := by
    intro d' hd'
    obtain ⟨d, hd, rfl⟩ := List.mem_map.mp hd'
    rw [hname]
    exact dir.noSlash d hd
  filesDistinct := by
    intro d' hd'
    obtain ⟨d, hd, rfl⟩ := List.mem_map.mp hd'
    exact hfiles d (dir.filesDistinct d hd)

end DataDir

/-- The file is there, and it is the last one that `readdir` returns. -/
def RootEntry.create (name : List UInt8) (mtime : ℤ) (d : RootEntry) : RootEntry :=
  { d with files := d.files.map fun files => files.filter (·.name ≠ name) ++ [⟨name, some mtime⟩] }

def RootEntry.unlink (root path : List UInt8) (d : RootEntry) : RootEntry :=
  { d with
    files := d.files.map fun files => files.filter fun e => pathOf root d.name e.name ≠ path }

theorem RootEntry.files_create (name : List UInt8) (mtime : ℤ) (d : RootEntry)
    (h : d.files.isSome) : (d.create name mtime).files.getD [] =
      (d.files.getD []).filter (·.name ≠ name) ++ [⟨name, some mtime⟩] := by
  obtain ⟨files, hfiles⟩ := Option.isSome_iff_exists.mp h
  rw [create, hfiles]
  rfl

theorem RootEntry.files_unlink (root path : List UInt8) (d : RootEntry) :
    (d.unlink root path).files.getD [] =
      (d.files.getD []).filter fun e => pathOf root d.name e.name ≠ path := by
  rw [unlink]
  cases d.files with
  | none => rfl
  | some files => rfl

@[simp] theorem RootEntry.skipped_create (name : List UInt8) (mtime : ℤ) (d : RootEntry) :
    (d.create name mtime).skipped = d.skipped := rfl

@[simp] theorem RootEntry.skipped_unlink (root path : List UInt8) (d : RootEntry) :
    (d.unlink root path).skipped = d.skipped := rfl

namespace DataDir

variable (dir : DataDir)

/-- `fopen(path, "w")` of a file in a subdirectory: it is new, or loses its content. -/
def create (subdir name : List UInt8) (mtime : ℤ) : DataDir :=
  dir.modify (fun d => if d.name = subdir then d.create name mtime else d)
    (by intro d; split_ifs <;> rfl) (by
      intro d hnodup
      split_ifs with hsubdir
      · cases hfiles : d.files with
        | none => simp [RootEntry.create, hfiles]
        | some files =>
          rw [RootEntry.files_create _ _ _ (by rw [hfiles]; rfl), List.map_append,
            List.map_singleton, List.nodup_append]
          refine ⟨hnodup.sublist (List.filter_sublist.map _), List.nodup_singleton _, ?_⟩
          intro name' hname' _ hmem heq
          obtain ⟨e, he, rfl⟩ := List.mem_map.mp hname'
          rw [List.mem_singleton.mp hmem] at heq
          simpa [heq] using List.of_mem_filter he
      · exact hnodup)

/-- `unlink(path)` that succeeds, or does not find the file. -/
def unlink (path : List UInt8) : DataDir :=
  dir.modify (RootEntry.unlink dir.path path) (fun _ => rfl) (by
    intro d hnodup
    rw [RootEntry.files_unlink]
    exact hnodup.sublist (List.filter_sublist.map _))

/-- `rmdir` of the entries that are `gone`. -/
def rmdirs (gone : RootEntry → Bool) : DataDir where
  path := dir.path
  entries := dir.entries.filter fun d => !gone d
  distinct := dir.distinct.sublist (List.filter_sublist.map _)
  noSlash := fun d hd => dir.noSlash d (List.mem_of_mem_filter hd)
  filesDistinct := fun d hd => dir.filesDistinct d (List.mem_of_mem_filter hd)

/-- What a scan should find. -/
def recorded : List Recording := dir.entries.flatMap (expectedEntry dir.path)

/-- A file of this path is there. -/
def OnDisk (path : List UInt8) : Prop :=
  ∃ d ∈ dir.entries, ∃ e ∈ d.files.getD [], e.name ≠ bytes "." ∧ e.name ≠ bytes ".." ∧
    path = pathOf dir.path d.name e.name

end DataDir

instance (dir : DataDir) (path : List UInt8) : Decidable (dir.OnDisk path) :=
  inferInstanceAs (Decidable (∃ d ∈ dir.entries, ∃ e ∈ d.files.getD [], e.name ≠ bytes "." ∧
    e.name ≠ bytes ".." ∧ path = pathOf dir.path d.name e.name))

instance (dir : DataDir) : Decidable (Accessible dir) :=
  inferInstanceAs (Decidable (∀ d ∈ dir.entries, d.skipped = false → d.files.isSome ∧
    ∀ e ∈ d.files.getD [],
      e.mtime.isSome ∧ ((recordingTypeOf e.name).isSome → (decode e.name).isSome)))

variable {dir : DataDir} {path q : List UInt8}

/-! ### Deleting a file -/

theorem expectedEntry_unlink (root path : List UInt8) (d : RootEntry) :
    expectedEntry root (d.unlink root path) = (expectedEntry root d).filter (·.path ≠ path) := by
  unfold expectedEntry
  rw [RootEntry.skipped_unlink, RootEntry.files_unlink]
  split_ifs
  · rfl
  · rw [List.filterMap_filter, List.filter_filterMap]
    refine List.filterMap_congr fun e _ => ?_
    have hname : (d.unlink root path).name = d.name := rfl
    cases hexpected : expectedFile root d.name e with
    | none => simp [hname, hexpected]
    | some r =>
      rw [← (of_mem_expectedFile hexpected).1]
      simp [hname, hexpected, Option.filter]

/-- A recording is gone with its file. -/
theorem recorded_unlink (dir : DataDir) (path : List UInt8) :
    (dir.unlink path).recorded = dir.recorded.filter (·.path ≠ path) := by
  unfold DataDir.recorded
  rw [List.filter_flatMap]
  exact (List.flatMap_map _ _ _).trans (List.flatMap_congr fun d _ => expectedEntry_unlink _ _ d)

theorem onDisk_unlink : (dir.unlink path).OnDisk q ↔ dir.OnDisk q ∧ q ≠ path := by
  constructor
  · rintro ⟨d', hd', e, he, hdot, hdots, rfl⟩
    obtain ⟨d, hd, rfl⟩ := List.mem_map.mp hd'
    rw [RootEntry.files_unlink] at he
    obtain ⟨he, hne⟩ := List.mem_filter.mp he
    exact ⟨⟨d, hd, e, he, hdot, hdots, rfl⟩, of_decide_eq_true hne⟩
  · rintro ⟨⟨d, hd, e, he, hdot, hdots, rfl⟩, hne⟩
    refine ⟨_, List.mem_map_of_mem hd, e, ?_, hdot, hdots, rfl⟩
    rw [RootEntry.files_unlink]
    exact List.mem_filter.mpr ⟨he, decide_eq_true hne⟩

theorem Accessible.unlink (h : Accessible dir) (path : List UInt8) :
    Accessible (dir.unlink path) := by
  intro d' hd' hskipped
  obtain ⟨d, hd, rfl⟩ := List.mem_map.mp hd'
  obtain ⟨hfiles, hown⟩ := h d hd hskipped
  refine ⟨by simpa [RootEntry.unlink] using hfiles, fun e he => ?_⟩
  rw [RootEntry.files_unlink] at he
  exact hown e (List.mem_of_mem_filter he)

/-! ### Making a file -/

section

variable {subdir name : List UInt8} {mtime : ℤ}

/-- One entry changes. -/
theorem entries_create {before after : List RootEntry} {d : RootEntry}
    (hsplit : dir.entries = before ++ d :: after) (hname : d.name = subdir) :
    (dir.create subdir name mtime).entries = before ++ d.create name mtime :: after := by
  have hdistinct := dir.distinct
  rw [hsplit, List.map_append, List.map_cons, List.nodup_append, List.nodup_cons] at hdistinct
  have hother {ds : List RootEntry} (h : ∀ d' ∈ ds, d'.name ≠ subdir) :
      ds.map (fun d => if d.name = subdir then d.create name mtime else d) = ds :=
    (List.map_congr_left fun d' hd' => if_neg (h d' hd')).trans (List.map_id ds)
  have hbefore : ∀ d' ∈ before, d'.name ≠ subdir := fun d' hd' =>
    hname ▸ hdistinct.2.2 _ (List.mem_map_of_mem hd') _ List.mem_cons_self
  have hafter : ∀ d' ∈ after, d'.name ≠ subdir := fun d' hd' heq =>
    hdistinct.2.1.1 (hname ▸ heq ▸ List.mem_map_of_mem hd')
  show dir.entries.map _ = _
  rw [hsplit, List.map_append, List.map_cons, if_pos hname, hother hbefore, hother hafter]

theorem expectedEntry_create (root : List UInt8) (d : RootEntry)
    (htype : recordingTypeOf name = none) :
    expectedEntry root (d.create name mtime) = expectedEntry root d := by
  cases hfiles : d.files with
  | none => simp [RootEntry.create, expectedEntry, RootEntry.skipped, hfiles]
  | some files =>
    unfold expectedEntry
    rw [RootEntry.skipped_create, RootEntry.files_create _ _ _ (by rw [hfiles]; rfl)]
    split_ifs
    · rfl
    · have hname : (d.create name mtime).name = d.name := rfl
      have hnew : [(⟨name, some mtime⟩ : FileEntry)].filterMap (expectedFile root d.name) = [] :=
        List.filterMap_cons_none (expectedFile_of_none htype)
      rw [List.filterMap_append, hname, hnew, List.append_nil, List.filterMap_filter]
      refine List.filterMap_congr fun e _ => ?_
      by_cases he : e.name = name
      · rw [expectedFile_of_none (he ▸ htype), ite_self]
      · simp [he]

/-- A file of another kind is not listed. -/
theorem recorded_create (dir : DataDir) (subdir : List UInt8) (mtime : ℤ)
    (htype : recordingTypeOf name = none) :
    (dir.create subdir name mtime).recorded = dir.recorded := by
  unfold DataDir.recorded
  refine (List.flatMap_map _ _ _).trans (List.flatMap_congr fun d _ => ?_)
  split_ifs
  · exact expectedEntry_create dir.path d htype
  · rfl

/-- A new recorded file is listed. -/
theorem recorded_create_perm {d : RootEntry} {type : RecordingType} {startTime : ℤ}
    (hd : d ∈ dir.entries) (hname : d.name = subdir) (hskipped : d.skipped = false)
    (hfiles : d.files.isSome) (hfresh : ∀ e ∈ d.files.getD [], e.name ≠ name)
    (htype : recordingTypeOf name = some type) (hstart : decode name = some startTime) :
    (dir.create subdir name mtime).recorded.Perm
      (newRecording dir.path subdir name type startTime mtime :: dir.recorded) := by
  obtain ⟨before, after, hsplit⟩ := List.append_of_mem hd
  have hentry : expectedEntry dir.path (d.create name mtime) =
      expectedEntry dir.path d ++ [newRecording dir.path subdir name type startTime mtime] := by
    have hnew : [(⟨name, some mtime⟩ : FileEntry)].filterMap (expectedFile dir.path d.name) =
        [newRecording dir.path d.name name type startTime mtime] :=
      List.filterMap_cons_some (expectedFile_eq htype hstart rfl)
    have hcreated : (d.create name mtime).name = d.name := rfl
    have hkept : (d.files.getD []).filter (·.name ≠ name) = d.files.getD [] :=
      List.filter_eq_self.mpr fun e he => decide_eq_true (hfresh e he)
    unfold expectedEntry
    rw [RootEntry.skipped_create, RootEntry.files_create _ _ _ hfiles, hskipped,
      if_neg Bool.false_ne_true, if_neg Bool.false_ne_true, hkept, List.filterMap_append, hcreated,
      hnew, hname]
  have hroot : (dir.create subdir name mtime).path = dir.path := rfl
  unfold DataDir.recorded
  rw [entries_create hsplit hname, hroot, hsplit]
  simp only [List.flatMap_append, List.flatMap_cons, hentry, List.append_assoc,
    List.singleton_append]
  rw [← List.append_assoc, ← List.append_assoc]
  exact List.perm_middle

/-- The files of an entry that may be the one in which a file is made. -/
theorem mem_files_create {d : RootEntry} {e : FileEntry} (h : e ∈ d.files.getD []) :
    ∃ e' ∈ (d.create name mtime).files.getD [], e'.name = e.name := by
  have hfiles : d.files.isSome := by
    by_contra hnone
    rw [Option.not_isSome_iff_eq_none.mp hnone] at h
    cases h
  rw [RootEntry.files_create _ _ _ hfiles]
  by_cases he : e.name = name
  · exact ⟨⟨name, some mtime⟩, by simp, he.symm⟩
  · exact ⟨e, List.mem_append_left _ (List.mem_filter.mpr ⟨h, decide_eq_true he⟩), rfl⟩

theorem onDisk_create (h : dir.OnDisk q) : (dir.create subdir name mtime).OnDisk q := by
  obtain ⟨d, hd, e, he, hdot, hdots, rfl⟩ := h
  refine ⟨_, List.mem_map_of_mem hd, ?_⟩
  split_ifs with hsubdir
  · obtain ⟨e', he', hname⟩ := @mem_files_create name mtime d e he
    exact ⟨e', he', hname ▸ hdot, hname ▸ hdots, by rw [hname]; rfl⟩
  · exact ⟨e, he, hdot, hdots, rfl⟩

theorem onDisk_created {d : RootEntry} (hd : d ∈ dir.entries) (hsubdir : d.name = subdir)
    (hfiles : d.files.isSome) (hdot : name ≠ bytes ".") (hdots : name ≠ bytes "..") :
    (dir.create subdir name mtime).OnDisk (pathOf dir.path subdir name) := by
  refine ⟨d.create name mtime, List.mem_map.mpr ⟨d, hd, if_pos hsubdir⟩, ⟨name, some mtime⟩, ?_,
    hdot, hdots, ?_⟩
  · rw [RootEntry.files_create _ _ _ hfiles]
    exact List.mem_append_right _ List.mem_cons_self
  · rw [← hsubdir]
    rfl

theorem Accessible.create (h : Accessible dir) (subdir : List UInt8) (mtime : ℤ)
    (hstart : (recordingTypeOf name).isSome → (decode name).isSome) :
    Accessible (dir.create subdir name mtime) := by
  intro d' hd' hskipped
  obtain ⟨d, hd, rfl⟩ := List.mem_map.mp hd'
  split_ifs at hskipped ⊢
  · obtain ⟨hfiles, hown⟩ := h d hd hskipped
    refine ⟨by simpa [RootEntry.create] using hfiles, fun e he => ?_⟩
    rw [RootEntry.files_create _ _ _ hfiles] at he
    rcases List.mem_append.mp he with he | he
    · exact hown e (List.mem_of_mem_filter he)
    · rw [List.mem_singleton.mp he]
      exact ⟨rfl, hstart⟩
  · exact h d hd hskipped

end

/-! ### Pruning directories -/

section

variable {gone : RootEntry → Bool} (hempty : ∀ d ∈ dir.entries, gone d = true →
  ∀ e ∈ d.files.getD [], e.name = bytes "." ∨ e.name = bytes "..")

include hempty

theorem expectedEntry_gone {root : List UInt8} {d : RootEntry} (hd : d ∈ dir.entries)
    (hgone : gone d = true) : expectedEntry root d = [] := by
  unfold expectedEntry
  split_ifs
  · rfl
  · refine List.filterMap_eq_nil_iff.mpr fun e he => expectedFile_of_none ?_
    rcases hempty d hd hgone e he with hname | hname <;> rw [hname] <;> decide

theorem recorded_rmdirs : (dir.rmdirs gone).recorded = dir.recorded := by
  have hall := @expectedEntry_gone dir gone hempty dir.path
  show (dir.entries.filter fun d => !gone d).flatMap _ = dir.entries.flatMap _
  have hroot : (dir.rmdirs gone).path = dir.path := rfl
  rw [hroot]
  clear hempty
  generalize dir.entries = entries at hall ⊢
  induction entries with
  | nil => rfl
  | cons d ds ih =>
    have hrest := ih fun hd => hall (List.mem_cons_of_mem _ hd)
    cases hgone : gone d with
    | false => rw [List.filter_cons_of_pos (by rw [hgone]; rfl), List.flatMap_cons, hrest,
        List.flatMap_cons]
    | true => rw [List.filter_cons_of_neg (by simp [hgone]), hrest, List.flatMap_cons,
        hall List.mem_cons_self hgone, List.nil_append]

theorem onDisk_rmdirs : (dir.rmdirs gone).OnDisk q ↔ dir.OnDisk q := by
  constructor
  · rintro ⟨d, hd, he⟩
    exact ⟨d, List.mem_of_mem_filter hd, he⟩
  · rintro ⟨d, hd, e, he, hdot, hdots, hq⟩
    refine ⟨d, List.mem_filter.mpr ⟨hd, ?_⟩, e, he, hdot, hdots, hq⟩
    cases hgone : gone d with
    | false => rfl
    | true =>
      rcases hempty d hd hgone e he with hname | hname
      · exact absurd hname hdot
      · exact absurd hname hdots

end

theorem Accessible.rmdirs (h : Accessible dir) (gone : RootEntry → Bool) :
    Accessible (dir.rmdirs gone) :=
  fun d hd => h d (List.mem_of_mem_filter hd)

end Recordings
