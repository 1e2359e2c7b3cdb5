import Ngdcs.Recordings.Tab

/-! The files that belong to a recording: which recordings a scan finds when those of some of them
are deleted or made. -/
namespace Recordings

open CStrings Ftp

/-! ### Files of different recordings -/

/-- All of a recording but its end, which is that of the file when it is scanned. -/
def Recording.untimed (r : Recording) : Recording := { r with endTime := 0, duration := 0 }

@[simp] theorem Recording.path_untimed (r : Recording) : r.untimed.path = r.path := rfl

@[simp] theorem Recording.paths_untimed (r : Recording) : r.untimed.paths = r.paths := rfl

/-- The recorded file that a file is deleted with. -/
def ownerOf (name : List UInt8) : List UInt8 :=
  let stem := name.take (name.length - 4)
  if endsIn name (bytes ".hdr") then stem
  else if endsIn name (bytes "_gps") || endsIn name (bytes "_pps") then stem ++ bytes "_raw"
  else name

/-- A recording of a file in a subdirectory, as the scan and `openFiles` make them. -/
def Recording.Shaped (root : List UInt8) (r : Recording) : Prop :=
  ∃ subdir name type startTime, 47 ∉ subdir ∧ recordingTypeOf name = some type ∧
    r.untimed = (newRecording root subdir name type startTime 0).untimed

theorem exists_base {name : List UInt8} {type : RecordingType}
    (h : recordingTypeOf name = some type) : ∃ base, name = base ++ type.suffix :=
  endsIn_iff.mp (List.find?_some (p := fun type => endsIn name (RecordingType.suffix type)) h)

theorem ownerOf_recorded {name : List UInt8} {type : RecordingType}
    (h : recordingTypeOf name = some type) : ownerOf name = name := by
  obtain ⟨base, rfl⟩ := exists_base h
  have hends {suffix : List UInt8} (hlength : suffix.length ≤ type.suffix.length)
      (hother : endsIn type.suffix suffix = false) : endsIn (base ++ type.suffix) suffix = false :=
    (endsIn_append hlength).trans hother
  unfold ownerOf
  cases type <;>
    simp only [@hends (bytes ".hdr") (by decide) (by decide),
      @hends (bytes "_gps") (by decide) (by decide),
      @hends (bytes "_pps") (by decide) (by decide), Bool.false_eq_true, if_false, Bool.or_self]

theorem take_stem {base suffix : List UInt8} (h : suffix.length = 4) :
    (base ++ suffix).take ((base ++ suffix).length - 4) = base := by
  rw [List.length_append, h, Nat.add_sub_cancel, List.take_left]

theorem ownerOf_hdr (name : List UInt8) : ownerOf (name ++ bytes ".hdr") = name := by
  unfold ownerOf
  rw [if_pos (endsIn_iff.mpr ⟨name, rfl⟩)]
  exact take_stem rfl

theorem ownerOf_data {base name : List UInt8} (h : DataName base name) :
    ownerOf name = base ++ bytes "_raw" := by
  unfold ownerOf
  rcases h with rfl | rfl
  · rw [if_neg, if_pos, take_stem rfl]
    · rw [endsIn_iff.mpr ⟨base, rfl⟩, Bool.true_or]
    · rw [endsIn_append (by decide)]
      decide
  · rw [if_neg, if_pos, take_stem rfl]
    · rw [endsIn_iff.mpr ⟨base, rfl⟩, Bool.or_true]
    · rw [endsIn_append (by decide)]
      decide

/-- A recording is deleted with files of its own subdirectory, whose names give it away. -/
theorem Recording.Shaped.owner {root : List UInt8} {r : Recording} (h : r.Shaped root) :
    ∃ subdir name, 47 ∉ subdir ∧ r.path = pathOf root subdir name ∧ r.path ∈ r.paths ∧
      ∀ path ∈ r.paths, ∃ file, path = pathOf root subdir file ∧ ownerOf file = name := by
  obtain ⟨subdir, name, type, startTime, hslash, htype, heq⟩ := h
  have hpath : r.path = pathOf root subdir name := by
    rw [← path_untimed, heq, path_untimed, path_newRecording]
  refine ⟨subdir, name, hslash, hpath, ?_⟩
  rw [← paths_untimed, heq, paths_untimed, hpath]
  have hown := ownerOf_recorded htype
  cases type with
  | flightLine =>
    obtain ⟨base, rfl⟩ := exists_base htype
    have hnames := @newRecording_raw root subdir startTime 0 base
    have hhdr : pathOf root subdir (base ++ bytes "_raw") ++ bytes ".hdr" =
        pathOf root subdir (base ++ bytes "_raw" ++ bytes ".hdr") := by
      simp [pathOf]
    have hpaths : (newRecording root subdir (base ++ RecordingType.flightLine.suffix) .flightLine
        startTime 0).paths = [pathOf root subdir (base ++ bytes "_raw"),
          pathOf root subdir (base ++ bytes "_raw" ++ bytes ".hdr"),
          pathOf root subdir (base ++ bytes "_gps"),
          pathOf root subdir (base ++ bytes "_pps")] := by
      rw [← hhdr, ← hnames.1.2, ← hnames.2.2]
      rfl
    rw [hpaths]
    refine ⟨List.mem_cons_self, ?_⟩
    simp only [List.forall_mem_cons]
    exact ⟨⟨_, rfl, hown⟩, ⟨_, rfl, ownerOf_hdr _⟩, ⟨_, rfl, ownerOf_data (.inl rfl)⟩,
      ⟨_, rfl, ownerOf_data (.inr rfl)⟩, nofun⟩
  | allGps =>
    exact ⟨List.mem_cons_self, fun path hmem => ⟨name, List.mem_singleton.mp hmem, hown⟩⟩
  | allPps =>
    exact ⟨List.mem_cons_self, fun path hmem => ⟨name, List.mem_singleton.mp hmem, hown⟩⟩
  | diags =>
    exact ⟨List.mem_cons_self, fun path hmem => ⟨name, List.mem_singleton.mp hmem, hown⟩⟩
  | log =>
    exact ⟨List.mem_cons_self, fun path hmem => ⟨name, List.mem_singleton.mp hmem, hown⟩⟩

/-- Recordings that share a file are the same file. -/
theorem path_eq_of_mem_paths {root path : List UInt8} {r r' : Recording} (h : r.Shaped root)
    (h' : r'.Shaped root) (hmem : path ∈ r.paths) (hmem' : path ∈ r'.paths) :
    r.path = r'.path := by
  obtain ⟨subdir, name, hslash, hpath, -, howner⟩ := h.owner
  obtain ⟨subdir', name', hslash', hpath', -, howner'⟩ := h'.owner
  obtain ⟨file, hfile, rfl⟩ := howner path hmem
  obtain ⟨file', hfile', rfl⟩ := howner' path hmem'
  obtain ⟨rfl, rfl⟩ := pathOf_inj hslash hslash' (hfile.symm.trans hfile')
  rw [hpath, hpath']

theorem shaped_of_mem_recorded {dir : DataDir} {r : Recording} (h : r ∈ dir.recorded) :
    r.Shaped dir.path := by
  obtain ⟨d, hd, hr⟩ := List.mem_flatMap.mp h
  obtain ⟨e, -, hexpected⟩ := mem_expectedEntry hr
  unfold expectedFile at hexpected
  obtain ⟨type, htype, hexpected⟩ := Option.bind_eq_some_iff.mp hexpected
  obtain ⟨startTime, -, hexpected⟩ := Option.bind_eq_some_iff.mp hexpected
  obtain ⟨mtime, -, hexpected⟩ := Option.bind_eq_some_iff.mp hexpected
  obtain rfl := Option.some.inj hexpected
  exact ⟨d.name, e.name, type, startTime, dir.noSlash d hd, htype, by cases type <;> rfl⟩

/-! ### What is listed -/

/-- The two lists are the same recordings, in another order and but for their ends. -/
def SameRecordings (l l' : List Recording) : Prop :=
  (l.map Recording.untimed).Perm (l'.map Recording.untimed)

theorem SameRecordings.filter {l l' : List Recording} (h : SameRecordings l l')
    (kept : List UInt8 → Bool) :
    SameRecordings (l.filter fun r => kept r.path) (l'.filter fun r => kept r.path) := by
  have hfilter (l : List Recording) : (l.filter fun r => kept r.path).map Recording.untimed =
      (l.map Recording.untimed).filter fun r => kept r.path := by
    rw [List.filter_map]
    rfl
  unfold SameRecordings
  rw [hfilter, hfilter]
  exact List.Perm.filter _ h

theorem SameRecordings.paths_perm {l l' : List Recording} (h : SameRecordings l l') :
    (l.map Recording.path).Perm (l'.map Recording.path) := by
  have hmap := h.map Recording.path
  rwa [List.map_map, List.map_map] at hmap

theorem SameRecordings.of_perm {l l' : List Recording} (h : l.Perm l') : SameRecordings l l' :=
  h.map _

theorem SameRecordings.trans {l l' l'' : List Recording} (h : SameRecordings l l')
    (h' : SameRecordings l' l'') : SameRecordings l l'' :=
  List.Perm.trans h h'

/-- What the list shows is as it should be. -/
theorem SameRecordings.shaped {dir : DataDir} {l : List Recording}
    (h : SameRecordings dir.recorded l) : ∀ r ∈ l, r.Shaped dir.path := by
  intro r hr
  obtain ⟨r', hr', heq⟩ := List.mem_map.mp (h.mem_iff.mpr (List.mem_map_of_mem hr))
  obtain ⟨subdir, name, type, startTime, hslash, htype, heq'⟩ := shaped_of_mem_recorded hr'
  exact ⟨subdir, name, type, startTime, hslash, htype, heq ▸ heq'⟩

theorem SameRecordings.nodup {dir : DataDir} {l : List Recording}
    (h : SameRecordings dir.recorded l) : (l.map Recording.path).Nodup :=
  h.paths_perm.nodup_iff.mp (nodup_paths dir)

/-! ### Deleting recordings -/

/-- `unlink` of a file in the list, that is not refused. -/
def unlinked (refused : List UInt8 → Bool) (paths : List (List UInt8)) (path : List UInt8) : Bool :=
  decide (path ∈ paths) && !refused path

theorem unlinked_cons (refused : List UInt8 → Bool) (path : List UInt8)
    (paths : List (List UInt8)) (q : List UInt8) : unlinked refused (path :: paths) q =
      ((decide (q = path) && !refused q) || unlinked refused paths q) := by
  unfold unlinked
  simp only [List.mem_cons, Bool.decide_or, Bool.and_or_distrib_right]

section

variable {refused : List UInt8 → Bool} {dir : DataDir}

theorem path_unlinkAll (paths : List (List UInt8)) :
    (dir.unlinkAll refused paths).path = dir.path := by
  induction paths generalizing dir with
  | nil => rfl
  | cons path paths ih =>
    rw [DataDir.unlinkAll, ih]
    split_ifs <;> rfl

theorem recorded_unlinkAll (paths : List (List UInt8)) :
    (dir.unlinkAll refused paths).recorded =
      dir.recorded.filter fun r => !unlinked refused paths r.path := by
  induction paths generalizing dir with
  | nil => exact (List.filter_eq_self.mpr fun _ _ => rfl).symm
  | cons path paths ih =>
    rw [DataDir.unlinkAll, ih]
    split_ifs with hrefused
    · refine List.filter_congr fun r _ => ?_
      rw [unlinked_cons]
      by_cases hpath : r.path = path
      · rw [hpath, hrefused, Bool.not_true, Bool.and_false, Bool.false_or]
      · rw [decide_eq_false hpath, Bool.false_and, Bool.false_or]
    · rw [recorded_unlink, List.filter_filter]
      refine List.filter_congr fun r _ => ?_
      rw [unlinked_cons]
      by_cases hpath : r.path = path
      · simp [hpath, hrefused]
      · simp [hpath]

theorem onDisk_unlinkAll (paths : List (List UInt8)) {q : List UInt8} :
    (dir.unlinkAll refused paths).OnDisk q ↔ dir.OnDisk q ∧ unlinked refused paths q = false := by
  induction paths generalizing dir with
  | nil => exact (and_iff_left rfl).symm
  | cons path paths ih =>
    rw [DataDir.unlinkAll, ih, unlinked_cons]
    split_ifs with hrefused
    · by_cases hpath : q = path
      · rw [hpath, hrefused, Bool.not_true, Bool.and_false, Bool.false_or]
      · rw [decide_eq_false hpath, Bool.false_and, Bool.false_or]
    · rw [onDisk_unlink]
      by_cases hpath : q = path
      · simp [hpath, hrefused]
      · simp [hpath]

theorem Accessible.unlinkAll (h : Accessible dir) (paths : List (List UInt8)) :
    Accessible (dir.unlinkAll refused paths) := by
  induction paths generalizing dir with
  | nil => exact h
  | cons path paths ih =>
    rw [DataDir.unlinkAll]
    split_ifs
    · exact ih h
    · exact ih (h.unlink path)

/-- The directories stay. -/
theorem mem_unlinkAll {d : RootEntry} (hd : d ∈ dir.entries) (paths : List (List UInt8)) :
    ∃ d' ∈ (dir.unlinkAll refused paths).entries, d'.name = d.name ∧ d'.skipped = d.skipped := by
  induction paths generalizing dir d with
  | nil => exact ⟨d, hd, rfl, rfl⟩
  | cons path paths ih =>
    rw [DataDir.unlinkAll]
    split_ifs
    · exact ih hd
    · exact @ih (dir.unlink path) (d.unlink dir.path path) (List.mem_map_of_mem hd)

end

/-! ### Making the files of a recording -/

section

variable {dir : DataDir} {subdir : List UInt8} {mtime : ℤ}

/-- The daily directory is there. -/
def Daily (dir : DataDir) (subdir : List UInt8) : Prop :=
  ∃ d ∈ dir.entries, d.name = subdir ∧ d.skipped = false

instance (dir : DataDir) (subdir : List UInt8) : Decidable (Daily dir subdir) :=
  inferInstanceAs (Decidable (∃ d ∈ dir.entries, d.name = subdir ∧ d.skipped = false))

theorem path_createAll (names : List (List UInt8)) :
    (dir.createAll subdir mtime names).path = dir.path := by
  induction names generalizing dir with
  | nil => rfl
  | cons name names ih => exact ih

theorem Daily.create (h : Daily dir subdir) (subdir' name : List UInt8) (mtime : ℤ) :
    Daily (dir.create subdir' name mtime) subdir := by
  obtain ⟨d, hd, hname, hskipped⟩ := h
  refine ⟨_, List.mem_map_of_mem hd, ?_⟩
  split_ifs
  · exact ⟨hname, hskipped⟩
  · exact ⟨hname, hskipped⟩

theorem Daily.createAll (h : Daily dir subdir) (names : List (List UInt8)) :
    Daily (dir.createAll subdir mtime names) subdir := by
  induction names generalizing dir with
  | nil => exact h
  | cons name names ih => exact ih (h.create subdir name mtime)

/-- Files that are not recorded ones change nothing in what is listed. -/
theorem recorded_createAll {names : List (List UInt8)}
    (htype : ∀ name ∈ names, recordingTypeOf name = none) :
    (dir.createAll subdir mtime names).recorded = dir.recorded := by
  induction names generalizing dir with
  | nil => rfl
  | cons name names ih =>
    obtain ⟨hname, hrest⟩ := List.forall_mem_cons.mp htype
    exact (ih hrest).trans (recorded_create dir subdir mtime hname)

theorem Accessible.createAll (h : Accessible dir) {names : List (List UInt8)}
    (hstart : ∀ name ∈ names, (recordingTypeOf name).isSome → (decode name).isSome) :
    Accessible (dir.createAll subdir mtime names) := by
  induction names generalizing dir with
  | nil => exact h
  | cons name names ih =>
    obtain ⟨hname, hrest⟩ := List.forall_mem_cons.mp hstart
    exact ih (h.create subdir mtime hname) hrest

theorem onDisk_createAll {q : List UInt8} (h : dir.OnDisk q) (names : List (List UInt8)) :
    (dir.createAll subdir mtime names).OnDisk q := by
  induction names generalizing dir with
  | nil => exact h
  | cons name names ih => exact ih (onDisk_create h)

theorem onDisk_createdAll (h : Accessible dir) (hdaily : Daily dir subdir)
    {names : List (List UInt8)} (hstart : ∀ name ∈ names, (recordingTypeOf name).isSome →
      (decode name).isSome) (hdots : ∀ name ∈ names, name ≠ bytes "." ∧ name ≠ bytes "..") :
    ∀ name ∈ names, (dir.createAll subdir mtime names).OnDisk (pathOf dir.path subdir name) := by
  induction names generalizing dir with
  | nil => nofun
  | cons name names ih =>
    obtain ⟨hname, hrest⟩ := List.forall_mem_cons.mp hstart
    obtain ⟨hdot, hdots⟩ := List.forall_mem_cons.mp hdots
    refine List.forall_mem_cons.mpr
      ⟨?_, ih (h.create subdir mtime hname) (hdaily.create subdir name mtime) hrest hdots⟩
    obtain ⟨d, hd, hsubdir, hskipped⟩ := hdaily
    exact onDisk_createAll (onDisk_created hd hsubdir (h d hd hskipped).1 hdot.1 hdot.2) names

end

/-! ### Pruning -/

theorem prunable_empty {root dailyDir : List UInt8} {d : RootEntry}
    (h : d.prunable root dailyDir = true) : root ++ 47 :: d.name ≠ dailyDir ∧
      ∀ e ∈ d.files.getD [], e.name = bytes "." ∨ e.name = bytes ".." := by
  unfold RootEntry.prunable at h
  rw [Bool.and_eq_true, Bool.and_eq_true] at h
  refine ⟨of_decide_eq_true h.1.2, ?_⟩
  cases hfiles : d.files with
  | none => nofun
  | some files => simpa [hfiles] using h.2

/-! ### Recordings that go -/

variable {refused : List UInt8 → Bool} {dir : DataDir} {gone others : List Recording}
  {paths : List (List UInt8)}

theorem Daily.unlinkAll {subdir : List UInt8} (h : Daily dir subdir) (refused : List UInt8 → Bool)
    (paths : List (List UInt8)) : Daily (dir.unlinkAll refused paths) subdir := by
  obtain ⟨d, hd, hname, hskipped⟩ := h
  obtain ⟨d', hd', hname', hskipped'⟩ := @mem_unlinkAll refused dir d hd paths
  exact ⟨d', hd', hname'.trans hname, hskipped'.trans hskipped⟩

/-- A file of a recording that stays. -/
theorem onDisk_spared {path : List UInt8} (h : dir.OnDisk path) (hspared : path ∉ paths) :
    (dir.unlinkAll refused paths).OnDisk path := by
  refine (onDisk_unlinkAll paths).mpr ⟨h, ?_⟩
  rw [unlinked, decide_eq_false hspared, Bool.false_and]

/-- No other recording loses a file. -/
theorem notMem_paths_of_gone (h : SameRecordings dir.recorded (gone ++ others)) :
    ∀ r ∈ others, ∀ path ∈ r.paths, path ∉ gone.flatMap Recording.paths := by
  intro r hr path hpath hmem
  obtain ⟨r', hr', hpath'⟩ := List.mem_flatMap.mp hmem
  have hnodup := h.nodup
  rw [List.map_append, List.nodup_append] at hnodup
  have hsame := path_eq_of_mem_paths (h.shaped r' (List.mem_append_left _ hr'))
    (h.shaped r (List.mem_append_right _ hr)) hpath' hpath
  exact hnodup.2.2 _ (List.mem_map_of_mem hr') _ (List.mem_map_of_mem hr) hsame

/-- The recordings that are deleted are no longer there, unless `unlink` is refused. -/
theorem sameRecordings_unlinkAll (h : SameRecordings dir.recorded (gone ++ others))
    (hpaths : ∀ path, path ∈ paths ↔ path ∈ gone.flatMap Recording.paths) :
    SameRecordings (dir.unlinkAll refused paths).recorded
      ((gone.filter fun r => refused r.path) ++ others) := by
  have hself {r : Recording} (hr : r ∈ gone ++ others) : r.path ∈ r.paths := by
    obtain ⟨_, _, -, -, hmem, -⟩ := (h.shaped r hr).owner
    exact hmem
  have hgone : (gone.filter fun r => !unlinked refused paths r.path) =
      gone.filter fun r => refused r.path := by
    refine List.filter_congr fun r hr => ?_
    have hmem : r.path ∈ paths := (hpaths _).mpr
      (List.mem_flatMap.mpr ⟨r, hr, hself (List.mem_append_left _ hr)⟩)
    rw [unlinked, decide_eq_true hmem, Bool.true_and, Bool.not_not]
  have hothers : (others.filter fun r => !unlinked refused paths r.path) = others := by
    refine List.filter_eq_self.mpr fun r hr => ?_
    have hmem : r.path ∉ paths := fun hmem =>
      notMem_paths_of_gone h r hr _ (hself (List.mem_append_right _ hr)) ((hpaths _).mp hmem)
    rw [unlinked, decide_eq_false hmem, Bool.false_and, Bool.not_false]
  have hfilter := h.filter fun path => !unlinked refused paths path
  rw [List.filter_append, hgone, hothers] at hfilter
  rwa [recorded_unlinkAll]

/-! ### The files of a new recording -/

theorem endsIn_longer {base tail suffix : List UInt8} (hlength : tail.length ≤ suffix.length)
    (h : endsIn suffix tail = false) : endsIn (base ++ tail) suffix = false := by
  by_contra hends
  obtain ⟨base', heq⟩ := endsIn_iff.mp (Bool.of_not_eq_false hends)
  obtain ⟨between, hbetween⟩ :=
    List.suffix_of_suffix_length_le ⟨base, rfl⟩ ⟨base', heq.symm⟩ hlength
  rw [endsIn_iff.mpr ⟨between, hbetween.symm⟩] at h
  cases h

/-- The files beside an image are no recorded files themselves. -/
theorem recordingTypeOf_beside {tail : List UInt8}
    (h : tail = bytes ".hdr" ∨ tail = bytes "_gps" ∨ tail = bytes "_pps") (base : List UInt8) :
    recordingTypeOf (base ++ tail) = none := by
  refine List.find?_eq_none.mpr fun type _ => ?_
  rw [Bool.not_eq_true]
  rcases h with rfl | rfl | rfl <;> cases type <;> exact endsIn_longer (by decide) (by decide)

/-- The names of the files of a recording, and where they are. -/
theorem names_openedRecording (s : TabSession) (currentPrefix : List UInt8) (time : ℤ) :
    let base := currentPrefix ++ timeString time
    let r := s.openedRecording currentPrefix time
    r.names = [base ++ bytes "_raw", base ++ bytes "_raw" ++ bytes ".hdr", base ++ bytes "_gps",
      base ++ bytes "_pps"] ∧ r.paths = r.names.map (pathOf s.disk.path s.dailySubdir) := by
  dsimp only
  have hnames := @newRecording_raw s.disk.path s.dailySubdir time s.currentRecording.endTime
    (currentPrefix ++ timeString time)
  constructor
  · rw [← hnames.1.1, ← hnames.2.1]
    rfl
  · unfold TabSession.openedRecording Recording.names Recording.paths newRecording pathOf
    simp

end Recordings
