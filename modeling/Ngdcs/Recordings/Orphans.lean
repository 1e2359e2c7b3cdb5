import Ngdcs.Recordings.OrderFree

/-! The orphans that `scanDirs` reports: image files without GPS or PPS data, and GPS and PPS files
without imagery. -/
namespace Recordings

open CStrings Ftp

/-- `stat` of a file below the data directory: its `st_mtime`. -/
def statPath (root : List UInt8) (entries : List RootEntry) (path : List UInt8) : Option ℤ :=
  entries.findSome? fun d => (d.files.getD []).findSome? fun e =>
    if pathOf root d.name e.name = path then e.mtime else none

/-- `imageOrphans` and `otherOrphans` -/
structure Orphans where
  imageOrphans : List (List UInt8)
  otherOrphans : List (List UInt8)

/-- What the first loop over a subdirectory adds to `imageOrphans`, for the recordings that it
finds. -/
def imageOrphans (stat : List UInt8 → Option ℤ) (recordings : List Recording) :
    List (List UInt8) :=
  recordings.filterMap fun r =>
    if r.recordingType = .flightLine ∧ (stat r.gpspath = none ∨ stat r.ppspath = none) then
      some r.imagepath
    else none

/-- The search of the second loop, through all recordings found so far. -/
def seen (recordings : List Recording) (field : Recording → List UInt8) (name : List UInt8) :
    Bool :=
  recordings.any fun r => r.recordingType = .flightLine && field r = name

/-- The body of the second loop. -/
def otherOrphan (root subdir : List UInt8) (recordings : List Recording) (name : List UInt8) :
    Option (List UInt8) :=
  if endsIn name (bytes "_gps") then
    if seen recordings Recording.gpsfile name then none else some (pathOf root subdir name)
  else if endsIn name (bytes "_pps") then
    if seen recordings Recording.ppsfile name then none else some (pathOf root subdir name)
  else none

/-- The loop over the data directory, with the recordings found in the subdirectories before. -/
def scanOrphans (root : List UInt8) (stat : List UInt8 → Option ℤ) :
    List RootEntry → Tm → List Recording → Orphans
  | [], _, _ => ⟨[], []⟩
  | d :: ds, tm, recordings =>
    if d.skipped then scanOrphans root stat ds tm recordings
    else
      match d.files with
      | none => scanOrphans root stat ds tm recordings
      | some files =>
        let here := scanSubdir root d.name files tm
        let recordings := recordings ++ here.recordings
        let other := files.filterMap fun e => otherOrphan root d.name recordings e.name
        let rest := scanOrphans root stat ds here.tm recordings
        ⟨imageOrphans stat here.recordings ++ rest.imageOrphans, other ++ rest.otherOrphans⟩

/-- The orphans of a scan in the order of the entries. -/
def orphans (dir : DataDir) (tm : Tm) : Orphans :=
  scanOrphans dir.path (statPath dir.path dir.entries) dir.entries tm []

/-- A file of this name is there. -/
def Has (files : List FileEntry) (name : List UInt8) : Prop := ∃ e ∈ files, e.name = name

/-- All directories and files are accessible, and all recorded files have a start time. -/
def Accessible (dir : DataDir) : Prop :=
  ∀ d ∈ dir.entries, d.skipped = false → d.files.isSome ∧ ∀ e ∈ d.files.getD [],
    e.mtime.isSome ∧ ((recordingTypeOf e.name).isSome → (decode e.name).isSome)

/-- A file with GPS or PPS data of a flight line. -/
def DataName (base name : List UInt8) : Prop :=
  name = base ++ bytes "_gps" ∨ name = base ++ bytes "_pps"

/-- The orphans are the files that miss another file in their own subdirectory. -/
structure OrphansRight (dir : DataDir) (o : Orphans) : Prop where
  image : ∀ d files, Scanned dir d files → ∀ base, Has files (base ++ bytes "_raw") →
    (pathOf dir.path d.name (base ++ bytes "_raw") ∈ o.imageOrphans ↔
      ¬(Has files (base ++ bytes "_gps") ∧ Has files (base ++ bytes "_pps")))
  other : ∀ d files, Scanned dir d files → ∀ base name, DataName base name → Has files name →
    (pathOf dir.path d.name name ∈ o.otherOrphans ↔ ¬Has files (base ++ bytes "_raw"))
  onlyImage : ∀ path ∈ o.imageOrphans, ∃ d files base, Scanned dir d files ∧
    Has files (base ++ bytes "_raw") ∧ path = pathOf dir.path d.name (base ++ bytes "_raw")
  onlyOther : ∀ path ∈ o.otherOrphans, ∃ d files base name, Scanned dir d files ∧
    DataName base name ∧ Has files name ∧ path = pathOf dir.path d.name name

/-- No subdirectory that is scanned before has the image that a GPS or PPS file misses in its
own. -/
def NoEarlierImage (dir : DataDir) : Prop :=
  ∀ before d after, dir.entries = before ++ d :: after → ∀ files, Scanned dir d files →
    ∀ base name, DataName base name → Has files name → ¬Has files (base ++ bytes "_raw") →
      ∀ d' ∈ before, ∀ files', Scanned dir d' files' → ¬Has files' (base ++ bytes "_raw")

/-! ### Names -/

theorem endsIn_iff {name suffix : List UInt8} :
    endsIn name suffix = true ↔ ∃ base, name = base ++ suffix := by
  unfold endsIn
  simp only [Bool.and_eq_true, decide_eq_true_eq]
  constructor
  · rintro ⟨-, hdrop⟩
    refine ⟨name.take (name.length - suffix.length), ?_⟩
    conv_lhs => rw [← List.take_append_drop (name.length - suffix.length) name, hdrop]
  · rintro ⟨base, rfl⟩
    rw [List.length_append, Nat.add_sub_cancel, List.drop_left]
    exact ⟨by omega, rfl⟩

theorem recordingTypeOf_flightLine {name : List UInt8} :
    recordingTypeOf name = some .flightLine ↔ ∃ base, name = base ++ bytes "_raw" := by
  rw [← endsIn_iff]
  unfold recordingTypeOf
  constructor
  · intro h
    exact List.find?_some (p := fun type => endsIn name (RecordingType.suffix type)) h
  · intro h
    exact List.find?_cons_of_pos h

theorem append_pps_ne_append_gps (base base' : List UInt8) :
    base ++ bytes "_pps" ≠ base' ++ bytes "_gps" := by
  have hlength : (bytes "_pps").length = (bytes "_gps").length := by decide
  intro h
  exact absurd (List.append_inj_right' h hlength) (by decide)

theorem DataName.cases {base name : List UInt8} (h : DataName base name) :
    (name = base ++ bytes "_gps" ∧ endsIn name (bytes "_gps") = true) ∨
      (name = base ++ bytes "_pps" ∧ endsIn name (bytes "_gps") = false ∧
        endsIn name (bytes "_pps") = true) := by
  rcases h with rfl | rfl
  · exact Or.inl ⟨rfl, endsIn_iff.mpr ⟨base, rfl⟩⟩
  · refine Or.inr ⟨rfl, ?_, endsIn_iff.mpr ⟨base, rfl⟩⟩
    by_contra hgps
    obtain ⟨base', h⟩ := endsIn_iff.mp (Bool.of_not_eq_false hgps)
    exact append_pps_ne_append_gps _ _ h

variable {root subdir : List UInt8} {startTime endTime : ℤ}

/-- The names that belong to an image file. -/
theorem newRecording_raw (base : List UInt8) :
    let r := newRecording root subdir (base ++ bytes "_raw") .flightLine startTime endTime
    (r.gpsfile = base ++ bytes "_gps" ∧ r.gpspath = pathOf root subdir (base ++ bytes "_gps")) ∧
      r.ppsfile = base ++ bytes "_pps" ∧ r.ppspath = pathOf root subdir (base ++ bytes "_pps") := by
  simp [newRecording]

/-! ### Flight lines -/

theorem flightLine_of_mem {d : RootEntry} {r : Recording} (h : r ∈ expectedEntry root d)
    (htype : r.recordingType = .flightLine) :
    d.skipped = false ∧ ∃ base startTime endTime, Has (d.files.getD []) (base ++ bytes "_raw") ∧
      r = newRecording root d.name (base ++ bytes "_raw") .flightLine startTime endTime := by
  have hskipped : d.skipped = false := by
    by_contra hskipped
    rw [expectedEntry, if_pos (Bool.of_not_eq_false hskipped)] at h
    cases h
  obtain ⟨e, he, hexpected⟩ := mem_expectedEntry h
  unfold expectedFile at hexpected
  obtain ⟨type, hname, hexpected⟩ := Option.bind_eq_some_iff.mp hexpected
  obtain ⟨startTime, -, hexpected⟩ := Option.bind_eq_some_iff.mp hexpected
  obtain ⟨mtime, -, hexpected⟩ := Option.bind_eq_some_iff.mp hexpected
  obtain rfl := Option.some.inj hexpected
  have hflight : type = .flightLine := by
    rw [← htype]
    cases type <;> rfl
  subst hflight
  obtain ⟨base, hbase⟩ := recordingTypeOf_flightLine.mp hname
  exact ⟨hskipped, base, startTime, mtime, ⟨e, he, hbase⟩, by rw [hbase]⟩

variable {dir : DataDir}

theorem Accessible.good (h : Accessible dir) {d : RootEntry} (hd : d ∈ dir.entries)
    (hskipped : d.skipped = false) : ∀ e ∈ d.files.getD [],
      (recordingTypeOf e.name).isSome → e.Good :=
  fun e he htype => ⟨((h d hd hskipped).2 e he).2 htype, ((h d hd hskipped).2 e he).1⟩

theorem Accessible.allUniform (h : Accessible dir) : AllUniform dir.entries :=
  fun _ hd hskipped => Or.inl (h.good hd hskipped)

theorem Accessible.flightLine (h : Accessible dir) {d : RootEntry} (hd : d ∈ dir.entries)
    (hskipped : d.skipped = false) {base : List UInt8}
    (hraw : Has (d.files.getD []) (base ++ bytes "_raw")) :
    ∃ startTime endTime, newRecording dir.path d.name (base ++ bytes "_raw") .flightLine startTime
      endTime ∈ expectedEntry dir.path d := by
  obtain ⟨e, he, hname⟩ := hraw
  have htype := recordingTypeOf_flightLine.mpr ⟨base, hname⟩
  obtain ⟨hdecode, hmtime⟩ := h.good hd hskipped e he (htype ▸ rfl)
  obtain ⟨startTime, hdecode⟩ := Option.isSome_iff_exists.mp hdecode
  obtain ⟨mtime, hmtime⟩ := Option.isSome_iff_exists.mp hmtime
  refine ⟨startTime, mtime, ?_⟩
  rw [expectedEntry, if_neg (by rw [hskipped]; exact Bool.false_ne_true), ← hname]
  exact List.mem_filterMap.mpr ⟨e, he, expectedFile_eq htype hdecode hmtime⟩

/-- The search succeeds exactly where one of the subdirectories so far has the image. -/
theorem Accessible.seen_iff (h : Accessible dir) {ds : List RootEntry}
    (hds : ∀ d ∈ ds, d ∈ dir.entries) {field : Recording → List UInt8} {suffix : List UInt8}
    (hfield : ∀ subdir base startTime endTime,
      field (newRecording dir.path subdir (base ++ bytes "_raw") .flightLine startTime endTime) =
        base ++ suffix) (base : List UInt8) :
    seen (ds.flatMap (expectedEntry dir.path)) field (base ++ suffix) = true ↔
      ∃ d ∈ ds, d.skipped = false ∧ Has (d.files.getD []) (base ++ bytes "_raw") := by
  unfold seen
  simp only [List.any_eq_true, Bool.and_eq_true, decide_eq_true_eq, List.mem_flatMap]
  constructor
  · rintro ⟨r, ⟨d, hd, hr⟩, htype, hname⟩
    obtain ⟨hskipped, base', startTime, endTime, hraw, rfl⟩ := flightLine_of_mem hr htype
    rw [hfield] at hname
    exact ⟨d, hd, hskipped, List.append_cancel_right hname ▸ hraw⟩
  · rintro ⟨d, hd, hskipped, hraw⟩
    obtain ⟨startTime, endTime, hr⟩ := h.flightLine (hds d hd) hskipped hraw
    exact ⟨_, ⟨d, hd, hr⟩, rfl, hfield _ _ _ _⟩

/-! ### The scan -/

variable {stat : List UInt8 → Option ℤ} {path : List UInt8}

/-- What one subdirectory adds to the other orphans. -/
def entryOrphans (root : List UInt8) (recordings : List Recording) (d : RootEntry) :
    List (List UInt8) :=
  if d.skipped then []
  else (d.files.getD []).filterMap fun e => otherOrphan root d.name recordings e.name

theorem scanOrphans_cons {d : RootEntry} (h : d.skipped = false → Uniform (d.files.getD []))
    (ds : List RootEntry) (tm : Tm) (recordings : List Recording) :
    ∃ tm', (scanOrphans root stat (d :: ds) tm recordings).imageOrphans =
        imageOrphans stat (expectedEntry root d) ++
          (scanOrphans root stat ds tm' (recordings ++ expectedEntry root d)).imageOrphans ∧
      (scanOrphans root stat (d :: ds) tm recordings).otherOrphans =
        entryOrphans root (recordings ++ expectedEntry root d) d ++
          (scanOrphans root stat ds tm' (recordings ++ expectedEntry root d)).otherOrphans := by
  rw [scanOrphans]
  unfold entryOrphans expectedEntry
  by_cases hskipped : d.skipped = true
  · simp only [if_pos hskipped, List.append_nil]
    exact ⟨tm, rfl, rfl⟩
  · simp only [if_neg hskipped]
    have huniform := h (by simpa using hskipped)
    cases hfiles : d.files with
    | none =>
      refine ⟨tm, ?_, ?_⟩ <;> simp [imageOrphans]
    | some files =>
      rw [hfiles, Option.getD_some] at huniform
      simp only [Option.getD_some, scanSubdir_uniform huniform]
      exact ⟨_, rfl, rfl⟩

theorem mem_imageOrphans_scan {ds : List RootEntry} (h : AllUniform ds) (tm : Tm)
    (recordings : List Recording) : path ∈ (scanOrphans root stat ds tm recordings).imageOrphans ↔
      ∃ d ∈ ds, path ∈ imageOrphans stat (expectedEntry root d) := by
  induction ds generalizing tm recordings with
  | nil => simp [scanOrphans]
  | cons d ds ih =>
    obtain ⟨hd, hds⟩ := List.forall_mem_cons.mp h
    obtain ⟨tm', himage, -⟩ := @scanOrphans_cons root stat d hd ds tm recordings
    rw [himage, List.mem_append, ih hds, List.exists_mem_cons_iff]

theorem mem_otherOrphans_scan {ds : List RootEntry} (h : AllUniform ds) (tm : Tm)
    (recordings : List Recording) : path ∈ (scanOrphans root stat ds tm recordings).otherOrphans ↔
      ∃ before d after, ds = before ++ d :: after ∧
        path ∈ entryOrphans root
          (recordings ++ (before ++ [d]).flatMap (expectedEntry root)) d := by
  induction ds generalizing tm recordings with
  | nil => simp [scanOrphans]
  | cons d ds ih =>
    obtain ⟨hd, hds⟩ := List.forall_mem_cons.mp h
    obtain ⟨tm', -, hother⟩ := @scanOrphans_cons root stat d hd ds tm recordings
    rw [hother, List.mem_append, ih hds]
    constructor
    · rintro (hhere | ⟨before, d', after, rfl, hrest⟩)
      · exact ⟨[], d, ds, rfl, by simpa using hhere⟩
      · refine ⟨d :: before, d', after, rfl, ?_⟩
        rwa [List.cons_append, List.flatMap_cons, ← List.append_assoc]
    · rintro ⟨before, d', after, hsplit, hmem⟩
      cases before with
      | nil =>
        obtain ⟨rfl, rfl⟩ := List.cons.inj hsplit
        exact Or.inl (by simpa using hmem)
      | cons d'' before =>
        obtain ⟨rfl, rfl⟩ := List.cons.inj hsplit
        refine Or.inr ⟨before, d', after, rfl, ?_⟩
        rwa [List.cons_append, List.flatMap_cons, ← List.append_assoc] at hmem

/-! ### The orphans -/

theorem statPath_eq_none (h : Accessible dir) {d : RootEntry} {files : List FileEntry}
    (hscanned : Scanned dir d files) (name : List UInt8) :
    statPath dir.path dir.entries (pathOf dir.path d.name name) = none ↔ ¬Has files name := by
  obtain ⟨hd, hskipped, hfiles⟩ := hscanned
  have hslash := dir.noSlash d hd
  unfold statPath
  simp only [List.findSome?_eq_none_iff]
  constructor
  · rintro hnone ⟨e, he, rfl⟩
    have hmem : e ∈ d.files.getD [] := by rwa [hfiles, Option.getD_some]
    have hmtime := ((h d hd hskipped).2 e hmem).1
    have hstat := hnone d hd e hmem
    rw [if_pos rfl] at hstat
    rw [hstat] at hmtime
    cases hmtime
  · intro hno d' hd' e he
    rw [if_neg]
    intro hpath
    obtain ⟨hname, rfl⟩ := pathOf_inj (dir.noSlash d' hd') hslash hpath
    obtain rfl := List.inj_on_of_nodup_map dir.distinct hd' hd hname
    rw [hfiles, Option.getD_some] at he
    exact hno ⟨e, he, rfl⟩

theorem Accessible.scanned (h : Accessible dir) {d : RootEntry} (hd : d ∈ dir.entries)
    (hskipped : d.skipped = false) : Scanned dir d (d.files.getD []) := by
  obtain ⟨files, hfiles⟩ := Option.isSome_iff_exists.mp (h d hd hskipped).1
  exact ⟨hd, hskipped, by rw [hfiles, Option.getD_some]⟩

/-- The images that are reported: `stat` fails in their own subdirectory. -/
theorem mem_imageOrphans (h : Accessible dir) (tm : Tm) :
    path ∈ (orphans dir tm).imageOrphans ↔ ∃ d files base, Scanned dir d files ∧
      Has files (base ++ bytes "_raw") ∧
      ¬(Has files (base ++ bytes "_gps") ∧ Has files (base ++ bytes "_pps")) ∧
      path = pathOf dir.path d.name (base ++ bytes "_raw") := by
  unfold orphans
  rw [mem_imageOrphans_scan h.allUniform]
  unfold imageOrphans
  simp only [List.mem_filterMap]
  constructor
  · rintro ⟨d, hd, r, hr, hreported⟩
    split_ifs at hreported with hmissing
    obtain ⟨hskipped, base, startTime, endTime, hraw, rfl⟩ := flightLine_of_mem hr hmissing.1
    have hscanned := h.scanned hd hskipped
    have hnames := @newRecording_raw dir.path d.name startTime endTime base
    have hstat := hmissing.2
    rw [hnames.1.2, hnames.2.2, statPath_eq_none h hscanned, statPath_eq_none h hscanned] at hstat
    exact ⟨d, _, base, hscanned, hraw, not_and_or.mpr hstat, (Option.some.inj hreported).symm⟩
  · rintro ⟨d, files, base, hscanned, hraw, hmissing, rfl⟩
    have hfiles : d.files.getD [] = files := by rw [hscanned.2.2, Option.getD_some]
    obtain ⟨startTime, endTime, hr⟩ :=
      @Accessible.flightLine _ h _ hscanned.1 hscanned.2.1 base (by rwa [hfiles])
    have hnames := @newRecording_raw dir.path d.name startTime endTime base
    have hstat := (not_and_or.mp hmissing).imp (statPath_eq_none h hscanned _).mpr
      (statPath_eq_none h hscanned _).mpr
    rw [← hnames.1.2, ← hnames.2.2] at hstat
    refine ⟨d, hscanned.1, _, hr, ?_⟩
    rw [if_pos ⟨rfl, hstat⟩]
    rfl

/-- A GPS or PPS file is reported where no subdirectory so far has its image. -/
theorem otherOrphan_eq_some (h : Accessible dir) {ds : List RootEntry}
    (hds : ∀ d ∈ ds, d ∈ dir.entries) {subdir name : List UInt8} :
    otherOrphan dir.path subdir (ds.flatMap (expectedEntry dir.path)) name = some path ↔
      ∃ base, DataName base name ∧ path = pathOf dir.path subdir name ∧
        ∀ d ∈ ds, d.skipped = false → ¬Has (d.files.getD []) (base ++ bytes "_raw") := by
  have hgps := @Accessible.seen_iff _ h _ hds Recording.gpsfile (bytes "_gps")
    fun _ base _ _ => (newRecording_raw base).1.1
  have hpps := @Accessible.seen_iff _ h _ hds Recording.ppsfile (bytes "_pps")
    fun _ base _ _ => (newRecording_raw base).2.1
  have hnone (base : List UInt8) : (¬∃ d ∈ ds, d.skipped = false ∧
      Has (d.files.getD []) (base ++ bytes "_raw")) ↔
      ∀ d ∈ ds, d.skipped = false → ¬Has (d.files.getD []) (base ++ bytes "_raw") := by
    push Not
    rfl
  unfold otherOrphan
  constructor
  · intro hreported
    split_ifs at hreported with hends hseen hends' hseen
    · obtain ⟨base, rfl⟩ := endsIn_iff.mp hends
      rw [hgps, hnone] at hseen
      exact ⟨base, Or.inl rfl, (Option.some.inj hreported).symm, hseen⟩
    · obtain ⟨base, rfl⟩ := endsIn_iff.mp hends'
      rw [hpps, hnone] at hseen
      exact ⟨base, Or.inr rfl, (Option.some.inj hreported).symm, hseen⟩
  · rintro ⟨base, hname, rfl, hmissing⟩
    rw [← hnone] at hmissing
    rcases hname.cases with ⟨rfl, hends⟩ | ⟨rfl, hends, hends'⟩
    · rw [if_pos hends, if_neg (by rwa [hgps])]
    · rw [if_neg (by rw [hends]; exact Bool.false_ne_true), if_pos hends', if_neg (by rwa [hpps])]

theorem mem_otherOrphans (h : Accessible dir) (tm : Tm) :
    path ∈ (orphans dir tm).otherOrphans ↔ ∃ before d after files base name,
      dir.entries = before ++ d :: after ∧ Scanned dir d files ∧ DataName base name ∧
      Has files name ∧ path = pathOf dir.path d.name name ∧ ¬Has files (base ++ bytes "_raw") ∧
      ∀ d' ∈ before, ∀ files', Scanned dir d' files' → ¬Has files' (base ++ bytes "_raw") := by
  unfold orphans
  rw [mem_otherOrphans_scan h.allUniform]
  simp only [List.nil_append]
  constructor
  · rintro ⟨before, d, after, hsplit, hmem⟩
    have hds : ∀ d' ∈ before ++ [d], d' ∈ dir.entries := by
      rw [hsplit]
      intro d' hd'
      simp only [List.mem_append, List.mem_cons] at hd' ⊢
      tauto
    unfold entryOrphans at hmem
    split_ifs at hmem with hskipped
    · cases hmem
    obtain ⟨e, he, hreported⟩ := List.mem_filterMap.mp hmem
    obtain ⟨base, hname, hpath, hmissing⟩ := (otherOrphan_eq_some h hds).mp hreported
    have hd : d ∈ dir.entries := hds d (by simp)
    have hfalse : d.skipped = false := by simpa using hskipped
    refine ⟨before, d, after, _, base, e.name, hsplit, h.scanned hd hfalse, hname, ⟨e, he, rfl⟩,
      hpath, hmissing d (by simp) hfalse, ?_⟩
    rintro d' hd' files' ⟨-, hskipped', hfiles'⟩ hraw
    apply hmissing d' (List.mem_append_left _ hd') hskipped'
    rwa [hfiles', Option.getD_some]
  · rintro ⟨before, d, after, files, base, name, hsplit, ⟨hd, hskipped, hfiles⟩, hname,
      ⟨e, he, rfl⟩, rfl, hown, hbefore⟩
    have hds : ∀ d' ∈ before ++ [d], d' ∈ dir.entries := by
      rw [hsplit]
      intro d' hd'
      simp only [List.mem_append, List.mem_cons] at hd' ⊢
      tauto
    refine ⟨before, d, after, hsplit, ?_⟩
    rw [entryOrphans, if_neg (by rw [hskipped]; exact Bool.false_ne_true), hfiles,
      Option.getD_some]
    refine List.mem_filterMap.mpr ⟨e, he, (otherOrphan_eq_some h hds).mpr ⟨base, hname, rfl, ?_⟩⟩
    intro d' hd' hskipped' hraw
    rcases List.mem_append.mp hd' with hd' | hd'
    · have hscanned := h.scanned (hds d' (List.mem_append_left _ hd')) hskipped'
      exact hbefore d' hd' _ hscanned hraw
    · rw [List.mem_singleton.mp hd', hfiles, Option.getD_some] at hraw
      exact hown hraw

theorem DataName.base_eq {base base' name : List UInt8} (h : DataName base name)
    (h' : DataName base' name) : base = base' := by
  rcases h with rfl | rfl <;> rcases h' with h' | h'
  · exact List.append_cancel_right h'
  · exact absurd h'.symm (append_pps_ne_append_gps _ _)
  · exact absurd h' (append_pps_ne_append_gps _ _)
  · exact List.append_cancel_right h'

theorem DataDir.split_eq (dir : DataDir) {before before' after after' : List RootEntry}
    {d : RootEntry} (h : dir.entries = before ++ d :: after)
    (h' : dir.entries = before' ++ d :: after') : before = before' := by
  have hnodup := List.Nodup.of_map _ dir.distinct
  rw [h, List.nodup_append, List.nodup_cons] at hnodup
  have hbefore : d ∉ before := fun hmem => hnodup.2.2 d hmem d List.mem_cons_self rfl
  exact ((List.append_cons_inj_of_notMem hbefore hnodup.2.1.1).mp (h.symm.trans h')).1

/-- Where all files are accessible and have a start time: the orphans are right if and only if no
subdirectory that is scanned before has the image that a GPS or PPS file misses in its own. -/
theorem orphansRight_iff (dir : DataDir) (tm : Tm) (h : Accessible dir) :
    OrphansRight dir (orphans dir tm) ↔ NoEarlierImage dir := by
  constructor
  · intro hright before d after hsplit files hscanned base name hname hhas hown
    have hmem := (hright.other d files hscanned base name hname hhas).mpr hown
    obtain ⟨before', d', after', files', base', name', hsplit', hscanned', hname', -, hpath, -,
      hbefore⟩ := (mem_otherOrphans h tm).mp hmem
    obtain ⟨hd, rfl⟩ := pathOf_inj (dir.noSlash d hscanned.1) (dir.noSlash d' hscanned'.1) hpath
    obtain rfl := List.inj_on_of_nodup_map dir.distinct hscanned.1 hscanned'.1 hd
    obtain rfl := hname.base_eq hname'
    rwa [dir.split_eq hsplit hsplit']
  · intro hno
    refine ⟨?_, ?_, ?_, ?_⟩
    · intro d files hscanned base hraw
      rw [mem_imageOrphans h]
      constructor
      · rintro ⟨d', files', base', hscanned', -, hmissing, hpath⟩
        obtain ⟨hd, hbase⟩ := pathOf_inj (dir.noSlash d hscanned.1) (dir.noSlash d' hscanned'.1)
          hpath
        obtain rfl := List.inj_on_of_nodup_map dir.distinct hscanned.1 hscanned'.1 hd
        obtain rfl := Option.some.inj (hscanned.2.2.symm.trans hscanned'.2.2)
        rwa [List.append_cancel_right hbase]
      · intro hmissing
        exact ⟨d, files, base, hscanned, hraw, hmissing, rfl⟩
    · intro d files hscanned base name hname hhas
      rw [mem_otherOrphans h]
      constructor
      · rintro ⟨before', d', after', files', base', name', -, hscanned', hname', -, hpath, hown, -⟩
        obtain ⟨hd, rfl⟩ := pathOf_inj (dir.noSlash d hscanned.1) (dir.noSlash d' hscanned'.1) hpath
        obtain rfl := List.inj_on_of_nodup_map dir.distinct hscanned.1 hscanned'.1 hd
        obtain rfl := Option.some.inj (hscanned.2.2.symm.trans hscanned'.2.2)
        obtain rfl := hname.base_eq hname'
        exact hown
      · intro hown
        obtain ⟨before, after, hsplit⟩ := List.append_of_mem hscanned.1
        exact ⟨before, d, after, files, base, name, hsplit, hscanned, hname, hhas, rfl, hown,
          hno before d after hsplit files hscanned base name hname hhas hown⟩
    · intro path hpath
      obtain ⟨d, files, base, hscanned, hraw, -, rfl⟩ := (mem_imageOrphans h tm).mp hpath
      exact ⟨d, files, base, hscanned, hraw, rfl⟩
    · intro path hpath
      obtain ⟨before, d, after, files, base, name, -, hscanned, hname, hhas, rfl, -, -⟩ :=
        (mem_otherOrphans h tm).mp hpath
      exact ⟨d, files, base, name, hscanned, hname, hhas, rfl⟩

/-- A flight line, and in a subdirectory that is read later GPS data of the same name. -/
def strayGpsDir : DataDir where
  path := bytes "/data"
  entries := [⟨bytes "20240102", true, some [⟨bytes "ang20240102t030405_raw", some 0⟩]⟩,
    ⟨bytes "20240103", true, some [⟨bytes "ang20240102t030405_gps", some 0⟩]⟩]
  distinct := by decide
  noSlash := by decide
  filesDistinct := by decide

theorem accessible_strayGpsDir : Accessible strayGpsDir := by
  unfold Accessible
  decide +kernel

theorem orphansRight_iff_strayGpsDir :
    OrphansRight strayGpsDir (orphans strayGpsDir ⟨0, 0, 0, 0, 0, 0⟩) ↔
      NoEarlierImage strayGpsDir :=
  orphansRight_iff strayGpsDir ⟨0, 0, 0, 0, 0, 0⟩ accessible_strayGpsDir

/-- The GPS data is not reported. -/
theorem not_orphansRight :
    ¬∀ dir tm, Accessible dir → OrphansRight dir (orphans dir tm) := by
  intro h
  have hright := h strayGpsDir ⟨0, 0, 0, 0, 0, 0⟩ accessible_strayGpsDir
  have hmem := (hright.other ⟨bytes "20240103", true,
      some [⟨bytes "ang20240102t030405_gps", some 0⟩]⟩ _ ⟨by simp [strayGpsDir], by decide, rfl⟩
    (bytes "ang20240102t030405") (bytes "ang20240102t030405_gps") (Or.inl (by decide))
    ⟨_, List.mem_cons_self, rfl⟩).mpr (by
      rintro ⟨e, he, hname⟩
      rw [List.mem_singleton.mp he] at hname
      exact absurd hname (by decide))
  have hnone : (orphans strayGpsDir ⟨0, 0, 0, 0, 0, 0⟩).otherOrphans = [] := by decide +kernel
  rw [hnone] at hmem
  cases hmem

end Recordings
