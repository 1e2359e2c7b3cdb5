import Ngdcs.Lib.Runs
import Ngdcs.Recordings.FileSets

/-! The rows of the Recordings tab and the files on the disk, along a session with recordings,
aborts and deletions. -/
namespace Recordings

open CStrings Ftp Runs
open Recorder.DisplayTab (OpenResult)

/-! ### The invariant -/

namespace RecordingsTab

variable (tab : RecordingsTab)

/-- The rows but for their selection. -/
def labels : List (Recording × ℕ) := tab.rows.map fun row => (row.recording, row.number)

def recordings : List Recording := tab.rows.map TabRow.recording

/-- Each flight line has a higher number than the rows above it. -/
def Numbered : Prop :=
  (tab.labels.Pairwise fun a b => b.1.recordingType = .flightLine → a.2 < b.2) ∧
    ∀ label ∈ tab.labels, label.2 ≤ tab.numFlightLines

/-- What is selected is what the question is about, or it is nothing. -/
def Asked : Prop :=
  ∀ flightLines endToEnd, tab.question = some (.delete flightLines endToEnd) →
    tab.selection = [] ∨ tab.tally true = flightLines ∧ tab.tally false = endToEnd

/-- The user cannot select or delete anything. -/
def Quiet : Prop := tab.listSensitive = false ∧ tab.deleteSensitive = false ∧ tab.selection = []

variable {tab}

theorem recordings_eq : tab.recordings = tab.labels.map Prod.fst := by
  unfold recordings labels
  rw [List.map_map]
  rfl

theorem labels_addRecording (r : Recording) :
    (tab.addRecording r).labels = tab.labels ++ [(r, (tab.addRecording r).numFlightLines)] := by
  unfold labels addRecording
  rw [List.map_append]
  rfl

theorem recordings_addRecording (r : Recording) :
    (tab.addRecording r).recordings = tab.recordings ++ [r] := by
  unfold recordings addRecording
  rw [List.map_append]
  rfl

theorem Numbered.addRecording (h : tab.Numbered) (r : Recording) :
    (tab.addRecording r).Numbered := by
  obtain ⟨hrows, hle⟩ := h
  have hmore : tab.numFlightLines ≤ (tab.addRecording r).numFlightLines := by
    unfold RecordingsTab.addRecording
    dsimp only
    split_ifs
    · exact Nat.le_succ _
    · exact Nat.le_refl _
  unfold Numbered
  rw [labels_addRecording]
  constructor
  · refine List.pairwise_append.mpr ⟨hrows, List.pairwise_singleton _ _, ?_⟩
    intro label hlabel _ hmem hflight
    rw [List.mem_singleton.mp hmem] at hflight ⊢
    have hnext : (tab.addRecording r).numFlightLines = tab.numFlightLines + 1 := if_pos hflight
    have hlabel := hle label hlabel
    dsimp only
    omega
  · intro label hlabel
    rcases List.mem_append.mp hlabel with hlabel | hlabel
    · exact (hle label hlabel).trans hmore
    · rw [List.mem_singleton.mp hlabel]

/-- Only what the rows are about counts. -/
theorem Numbered.of_labels {tab' : RecordingsTab} (h : tab.Numbered)
    (hlabels : tab'.labels.Sublist tab.labels) (hcount : tab'.numFlightLines = tab.numFlightLines) :
    tab'.Numbered :=
  ⟨h.1.sublist hlabels, fun label hlabel => hcount ▸ h.2 label (hlabels.subset hlabel)⟩

/-- No two flight lines have the same text. -/
theorem Numbered.nodup (h : tab.Numbered) : ((tab.rows.filter fun row =>
    row.recording.recordingType = .flightLine).map TabRow.typeText).Nodup := by
  have hrows := List.pairwise_map.mp h.1
  have htext {row : TabRow} (htype : row.recording.recordingType = .flightLine) :
      row.typeText = bytes "Line " ++ printNat row.number := by
    unfold TabRow.typeText
    rw [htype]
  refine List.pairwise_map.mpr ((hrows.filter _).imp_of_mem ?_)
  intro a b ha hb hlt heq
  have ha := of_decide_eq_true (List.mem_filter.mp ha).2
  have hb := of_decide_eq_true (List.mem_filter.mp hb).2
  rw [htext ha, htext hb] at heq
  have hnumber := congrArg scanNumber (List.append_cancel_left heq)
  rw [scanNumber_printNat, scanNumber_printNat, Option.some.injEq, Prod.mk.injEq] at hnumber
  exact (hlt hb).ne hnumber.1

theorem labels_select (chosen : ℕ → Bool) : (tab.select chosen).labels = tab.labels := by
  unfold labels select
  refine List.ext_getElem (by simp) fun i _ _ => ?_
  simp

theorem labels_disable : tab.disableRecordingsChanges.labels = tab.labels := by
  unfold labels disableRecordingsChanges
  simp only [List.map_map]
  rfl

theorem quiet_disable : tab.disableRecordingsChanges.Quiet := by
  refine ⟨rfl, rfl, ?_⟩
  unfold selection disableRecordingsChanges
  rw [List.filter_eq_nil_iff.mpr]
  · rfl
  · intro row hrow
    obtain ⟨row', -, rfl⟩ := List.mem_map.mp hrow
    exact Bool.false_ne_true

theorem selection_addRecording (r : Recording) :
    (tab.addRecording r).selection = tab.selection := by
  unfold selection addRecording
  rw [List.filter_append, List.map_append]
  exact List.append_nil _

theorem tally_eq {tab' : RecordingsTab} (h : tab'.selection = tab.selection) (flightLine : Bool) :
    tab'.tally flightLine = tab.tally flightLine := by
  unfold tally
  rw [h]

/-- The rows that are selected, and the others. -/
theorem recordings_perm : tab.recordings.Perm
    (tab.selection ++ (tab.rows.filter fun row => !row.selected).map TabRow.recording) := by
  unfold recordings selection
  rw [← List.map_append]
  exact (List.filter_append_perm _ _).symm.map _

end RecordingsTab

namespace TabSession

variable {first s : TabSession}

/-- The recordings whose images are on the disk: those that have a row, the one that awaits it, and
those left behind. -/
def images (s : TabSession) : List Recording :=
  s.tab.recordings ++ ((if s.awaited then [s.currentRecording] else []) ++ s.leftBehind)

structure Inv (first s : TabSession) : Prop where
  path : s.disk.path = first.disk.path
  dailySubdir : s.dailySubdir = first.dailySubdir
  accessible : Accessible s.disk
  daily : Daily s.disk s.dailySubdir
  listed : SameRecordings s.disk.recorded s.images
  callbacks : s.callbacks ≤ 1 ∧ (s.recording = true → s.callbacks = 0)
  current : s.awaited = true → s.currentRecording.recordingType = .flightLine ∧
    ∀ path ∈ s.currentRecording.paths, s.disk.OnDisk path
  quiet : s.recording = true → s.tab.Quiet
  asked : s.tab.Asked
  numbered : s.tab.Numbered
  spared : ∀ path, first.disk.OnDisk path → (∀ r ∈ s.removed, path ∉ r.paths) → s.disk.OnDisk path
  intact : ∀ r ∈ s.tab.recordings, ∀ path ∈ r.paths,
    (r ∈ first.tab.recordings → first.disk.OnDisk path) → s.disk.OnDisk path

/-- A change of the table that leaves the rows alone. -/
theorem Inv.withTab (h : Inv first s) {tab : RecordingsTab} (hlabels : tab.labels = s.tab.labels)
    (hcount : tab.numFlightLines = s.tab.numFlightLines) (hquiet : s.recording = true → tab.Quiet)
    (hasked : tab.Asked) : Inv first { s with tab := tab } := by
  have hrecordings : tab.recordings = s.tab.recordings := by
    rw [RecordingsTab.recordings_eq, hlabels, RecordingsTab.recordings_eq]
  have himages : images { s with tab := tab } = s.images := by
    unfold images
    rw [show ({ s with tab := tab } : TabSession).tab.recordings = s.tab.recordings from
      hrecordings]
    rfl
  exact { h with
    listed := himages ▸ h.listed
    quiet := hquiet
    asked := hasked
    numbered := h.numbered.of_labels (hlabels ▸ List.Sublist.refl _) hcount
    intact := hrecordings ▸ h.intact }

/-- The question is answered, or there is none. -/
theorem asked_of_none {tab : RecordingsTab} (h : tab.question = none) : tab.Asked := by
  intro flightLines endToEnd hquestion
  rw [h] at hquestion
  cases hquestion

/-! ### Steps of the table -/

theorem Inv.select (h : Inv first s) (hlist : s.tab.listSensitive = true)
    (hquestion : s.tab.question = none) (chosen : ℕ → Bool) :
    Inv first { s with tab := s.tab.select chosen } := by
  refine h.withTab (RecordingsTab.labels_select chosen) rfl ?_ (asked_of_none hquestion)
  intro hrecording
  rw [(h.quiet hrecording).1] at hlist
  cases hlist

theorem Inv.onDeleteButton (h : Inv first s) (hdelete : s.tab.deleteSensitive = true) :
    Inv first { s with tab := s.tab.onDeleteButton } := by
  have hquiet : s.recording = true → s.tab.onDeleteButton.Quiet := by
    intro hrecording
    rw [(h.quiet hrecording).2.1] at hdelete
    cases hdelete
  unfold RecordingsTab.onDeleteButton at hquiet ⊢
  split_ifs at hquiet ⊢
  · exact h
  · refine h.withTab rfl rfl hquiet ?_
    rintro flightLines endToEnd ⟨⟩
    exact .inr ⟨rfl, rfl⟩

/-- A dialog is closed. -/
theorem Inv.closed (h : Inv first s) :
    Inv first { s with tab := { s.tab with question := none } } :=
  h.withTab rfl rfl h.quiet (asked_of_none rfl)

/-! ### Deleting and pruning -/

theorem Inv.deleteSelected (h : Inv first s) (refused : List UInt8 → Bool) :
    Inv first (s.deleteSelected refused) := by
  let kept := (s.tab.rows.filter fun row => !row.selected).map TabRow.recording
  let awaiting := if s.awaited then [s.currentRecording] else []
  have hsplit : SameRecordings s.disk.recorded
      (s.tab.selection ++ (kept ++ (awaiting ++ s.leftBehind))) := by
    refine h.listed.trans (.of_perm ?_)
    rw [← List.append_assoc]
    exact RecordingsTab.recordings_perm.append_right _
  have hspared := notMem_paths_of_gone hsplit
  constructor
  case path => exact (path_unlinkAll _).trans h.path
  case dailySubdir => exact h.dailySubdir
  case accessible => exact h.accessible.unlinkAll _
  case daily => exact h.daily.unlinkAll _ _
  case listed =>
    refine (sameRecordings_unlinkAll hsplit fun _ => Iff.rfl).trans (.of_perm ?_)
    refine List.perm_append_comm.trans (.of_eq ?_)
    rw [List.append_assoc, List.append_assoc]
    rfl
  case callbacks => exact h.callbacks
  case current =>
    intro hawaited
    obtain ⟨htype, hfiles⟩ := h.current hawaited
    refine ⟨htype, fun path hpath => onDisk_spared (hfiles path hpath) ?_⟩
    refine hspared s.currentRecording (List.mem_append_right _ (List.mem_append_left _ ?_)) path
      hpath
    have hawaiting : awaiting = [s.currentRecording] := if_pos hawaited
    rw [hawaiting]
    exact List.mem_cons_self
  case quiet =>
    intro hrecording
    refine ⟨(h.quiet hrecording).1, rfl, ?_⟩
    unfold RecordingsTab.selection TabSession.deleteSelected
    rw [List.filter_filter, List.filter_eq_nil_iff.mpr]
    · rfl
    · intro row _
      simp
  case asked =>
    intro flightLines endToEnd hquestion
    unfold TabSession.deleteSelected at hquestion
    dsimp only at hquestion
    split_ifs at hquestion
    cases hquestion
  case numbered => exact h.numbered.of_labels (List.filter_sublist.map _) rfl
  case spared =>
    intro path hpath hremoved
    have hremoved := List.forall_mem_append.mp hremoved
    refine onDisk_spared (h.spared path hpath hremoved.1) fun hmem => ?_
    obtain ⟨r, hr, hrpath⟩ := List.mem_flatMap.mp hmem
    exact hremoved.2 r hr hrpath
  case intact =>
    intro r hr path hpath hfirst
    have hrow : r ∈ s.tab.recordings :=
      RecordingsTab.recordings_perm.mem_iff.mpr (List.mem_append_right _ hr)
    exact onDisk_spared (h.intact r hrow path hpath hfirst)
      (hspared r (List.mem_append_left _ hr) path hpath)

theorem Inv.pruneDirs (h : Inv first s) (refused : List UInt8 → Bool) :
    Inv first { s with disk := s.disk.pruneDirs refused s.dailyDir } := by
  have hprunable {d : RootEntry} (hgone : (d.prunable s.disk.path s.dailyDir &&
      !refused (s.disk.path ++ 47 :: d.name) && d.name ≠ bytes "." && d.name ≠ bytes "..") = true) :
      d.prunable s.disk.path s.dailyDir = true := by
    simp only [Bool.and_eq_true] at hgone
    exact hgone.1.1.1
  have hempty : ∀ d ∈ s.disk.entries, (d.prunable s.disk.path s.dailyDir &&
      !refused (s.disk.path ++ 47 :: d.name) && d.name ≠ bytes "." && d.name ≠ bytes "..") = true →
      ∀ e ∈ d.files.getD [], e.name = bytes "." ∨ e.name = bytes ".." :=
    fun d _ hgone => (prunable_empty (hprunable hgone)).2
  exact { h with
    accessible := h.accessible.rmdirs _
    daily := by
      obtain ⟨d, hd, hname, hskipped⟩ := h.daily
      refine ⟨d, List.mem_filter.mpr ⟨hd, ?_⟩, hname, hskipped⟩
      rw [Bool.not_eq_true']
      refine Bool.eq_false_iff.mpr fun hgone => ?_
      refine (prunable_empty (hprunable hgone)).1 ?_
      rw [hname]
      rfl
    listed := by
      unfold DataDir.pruneDirs
      rw [recorded_rmdirs hempty]
      exact h.listed
    current := fun hawaited => ⟨(h.current hawaited).1, fun path hpath =>
      (onDisk_rmdirs hempty).mpr ((h.current hawaited).2 path hpath)⟩
    spared := fun path hpath hremoved =>
      (onDisk_rmdirs hempty).mpr (h.spared path hpath hremoved)
    intact := fun r hr path hpath hfirst =>
      (onDisk_rmdirs hempty).mpr (h.intact r hr path hpath hfirst) }

/-! ### Making the files -/

section

variable {currentPrefix : List UInt8} {time : ℤ}

theorem good_names (s : TabSession) (currentPrefix : List UInt8) (h : FourDigits time) :
    ∀ name ∈ (s.openedRecording currentPrefix time).names,
      ((recordingTypeOf name).isSome → (decode name).isSome) ∧
        name ≠ bytes "." ∧ name ≠ bytes ".." := by
  have hdots (base tail : List UInt8) (hlength : 4 ≤ tail.length) :
      base ++ tail ≠ bytes "." ∧ base ++ tail ≠ bytes ".." := by
    constructor <;> intro heq <;> have hlength' := congrArg List.length heq <;>
      rw [List.length_append] at hlength'
    · have hone : (bytes ".").length = 1 := rfl
      omega
    · have htwo : (bytes "..").length = 2 := rfl
      omega
  have hbeside {base tail : List UInt8}
      (htail : tail = bytes ".hdr" ∨ tail = bytes "_gps" ∨ tail = bytes "_pps") :
      (recordingTypeOf (base ++ tail)).isSome → (decode (base ++ tail)).isSome := by
    rw [recordingTypeOf_beside htail]
    exact nofun
  rw [(names_openedRecording s currentPrefix time).1]
  simp only [List.forall_mem_cons]
  refine ⟨⟨fun _ => ?_, hdots _ _ (by decide)⟩, ⟨hbeside (.inl rfl), hdots _ _ (by decide)⟩,
    ⟨hbeside (.inr (.inl rfl)), hdots _ _ (by decide)⟩,
    ⟨hbeside (.inr (.inr rfl)), hdots _ _ (by decide)⟩, nofun⟩
  exact Option.isSome_of_eq_some (decode_recordedName h currentPrefix .flightLine)

/-- The image is listed as soon as it is there. -/
theorem recorded_opened (haccessible : Accessible s.disk) (hdaily : Daily s.disk s.dailySubdir)
    (hfour : FourDigits time)
    (hfresh : ¬s.disk.OnDisk (s.openedRecording currentPrefix time).imagepath) (k : ℕ) :
    SameRecordings (s.disk.createAll s.dailySubdir time
        ((s.openedRecording currentPrefix time).names.take (k + 1))).recorded
      (s.openedRecording currentPrefix time :: s.disk.recorded) := by
  obtain ⟨d, hd, hname, hskipped⟩ := hdaily
  have hdots := (good_names s currentPrefix hfour _ List.mem_cons_self).2
  have hnew : ∀ e ∈ d.files.getD [], e.name ≠ recordedName currentPrefix time .flightLine := by
    intro e he heq
    refine hfresh ⟨d, hd, e, he, heq ▸ hdots.1, heq ▸ hdots.2, ?_⟩
    rw [hname, heq]
    rfl
  have hbeside : ∀ name ∈ (s.openedRecording currentPrefix time).names.tail.take k,
      recordingTypeOf name = none := by
    intro name hmem
    have hmem := List.mem_of_mem_take hmem
    rw [(names_openedRecording s currentPrefix time).1] at hmem
    simp only [List.tail_cons, List.mem_cons, List.not_mem_nil, or_false] at hmem
    rcases hmem with rfl | rfl | rfl
    · exact recordingTypeOf_beside (.inl rfl) _
    · exact recordingTypeOf_beside (.inr (.inl rfl)) _
    · exact recordingTypeOf_beside (.inr (.inr rfl)) _
  show SameRecordings ((s.disk.create s.dailySubdir (recordedName currentPrefix time .flightLine)
    time).createAll s.dailySubdir time
      ((s.openedRecording currentPrefix time).names.tail.take k)).recorded _
  rw [recorded_createAll hbeside]
  exact (recorded_create_perm hd hname hskipped (haccessible d hd hskipped).1 hnew
    (recordingTypeOf_recordedName currentPrefix time .flightLine)
    (decode_recordedName hfour currentPrefix .flightLine)).map _

/-- Some of the files are made, and nothing is recorded in them. -/
theorem Inv.halfOpened (h : Inv first s) (hidle : s.recording = false)
    (hcallbacks : s.callbacks = 0) (hfour : FourDigits time)
    (hfresh : ¬s.disk.OnDisk (s.openedRecording currentPrefix time).imagepath) (k : ℕ) :
    Inv first { s with
      currentRecording := s.openedRecording currentPrefix time
      disk := s.disk.createAll s.dailySubdir time
        ((s.openedRecording currentPrefix time).names.take (k + 1))
      leftBehind := s.leftBehind ++ [s.openedRecording currentPrefix time] } := by
  have hawaited : s.awaited = false := by
    unfold awaited
    rw [hidle, hcallbacks]
    rfl
  exact { h with
    path := (path_createAll _).trans h.path
    accessible := h.accessible.createAll fun name hmem =>
      (good_names s currentPrefix hfour name (List.mem_of_mem_take hmem)).1
    daily := h.daily.createAll _
    listed := by
      refine (recorded_opened h.accessible h.daily hfour hfresh k).trans ?_
      have hlisted : SameRecordings (s.openedRecording currentPrefix time :: s.disk.recorded)
          (s.openedRecording currentPrefix time :: s.images) := h.listed.cons _
      refine hlisted.trans (.of_perm ?_)
      unfold images
      rw [hawaited, show awaited { s with
        currentRecording := s.openedRecording currentPrefix time
        disk := s.disk.createAll s.dailySubdir time
          ((s.openedRecording currentPrefix time).names.take (k + 1))
        leftBehind := s.leftBehind ++ [s.openedRecording currentPrefix time] } = false from
          hawaited]
      simp only [Bool.false_eq_true, if_false, List.nil_append]
      rw [← List.append_assoc]
      exact (List.perm_append_singleton _ _).symm
    current := fun hawaited' => absurd (hawaited.symm.trans hawaited') Bool.false_ne_true
    spared := fun path hpath hremoved => onDisk_createAll (h.spared path hpath hremoved) _
    intact := fun r hr path hpath hfirst => onDisk_createAll (h.intact r hr path hpath hfirst) _ }

theorem Inv.openFiles (h : Inv first s) (hidle : s.recording = false)
    (hcallbacks : s.callbacks = 0) (hfour : FourDigits time)
    (hfresh : ¬s.disk.OnDisk (s.openedRecording currentPrefix time).imagepath)
    (result : OpenResult) : Inv first (s.openFiles currentPrefix time result) := by
  have hhalf := h.halfOpened hidle hcallbacks hfour hfresh
  have hawaited : s.awaited = false := by
    unfold awaited
    rw [hidle, hcallbacks]
    rfl
  cases result with
  | ok =>
    have hrecordings : s.tab.disableRecordingsChanges.recordings = s.tab.recordings := by
      rw [RecordingsTab.recordings_eq, RecordingsTab.labels_disable, RecordingsTab.recordings_eq]
    exact { hhalf 3 with
      listed := by
        refine (hhalf 3).listed.trans (.of_perm ?_)
        show (s.tab.recordings ++ ((if s.awaited then _ else []) ++
            (s.leftBehind ++ [s.openedRecording currentPrefix time]))).Perm
          (s.tab.disableRecordingsChanges.recordings ++
            ([s.openedRecording currentPrefix time] ++ s.leftBehind))
        rw [hawaited, hrecordings]
        exact (List.perm_append_singleton _ _).append_left _
      callbacks := ⟨h.callbacks.1, fun _ => hcallbacks⟩
      current := by
        refine fun _ => ⟨rfl, fun path hpath => ?_⟩
        have hpath : path ∈ (s.openedRecording currentPrefix time).paths := hpath
        rw [(names_openedRecording s currentPrefix time).2] at hpath
        obtain ⟨name, hname, rfl⟩ := List.mem_map.mp hpath
        have hgood := good_names s currentPrefix hfour
        exact onDisk_createdAll h.accessible h.daily (fun name hname => (hgood name hname).1)
          (fun name hname => (hgood name hname).2) name hname
      quiet := fun _ => RecordingsTab.quiet_disable
      asked := fun _ _ _ => .inl RecordingsTab.quiet_disable.2.2
      numbered := by
        refine h.numbered.of_labels ?_ rfl
        show s.tab.disableRecordingsChanges.labels.Sublist s.tab.labels
        rw [RecordingsTab.labels_disable]
      intact := hrecordings ▸ (hhalf 3).intact }
  | imageFails =>
    exact { h with
      listed := by
        have hlisted := h.listed
        unfold images at hlisted
        rw [hawaited] at hlisted
        show SameRecordings _ (s.tab.recordings ++ ((if s.awaited then _ else []) ++ s.leftBehind))
        rw [hawaited]
        exact hlisted
      current := fun hawaited' => absurd (hawaited.symm.trans hawaited') Bool.false_ne_true }
  | headerFails => exact hhalf 0
  | gpsFails => exact hhalf 1
  | ppsFails => exact hhalf 2

end

/-! ### The end of a recording -/

/-- Stop is not pressed behind an abort. -/
theorem Inv.stop (h : Inv first s)
    (hstop : s.recording = true ∨ s.callbacks = 0 ∨ s.stopIsAbort = false) :
    Inv first { s with stopIsAbort := false } := by
  have hawaited : awaited { s with stopIsAbort := false } = s.awaited := by
    unfold awaited
    rcases hstop with hrecording | hcallbacks | habort
    · rw [hrecording, Bool.true_or, Bool.true_or]
    · simp only [hcallbacks, Nat.lt_irrefl, decide_false, Bool.false_and]
    · rw [habort]
  have himages : images { s with stopIsAbort := false } = s.images := by
    unfold images
    rw [hawaited]
  exact { h with
    listed := himages ▸ h.listed
    current := hawaited ▸ h.current }

theorem Inv.confirmAbort (h : Inv first s) : Inv first s.confirmAbort := by
  cases hrecording : s.recording with
  | true =>
    have hawaited : s.confirmAbort.awaited = s.awaited := by
      unfold awaited TabSession.confirmAbort
      rw [hrecording, Bool.true_or, Bool.true_or]
    have hleft : s.confirmAbort.leftBehind = s.leftBehind :=
      if_neg fun hended => Bool.false_ne_true (hended.2.symm.trans hrecording)
    have himages : s.confirmAbort.images = s.images := by
      unfold images
      rw [hawaited, hleft]
      rfl
    exact { h with
      listed := himages ▸ h.listed
      current := hawaited ▸ h.current }
  | false =>
    have hawaited : s.confirmAbort.awaited = false := by
      unfold awaited TabSession.confirmAbort
      rw [hrecording, Bool.not_true, Bool.and_false, Bool.or_false]
    exact { h with
      listed := by
        refine h.listed.trans (.of_perm ?_)
        unfold images
        rw [hawaited]
        cases hbefore : s.awaited with
        | false =>
          have hleft : s.confirmAbort.leftBehind = s.leftBehind :=
            if_neg fun hended => Bool.false_ne_true (hbefore.symm.trans hended.1)
          rw [hleft]
          exact .refl _
        | true =>
          have hleft : s.confirmAbort.leftBehind = s.leftBehind ++ [s.currentRecording] :=
            if_pos ⟨hbefore, hrecording⟩
          rw [hleft]
          exact List.perm_append_comm.append_left _
      current := fun hawaited' => absurd (hawaited.symm.trans hawaited') Bool.false_ne_true }

theorem untimed_ended {r : Recording} (h : r.recordingType = .flightLine) (endTime duration : ℤ) :
    Recording.untimed { r with endTime, duration, recordingType := .flightLine } = r.untimed := by
  unfold Recording.untimed
  rw [h]

theorem Inv.enterIdleState (h : Inv first s) (hrecording : s.recording = true) (closeTime : ℤ)
    (refused : List UInt8 → Bool) : Inv first (s.enterIdleState closeTime refused) := by
  have hawaited : s.awaited = true := by
    unfold awaited
    rw [hrecording, Bool.true_or]
  obtain ⟨htype, hfiles⟩ := h.current hawaited
  have hcallbacks := h.callbacks.2 hrecording
  have hcallback : s.callbacks + 1 ≤ 1 := by rw [hcallbacks]
  have hlisted : SameRecordings s.disk.recorded
      (s.tab.recordings ++ ([s.currentRecording] ++ s.leftBehind)) := by
    have hlisted := h.listed
    unfold images at hlisted
    rwa [if_pos hawaited] at hlisted
  cases habort : s.stopIsAbort with
  | false =>
    have hstate : s.enterIdleState closeTime refused = { s with
        currentRecording := { s.currentRecording with
          endTime := closeTime, duration := closeTime - s.currentRecording.startTime,
          recordingType := .flightLine }
        recording := false
        callbacks := s.callbacks + 1 } := by
      unfold TabSession.enterIdleState
      simp only [habort, Bool.false_eq_true, if_false]
    have hended := untimed_ended htype closeTime (closeTime - s.currentRecording.startTime)
    rw [hstate]
    exact { h with
      listed := by
        refine hlisted.trans ?_
        unfold images awaited
        simp only [habort, hcallbacks, Nat.zero_lt_succ, Nat.zero_add, decide_true, Bool.not_false,
          Bool.and_self, Bool.false_or, if_true]
        unfold SameRecordings
        simp only [List.map_append, List.map_singleton, hended]
        exact .refl _
      callbacks := ⟨hcallback, nofun⟩
      current := fun _ => ⟨rfl, by
        rw [← Recording.paths_untimed, hended, Recording.paths_untimed]
        exact hfiles⟩
      quiet := nofun }
  | true =>
    have himagepath : s.currentRecording.path = s.currentRecording.imagepath := by
      unfold Recording.path
      rw [htype]
    have hstate : s.enterIdleState closeTime refused = { s with
        disk := s.disk.unlinkAll refused [s.currentRecording.imagepath,
          s.currentRecording.imagehdrpath, s.currentRecording.ppspath, s.currentRecording.gpspath]
        removed := s.removed ++ [s.currentRecording]
        leftBehind :=
          if refused s.currentRecording.imagepath then s.leftBehind ++ [s.currentRecording]
          else s.leftBehind
        currentRecording := { s.currentRecording with
          endTime := closeTime, duration := closeTime - s.currentRecording.startTime,
          recordingType := .flightLine }
        recording := false
        callbacks := s.callbacks + 1 } := by
      unfold TabSession.enterIdleState
      simp only [habort, if_true]
    have hsplit : SameRecordings s.disk.recorded
        ([s.currentRecording] ++ (s.tab.recordings ++ s.leftBehind)) := by
      refine hlisted.trans (.of_perm ?_)
      rw [← List.append_assoc, ← List.append_assoc]
      exact List.perm_append_comm.append_right _
    have hpaths : ∀ path, path ∈ [s.currentRecording.imagepath, s.currentRecording.imagehdrpath,
        s.currentRecording.ppspath, s.currentRecording.gpspath] ↔
          path ∈ [s.currentRecording].flatMap Recording.paths := by
      intro path
      rw [List.flatMap_singleton, Recording.paths, htype]
      simp only [List.mem_cons, List.not_mem_nil, or_false]
      tauto
    have hspared := notMem_paths_of_gone hsplit
    rw [hstate]
    constructor
    case path => exact (path_unlinkAll _).trans h.path
    case dailySubdir => exact h.dailySubdir
    case accessible => exact h.accessible.unlinkAll _
    case daily => exact h.daily.unlinkAll _ _
    case listed =>
      refine (sameRecordings_unlinkAll hsplit hpaths).trans (.of_perm ?_)
      unfold images awaited
      simp only [habort, Bool.not_true, Bool.and_false, Bool.or_self, Bool.false_eq_true, if_false,
        List.nil_append, List.filter_singleton, himagepath]
      cases refused s.currentRecording.imagepath with
      | false => exact .refl _
      | true =>
        refine List.perm_append_comm.trans (.of_eq ?_)
        rw [List.append_assoc]
        rfl
    case callbacks => exact ⟨hcallback, nofun⟩
    case current =>
      intro hawaited'
      unfold awaited at hawaited'
      simp [habort] at hawaited'
    case quiet => exact nofun
    case asked => exact h.asked
    case numbered => exact h.numbered
    case spared =>
      intro path hpath hremoved
      have hremoved := List.forall_mem_append.mp hremoved
      refine onDisk_spared (h.spared path hpath hremoved.1) fun hmem => ?_
      obtain ⟨r, hr, hrpath⟩ := List.mem_flatMap.mp ((hpaths path).mp hmem)
      exact hremoved.2 r hr hrpath
    case intact =>
      intro r hr path hpath hfirst
      refine onDisk_spared (h.intact r hr path hpath hfirst) fun hmem => ?_
      exact hspared r (List.mem_append_left _ hr) path hpath ((hpaths path).mp hmem)

theorem Inv.recordControlsUpdateWork (h : Inv first s) (hcallbacks : s.callbacks ≠ 0) :
    Inv first s.recordControlsUpdateWork := by
  have hone : s.callbacks = 1 := by
    have hle := h.callbacks.1
    omega
  have hrecording : s.recording = false := by
    by_contra hrecording
    exact hcallbacks (h.callbacks.2 (Bool.of_not_eq_false hrecording))
  have hidle : s.recordControlsUpdateWork.awaited = false := by
    unfold awaited TabSession.recordControlsUpdateWork
    simp only [hrecording, hone, Nat.sub_self, Nat.lt_irrefl, decide_false, Bool.false_and,
      Bool.or_self]
  have hcallbacks' : s.callbacks - 1 ≤ 1 ∧ (s.recording = true → s.callbacks - 1 = 0) := by
    rw [hone]
    exact ⟨Nat.zero_le _, fun _ => rfl⟩
  have hquiet {tab : RecordingsTab} : s.recording = true → tab.Quiet := by
    rw [hrecording]
    exact nofun
  have hcurrent {t : TabSession} (hawaited : t.awaited = false) (P : Prop) : t.awaited = true → P :=
    fun hawaited' => absurd (hawaited.symm.trans hawaited') Bool.false_ne_true
  cases habort : s.stopIsAbort with
  | true =>
    have hstate : s.recordControlsUpdateWork = { s with
        callbacks := s.callbacks - 1, tab := s.tab.enableRecordingsChanges } := by
      unfold TabSession.recordControlsUpdateWork
      simp only [habort, if_true]
    have hawaited : s.awaited = false := by
      unfold awaited
      rw [hrecording, habort, Bool.not_true, Bool.and_false, Bool.or_false]
    rw [hstate] at hidle ⊢
    exact { h with
      listed := by
        have hlisted := h.listed
        unfold images at hlisted ⊢
        rw [hawaited] at hlisted
        rw [hidle]
        exact hlisted
      callbacks := hcallbacks'
      current := hcurrent hidle _
      quiet := hquiet
      asked := h.asked
      numbered := h.numbered
      intact := h.intact }
  | false =>
    have hstate : s.recordControlsUpdateWork = { s with
        callbacks := s.callbacks - 1
        tab := (s.tab.addRecording s.currentRecording).enableRecordingsChanges } := by
      unfold TabSession.recordControlsUpdateWork
      simp only [habort, Bool.false_eq_true, if_false]
    have hawaited : s.awaited = true := by
      unfold awaited
      rw [hrecording, habort, hone]
      rfl
    have hrecordings : (s.tab.addRecording s.currentRecording).enableRecordingsChanges.recordings =
        s.tab.recordings ++ [s.currentRecording] :=
      RecordingsTab.recordings_addRecording _
    rw [hstate] at hidle ⊢
    exact { h with
      listed := by
        have hlisted := h.listed
        unfold images at hlisted ⊢
        rw [hawaited] at hlisted
        rw [hidle, hrecordings, List.append_assoc]
        exact hlisted
      callbacks := hcallbacks'
      current := hcurrent hidle _
      quiet := hquiet
      asked := by
        intro flightLines endToEnd hquestion
        have hselection : (s.tab.addRecording s.currentRecording).selection = s.tab.selection :=
          RecordingsTab.selection_addRecording _
        rcases h.asked flightLines endToEnd hquestion with hnone | ⟨hflight, hend⟩
        · exact .inl (hselection.trans hnone)
        · exact .inr ⟨(RecordingsTab.tally_eq hselection true).trans hflight,
            (RecordingsTab.tally_eq hselection false).trans hend⟩
      numbered := h.numbered.addRecording s.currentRecording
      intact := by
        rw [hrecordings]
        refine List.forall_mem_append.mpr ⟨h.intact, List.forall_mem_singleton.mpr ?_⟩
        exact fun path hpath _ => (h.current hawaited).2 path hpath }

/-! ### Whole sessions -/

/-- A recording starts when there is none and the last one has its row, in the daily directory
itself, and its image has a new name. The idle state is entered from a recording only, and Stop is
not pressed between the end of an aborted recording and the callback that leaves it out. -/
def Fresh (s : TabSession) (e : TabEvent) (_ : TabSession) : Prop :=
  match e with
  | .recordPressed currentPrefix time _ =>
    (s.recording = false ∧ s.callbacks = 0) ∧ 47 ∉ currentPrefix ∧ FourDigits time ∧
      ¬s.disk.OnDisk (s.openedRecording currentPrefix time).imagepath
  | .stopPressed => s.recording = true ∨ s.callbacks = 0 ∨ s.stopIsAbort = false
  | .finished _ _ => s.recording = true
  | _ => True

instance (s : TabSession) (e : TabEvent) (t : TabSession) : Decidable (Fresh s e t) :=
  match e with
  | .recordPressed _ _ _ => inferInstanceAs (Decidable ((_ ∧ _) ∧ _ ∧ _ ∧ ¬_))
  | .stopPressed => inferInstanceAs (Decidable (_ ∨ _ ∨ _))
  | .finished _ _ => inferInstanceAs (Decidable (_ = true))
  | .select _ | .deletePressed | .answered _ _ | .abortConfirmed | .controlsUpdated =>
    isTrue trivial

theorem step_inv {t : TabSession} {e : TabEvent} (h : Inv first s) (hfresh : Fresh s e t)
    (hstep : s.step e = some t) : Inv first t := by
  cases e with
  | select chosen =>
    simp only [step] at hstep
    split_ifs at hstep with hsensitive
    cases hstep
    exact h.select hsensitive.1 hsensitive.2 chosen
  | deletePressed =>
    simp only [step] at hstep
    split_ifs at hstep with hsensitive
    cases hstep
    exact h.onDeleteButton hsensitive.1
  | answered yes refused =>
    simp only [step] at hstep
    split at hstep
    · cases hstep
    · split_ifs at hstep with hyes
      · cases hstep
        exact h.closed
      · split at hstep
        · cases hstep
          exact h.closed.deleteSelected refused
        · cases hstep
          exact h.closed.pruneDirs refused
  | recordPressed currentPrefix time result =>
    cases hstep
    obtain ⟨⟨hidle, hcallbacks⟩, -, hfour, hnew⟩ := hfresh
    exact h.openFiles hidle hcallbacks hfour hnew result
  | stopPressed =>
    cases hstep
    exact h.stop hfresh
  | abortConfirmed =>
    cases hstep
    exact h.confirmAbort
  | finished closeTime refused =>
    cases hstep
    exact h.enterIdleState hfresh closeTime refused
  | controlsUpdated =>
    simp only [step] at hstep
    split_ifs at hstep with hcallbacks
    cases hstep
    exact h.recordControlsUpdateWork hcallbacks

/-- Rows are added to the table one by one. -/
theorem foldl_addRecording (recordings : List Recording) {tab : RecordingsTab}
    (hnumbered : tab.Numbered) (hquestion : tab.question = none) :
    let tab' := recordings.foldl RecordingsTab.addRecording tab
    tab'.recordings = tab.recordings ++ recordings ∧ tab'.Numbered ∧ tab'.question = none := by
  induction recordings generalizing tab with
  | nil => exact ⟨(List.append_nil _).symm, hnumbered, hquestion⟩
  | cons r recordings ih =>
    obtain ⟨hrecordings, hrest⟩ := ih (hnumbered.addRecording r) hquestion
    refine ⟨?_, hrest⟩
    rw [List.foldl_cons, hrecordings, RecordingsTab.recordings_addRecording, List.append_assoc]
    rfl

theorem inv_start {disk : DataDir} {dailySubdir : List UInt8} (haccessible : Accessible disk)
    (hdaily : Daily disk dailySubdir) (tm : Tm) (r : Recording) :
    Inv (start disk dailySubdir tm r) (start disk dailySubdir tm r) := by
  have hempty : RecordingsTab.empty.Numbered := ⟨List.Pairwise.nil, nofun⟩
  obtain ⟨hrecordings, hnumbered, hquestion⟩ :=
    foldl_addRecording (scanDirs disk.path (some disk.entries) tm).1 hempty rfl
  exact {
    path := rfl
    dailySubdir := rfl
    accessible := haccessible
    daily := hdaily
    listed := by
      unfold images
      rw [show (start disk dailySubdir tm r).tab.recordings = _ from hrecordings]
      refine .of_perm ?_
      refine (scanDirs_perm haccessible.allUniform (Reordered.refl _) tm).symm.trans (.of_eq ?_)
      exact (List.append_nil _).symm
    callbacks := ⟨Nat.zero_le _, nofun⟩
    current := nofun
    quiet := nofun
    asked := asked_of_none hquestion
    numbered := hnumbered
    spared := fun _ hpath _ => hpath
    intact := fun r hr _ _ hfirst => hfirst hr }

/-- What the tab shows and what is on the disk. -/
structure Kept (first t : TabSession) : Prop where
  rescan : ∀ order, Reordered t.disk.entries order → ∀ tm,
    SameRecordings (scanDirs t.disk.path (some order) tm).1 t.images
  labels : ((t.tab.rows.filter fun row =>
    row.recording.recordingType = .flightLine).map TabRow.typeText).Nodup
  asked : t.tab.Asked
  spared : ∀ path, first.disk.OnDisk path → (∀ r ∈ t.removed, path ∉ r.paths) → t.disk.OnDisk path
  intact : ∀ r ∈ t.tab.recordings, ∀ path ∈ r.paths,
    (r ∈ first.tab.recordings → first.disk.OnDisk path) → t.disk.OnDisk path
  current : t.awaited = true → ∀ path ∈ t.currentRecording.paths, t.disk.OnDisk path
  quiet : t.recording = true → t.tab.Quiet
  daily : Daily t.disk first.dailySubdir

theorem Inv.kept {t : TabSession} (h : Inv first t) : Kept first t where
  rescan _ horder tm :=
    (SameRecordings.of_perm (scanDirs_perm h.accessible.allUniform horder tm)).trans h.listed
  labels := h.numbered.nodup
  asked := h.asked
  spared := h.spared
  intact := h.intact
  current hawaited := (h.current hawaited).2
  quiet := h.quiet
  daily := h.dailySubdir ▸ h.daily

/-- After any session the next scan of the data directory finds the recordings that have a row, the
one that awaits its row and those that were left behind, and no other. A file that was there at the
start, or belongs to a row or to the current recording, is there unless its recording was deleted or
aborted. -/
theorem session_lists {disk : DataDir} {dailySubdir : List UInt8} {tm : Tm} {r : Recording}
    {es : List TabEvent} {t : TabSession} (haccessible : Accessible disk)
    (hdaily : Daily disk dailySubdir)
    (hfresh : EachStep step Fresh (start disk dailySubdir tm r) es)
    (hrun : run step (start disk dailySubdir tm r) es = some t) :
    Kept (start disk dailySubdir tm r) t := by
  have hkeep (s : TabSession) (e : TabEvent) (u : TabSession)
      (hs : Inv (start disk dailySubdir tm r) s) (hfresh : Fresh s e u)
      (hstep : step s e = some u) : Inv (start disk dailySubdir tm r) u :=
    step_inv hs hfresh hstep
  exact (hfresh.invariant hkeep (inv_start haccessible hdaily tm r) hrun).kept

/-- The directory of today with a flight line and a log, and an empty one. -/
def dailyDisk : DataDir where
  path := bytes "/data"
  entries := [⟨bytes ".", true, some []⟩, ⟨bytes "lost+found", true, none⟩,
    ⟨bytes "20231231", true, some [⟨bytes ".", some 1704067200⟩, ⟨bytes "..", some 1704067200⟩]⟩,
    ⟨bytes "20240102", true, some [⟨bytes "ang20240102t030405_raw", some 1704164700⟩,
      ⟨bytes "ang20240102t030405_raw.hdr", some 1704164700⟩,
      ⟨bytes "ang20240102t030405_gps", some 1704164700⟩,
      ⟨bytes "ang20240102t030405_pps", some 1704164700⟩,
      ⟨bytes "ang20240102t030320_log.txt", some 1704164800⟩]⟩]
  distinct := by decide
  noSlash := by decide
  filesDistinct := by decide

/-- The flight line, whose row is the second, is deleted and the empty directory pruned, then there
are a recording and an aborted one. -/
def dailyEvents : List TabEvent :=
  [.select fun i => i = 1, .deletePressed, .answered true fun _ => false,
    .answered true fun _ => false, .recordPressed (bytes "ang") 1704165000 .ok, .stopPressed,
    .finished 1704165060 fun _ => false, .controlsUpdated,
    .recordPressed (bytes "ang") 1704165100 .ok, .abortConfirmed,
    .finished 1704165110 fun _ => false, .controlsUpdated]

def dailyStart : TabSession :=
  start dailyDisk (bytes "20240102") ⟨0, 0, 0, 0, 0, 0⟩ (newRecording [] [] [] .flightLine 0 0)

theorem session_lists_daily : dailyStart.tab.rows.length = 2 ∧
    ∃ t, run step dailyStart dailyEvents = some t ∧ Kept dailyStart t := by
  have hrun : (run step dailyStart dailyEvents).isSome = true := by decide
  obtain ⟨t, ht⟩ := Option.isSome_iff_exists.mp hrun
  exact ⟨by decide, t, ht, session_lists (by decide) (by decide) (by decide) ht⟩

end TabSession

end Recordings
