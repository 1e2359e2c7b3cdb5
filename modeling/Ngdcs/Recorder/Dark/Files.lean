import Mathlib.Logic.Function.Basic
import Ngdcs.Recorder.Dark.Accumulation

/-! The dark frame as it is read from a file, averaged and saved again. What is in the buffer
should always be a dark frame that was read completely or averaged. -/
namespace Recorder
open Runs

variable {Dir : Type*}

/-- `m_frameHeightLines * m_frameWidthSamples` -/
def pixelCount (cfg : Settings) : ℕ := cfg.frameHeightLines * cfg.frameWidthSamples

/-- The array `m_darkFrame`. -/
def DarkFrame.pixels (cfg : Settings) (d : DarkFrame) : List UInt16 :=
  (List.range (pixelCount cfg)).map fun i => UInt16.ofNat (d.darkFrame i)

/-- The dark frame, the directory for it, the dark file in each directory, and every array that
was read completely or averaged so far. -/
structure DarkFiles (Dir : Type*) where
  dark : DarkFrame
  currentDarkSubDir : Dir
  files : Dir → Option (List UInt16)
  genuine : List (List UInt16)

/-- How saving ends: at `fopen`, or with so many pixels written, of which `fclose` loses the last
ones when it flushes its buffer. `removed` is whether `unlink` works if it is called. -/
inductive WriteResult where
  | openFails
  | writes (pixelsWritten lost : ℕ) (removed : Bool)

namespace DarkFiles

variable (cfg : Settings) (s : DarkFiles Dir)

/-- `memset` of the dark frame. -/
def clearDarkFrame (d : DarkFrame) : DarkFrame :=
  { d with darkFrame := fun i => if i < pixelCount cfg then 0 else d.darkFrame i }

/-- `fread` into the dark frame, as far as the file goes. -/
def freadDarkFrame (file : List UInt16) (d : DarkFrame) : DarkFrame :=
  { d with darkFrame := fun i =>
      if i < min file.length (pixelCount cfg) then (file.getD i 0).toNat else d.darkFrame i }

def readDarkFrame : DarkFiles Dir :=
  let s := { s with dark := clearDarkFrame cfg s.dark }
  match s.files s.currentDarkSubDir with
  | none => s
  | some file =>
    let s := { s with dark := freadDarkFrame cfg file s.dark }
    let s := if min file.length (pixelCount cfg) ≠ pixelCount cfg then
        { s with dark := clearDarkFrame cfg s.dark }
      else { s with genuine := s.genuine ++ [s.dark.pixels cfg] }
    { s with dark := { s.dark with darkFrameBuffered := true } }

/-- What is on the disk after `fclose`, whose result nobody looks at. -/
def flushed (pixelsWritten lost : ℕ) : List UInt16 :=
  (s.dark.pixels cfg).take (min pixelsWritten (pixelCount cfg) - lost)

def writeDarkFrame [DecidableEq Dir] (r : WriteResult) : DarkFiles Dir :=
  if s.dark.darkFrameBuffered then
    match r with
    | .openFails => s
    | .writes pixelsWritten lost removed =>
      let s := { s with
        files := Function.update s.files s.currentDarkSubDir (s.flushed cfg pixelsWritten lost) }
      if min pixelsWritten (pixelCount cfg) ≠ pixelCount cfg ∧ removed = true then
        { s with files := Function.update s.files s.currentDarkSubDir none }
      else s
  else s

def insertInDarkSubDirMRU (dir : Dir) : DarkFiles Dir := { s with currentDarkSubDir := dir }

/-- `found` is whether the directory so far can be found or created. -/
def onDarkSubDirChange (selection : Dir) (found : Bool) : DarkFiles Dir :=
  if found then (s.insertInDarkSubDirMRU selection).readDarkFrame cfg else s

/-- A frame arrives, and perhaps completes an average. -/
def updateDarkFrame (rate : ℚ) (image : ℕ → UInt16) : DarkFiles Dir :=
  let dark := s.dark.update cfg rate image
  { s with
    dark := dark
    genuine := if s.dark.Completes rate then s.genuine ++ [dark.pixels cfg] else s.genuine }

end DarkFiles

/-- What can happen to the dark frame and its files. -/
inductive DarkFileEvent (Dir : Type*) where
  | readDarkFrame
  | writeDarkFrame (r : WriteResult)
  | onDarkSubDirChange (selection : Dir) (found : Bool)
  | insertInDarkSubDirMRU (dir : Dir)
  | imageFrame (rate : ℚ) (image : ℕ → UInt16)
  | restart (rate : ℚ)
  | fileChanges (dir : Dir) (file : Option (List UInt16))

namespace DarkFiles

open DarkFileEvent

def step [DecidableEq Dir] (cfg : Settings) (s : DarkFiles Dir) :
    DarkFileEvent Dir → Option (DarkFiles Dir)
  | .readDarkFrame => some (s.readDarkFrame cfg)
  | .writeDarkFrame r => some (s.writeDarkFrame cfg r)
  | .onDarkSubDirChange selection found => some (s.onDarkSubDirChange cfg selection found)
  | .insertInDarkSubDirMRU dir => some (s.insertInDarkSubDirMRU dir)
  | .imageFrame rate image => some (s.updateDarkFrame cfg rate image)
  | .restart rate => some { s with dark := s.dark.restart rate }
  | .fileChanges dir file => some { s with files := Function.update s.files dir file }

/-- The constructor of `DisplayTab`, in front of its call of `readDarkFrame`. -/
def initial (dir : Dir) (files : Dir → Option (List UInt16)) (darkFrame : ℕ → ℕ) :
    DarkFiles Dir :=
  ⟨⟨-1, 0, fun _ => 0, darkFrame, false⟩, dir, files, []⟩

/-- What is buffered was read completely or averaged. -/
def Trusted (cfg : Settings) (s : DarkFiles Dir) : Prop :=
  s.dark.darkFrameBuffered = true → s.dark.pixels cfg ∈ s.genuine

instance (cfg : Settings) (s : DarkFiles Dir) : Decidable (Trusted cfg s) :=
  inferInstanceAs (Decidable (_ → _))

/-- A saved dark frame is replaced only by one that was read completely or averaged, or else
removed. -/
def SavesGenuine [DecidableEq Dir] (s t : DarkFiles Dir) : Prop :=
  t.files = s.files ∨ t.files = Function.update s.files s.currentDarkSubDir none ∨
    ∃ pixels ∈ s.genuine, t.files = Function.update s.files s.currentDarkSubDir (some pixels)

/-- The property of one step. -/
def KeepsGenuine [DecidableEq Dir] (cfg : Settings) (s : DarkFiles Dir)
    (e : DarkFileEvent Dir) (t : DarkFiles Dir) : Prop :=
  Trusted cfg t ∧ ∀ r, e = .writeDarkFrame r → SavesGenuine s t

/-- A read in this directory finds a complete file, or finds none with nothing buffered. The
array of zeros that it leaves otherwise may be genuine by chance. -/
def ReadsSafely (cfg : Settings) (s : DarkFiles Dir) (dir : Dir) : Prop :=
  match s.files dir with
  | none => s.dark.darkFrameBuffered = false ∨ List.replicate (pixelCount cfg) 0 ∈ s.genuine
  | some file =>
    pixelCount cfg ≤ file.length ∨ List.replicate (pixelCount cfg) 0 ∈ s.genuine

/-- The directory in which an event reads the dark file, if it does. -/
def readDir (s : DarkFiles Dir) : DarkFileEvent Dir → Option Dir
  | .readDarkFrame => some s.currentDarkSubDir
  | .onDarkSubDirChange selection true => some selection
  | _ => none

/-- All the pixels are written and none is lost in `fclose`, or too few and the file is removed.
A file that happens to be what is left otherwise stays as it was. -/
def WritesSafely (cfg : Settings) (s : DarkFiles Dir) : WriteResult → Prop
  | .openFails => True
  | .writes pixelsWritten lost removed =>
    s.dark.darkFrameBuffered = true →
      (pixelCount cfg ≤ pixelsWritten ∧ min lost (pixelCount cfg) = 0) ∨
        (pixelsWritten < pixelCount cfg ∧ removed = true) ∨
          s.files s.currentDarkSubDir = some (s.flushed cfg pixelsWritten lost)

def Safe (cfg : Settings) (s : DarkFiles Dir) (e : DarkFileEvent Dir) : Prop :=
  (∀ dir, readDir s e = some dir → ReadsSafely cfg s dir) ∧
    ∀ r, e = .writeDarkFrame r → WritesSafely cfg s r

variable {cfg : Settings} {s t : DarkFiles Dir} {e : DarkFileEvent Dir}

theorem pixels_clear (d : DarkFrame) :
    (clearDarkFrame cfg d).pixels cfg = List.replicate (pixelCount cfg) 0 := by
  refine List.ext_getElem (by simp [DarkFrame.pixels]) fun i hi _ => ?_
  have hlt : i < pixelCount cfg := by simpa [DarkFrame.pixels] using hi
  simp [DarkFrame.pixels, clearDarkFrame, hlt]

/-- What a read does to the invariant. -/
theorem trusted_readDarkFrame_iff :
    Trusted cfg (s.readDarkFrame cfg) ↔ ReadsSafely cfg s s.currentDarkSubDir := by
  unfold readDarkFrame ReadsSafely Trusted
  simp only
  cases hfile : s.files s.currentDarkSubDir with
  | none =>
    simp only
    rw [pixels_clear]
    change (s.dark.darkFrameBuffered = true → _) ↔ _
    cases s.dark.darkFrameBuffered <;> simp
  | some file =>
    simp only
    split_ifs with hshort
    · have hpixels (d : DarkFrame) :
          DarkFrame.pixels cfg { clearDarkFrame cfg d with darkFrameBuffered := true } =
            List.replicate (pixelCount cfg) 0 := pixels_clear d
      have hfile : ¬pixelCount cfg ≤ file.length := by omega
      simp only [hpixels, hfile, false_or, forall_const]
    · have hfile : pixelCount cfg ≤ file.length := by omega
      refine iff_of_true (fun _ => ?_) (Or.inl hfile)
      exact List.mem_append_right _ (List.mem_singleton_self _)

/-- A complete file is in the buffer as it is in its directory. -/
theorem pixels_readDarkFrame {file : List UInt16} (hfile : s.files s.currentDarkSubDir = some file)
    (hlong : pixelCount cfg ≤ file.length) :
    (s.readDarkFrame cfg).dark.pixels cfg = file.take (pixelCount cfg) ∧
      (s.readDarkFrame cfg).genuine = s.genuine ++ [file.take (pixelCount cfg)] := by
  have hpixels (d : DarkFrame) (b : Bool) :
      DarkFrame.pixels cfg { freadDarkFrame cfg file d with darkFrameBuffered := b } =
        file.take (pixelCount cfg) := by
    refine List.ext_getElem (by simp [DarkFrame.pixels, hlong]) fun i hi _ => ?_
    have hlt : i < pixelCount cfg := by simpa [DarkFrame.pixels] using hi
    have hlt' : i < file.length := hlt.trans_le hlong
    simp [DarkFrame.pixels, freadDarkFrame, hlt, hlt']
  have hcomplete : ¬min file.length (pixelCount cfg) ≠ pixelCount cfg := by omega
  unfold readDarkFrame
  simp only [hfile, if_neg hcomplete]
  exact ⟨hpixels _ _, congrArg (fun p => s.genuine ++ [p]) (hpixels _ _)⟩

/-- A frame leaves the buffer alone or completes an average. -/
theorem trusted_updateDarkFrame (hs : Trusted cfg s) (rate : ℚ) (image : ℕ → UInt16) :
    Trusted cfg (s.updateDarkFrame cfg rate image) := by
  unfold updateDarkFrame Trusted
  simp only
  split_ifs with hcompletes
  · exact fun _ => List.mem_append_right _ (List.mem_singleton_self _)
  · have hsame : (s.dark.update cfg rate image).darkFrame = s.dark.darkFrame ∧
        (s.dark.update cfg rate image).darkFrameBuffered = s.dark.darkFrameBuffered := by
      by_cases hdue : s.dark.Due
      · have hshort : s.dark.Short rate := by
          by_contra hnot
          exact hcompletes ⟨hdue, hnot⟩
        rw [DarkFrame.update_of_adds ⟨hdue, hshort⟩]
        exact ⟨rfl, rfl⟩
      · rw [DarkFrame.update_of_not_due hdue, DarkFrame.counted]
        split_ifs <;> exact ⟨rfl, rfl⟩
    rw [hsame.2, DarkFrame.pixels, hsame.1]
    exact hs

theorem length_pixels (d : DarkFrame) : (d.pixels cfg).length = pixelCount cfg := by
  simp [DarkFrame.pixels]

/-- What is buffered is what gets saved, as far as it is flushed. -/
theorem savesGenuine_writeDarkFrame_iff [DecidableEq Dir] (hs : Trusted cfg s)
    (hwhole : ∀ pixels ∈ s.genuine, pixels.length = pixelCount cfg) (r : WriteResult) :
    SavesGenuine s (s.writeDarkFrame cfg r) ↔ WritesSafely cfg s r := by
  have hlength := @length_pixels cfg s.dark
  unfold writeDarkFrame WritesSafely
  split_ifs with hbuffered
  swap
  · refine iff_of_true (Or.inl rfl) ?_
    cases r with
    | openFails => trivial
    | writes => exact fun h => absurd h hbuffered
  cases r with
  | openFails => exact iff_of_true (Or.inl rfl) trivial
  | writes pixelsWritten lost removed =>
    simp only
    split_ifs with hshort
    · obtain ⟨hshort, hremoved⟩ := hshort
      refine iff_of_true (Or.inr (Or.inl (Function.update_idem ..))) fun _ => ?_
      exact Or.inr (Or.inl ⟨by omega, hremoved⟩)
    have hupdate {o : Option (List UInt16)} : Function.update s.files s.currentDarkSubDir
        (some (s.flushed cfg pixelsWritten lost)) =
          Function.update s.files s.currentDarkSubDir o ↔
            some (s.flushed cfg pixelsWritten lost) = o :=
      (Function.update_injective s.files s.currentDarkSubDir).eq_iff
    constructor
    · rintro (hsame | hnone | ⟨pixels, hmem, hsaved⟩) _
      · right
        right
        rw [← Function.update_eq_self_iff.mp hsame]
      · cases hupdate.mp hnone
      · have hcount := congrArg List.length (Option.some.inj (hupdate.mp hsaved))
        rw [hwhole pixels hmem, flushed, List.length_take, hlength] at hcount
        left
        omega
    · intro hsafe
      rcases hsafe hbuffered with ⟨hlong, hlost⟩ | ⟨hfew, hremoved⟩ | hsame
      · refine Or.inr (Or.inr ⟨_, hs hbuffered, hupdate.mpr (congrArg some ?_)⟩)
        apply List.take_of_length_le
        omega
      · exact absurd ⟨by omega, hremoved⟩ hshort
      · exact Or.inl (Function.update_eq_self_iff.mpr hsame.symm)

theorem trusted_writeDarkFrame [DecidableEq Dir] (hs : Trusted cfg s) (r : WriteResult) :
    Trusted cfg (s.writeDarkFrame cfg r) := by
  unfold writeDarkFrame
  split_ifs
  · cases r with
    | openFails => exact hs
    | writes pixelsWritten lost removed =>
      simp only
      split_ifs <;> exact hs
  · exact hs

/-- What one step does to the invariant. -/
theorem step_trusted [DecidableEq Dir] (hs : Trusted cfg s) (h : step cfg s e = some t) :
    Trusted cfg t ↔ ∀ dir, readDir s e = some dir → ReadsSafely cfg s dir := by
  have hkept (ht : Trusted cfg t) (hread : readDir s e = none) :
      Trusted cfg t ↔ ∀ dir, readDir s e = some dir → ReadsSafely cfg s dir :=
    iff_of_true ht fun dir hdir => by simp [hread] at hdir
  cases e with
  | readDarkFrame =>
    obtain rfl := Option.some.inj h
    rw [trusted_readDarkFrame_iff]
    simp [readDir]
  | onDarkSubDirChange selection found =>
    obtain rfl := Option.some.inj h
    cases found with
    | true =>
      have hread := @trusted_readDarkFrame_iff _ cfg (s.insertInDarkSubDirMRU selection)
      apply hread.trans
      simp [readDir, ReadsSafely, insertInDarkSubDirMRU]
    | false => exact hkept hs rfl
  | writeDarkFrame r =>
    obtain rfl := Option.some.inj h
    exact hkept (trusted_writeDarkFrame hs r) rfl
  | imageFrame rate image =>
    obtain rfl := Option.some.inj h
    exact hkept (trusted_updateDarkFrame hs rate image) rfl
  | insertInDarkSubDirMRU dir | restart rate | fileChanges dir file =>
    obtain rfl := Option.some.inj h
    exact hkept hs rfl

/-- Every array in the list has all its pixels. -/
theorem step_whole [DecidableEq Dir]
    (hwhole : ∀ pixels ∈ s.genuine, pixels.length = pixelCount cfg)
    (h : step cfg s e = some t) : ∀ pixels ∈ t.genuine, pixels.length = pixelCount cfg := by
  have hmore (d : DarkFrame) :
      ∀ pixels ∈ s.genuine ++ [d.pixels cfg], pixels.length = pixelCount cfg :=
    List.forall_mem_append.mpr ⟨hwhole, List.forall_mem_singleton.mpr (length_pixels d)⟩
  have hread (dir : Dir) :
      ∀ pixels ∈ ({ s with currentDarkSubDir := dir }.readDarkFrame cfg).genuine,
        pixels.length = pixelCount cfg := by
    unfold readDarkFrame
    simp only
    split
    · exact hwhole
    · split_ifs
      · exact hwhole
      · exact hmore _
  cases e with
  | readDarkFrame =>
    obtain rfl := Option.some.inj h
    exact hread s.currentDarkSubDir
  | onDarkSubDirChange selection found =>
    obtain rfl := Option.some.inj h
    cases found with
    | true => exact hread selection
    | false => exact hwhole
  | writeDarkFrame r =>
    obtain rfl := Option.some.inj h
    unfold writeDarkFrame
    split_ifs
    · cases r with
      | openFails => exact hwhole
      | writes pixelsWritten lost removed =>
        simp only
        split_ifs <;> exact hwhole
    · exact hwhole
  | imageFrame rate image =>
    obtain rfl := Option.some.inj h
    unfold updateDarkFrame
    simp only
    split_ifs
    · exact hmore _
    · exact hwhole
  | insertInDarkSubDirMRU dir | restart rate | fileChanges dir file =>
    obtain rfl := Option.some.inj h
    exact hwhole

/-- The recorder changes the dark frame only by frames and restarts. -/
theorem recorder_step [DecidableEq Dir] {x y : DisplayTab} {e : RecorderEvent}
    (h : Recorder.step cfg x e = some y) (hs : s.dark = x.dark) :
    ∃ events t, run (step cfg) s events = some t ∧ t.dark = y.dark ∧ t.files = s.files := by
  have hbehind : ∃ events t, run (step cfg) s events = some t ∧ t.dark = darkBehind cfg x e ∧
      t.files = s.files := by
    cases e with
    | imageFrame image w =>
      refine ⟨[.imageFrame (x.frameRateHz cfg) image], _, rfl, ?_, rfl⟩
      exact congrArg (DarkFrame.update cfg _ image) hs
    | _ => exact ⟨[], s, rfl, hs, rfl⟩
  obtain ⟨events, t, hrun, hdark, hfiles⟩ := hbehind
  rcases (step_darkKept h).1 with hkept | ⟨hrestarted, -⟩
  · exact ⟨events, t, hrun, hdark.trans hkept.symm, hfiles⟩
  · refine ⟨events ++ [.restart (y.frameRateHz cfg)],
      { t with dark := t.dark.restart (y.frameRateHz cfg) },
      run_append_eq_some.mpr ⟨t, hrun, rfl⟩, ?_, hfiles⟩
    rw [hrestarted, ← hdark]

/-- From the start of the program, the buffer holds only genuine dark frames, and only these are
saved, exactly as long as every read finds a complete file, or no file while nothing is
buffered, and no save leaves a part of the array behind. -/
theorem dark_files_genuine_iff [DecidableEq Dir] (cfg : Settings) (dir : Dir)
    (files : Dir → Option (List UInt16)) (darkFrame : ℕ → ℕ) (es : List (DarkFileEvent Dir)) :
    EachStep (step cfg) (KeepsGenuine cfg) (initial dir files darkFrame) es ↔
      EachStep (step cfg) (fun s e _ => Safe cfg s e) (initial dir files darkFrame) es := by
  let Sound (s : DarkFiles Dir) : Prop :=
    Trusted cfg s ∧ ∀ pixels ∈ s.genuine, pixels.length = pixelCount cfg
  have hinitial : Sound (initial dir files darkFrame) := ⟨fun h => by simp [initial] at h, nofun⟩
  refine eachStep_iff_of_invariant (I := Sound) ?_ ?_ hinitial
  · rintro s e t ⟨hs, hwhole⟩ hstep
    refine and_congr (step_trusted hs hstep) (forall_congr' fun r => forall_congr' ?_)
    rintro rfl
    obtain rfl := Option.some.inj hstep
    exact savesGenuine_writeDarkFrame_iff hs hwhole r
  · rintro s e t ⟨hs, hwhole⟩ hsafe hstep
    exact ⟨(step_trusted hs hstep).mpr hsafe.1, step_whole hwhole hstep⟩

/-- Two lines of one pixel. -/
def twoPixels : Settings := { dark2Only with frameHeightLines := 2, frameWidthSamples := 1 }

/-- A dark file of one pixel is read where two are needed, and zeros are saved in its place when
the program ends. Of a complete one, the second pixel is lost when it is saved again. -/
theorem bad_dark_files_saved :
    (∃ t, run (step twoPixels) (initial () (fun _ => some [7]) fun _ => 0)
        [.readDarkFrame, .writeDarkFrame (.writes 2 0 true)] = some t ∧
        t.files () = some [0, 0] ∧ t.genuine = [] ∧ ¬Trusted twoPixels t) ∧
      ∃ t, run (step twoPixels) (initial () (fun _ => some [7, 8]) fun _ => 0)
        [.readDarkFrame, .writeDarkFrame (.writes 2 1 true)] = some t ∧
        t.files () = some [7] ∧ t.genuine = [[7, 8]] :=
  ⟨⟨_, rfl, by decide, by decide, by decide⟩, ⟨_, rfl, by decide, by decide⟩⟩

end DarkFiles
end Recorder
