import Ngdcs.Gps.Parser
import Ngdcs.Recorder.Machine

/-! The areas of line 1 that hold PPS and GPS data: what `processImageGPSData` reads from them,
and what `writeDataFromLine1` records. The length of the data is in the area itself. -/
namespace Gps
open Recorder Recorder.DisplayTab

/-- `LOCAL_FRAME_COUNT_IMAGE_OFFSET` -/
def localFrameCountImageOffset : ℕ := 1248

/-- The four bytes of the local frame count, as words of the image. -/
def localFrameCountWords : List ℕ :=
  [localFrameCountImageOffset / 2, localFrameCountImageOffset / 2 + 1]

/-- `SettingsBlock::frameWidthsSamples` -/
def frameWidthsSamples : List ℕ := [640, 1024]

/-- The words of the image that `writeDataFromLine1` records. -/
def recordedWords (image : ℕ → UInt16) (imageOffset maxByteCount : ℕ) : List ℕ :=
  match line1Words image imageOffset maxByteCount with
  | none => []
  | some words => (List.range words.length).map fun i => imageOffset / 2 + 2 + i

def recordedGPS (image : ℕ → UInt16) : List ℕ :=
  recordedWords image Recorder.DisplayTab.gpsImageOffset maxGPSDataBytes

def recordedPPS (image : ℕ → UInt16) : List ℕ :=
  recordedWords image ppsImageOffset maxPPSDataBytes

/-- What is parsed of a frame is what is recorded, and the words recorded lie in line 1,
apart from each other and from the local frame count. -/
structure AreasApart (image : ℕ → UInt16) (frameWidthSamples : ℕ) : Prop where
  parsed : (frameFeed image).map Prod.snd = (recordedGPS image).map image
  line1 : ∀ i ∈ recordedGPS image ++ recordedPPS image, i < frameWidthSamples
  disjoint : (recordedGPS image).Disjoint (recordedPPS image)
  frameCount : ∀ i ∈ recordedGPS image ++ recordedPPS image, i ∉ localFrameCountWords

/-- The number of words that an area says it holds. -/
def areaCount (image : ℕ → UInt16) (imageOffset : ℕ) : ℕ :=
  if image (imageOffset / 2) = 0xDEAD then 0 else (image (imageOffset / 2 + 1)).toNat

/-- At most the 282 GPS words in front of the local frame count, and next to any of them at
most the 18 PPS words in front of the GPS data, unless there are too many PPS words to be
recorded at all. -/
def CountsFit (image : ℕ → UInt16) : Prop :=
  areaCount image Recorder.DisplayTab.gpsImageOffset ≤ 282 ∧
    (areaCount image Recorder.DisplayTab.gpsImageOffset = 0 ∨
      areaCount image ppsImageOffset ≤ 18 ∨ 20 < areaCount image ppsImageOffset)

/-- The area's own count says which words are recorded. -/
theorem recordedWords_eq (image : ℕ → UInt16) (imageOffset maxByteCount : ℕ) :
    recordedWords image imageOffset maxByteCount =
      if areaCount image imageOffset ≤ maxByteCount / 2 then
        (List.range (areaCount image imageOffset)).map fun i => imageOffset / 2 + 2 + i
      else [] := by
  unfold recordedWords line1Words areaCount
  simp only
  by_cases hdead : image (imageOffset / 2) = 0xDEAD
  · simp [hdead]
  · rw [if_neg hdead, if_neg hdead]
    split_ifs <;> simp

theorem mem_recordedWords {image : ℕ → UInt16} {imageOffset maxByteCount i : ℕ} :
    i ∈ recordedWords image imageOffset maxByteCount ↔
      areaCount image imageOffset ≤ maxByteCount / 2 ∧ imageOffset / 2 + 2 ≤ i ∧
        i < imageOffset / 2 + 2 + areaCount image imageOffset := by
  rw [recordedWords_eq]
  split_ifs with hfits
  · simp only [List.mem_map, List.mem_range, hfits, true_and]
    constructor
    · rintro ⟨j, hj, rfl⟩
      omega
    · rintro ⟨hle, hlt⟩
      exact ⟨i - (imageOffset / 2 + 2), by omega, by omega⟩
  · simp [hfits]

/-- The parser takes as many words as the area says, however many these are. -/
theorem parsed_eq (image : ℕ → UInt16) : (frameFeed image).map Prod.snd =
    (List.range (areaCount image Recorder.DisplayTab.gpsImageOffset)).map
      fun i => image (342 + i) := by
  unfold frameFeed areaCount
  have hoffset : gpsImageOffset / 2 = 340 := rfl
  have hoffset' : Recorder.DisplayTab.gpsImageOffset / 2 = 340 := rfl
  simp only [hoffset, hoffset', gpsNoData]
  split_ifs
  · rfl
  · simp [areaFeed, Function.comp_def]

theorem parsed_iff (image : ℕ → UInt16) :
    (frameFeed image).map Prod.snd = (recordedGPS image).map image ↔
      areaCount image Recorder.DisplayTab.gpsImageOffset ≤ 300 := by
  have hmax : maxGPSDataBytes / 2 = 300 := rfl
  have hoffset : Recorder.DisplayTab.gpsImageOffset / 2 + 2 = 342 := rfl
  rw [parsed_eq, recordedGPS, recordedWords_eq, hmax]
  split_ifs with hfits
  · refine iff_of_true ?_ hfits
    rw [List.map_map, hoffset]
    rfl
  · refine iff_of_false (fun h => hfits ?_) hfits
    have hlength := congrArg List.length h
    simp only [List.length_map, List.length_range, List.map_nil, List.length_nil] at hlength
    omega

theorem mem_recordedGPS {image : ℕ → UInt16} {i : ℕ} : i ∈ recordedGPS image ↔
    areaCount image Recorder.DisplayTab.gpsImageOffset ≤ 300 ∧ 342 ≤ i ∧
      i < 342 + areaCount image Recorder.DisplayTab.gpsImageOffset :=
  mem_recordedWords

theorem mem_recordedPPS {image : ℕ → UInt16} {i : ℕ} : i ∈ recordedPPS image ↔
    areaCount image ppsImageOffset ≤ 20 ∧ 324 ≤ i ∧
      i < 324 + areaCount image ppsImageOffset :=
  mem_recordedWords

/-- In every frame, for both widths: the areas are apart exactly if their counts fit. -/
theorem areas_apart_iff (image : ℕ → UInt16) (frameWidthSamples : ℕ)
    (hwidth : frameWidthSamples ∈ frameWidthsSamples) :
    AreasApart image frameWidthSamples ↔ CountsFit image := by
  have hwide : 640 ≤ frameWidthSamples := by
    simp only [frameWidthsSamples, List.mem_cons, List.not_mem_nil, or_false] at hwidth
    omega
  have hcount : localFrameCountWords = [624, 625] := rfl
  have hgps := @mem_recordedGPS image
  have hpps := @mem_recordedPPS image
  constructor
  · intro h
    have hparsed := (parsed_iff image).mp h.parsed
    have hlow : areaCount image Recorder.DisplayTab.gpsImageOffset ≤ 282 := by
      by_contra hlong
      refine h.frameCount 624 (List.mem_append_left _ (hgps.mpr ⟨hparsed, ?_, ?_⟩)) ?_
      · omega
      · omega
      · simp [hcount]
    refine ⟨hlow, ?_⟩
    by_contra hover
    simp only [not_or, not_le, not_lt] at hover
    refine h.disjoint (hgps.mpr ⟨hparsed, le_refl 342, ?_⟩) (hpps.mpr ⟨hover.2.2, ?_, ?_⟩) <;> omega
  · rintro ⟨hlow, happart⟩
    refine ⟨(parsed_iff image).mpr (by omega), ?_, ?_, ?_⟩
    · intro i hi
      rcases List.mem_append.mp hi with hi | hi
      · have := hgps.mp hi
        omega
      · have := hpps.mp hi
        omega
    · intro i hi hi'
      have hi := hgps.mp hi
      have hi' := hpps.mp hi'
      omega
    · intro i hi
      rw [hcount]
      simp only [List.mem_cons, List.not_mem_nil, or_false]
      rcases List.mem_append.mp hi with hi | hi
      · have := hgps.mp hi
        omega
      · have := hpps.mp hi
        omega

/-- A frame whose areas say that they hold `gps` and `pps` words. -/
def areasOf (gps pps : UInt16) : ℕ → UInt16
  | 323 => pps
  | 341 => gps
  | _ => 0

theorem areas_apart_iff_full :
    AreasApart (areasOf 282 18) 640 ↔ CountsFit (areasOf 282 18) :=
  areas_apart_iff (areasOf 282 18) 640 (by decide)

/-- With the most that `writeDataFromLine1` accepts, the last GPS words come from line 2, others
from the PPS data and the frame count; with one word more, they are parsed and not recorded. -/
theorem full_areas_collide : ¬AreasApart (areasOf 300 20) 640 ∧
    641 ∈ recordedGPS (areasOf 300 20) ∧ 624 ∈ recordedGPS (areasOf 300 20) ∧
      342 ∈ recordedGPS (areasOf 300 20) ∧ 342 ∈ recordedPPS (areasOf 300 20) ∧
        (frameFeed (areasOf 301 0)).map Prod.snd ≠
          (recordedGPS (areasOf 301 0)).map (areasOf 301 0) := by
  have hgps : areaCount (areasOf 300 20) Recorder.DisplayTab.gpsImageOffset = 300 := by decide
  have hpps : areaCount (areasOf 300 20) ppsImageOffset = 20 := by decide
  have hover : areaCount (areasOf 301 0) Recorder.DisplayTab.gpsImageOffset = 301 := by decide
  refine ⟨fun h => ?_, ?_, ?_, ?_, ?_, fun h => ?_⟩
  · exact absurd (h.line1 641 (List.mem_append_left _ (mem_recordedGPS.mpr (by omega)))) (by decide)
  · exact mem_recordedGPS.mpr (by omega)
  · exact mem_recordedGPS.mpr (by omega)
  · exact mem_recordedGPS.mpr (by omega)
  · exact mem_recordedPPS.mpr (by omega)
  · have := (parsed_iff _).mp h
    omega

end Gps
