import Ngdcs.Display.Conversion
import Ngdcs.Lib.Raster

/-! The surface of `ImageDisplay`: how a waterfall line is put on top of the lines that are
there, and how a frame is painted. A pointer into the surface is an offset in bytes, and an
access outside of it has no result. -/
namespace Display
open Stores Raster

/-- `NON_COMBO_MARGIN` -/
def nonComboMargin : ℕ := 15

/-- `rgbSize`: the bytes of a pixel on the surface. -/
def rgbSize : ℕ := 4

/-- `m_surface` and `m_currentWaterfallHeight` -/
structure ImageDisplay where
  surface : List UInt8
  currentWaterfallHeight : ℕ

/-- `margin` in `displayLine` -/
def margin (viewer : ViewerType) : ℕ := if viewer = .combo then 0 else nonComboMargin

/-- The column where `displayFrame` paints a frame. -/
def xImageOffset (d : FrameDims) (viewer : ViewerType) : ℕ :=
  if viewer = .frame then nonComboMargin else d.frameWidthSamples / 2 + 2 * nonComboMargin

def bytesPerLine (d : FrameDims) : ℕ := (d.frameWidthSamples + 2 * nonComboMargin) * rgbSize

/-- `*dataPtr` -/
def readByte (image : List UInt8) (dataPtr : ℤ) : Option UInt8 :=
  if 0 ≤ dataPtr then image[dataPtr.toNat]? else none

/-- The body of the loop over the new top line. -/
def putPixel (image : List UInt8) (dataPtr : ℤ) (surfacePtr : ℕ) (surface : List UInt8) :
    Option (List UInt8) := do
  let red ← readByte image dataPtr
  let surface ← store surface (surfacePtr + 2) red
  let green ← readByte image (dataPtr + 1)
  let surface ← store surface (surfacePtr + 1) green
  let blue ← readByte image (dataPtr + 2)
  let surface ← store surface surfacePtr blue
  store surface (surfacePtr + 3) 0

/-- That loop. -/
def putPixels (reflect : Bool) (image : List UInt8) :
    ℕ → ℤ → ℕ → List UInt8 → Option (List UInt8)
  | 0, _, _, surface => some surface
  | n + 1, dataPtr, surfacePtr, surface => do
    let surface ← putPixel image dataPtr surfacePtr surface
    putPixels reflect image n (if reflect then dataPtr - 3 else dataPtr + 3)
      (surfacePtr + rgbSize) surface

namespace ImageDisplay

variable (d : FrameDims)

/-- The constructor. -/
def initial : ImageDisplay where
  surface := List.replicate ((d.frameHeightLines - 1) * bytesPerLine d) 0
  currentWaterfallHeight := 0

/-- `ImageDisplay::reset` -/
def reset (s : ImageDisplay) : ImageDisplay := { s with currentWaterfallHeight := 0 }

/-- `ImageDisplay::displayLine`, which takes its width as a `u_short`, behind
`if (!win) return;`: the window is there. -/
def displayLine (viewer : ViewerType) (reflect : Bool) (image : List UInt8) (width : ℕ)
    (s : ImageDisplay) : Option ImageDisplay := do
  let width := width % 2 ^ 16
  let strip : Strip := ⟨margin viewer * rgbSize, width * rgbSize, bytesPerLine d⟩
  let surface ← strip.shift (d.frameHeightLines - 2) s.surface
  let surface ← putPixels reflect image width (if reflect then ((width : ℤ) - 1) * 3 else 0)
    (margin viewer * rgbSize) surface
  some ⟨surface, if s.currentWaterfallHeight < d.frameHeightLines - 1 then
    s.currentWaterfallHeight + 1 else s.currentWaterfallHeight⟩

/-- Painting an image of `height` times `width` pixels with its left edge at column `x`: the
surface is not changed outside of the image, and `pad` stands in the bytes that are not shown. -/
def paint (pad : UInt8) (x : ℕ) (reflect : Bool) (image : List UInt8) (height width : ℕ)
    (surface : List UInt8) : List UInt8 :=
  surface.mapIdx fun i byte =>
    let row := i / bytesPerLine d
    let column := i % bytesPerLine d / rgbSize
    let channel := i % bytesPerLine d % rgbSize
    if row < height ∧ x ≤ column ∧ column < x + width then
      let c := if reflect then width - 1 - (column - x) else column - x
      if channel < 3 then image.getD ((row * width + c) * 3 + (2 - channel)) 0 else pad
    else byte

/-- `ImageDisplay::displayFrame`, where the window is there too. -/
def displayFrame (pad : UInt8) (viewer : ViewerType) (reflect : Bool) (image : List UInt8)
    (height width : ℕ) (s : ImageDisplay) : ImageDisplay :=
  { s with surface := paint d pad (xImageOffset d viewer) reflect image height width s.surface }

end ImageDisplay

/-! ### Lines -/

/-- The bytes of pixels `i` to `i + n - 1` of a line on the surface, from the colours of the
columns of the image. -/
def scanPixels (reflect : Bool) (width : ℕ) (rgb : ℕ → ℕ → UInt8) (i n : ℕ) : List UInt8 :=
  (List.range' i n).flatMap fun i =>
    let c := if reflect then width - 1 - i else i
    [rgb c 2, rgb c 1, rgb c 0, 0]

/-- A line as it is stored on the surface. -/
def scanLine (reflect : Bool) (width : ℕ) (rgb : ℕ → ℕ → UInt8) : List UInt8 :=
  scanPixels reflect width rgb 0 width

/-- The colours in a buffer of three bytes for each pixel. -/
def pixelRGB (image : List UInt8) (c channel : ℕ) : UInt8 := image.getD (c * 3 + channel) 0

@[simp] theorem length_scanPixels (reflect : Bool) (width : ℕ) (rgb : ℕ → ℕ → UInt8) (i n : ℕ) :
    (scanPixels reflect width rgb i n).length = n * rgbSize := by
  induction n generalizing i with
  | zero => rfl
  | succ n ih =>
    have hrest := ih (i + 1)
    rw [scanPixels] at hrest ⊢
    rw [List.range'_succ, List.flatMap_cons, List.length_append, hrest, Nat.succ_mul, Nat.add_comm]
    rfl

theorem scanLine_congr (reflect : Bool) {width : ℕ} {rgb rgb' : ℕ → ℕ → UInt8}
    (h : ∀ c < width, ∀ channel < 3, rgb c channel = rgb' c channel) :
    scanLine reflect width rgb = scanLine reflect width rgb' := by
  rw [scanLine, scanLine, scanPixels, scanPixels]
  refine List.flatMap_congr fun i hi => ?_
  have hlt : i < width := by
    rw [List.mem_range'_1] at hi
    omega
  have hc : (if reflect then width - 1 - i else i) < width := by
    split_ifs <;> omega
  simp only [h _ hc 0 (by decide), h _ hc 1 (by decide), h _ hc 2 (by decide)]

theorem readByte_pixel {image : List UInt8} {c channel : ℕ} (h : c * 3 + channel < image.length) :
    readByte image ((c * 3 : ℕ) + (channel : ℕ)) = some (pixelRGB image c channel) := by
  have hcast : ((c * 3 : ℕ) : ℤ) + (channel : ℕ) = (c * 3 + channel : ℕ) := by push_cast; rfl
  rw [hcast, readByte, if_pos (by omega), Int.toNat_natCast, pixelRGB,
    List.getD_eq_getElem?_getD, List.getElem?_eq_getElem h]
  rfl

/-- The four stores of a pixel are one write of its bytes. -/
theorem putPixel_eq {image surface : List UInt8} {c i : ℕ} (himage : c * 3 + 3 ≤ image.length)
    (hsurface : i + rgbSize ≤ surface.length) :
    putPixel image (c * 3 : ℕ) i surface =
      stores surface i
        [pixelRGB image c 2, pixelRGB image c 1, pixelRGB image c 0, 0] := by
  have hsize : rgbSize = 4 := rfl
  have hred := @readByte_pixel image c 0 (by omega)
  have hgreen := @readByte_pixel image c 1 (by omega)
  have hblue := @readByte_pixel image c 2 (by omega)
  rw [Nat.cast_zero, add_zero] at hred
  rw [Nat.cast_one] at hgreen
  rw [Nat.cast_two] at hblue
  have hstore (a : List UInt8) (j : ℕ) (x : UInt8) (ha : a.length = surface.length)
      (hj : j < i + 4) : store a j x = some (a.set j x) := if_pos (by omega)
  simp only [putPixel, stores, hred, hgreen, hblue, Option.bind_eq_bind, Option.bind_some]
  rw [hstore _ _ _ rfl (by omega), Option.bind_some,
    hstore _ _ _ List.length_set (by omega), Option.bind_some,
    hstore _ _ _ (by simp only [List.length_set]) (by omega), Option.bind_some,
    hstore _ _ _ (by simp only [List.length_set]) (by omega),
    hstore _ _ _ rfl (by omega), Option.bind_some,
    hstore _ _ _ List.length_set (by omega), Option.bind_some,
    hstore _ _ _ (by simp only [List.length_set]) (by omega), Option.bind_some,
    hstore _ _ _ (by simp only [List.length_set]) (by omega), Option.bind_some]
  rw [List.set_comm _ _ (show i + 1 ≠ i by omega), List.set_comm _ _ (show i + 2 ≠ i by omega),
    List.set_comm _ _ (show i + 2 ≠ i + 1 by omega)]

theorem putPixels_eq (reflect : Bool) {image surface : List UInt8} {width i n p : ℕ}
    (hn : i + n = width) (himage : width * 3 ≤ image.length)
    (hsurface : p + n * rgbSize ≤ surface.length) :
    putPixels reflect image n
        (if reflect then ((width : ℤ) - 1 - i) * 3 else i * 3) p surface =
      stores surface p (scanPixels reflect width (pixelRGB image) i n) := by
  induction n generalizing i p surface with
  | zero => rfl
  | succ n ih =>
    rw [Nat.succ_mul] at hsurface
    have hptr : (if reflect then ((width : ℤ) - 1 - i) * 3 else i * 3) =
        ((if reflect then width - 1 - i else i) * 3 : ℕ) := by
      cases reflect with
      | false => simp
      | true =>
        simp only [if_true]
        push_cast [show i ≤ width - 1 by omega, show 1 ≤ width by omega]
        rfl
    have hnext : (if reflect then (if reflect then ((width : ℤ) - 1 - i) * 3 else i * 3) - 3
        else (if reflect then ((width : ℤ) - 1 - i) * 3 else i * 3) + 3) =
        if reflect then ((width : ℤ) - 1 - (i + 1 : ℕ)) * 3 else (i + 1 : ℕ) * 3 := by
      cases reflect with
      | false =>
        simp only [Bool.false_eq_true, if_false]
        push_cast
        ring
      | true =>
        simp only [if_true]
        push_cast
        ring
    have hc : (if reflect then width - 1 - i else i) < width := by
      split_ifs <;> omega
    rw [putPixels, hnext, hptr, putPixel_eq (by omega) (by omega), scanPixels, List.range'_succ,
      List.flatMap_cons, stores_append]
    refine Option.bind_congr fun a ha => ?_
    exact ih (by omega) (by rw [length_stores ha]; omega)

/-! ### The surface -/

/-- The bytes of a surface for waterfall lines of `width` pixels. -/
def strip (d : FrameDims) (viewer : ViewerType) (width : ℕ) : Strip :=
  ⟨margin viewer * rgbSize, width * rgbSize, bytesPerLine d⟩

/-- The bytes of the image at `xImageOffset` stand for these colours. -/
def ShowsFrame (d : FrameDims) (viewer : ViewerType) (reflect : Bool) (height width : ℕ)
    (surface : List UInt8) (rgb : ℕ → ℕ → ℕ → UInt8) : Prop :=
  ∀ row < height, ∀ c < width, ∀ channel < 3,
    cell (bytesPerLine d) surface row ((xImageOffset d viewer + c) * rgbSize + (2 - channel)) =
      some (rgb row (if reflect then width - 1 - c else c) channel)

namespace ImageDisplay

variable {d : FrameDims} {viewer : ViewerType}

/-- The size that the constructor gives to the surface. -/
def Sized (d : FrameDims) (s : ImageDisplay) : Prop :=
  s.surface.length = (d.frameHeightLines - 1) * bytesPerLine d

theorem sized_initial : Sized d (initial d) := List.length_replicate

theorem strip_fits {width : ℕ} (hwidth : width ≤ d.frameWidthSamples) :
    (strip d viewer width).offset + (strip d viewer width).width ≤
      (strip d viewer width).stride := by
  change margin viewer * 4 + width * 4 ≤ (d.frameWidthSamples + 2 * 15) * 4
  have hmargin : margin viewer ≤ 15 := by
    unfold margin
    split_ifs <;> decide
  omega

/-- A new line stands on top of the lines that were there, and the surface beside them is as it
was. -/
theorem displayLine_shows {reflect : Bool} {image : List UInt8} {width : ℕ} {s : ImageDisplay}
    {lines : List (List UInt8)} (hsized : Sized d s) (hwidth : width ≤ d.frameWidthSamples)
    (hshort : width < 2 ^ 16) (himage : width * 3 ≤ image.length)
    (hshows : (strip d viewer width).Shows (d.frameHeightLines - 1) s.surface lines) :
    ∃ s', displayLine d viewer reflect image width s = some s' ∧ Sized d s' ∧
      (strip d viewer width).Shows (d.frameHeightLines - 1) s'.surface
        (scanLine reflect width (pixelRGB image) :: lines) ∧
      (∀ r c, c < bytesPerLine d → ¬(strip d viewer width).Inside c →
        cell (bytesPerLine d) s'.surface r c = cell (bytesPerLine d) s.surface r c) ∧
      s'.currentWaterfallHeight = if s.currentWaterfallHeight < d.frameHeightLines - 1 then
        s.currentWaterfallHeight + 1 else s.currentWaterfallHeight := by
  have hheight := d.height
  have hfits := @strip_fits d viewer width hwidth
  obtain ⟨surface, hshift, hlen, htop, hsize, hrest⟩ := @Strip.Shows.push _
    (strip d viewer width) _ _ (scanLine reflect width (pixelRGB image)) _ hshows hfits hsized
    (by omega) (length_scanPixels ..)
  have hfit : margin viewer * rgbSize + width * rgbSize ≤ surface.length := by
    rw [hlen, hsized]
    exact hfits.trans (Nat.le_mul_of_pos_left _ (by omega))
  have hpixels := @putPixels_eq reflect image surface width 0 width (margin viewer * rgbSize)
    (Nat.zero_add _) himage hfit
  rw [Nat.cast_zero, sub_zero, zero_mul, stores_eq (by
    rw [length_scanPixels]
    exact hfit)] at hpixels
  have hsub : d.frameHeightLines - 2 = d.frameHeightLines - 1 - 1 := by omega
  refine ⟨⟨overwrite surface (margin viewer * rgbSize) (scanLine reflect width (pixelRGB image)),
    _⟩, ?_, ?_, htop, hrest, rfl⟩
  · rw [displayLine, Nat.mod_eq_of_lt hshort, hsub]
    change (Strip.shift _ (d.frameHeightLines - 1 - 1) s.surface).bind _ = _
    rw [show (⟨margin viewer * rgbSize, width * rgbSize, bytesPerLine d⟩ : Strip) =
      strip d viewer width from rfl, hshift, Option.bind_some]
    change (putPixels _ _ _ _ _ _).bind _ = _
    rw [hpixels]
    rfl
  · exact hsize.trans hsized

/-- What painting does to a byte. -/
theorem cell_paint (pad : UInt8) {x height width : ℕ} {reflect : Bool} {image surface : List UInt8}
    (r : ℕ) {c : ℕ} (hc : c < bytesPerLine d) :
    cell (bytesPerLine d) (paint d pad x reflect image height width surface) r c =
      (cell (bytesPerLine d) surface r c).map fun byte =>
        if r < height ∧ x ≤ c / rgbSize ∧ c / rgbSize < x + width then
          let column := if reflect then width - 1 - (c / rgbSize - x) else c / rgbSize - x
          if c % rgbSize < 3 then
            image.getD ((r * width + column) * 3 + (2 - c % rgbSize)) 0
          else pad
        else byte := by
  have hdiv : (r * bytesPerLine d + c) / bytesPerLine d = r := by
    rw [Nat.mul_comm, Nat.mul_add_div (by omega), Nat.div_eq_of_lt hc, Nat.add_zero]
  have hmod : (r * bytesPerLine d + c) % bytesPerLine d = c := by
    rw [Nat.mul_comm, Nat.mul_add_mod, Nat.mod_eq_of_lt hc]
  rw [cell, paint, List.getElem?_mapIdx, hdiv, hmod, cell]

theorem displayFrame_shows {pad : UInt8} {reflect : Bool} {image : List UInt8} {height width : ℕ}
    {s : ImageDisplay} (hsized : Sized d s) (hheight : height ≤ d.frameHeightLines - 1)
    (hfits : xImageOffset d viewer + width ≤ d.frameWidthSamples + 2 * nonComboMargin) :
    ShowsFrame d viewer reflect height width
      (displayFrame d pad viewer reflect image height width s).surface
      (fun row c => pixelRGB image (row * width + c)) := by
  intro row hrow c hc channel hchannel
  have hbytes : (xImageOffset d viewer + c) * 4 + (2 - channel) < bytesPerLine d := by
    change _ < (d.frameWidthSamples + 2 * nonComboMargin) * 4
    omega
  have hdiv : ((xImageOffset d viewer + c) * 4 + (2 - channel)) / 4 =
      xImageOffset d viewer + c := by omega
  have hmod : ((xImageOffset d viewer + c) * 4 + (2 - channel)) % 4 = 2 - channel := by omega
  have hlt : row * bytesPerLine d + ((xImageOffset d viewer + c) * 4 + (2 - channel)) <
      s.surface.length := by
    rw [hsized]
    calc row * bytesPerLine d + ((xImageOffset d viewer + c) * 4 + (2 - channel))
        < (row + 1) * bytesPerLine d := by
          rw [Nat.succ_mul]
          omega
      _ ≤ _ := Nat.mul_le_mul_right _ (by omega)
  change cell _ _ row ((xImageOffset d viewer + c) * 4 + (2 - channel)) = _
  rw [displayFrame, cell_paint pad row hbytes, cell, List.getElem?_eq_getElem hlt, Option.map_some]
  simp only [rgbSize, hdiv, hmod]
  rw [if_pos ⟨hrow, by omega, by omega⟩, if_pos (by omega), Nat.add_sub_cancel_left, pixelRGB]
  congr 3
  omega

/-- A frame leaves the bytes to its left alone. -/
theorem displayFrame_left {pad : UInt8} {reflect : Bool} {image : List UInt8} {height width : ℕ}
    {s : ImageDisplay} (r : ℕ) {c : ℕ} (hc : c < xImageOffset d viewer * rgbSize)
    (hbytes : c < bytesPerLine d) :
    cell (bytesPerLine d) (displayFrame d pad viewer reflect image height width s).surface r c =
      cell (bytesPerLine d) s.surface r c := by
  have hleft : ¬(r < height ∧ xImageOffset d viewer ≤ c / rgbSize ∧
      c / rgbSize < xImageOffset d viewer + width) := by
    change c < xImageOffset d viewer * 4 at hc
    rw [rgbSize]
    omega
  rw [displayFrame, cell_paint pad r hbytes]
  simp only [if_neg hleft, Option.map_id']

theorem sized_displayFrame {pad : UInt8} {reflect : Bool} {image : List UInt8} {height width : ℕ}
    {s : ImageDisplay} (h : Sized d s) :
    Sized d (displayFrame d pad viewer reflect image height width s) :=
  List.length_mapIdx.trans h

end ImageDisplay

end Display
