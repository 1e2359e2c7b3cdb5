import Ngdcs.Display.Stretch
import Ngdcs.Lib.CountDown
import Ngdcs.Lib.Runs
import Ngdcs.Lib.Stores
import Mathlib.Algebra.Group.Nat.Even

/-! `DisplayTab::displayCurrentFrame` and `displayWaterfallLine`: how the frame that came last
gets to the screen. Pointers are offsets in their buffers, and an access outside of a buffer has
no result. -/
namespace Display
open CountDown Stores Runs

/-- `VIEWERTYPE_...` -/
inductive ViewerType where
  | frame | waterfall | combo
  deriving DecidableEq

/-- `m_frameHeightLines` and `m_frameWidthSamples` -/
structure FrameDims where
  frameHeightLines : ℕ
  frameWidthSamples : ℕ
  height : 2 ≤ frameHeightLines
  width : Even frameWidthSamples

variable (d : FrameDims)

/-- A buffer for the samples of a frame. -/
abbrev Samples :=
  { a : List UInt16 // a.length = d.frameHeightLines * d.frameWidthSamples }

abbrev Band := { band : ℕ // 1 ≤ band ∧ band ≤ d.frameHeightLines - 1 }

/-- What the display code reads. -/
structure ViewSource where
  viewerType : ViewerType
  darkSub : Bool
  redBand : Band d
  greenBand : Band d
  blueBand : Band d
  downtrackSkip : ℤ
  imageBuffer : Samples d
  darkFrame : Samples d
  luts : StretchLUTs

/-- `m_incr`, `m_skipLeft`, `m_framePixels` and `m_waterfallPixels` -/
structure ImageView where
  incr : ℕ
  skipLeft : ℤ
  framePixels : List UInt8
  waterfallPixels : List UInt8

namespace ImageView

/-- The buffers as the constructor allocates them. -/
def initial : ImageView where
  incr := 1
  skipLeft := 0
  framePixels := List.replicate (d.frameWidthSamples * (d.frameHeightLines - 1) * 3) 0
  waterfallPixels := List.replicate (d.frameWidthSamples * 3) 0

end ImageView

/-- `ucp`, `usp` and `dfp`, with the buffer that `ucp` points into. -/
structure PixelCursor where
  pixels : List UInt8
  ucp : ℕ
  usp : ℕ
  dfp : ℕ

variable {d}

namespace ViewSource

variable (src : ViewSource d)

/-- `pixel`, from `*usp` and `*dfp`. -/
def readPixel (usp dfp : ℕ) : Option ℤ := do
  let image ← src.imageBuffer.val[usp]?
  if src.darkSub then do
    let dark ← src.darkFrame.val[dfp]?
    let pixel := (image.toNat : ℤ) - dark.toNat
    some (if pixel < 0 then 0 else pixel)
  else some image.toNat

end ViewSource

/-- An entry of a look-up table of 65536. -/
def lookUp (lut : ℕ → UInt8) (pixel : ℤ) : Option UInt8 :=
  if 0 ≤ pixel ∧ pixel < 65536 then some (lut pixel.toNat) else none

section Convert

variable (src : ViewSource d)

/-- The body of the inner loop of `displayCurrentFrame`. -/
def convertPixel (incr : ℕ) (c : PixelCursor) : Option PixelCursor := do
  let pixel ← src.readPixel c.usp c.dfp
  let value ← lookUp src.luts.stretchLUT pixel
  let pixels ← stores c.pixels c.ucp [value, value, value]
  some ⟨pixels, c.ucp + 3, c.usp + incr, c.dfp + incr⟩

/-- The body of the outer loop of `displayCurrentFrame`. -/
def convertRow (incr : ℕ) (h : 0 < incr) (c : PixelCursor) : Option PixelCursor := do
  let c ← countDown incr h (convertPixel src incr) d.frameWidthSamples c
  some { c with
    usp := c.usp + (incr - 1) * d.frameWidthSamples
    dfp := c.dfp + (incr - 1) * d.frameWidthSamples }

/-- `m_incr` in `displayCurrentFrame` -/
def frameIncr : ℕ := if src.viewerType = .frame then 1 else 2

theorem frameIncr_pos : 0 < frameIncr src := by
  unfold frameIncr
  split_ifs <;> decide

/-- `DisplayTab::displayCurrentFrame` -/
def displayCurrentFrame (v : ImageView) : Option ImageView := do
  let nLines : ℤ := (d.frameHeightLines - 1 : ℕ)
  let c ← countDown (frameIncr src) (frameIncr_pos src)
    (convertRow src (frameIncr src) (frameIncr_pos src)) nLines
    ⟨v.framePixels, 0, d.frameWidthSamples, d.frameWidthSamples⟩
  some { v with incr := frameIncr src, framePixels := c.pixels }

/-- `ucp`, with the pointers into the line of each band. -/
structure LineCursor where
  pixels : List UInt8
  ucp : ℕ
  uspRed : ℕ
  uspGreen : ℕ
  uspBlue : ℕ
  dfRed : ℕ
  dfGreen : ℕ
  dfBlue : ℕ

/-- The body of the loop of `displayWaterfallLine`. -/
def convertBands (incr : ℕ) (c : LineCursor) : Option LineCursor := do
  let red ← src.readPixel c.uspRed c.dfRed
  let green ← src.readPixel c.uspGreen c.dfGreen
  let blue ← src.readPixel c.uspBlue c.dfBlue
  let red ← lookUp src.luts.stretchLUT red
  let green ← lookUp src.luts.stretchLUTGreen green
  let blue ← lookUp src.luts.stretchLUTBlue blue
  let pixels ← stores c.pixels c.ucp [red, green, blue]
  some ⟨pixels, c.ucp + 3, c.uspRed + incr, c.uspGreen + incr, c.uspBlue + incr,
    c.dfRed + incr, c.dfGreen + incr, c.dfBlue + incr⟩

/-- The line of a band behind line 0, which holds no image. -/
def bandLine (band : Band d) : ℕ :=
  d.frameWidthSamples + (band.val - 1) * d.frameWidthSamples

/-- `m_incr` in `displayWaterfallLine` -/
def waterfallIncr : ℕ := if src.viewerType = .combo then 2 else 1

theorem waterfallIncr_pos : 0 < waterfallIncr src := by
  unfold waterfallIncr
  split_ifs <;> decide

/-- `DisplayTab::displayWaterfallLine` -/
def displayWaterfallLine (v : ImageView) : Option ImageView :=
  if v.skipLeft ≤ 0 then do
    let c ← countDown (waterfallIncr src) (waterfallIncr_pos src)
      (convertBands src (waterfallIncr src)) d.frameWidthSamples
      ⟨v.waterfallPixels, 0, bandLine src.redBand, bandLine src.greenBand, bandLine src.blueBand,
        bandLine src.redBand, bandLine src.greenBand, bandLine src.blueBand⟩
    some { v with
      incr := waterfallIncr src
      waterfallPixels := c.pixels
      skipLeft := src.downtrackSkip }
  else some { v with skipLeft := v.skipLeft - 1 }

/-- The image, less the dark frame where it is to be subtracted. -/
def sampleDN (line sample : ℕ) : ℕ :=
  let i := line * d.frameWidthSamples + sample
  let image := (src.imageBuffer.val.getD i 0).toNat
  if src.darkSub then image - (src.darkFrame.val.getD i 0).toNat else image

end Convert

section Pixels

/-- The first `k` pixels of a buffer show these colours. -/
def Painted (pixels : List UInt8) (rgb : ℕ → List UInt8) (k : ℕ) : Prop :=
  ∀ m < k, ∀ ch < 3, pixels[m * 3 + ch]? = (rgb m)[ch]?

theorem painted_zero (pixels : List UInt8) (rgb : ℕ → List UInt8) : Painted pixels rgb 0 :=
  fun m hm => absurd hm (Nat.not_lt_zero m)

/-- One more pixel. -/
theorem Painted.stores {pixels : List UInt8} {rgb : ℕ → List UInt8} {k : ℕ}
    (h : Painted pixels rgb k) (hrgb : (rgb k).length = 3) (hk : k * 3 + 3 ≤ pixels.length) :
    ∃ pixels', stores pixels (k * 3) (rgb k) = some pixels' ∧
      pixels'.length = pixels.length ∧ Painted pixels' rgb (k + 1) := by
  have hfit : k * 3 + (rgb k).length ≤ pixels.length := by rw [hrgb]; exact hk
  refine ⟨_, stores_eq hfit, length_overwrite hfit, ?_⟩
  intro m hm ch hch
  by_cases hlast : m = k
  · subst hlast
    exact getElem?_overwrite_add (by omega) (by omega)
  · rw [getElem?_overwrite_of_lt (by omega) (by omega)]
    exact h m (by omega) ch hch

end Pixels

section Samples

variable (src : ViewSource d)

theorem sampleDN_lt (line sample : ℕ) : sampleDN src line sample < 65536 := by
  have hlt := ((src.imageBuffer.val.getD (line * d.frameWidthSamples + sample) 0)).toNat_lt
  unfold sampleDN
  simp only
  split_ifs <;> omega

theorem lookUp_sampleDN (lut : ℕ → UInt8) (line sample : ℕ) :
    lookUp lut (sampleDN src line sample) = some (lut (sampleDN src line sample)) := by
  have hlt := sampleDN_lt src line sample
  rw [lookUp, if_pos (by omega), Int.toNat_natCast]

/-- Inside of the frame both buffers are read inside of their bounds. -/
theorem readPixel_eq {line sample : ℕ} (hline : line < d.frameHeightLines)
    (hsample : sample < d.frameWidthSamples) :
    src.readPixel (line * d.frameWidthSamples + sample) (line * d.frameWidthSamples + sample) =
      some (sampleDN src line sample : ℤ) := by
  have hlt : line * d.frameWidthSamples + sample < d.frameHeightLines * d.frameWidthSamples := by
    calc line * d.frameWidthSamples + sample < (line + 1) * d.frameWidthSamples := by
          rw [Nat.add_mul]
          omega
      _ ≤ d.frameHeightLines * d.frameWidthSamples := Nat.mul_le_mul_right _ hline
  have himage := src.imageBuffer.property ▸ hlt
  have hdark := src.darkFrame.property ▸ hlt
  unfold ViewSource.readPixel sampleDN
  rw [List.getElem?_eq_getElem himage, List.getElem?_eq_getElem hdark]
  simp only [Option.bind_eq_bind, Option.bind_some, List.getD_eq_getElem?_getD,
    List.getElem?_eq_getElem himage, List.getElem?_eq_getElem hdark, Option.getD_some]
  split_ifs <;> simp <;> omega

end Samples

section Frame

variable (src : ViewSource d) (incr : ℕ)

/-- The pixels of a line on the screen. -/
def columns (d : FrameDims) (incr : ℕ) : ℕ := d.frameWidthSamples / incr

/-- The colours of screen pixel number `m` of the frame display. -/
def frameRGB (m : ℕ) : List UInt8 :=
  List.replicate 3 (src.luts.stretchLUT
    (sampleDN src (1 + m / columns d incr * incr) (m % columns d incr * incr)))

/-- The loops stand in front of column `n` of row `r`. -/
structure AtPixel (r n : ℕ) (c : PixelCursor) : Prop where
  length : c.pixels.length = d.frameWidthSamples * (d.frameHeightLines - 1) * 3
  ucp : c.ucp = (r * columns d incr + n) * 3
  usp : c.usp = (1 + r * incr) * d.frameWidthSamples + n * incr
  dfp : c.dfp = (1 + r * incr) * d.frameWidthSamples + n * incr
  painted : Painted c.pixels (frameRGB src incr) (r * columns d incr + n)

variable {src incr}

theorem columns_mul (hdvd : incr ∣ d.frameWidthSamples) :
    columns d incr * incr = d.frameWidthSamples := Nat.div_mul_cancel hdvd

theorem pixel_lt {r n : ℕ} (hincr : 0 < incr) (hr : r * incr < d.frameHeightLines - 1)
    (hn : n < columns d incr) :
    r * columns d incr + n < d.frameWidthSamples * (d.frameHeightLines - 1) := by
  have hrow : r < d.frameHeightLines - 1 := (Nat.le_mul_of_pos_right r hincr).trans_lt hr
  calc r * columns d incr + n < (r + 1) * columns d incr := by
        rw [Nat.add_mul]
        omega
    _ ≤ (d.frameHeightLines - 1) * d.frameWidthSamples :=
        Nat.mul_le_mul hrow (Nat.div_le_self _ _)
    _ = d.frameWidthSamples * (d.frameHeightLines - 1) := Nat.mul_comm _ _

theorem frameRGB_eq {r n : ℕ} (hn : n < columns d incr) :
    frameRGB src incr (r * columns d incr + n) =
      List.replicate 3 (src.luts.stretchLUT (sampleDN src (1 + r * incr) (n * incr))) := by
  have hdiv : (r * columns d incr + n) / columns d incr = r := by
    rw [Nat.add_comm, Nat.add_mul_div_right _ _ (by omega), Nat.div_eq_of_lt hn, Nat.zero_add]
  have hmod : (r * columns d incr + n) % columns d incr = n := by
    rw [Nat.add_comm, Nat.add_mul_mod_self_right, Nat.mod_eq_of_lt hn]
  rw [frameRGB, hdiv, hmod]

theorem AtPixel.convertPixel {r n : ℕ} {c : PixelCursor} (h : AtPixel src incr r n c)
    (hincr : 0 < incr) (hdvd : incr ∣ d.frameWidthSamples)
    (hr : r * incr < d.frameHeightLines - 1) (hn : n < columns d incr) :
    ∃ c', convertPixel src incr c = some c' ∧ AtPixel src incr r (n + 1) c' := by
  have hsample : n * incr < d.frameWidthSamples := by
    rw [← columns_mul hdvd]
    exact Nat.mul_lt_mul_of_pos_right hn hincr
  have hread := @readPixel_eq d src (1 + r * incr) (n * incr) (by omega) hsample
  have hpixel := pixel_lt hincr hr hn
  have hrgb := @frameRGB_eq d src incr r n hn
  obtain ⟨pixels', hstores, hlen, hpainted⟩ := h.painted.stores List.length_replicate
    (by rw [h.length]; omega)
  rw [hrgb, ← h.ucp] at hstores
  refine ⟨⟨pixels', c.ucp + 3, c.usp + incr, c.dfp + incr⟩, ?_, ?_⟩
  · rw [Display.convertPixel, h.usp, h.dfp, hread, Option.bind_eq_bind, Option.bind_some,
      lookUp_sampleDN, Option.bind_eq_bind, Option.bind_some]
    simp only [List.replicate] at hstores
    rw [hstores]
    rfl
  · have hnext : (n + 1) * incr = n * incr + incr := Nat.succ_mul n incr
    exact {
      length := hlen.trans h.length
      ucp := by
        show c.ucp + 3 = _
        rw [h.ucp]
        omega
      usp := by
        show c.usp + incr = _
        rw [h.usp, hnext, Nat.add_assoc]
      dfp := by
        show c.dfp + incr = _
        rw [h.dfp, hnext, Nat.add_assoc]
      painted := hpainted }

theorem AtPixel.convertRow {r : ℕ} {c : PixelCursor} (h : AtPixel src incr r 0 c)
    (hincr : 0 < incr) (hdvd : incr ∣ d.frameWidthSamples)
    (hr : r * incr < d.frameHeightLines - 1) :
    ∃ c', convertRow src incr hincr c = some c' ∧ AtPixel src incr (r + 1) 0 c' := by
  have hturns : turns d.frameWidthSamples incr = columns d incr := by
    conv_lhs => rw [← columns_mul hdvd]
    exact turns_mul hincr
  obtain ⟨c₁, hrow, h₁⟩ := countDown_spec hincr (I := AtPixel src incr r)
    (i := d.frameWidthSamples)
    (fun n hn s hs => hs.convertPixel hincr hdvd hr (hturns ▸ hn)) h
  rw [hturns] at h₁
  have hwidth := columns_mul hdvd
  have hstep : (1 + r * incr) * d.frameWidthSamples + columns d incr * incr +
      (incr - 1) * d.frameWidthSamples = (1 + (r + 1) * incr) * d.frameWidthSamples + 0 * incr := by
    obtain ⟨k, rfl⟩ : ∃ k, incr = k + 1 := ⟨incr - 1, by omega⟩
    rw [hwidth, Nat.add_sub_cancel]
    ring
  refine ⟨{ c₁ with
      usp := c₁.usp + (incr - 1) * d.frameWidthSamples
      dfp := c₁.dfp + (incr - 1) * d.frameWidthSamples }, ?_, ?_⟩
  · rw [Display.convertRow, hrow]
    rfl
  · have hpixels : r * columns d incr + columns d incr = (r + 1) * columns d incr + 0 := by ring
    exact {
      length := h₁.length
      ucp := by rw [← hpixels]; exact h₁.ucp
      usp := by rw [← hstep, ← h₁.usp]
      dfp := by rw [← hstep, ← h₁.dfp]
      painted := by rw [← hpixels]; exact h₁.painted }

end Frame

section Waterfall

variable (src : ViewSource d) (incr : ℕ)

/-- The colours of screen pixel number `m` of a waterfall line. -/
def lineRGB (m : ℕ) : List UInt8 :=
  [src.luts.stretchLUT (sampleDN src src.redBand (m * incr)),
    src.luts.stretchLUTGreen (sampleDN src src.greenBand (m * incr)),
    src.luts.stretchLUTBlue (sampleDN src src.blueBand (m * incr))]

/-- The loop stands in front of column `n`. -/
structure AtColumn (n : ℕ) (c : LineCursor) : Prop where
  length : c.pixels.length = d.frameWidthSamples * 3
  ucp : c.ucp = n * 3
  red : c.uspRed = src.redBand * d.frameWidthSamples + n * incr ∧ c.dfRed = c.uspRed
  green : c.uspGreen = src.greenBand * d.frameWidthSamples + n * incr ∧ c.dfGreen = c.uspGreen
  blue : c.uspBlue = src.blueBand * d.frameWidthSamples + n * incr ∧ c.dfBlue = c.uspBlue
  painted : Painted c.pixels (lineRGB src incr) n

variable {src incr}

theorem AtColumn.convertBands {n : ℕ} {c : LineCursor} (h : AtColumn src incr n c)
    (hincr : 0 < incr) (hn : n * incr < d.frameWidthSamples) :
    ∃ c', convertBands src incr c = some c' ∧ AtColumn src incr (n + 1) c' := by
  have hcolumn : n < d.frameWidthSamples := (Nat.le_mul_of_pos_right n hincr).trans_lt hn
  have hread (band : Band d) := @readPixel_eq d src band.val (n * incr)
    (by have := band.property; omega) hn
  obtain ⟨pixels', hstores, hlen, hpainted⟩ := h.painted.stores rfl (by rw [h.length]; omega)
  have hnext : (n + 1) * incr = n * incr + incr := Nat.succ_mul n incr
  refine ⟨⟨pixels', c.ucp + 3, c.uspRed + incr, c.uspGreen + incr, c.uspBlue + incr,
    c.dfRed + incr, c.dfGreen + incr, c.dfBlue + incr⟩, ?_, ?_⟩
  · rw [← h.ucp, lineRGB] at hstores
    rw [Display.convertBands, h.red.2, h.red.1, hread, Option.bind_eq_bind, Option.bind_some,
      h.green.2, h.green.1, hread, Option.bind_eq_bind, Option.bind_some, h.blue.2, h.blue.1,
      hread, Option.bind_eq_bind, Option.bind_some, lookUp_sampleDN,
      Option.bind_some, lookUp_sampleDN, Option.bind_some, lookUp_sampleDN, Option.bind_some,
      hstores, Option.bind_some]
  · exact {
      length := hlen.trans h.length
      ucp := by
        show c.ucp + 3 = _
        rw [h.ucp]
        omega
      red := ⟨by rw [h.red.1, hnext, Nat.add_assoc], by rw [h.red.2]⟩
      green := ⟨by rw [h.green.1, hnext, Nat.add_assoc], by rw [h.green.2]⟩
      blue := ⟨by rw [h.blue.1, hnext, Nat.add_assoc], by rw [h.blue.2]⟩
      painted := hpainted }

theorem bandLine_eq (band : Band d) : bandLine band = band * d.frameWidthSamples := by
  obtain ⟨band, hpos, hle⟩ := band
  obtain ⟨k, rfl⟩ : ∃ k, band = k + 1 := ⟨band - 1, by omega⟩
  show d.frameWidthSamples + (k + 1 - 1) * d.frameWidthSamples = (k + 1) * d.frameWidthSamples
  rw [Nat.add_sub_cancel]
  ring

end Waterfall

/-- The sizes that the constructor allocates. -/
structure Allocated (d : FrameDims) (v : ImageView) : Prop where
  framePixels : v.framePixels.length = d.frameWidthSamples * (d.frameHeightLines - 1) * 3
  waterfallPixels : v.waterfallPixels.length = d.frameWidthSamples * 3

theorem allocated_initial : Allocated d (.initial d) :=
  ⟨List.length_replicate, List.length_replicate⟩

/-- What the frame display shows: row `r` and column `c` are line `1 + r * m_incr` and sample
`c * m_incr` in grey. -/
structure FrameShown (src : ViewSource d) (v v' : ImageView) : Prop where
  allocated : Allocated d v'
  incr : v'.incr = frameIncr src
  pixel : ∀ r, r * v'.incr < d.frameHeightLines - 1 →
    ∀ c, c * v'.incr < d.frameWidthSamples → ∀ ch < 3,
      v'.framePixels[(r * columns d v'.incr + c) * 3 + ch]? =
        some (src.luts.stretchLUT (sampleDN src (1 + r * v'.incr) (c * v'.incr)))
  others : v'.waterfallPixels = v.waterfallPixels ∧ v'.skipLeft = v.skipLeft

/-- What the waterfall display shows: column `c` is sample `c * m_incr`, each colour from the
line of its band and through its table. -/
structure LineShown (src : ViewSource d) (v v' : ImageView) : Prop where
  allocated : Allocated d v'
  skipped : ¬v.skipLeft ≤ 0 → v' = { v with skipLeft := v.skipLeft - 1 }
  incr : v.skipLeft ≤ 0 → v'.incr = waterfallIncr src ∧ v'.skipLeft = src.downtrackSkip
  pixel : v.skipLeft ≤ 0 → ∀ c, c * v'.incr < d.frameWidthSamples →
    v'.waterfallPixels[c * 3]? =
      some (src.luts.stretchLUT (sampleDN src src.redBand (c * v'.incr))) ∧
    v'.waterfallPixels[c * 3 + 1]? =
      some (src.luts.stretchLUTGreen (sampleDN src src.greenBand (c * v'.incr))) ∧
    v'.waterfallPixels[c * 3 + 2]? =
      some (src.luts.stretchLUTBlue (sampleDN src src.blueBand (c * v'.incr)))
  others : v'.framePixels = v.framePixels

section Shown

variable (src : ViewSource d) {v : ImageView}

theorem frameIncr_dvd : frameIncr src ∣ d.frameWidthSamples := by
  unfold frameIncr
  split_ifs
  · exact one_dvd _
  · exact d.width.two_dvd

theorem displayCurrentFrame_shown (h : Allocated d v) :
    ∃ v', displayCurrentFrame src v = some v' ∧ FrameShown src v v' := by
  have hincr := frameIncr_pos src
  have hdvd := frameIncr_dvd src
  have hstart : AtPixel src (frameIncr src) 0 0
      ⟨v.framePixels, 0, d.frameWidthSamples, d.frameWidthSamples⟩ := by
    refine ⟨h.framePixels, ?_, ?_, ?_, ?_⟩
    · simp
    · simp
    · simp
    · rw [Nat.zero_mul]
      exact painted_zero _ _
  obtain ⟨c, hloop, hend⟩ := countDown_spec hincr (I := fun r => AtPixel src (frameIncr src) r 0)
    (i := d.frameHeightLines - 1)
    (fun r hr s hs => hs.convertRow hincr hdvd ((lt_turns_iff hincr).mp hr)) hstart
  refine ⟨{ v with incr := frameIncr src, framePixels := c.pixels }, ?_, ?_⟩
  · rw [displayCurrentFrame]
    simp only [hloop, Option.bind_eq_bind, Option.bind_some]
  · refine ⟨⟨hend.length, h.waterfallPixels⟩, rfl, ?_, rfl, rfl⟩
    intro r hr n hn ch hch
    change r * frameIncr src < d.frameHeightLines - 1 at hr
    change n * frameIncr src < d.frameWidthSamples at hn
    have hcolumn : n < columns d (frameIncr src) := by
      rw [← columns_mul hdvd] at hn
      exact Nat.lt_of_mul_lt_mul_right hn
    have hrow : r + 1 ≤ turns (d.frameHeightLines - 1) (frameIncr src) :=
      (lt_turns_iff hincr).mpr hr
    have hm : r * columns d (frameIncr src) + n <
        turns (d.frameHeightLines - 1) (frameIncr src) * columns d (frameIncr src) + 0 := by
      calc r * columns d (frameIncr src) + n < (r + 1) * columns d (frameIncr src) := by
            rw [Nat.add_mul]
            omega
        _ ≤ _ := Nat.mul_le_mul_right _ hrow
    have hpixel := hend.painted _ hm ch hch
    rwa [frameRGB_eq hcolumn, List.getElem?_replicate_of_lt hch] at hpixel

theorem displayWaterfallLine_shown (h : Allocated d v) :
    ∃ v', displayWaterfallLine src v = some v' ∧ LineShown src v v' := by
  have hincr := waterfallIncr_pos src
  unfold displayWaterfallLine
  split_ifs with hskip
  · have hstart : AtColumn src (waterfallIncr src) 0
        ⟨v.waterfallPixels, 0, bandLine src.redBand, bandLine src.greenBand,
          bandLine src.blueBand, bandLine src.redBand, bandLine src.greenBand,
          bandLine src.blueBand⟩ := by
      refine ⟨h.waterfallPixels, ?_, ⟨?_, rfl⟩, ⟨?_, rfl⟩, ⟨?_, rfl⟩, painted_zero _ _⟩
      all_goals simp [bandLine_eq]
    obtain ⟨c, hloop, hend⟩ := countDown_spec hincr (I := AtColumn src (waterfallIncr src))
      (i := d.frameWidthSamples)
      (fun n hn s hs => hs.convertBands hincr ((lt_turns_iff hincr).mp hn)) hstart
    simp only [hloop, Option.bind_eq_bind, Option.bind_some]
    refine ⟨_, rfl, ⟨h.framePixels, hend.length⟩, fun hneg => absurd hskip hneg,
      fun _ => ⟨rfl, rfl⟩, ?_, rfl⟩
    intro _ n hn
    have hpixel := hend.painted n ((lt_turns_iff hincr).mpr hn)
    exact ⟨hpixel 0 (by decide), hpixel 1 (by decide), hpixel 2 (by decide)⟩
  · exact ⟨_, rfl, ⟨h.framePixels, h.waterfallPixels⟩, fun _ => rfl,
      fun hle => absurd hle hskip, fun hle => absurd hle hskip, rfl⟩

end Shown

/-- The calls of the display code, each with what it reads then. -/
inductive ViewCall (d : FrameDims) where
  | displayCurrentFrame (src : ViewSource d)
  | displayWaterfallLine (src : ViewSource d)

def ViewCall.step (v : ImageView) : ViewCall d → Option ImageView
  | displayCurrentFrame src => Display.displayCurrentFrame src v
  | displayWaterfallLine src => Display.displayWaterfallLine src v

/-- What a call shows. -/
def ViewShown (v : ImageView) (call : ViewCall d) (v' : ImageView) : Prop :=
  match call with
  | .displayCurrentFrame src => FrameShown src v v'
  | .displayWaterfallLine src => LineShown src v v'

theorem viewCall_shown {v : ImageView} (h : Allocated d v) (call : ViewCall d) :
    ∃ v', call.step v = some v' ∧ ViewShown v call v' := by
  cases call with
  | displayCurrentFrame src => exact displayCurrentFrame_shown src h
  | displayWaterfallLine src => exact displayWaterfallLine_shown src h

theorem ViewShown.allocated {v v' : ImageView} {call : ViewCall d} (h : ViewShown v call v') :
    Allocated d v' := by
  cases call with
  | displayCurrentFrame src => exact FrameShown.allocated h
  | displayWaterfallLine src => exact LineShown.allocated h

/-- For every size of the frames and every sequence of calls with any contents and settings: no
access is outside of a buffer, and every call shows the right pixels. -/
theorem views_shown (d : FrameDims) (calls : List (ViewCall d)) :
    (∃ v, run ViewCall.step (.initial d) calls = some v) ∧
      EachStep ViewCall.step ViewShown (.initial d) calls := by
  have hrun (v : ImageView) (h : Allocated d v) :
      (∃ v', run ViewCall.step v calls = some v') ∧
        EachStep ViewCall.step ViewShown v calls := by
    induction calls generalizing v with
    | nil => exact ⟨⟨v, rfl⟩, trivial⟩
    | cons call calls ih =>
      obtain ⟨v₁, hstep, hshown⟩ := viewCall_shown h call
      obtain ⟨⟨v₂, hrest⟩, heach⟩ := ih v₁ hshown.allocated
      exact ⟨⟨v₂, run_cons_eq_some.mpr ⟨v₁, hstep, hrest⟩⟩,
        (eachStep_cons_iff hstep).mpr ⟨hshown, heach⟩⟩
  exact hrun _ allocated_initial

end Display
