import Ngdcs.Display.ImageDisplay

/-! What the viewer shows between two resets. A waterfall line or a frame is converted while the
images are read, but it is drawn when the main loop gets to the request of its dispatcher, from
what the buffers hold then. -/
namespace Display
open Raster Runs

/-- The conversion buffers, the surface, and the requests of `m_refreshWaterfallDisplay` and
`m_refreshFrameDisplay` that have not been handled. -/
structure Screen where
  view : ImageView
  display : ImageDisplay
  waterfallRequests : ℕ
  frameRequests : ℕ

/-- An image that `lookForImageData` reads, the end of the images that were there, and the main
loop at a dispatcher. -/
inductive ScreenEvent (d : FrameDims) where
  | image (src : ViewSource d)
  | caughtUp (src : ViewSource d)
  | waterfallUpdateWork
  | frameUpdateWork

variable {d : FrameDims}

section Steps

variable (viewer : ViewerType) (reflect : Bool) (pad : UInt8)

namespace Screen

/-- The part of `lookForImageData` for the waterfall. -/
def image (s : Screen) (src : ViewSource d) : Option Screen :=
  if viewer = .waterfall ∨ viewer = .combo then do
    let view ← displayWaterfallLine { src with viewerType := viewer } s.view
    some { s with
      view := view
      waterfallRequests :=
        if s.view.skipLeft ≤ 0 then s.waterfallRequests + 1 else s.waterfallRequests }
  else some s

/-- The part of `lookForImageData` for whole frames. -/
def caughtUp (s : Screen) (src : ViewSource d) : Option Screen :=
  if viewer = .frame ∨ viewer = .combo then do
    let view ← displayCurrentFrame { src with viewerType := viewer } s.view
    some { s with view := view, frameRequests := s.frameRequests + 1 }
  else some s

/-- `DisplayTab::waterfallUpdateWork`, once for each request. -/
def waterfallUpdateWork (d : FrameDims) (s : Screen) : Option Screen :=
  match s.waterfallRequests with
  | 0 => some s
  | n + 1 => do
    let display ← s.display.displayLine d viewer reflect s.view.waterfallPixels
      (d.frameWidthSamples / s.view.incr)
    some { s with display := display, waterfallRequests := n }

/-- `DisplayTab::frameUpdateWork`, once for each request. -/
def frameUpdateWork (d : FrameDims) (s : Screen) : Screen :=
  match s.frameRequests with
  | 0 => s
  | n + 1 =>
    { s with
      display := s.display.displayFrame d pad viewer reflect s.view.framePixels
        ((d.frameHeightLines - 1) / s.view.incr) (d.frameWidthSamples / s.view.incr)
      frameRequests := n }

def step (s : Screen) : ScreenEvent d → Option Screen
  | .image src => s.image viewer src
  | .caughtUp src => s.caughtUp viewer src
  | .waterfallUpdateWork => s.waterfallUpdateWork viewer reflect d
  | .frameUpdateWork => some (s.frameUpdateWork viewer reflect pad d)

end Screen

end Steps

/-! ### What is to be shown -/

/-- The images that are on the screen, the newest line first, and those that wait for it. -/
structure Feed (d : FrameDims) where
  skipLeft : ℤ
  line : Option (ViewSource d)
  lineRequests : ℕ
  lines : List (ViewSource d)
  frame : Option (ViewSource d)
  frameRequests : ℕ
  shown : Option (ViewSource d)

namespace Feed

/-- Nothing is shown and nothing waits. -/
def initial (skipLeft : ℤ) : Feed d := ⟨skipLeft, none, 0, [], none, 0, none⟩

/-- Every image after the ones to skip is a line. A request adds the line that came last, and
shows the frame that came last. -/
def step (viewer : ViewerType) (f : Feed d) : ScreenEvent d → Feed d
  | .image src =>
    if viewer = .frame then f
    else if f.skipLeft ≤ 0 then
      { f with skipLeft := src.downtrackSkip, line := src, lineRequests := f.lineRequests + 1 }
    else { f with skipLeft := f.skipLeft - 1 }
  | .caughtUp src =>
    if viewer = .waterfall then f
    else { f with frame := src, frameRequests := f.frameRequests + 1 }
  | .waterfallUpdateWork =>
    if f.lineRequests = 0 then f
    else { f with lineRequests := f.lineRequests - 1, lines := f.line.toList ++ f.lines }
  | .frameUpdateWork =>
    if f.frameRequests = 0 then f
    else { f with frameRequests := f.frameRequests - 1, shown := f.frame }

def after (viewer : ViewerType) (skipLeft : ℤ) (events : List (ScreenEvent d)) : Feed d :=
  events.foldl (step viewer) (initial skipLeft)

end Feed

/-- `m_incr`, as long as the viewer stays the same. -/
def incrOf (viewer : ViewerType) : ℕ := if viewer = .combo then 2 else 1

/-- The line of an image, in the bytes of the surface. -/
def waterfallLine (viewer : ViewerType) (reflect : Bool) (src : ViewSource d) : List UInt8 :=
  scanLine reflect (d.frameWidthSamples / incrOf viewer)
    fun c channel => (lineRGB src (incrOf viewer) c).getD channel 0

/-- The grey of a frame. -/
def frameGrey (viewer : ViewerType) (src : ViewSource d) (row c _channel : ℕ) : UInt8 :=
  src.luts.stretchLUT (sampleDN src (1 + row * incrOf viewer) (c * incrOf viewer))

/-- The screen shows what it should: the lines of the waterfall down to its height, and the
frame beside them. -/
structure ScreenShows (viewer : ViewerType) (reflect : Bool) (f : Feed d) (s : ImageDisplay) :
    Prop where
  height : s.currentWaterfallHeight = min f.lines.length (d.frameHeightLines - 1)
  waterfall : (strip d viewer (d.frameWidthSamples / incrOf viewer)).Shows
    (d.frameHeightLines - 1) s.surface (f.lines.map (waterfallLine viewer reflect))
  frame : ∀ src ∈ f.shown, ShowsFrame d viewer reflect
    ((d.frameHeightLines - 1) / incrOf viewer) (d.frameWidthSamples / incrOf viewer) s.surface
    (frameGrey viewer src)

/-- The buffers hold what was converted last, and only what the viewer shows is requested. -/
structure Tracks (viewer : ViewerType) (reflect : Bool) (f : Feed d) (s : Screen) : Prop where
  allocated : Allocated d s.view
  sized : s.display.Sized d
  skipLeft : s.view.skipLeft = f.skipLeft
  lineRequests : s.waterfallRequests = f.lineRequests
  frameRequests : s.frameRequests = f.frameRequests
  line : ∀ src ∈ f.line, s.view.incr = incrOf viewer ∧
    ∀ c < d.frameWidthSamples / incrOf viewer, ∀ channel < 3,
      s.view.waterfallPixels[c * 3 + channel]? =
        some ((lineRGB src (incrOf viewer) c).getD channel 0)
  frame : ∀ src ∈ f.frame, s.view.incr = incrOf viewer ∧
    ∀ row < (d.frameHeightLines - 1) / incrOf viewer,
      ∀ c < d.frameWidthSamples / incrOf viewer, ∀ channel < 3,
        s.view.framePixels[(row * (d.frameWidthSamples / incrOf viewer) + c) * 3 + channel]? =
          some (frameGrey viewer src row c channel)
  waitingLine : f.lineRequests ≠ 0 → f.line.isSome
  waitingFrame : f.frameRequests ≠ 0 → f.frame.isSome
  noLines : viewer = .frame → f.lineRequests = 0 ∧ f.lines = []
  noFrames : viewer = .waterfall → f.frameRequests = 0 ∧ f.shown = none
  shows : ScreenShows viewer reflect f s.display

section Refinement

variable {viewer : ViewerType} {reflect : Bool} {pad : UInt8} {f : Feed d} {s : Screen}

theorem incrOf_pos (viewer : ViewerType) : 0 < incrOf viewer := by
  cases viewer <;> decide

theorem mul_incrOf_lt {n m : ℕ} (h : n < m / incrOf viewer) : n * incrOf viewer < m := by
  have hpos := incrOf_pos viewer
  have hnext := (Nat.le_div_iff_mul_le hpos).mp h
  rw [Nat.succ_mul] at hnext
  omega

/-- A line is converted, unless it is to be skipped. -/
theorem Tracks.image (h : Tracks viewer reflect f s) (src : ViewSource d) :
    ∃ s', s.image viewer src = some s' ∧
      Tracks viewer reflect (f.step viewer (.image src)) s' := by
  by_cases hviewer : viewer = .frame
  · refine ⟨s, ?_, ?_⟩
    · rw [Screen.image, if_neg (by rw [hviewer]; decide)]
    · rw [Feed.step, if_pos hviewer]
      exact h
  have hguard : viewer = .waterfall ∨ viewer = .combo := by
    cases viewer with
    | frame => exact absurd rfl hviewer
    | waterfall => exact Or.inl rfl
    | combo => exact Or.inr rfl
  obtain ⟨view, hline, hshown⟩ :=
    displayWaterfallLine_shown { src with viewerType := viewer } h.allocated
  refine ⟨{ s with
    view := view
    waterfallRequests :=
      if s.view.skipLeft ≤ 0 then s.waterfallRequests + 1 else s.waterfallRequests }, ?_, ?_⟩
  · rw [Screen.image, if_pos hguard, hline]
    rfl
  rw [Feed.step, if_neg hviewer, ← h.skipLeft]
  by_cases hskip : s.view.skipLeft ≤ 0
  · have hincr : view.incr = incrOf viewer := (hshown.incr hskip).1
    rw [if_pos hskip, if_pos hskip]
    exact { h with
      allocated := hshown.allocated
      skipLeft := (hshown.incr hskip).2
      lineRequests := congrArg (· + 1) h.lineRequests
      line := by
        intro src' hsrc
        obtain rfl := Option.mem_some_iff.mp hsrc
        refine ⟨hincr, fun c hc channel hchannel => ?_⟩
        have hpixel := hshown.pixel hskip c (hincr ▸ mul_incrOf_lt hc)
        rw [hincr] at hpixel
        obtain ⟨hred, hgreen, hblue⟩ := hpixel
        obtain rfl | rfl | rfl : channel = 0 ∨ channel = 1 ∨ channel = 2 := by omega
        · exact hred
        · exact hgreen
        · exact hblue
      frame := by
        intro src' hsrc
        refine ⟨hincr, ?_⟩
        rw [hshown.others]
        exact (h.frame src' hsrc).2
      waitingLine := fun _ => rfl
      noLines := fun hframe => absurd hframe hviewer
      shows := ⟨h.shows.height, h.shows.waterfall, h.shows.frame⟩ }
  · obtain rfl := hshown.skipped hskip
    rw [if_neg hskip, if_neg hskip]
    exact { h with
      allocated := hshown.allocated
      skipLeft := rfl
      shows := ⟨h.shows.height, h.shows.waterfall, h.shows.frame⟩ }

/-- A frame is converted. -/
theorem Tracks.caughtUp (h : Tracks viewer reflect f s) (src : ViewSource d) :
    ∃ s', s.caughtUp viewer src = some s' ∧
      Tracks viewer reflect (f.step viewer (.caughtUp src)) s' := by
  by_cases hviewer : viewer = .waterfall
  · refine ⟨s, ?_, ?_⟩
    · rw [Screen.caughtUp, if_neg (by rw [hviewer]; decide)]
    · rw [Feed.step, if_pos hviewer]
      exact h
  have hguard : viewer = .frame ∨ viewer = .combo := by
    cases viewer with
    | frame => exact Or.inl rfl
    | waterfall => exact absurd rfl hviewer
    | combo => exact Or.inr rfl
  obtain ⟨view, hframe, hshown⟩ :=
    displayCurrentFrame_shown { src with viewerType := viewer } h.allocated
  have hincr : view.incr = incrOf viewer := by
    rw [hshown.incr]
    rcases hguard with rfl | rfl <;> rfl
  refine ⟨{ s with view := view, frameRequests := s.frameRequests + 1 }, ?_, ?_⟩
  · rw [Screen.caughtUp, if_pos hguard, hframe]
    rfl
  rw [Feed.step, if_neg hviewer]
  exact { h with
    allocated := hshown.allocated
    skipLeft := hshown.others.2.trans h.skipLeft
    frameRequests := congrArg (· + 1) h.frameRequests
    line := by
      intro src' hsrc
      refine ⟨hincr, ?_⟩
      rw [hshown.others.1]
      exact (h.line src' hsrc).2
    frame := by
      intro src' hsrc
      obtain rfl := Option.mem_some_iff.mp hsrc
      refine ⟨hincr, fun row hrow c hc channel hchannel => ?_⟩
      have hpixel := hshown.pixel row (hincr ▸ mul_incrOf_lt hrow) c (hincr ▸ mul_incrOf_lt hc)
        channel hchannel
      rwa [hincr] at hpixel
    waitingFrame := fun _ => rfl
    noFrames := fun hwaterfall => absurd hwaterfall hviewer
    shows := ⟨h.shows.height, h.shows.waterfall, h.shows.frame⟩ }

theorem waterfallLine_eq {src : ViewSource d} (hline : s.view.incr = incrOf viewer ∧
    ∀ c < d.frameWidthSamples / incrOf viewer, ∀ channel < 3,
      s.view.waterfallPixels[c * 3 + channel]? =
        some ((lineRGB src (incrOf viewer) c).getD channel 0)) :
    scanLine reflect (d.frameWidthSamples / incrOf viewer) (pixelRGB s.view.waterfallPixels) =
      waterfallLine viewer reflect src := by
  refine scanLine_congr reflect fun c hc channel hchannel => ?_
  rw [pixelRGB, List.getD_eq_getElem?_getD, hline.2 c hc channel hchannel, Option.getD_some]

/-- In a combined view, frames stand to the right of the lines. -/
theorem strip_left {c : ℕ} (hviewer : viewer = .combo)
    (hc : (strip d viewer (d.frameWidthSamples / incrOf viewer)).Inside c) :
    c < xImageOffset d viewer * rgbSize ∧ c < bytesPerLine d := by
  subst hviewer
  have hin : c < 0 * 4 + d.frameWidthSamples / 2 * 4 := hc.2
  change c < (d.frameWidthSamples / 2 + 2 * 15) * 4 ∧ c < (d.frameWidthSamples + 2 * 15) * 4
  omega

theorem combo_of_shown (h : Tracks viewer reflect f s) (hshown : f.shown.isSome)
    (hframe : viewer ≠ .frame) : viewer = .combo := by
  cases hviewer : viewer with
  | frame => exact absurd hviewer hframe
  | waterfall =>
    rw [(h.noFrames hviewer).2] at hshown
    cases hshown
  | combo => rfl

/-- A request puts the line that was converted last on the screen. -/
theorem Tracks.waterfallUpdateWork (hwidth : d.frameWidthSamples < 2 ^ 16)
    (h : Tracks viewer reflect f s) :
    ∃ s', s.waterfallUpdateWork viewer reflect d = some s' ∧
      Tracks viewer reflect (f.step viewer .waterfallUpdateWork) s' := by
  cases hrequests : s.waterfallRequests with
  | zero =>
    refine ⟨s, ?_, ?_⟩
    · rw [Screen.waterfallUpdateWork, hrequests]
    · rw [Feed.step, if_pos (h.lineRequests ▸ hrequests)]
      exact h
  | succ n =>
    have hf : f.lineRequests = n + 1 := h.lineRequests ▸ hrequests
    obtain ⟨src, hsrc⟩ := Option.isSome_iff_exists.mp (h.waitingLine (by omega))
    have hviewer : viewer ≠ .frame := fun hframe => by
      have hnone := (h.noLines hframe).1
      omega
    have hline := h.line src hsrc
    have hle : d.frameWidthSamples / incrOf viewer ≤ d.frameWidthSamples := Nat.div_le_self ..
    obtain ⟨display, hdraw, hsized, hlines, hrest, hheight⟩ := @ImageDisplay.displayLine_shows
      d viewer reflect _ _ _ _ h.sized hle (by omega)
      (by rw [h.allocated.waterfallPixels]; omega) h.shows.waterfall
    rw [waterfallLine_eq hline] at hlines
    refine ⟨{ s with display := display, waterfallRequests := n }, ?_, ?_⟩
    · rw [Screen.waterfallUpdateWork, hrequests]
      simp only
      rw [hline.1, hdraw]
      rfl
    have hcons : f.line.toList ++ f.lines = src :: f.lines := by
      rw [hsrc]
      rfl
    rw [Feed.step, if_neg (by omega), hcons]
    exact { h with
      sized := hsized
      lineRequests := by rw [hf, Nat.add_sub_cancel]
      line := h.line
      waitingLine := fun _ => h.waitingLine (by omega)
      noLines := fun hframe => absurd hframe hviewer
      shows := {
        height := by
          rw [hheight, h.shows.height, List.length_cons]
          split_ifs <;> omega
        waterfall := hlines
        frame := by
          intro shown hshown row hrow c hc channel hchannel
          have hcombo := combo_of_shown h (Option.isSome_of_mem hshown) hviewer
          have hright : ¬(strip d viewer (d.frameWidthSamples / incrOf viewer)).Inside
              ((xImageOffset d viewer + c) * rgbSize + (2 - channel)) := fun hin => by
            have hleft := (strip_left hcombo hin).1
            rw [rgbSize] at hleft
            omega
          have hbytes : (xImageOffset d viewer + c) * rgbSize + (2 - channel) <
              bytesPerLine d := by
            subst hcombo
            change c < d.frameWidthSamples / 2 at hc
            change (d.frameWidthSamples / 2 + 2 * 15 + c) * 4 + (2 - channel) <
              (d.frameWidthSamples + 2 * 15) * 4
            omega
          rw [hrest row _ hbytes hright]
          exact h.shows.frame shown hshown row hrow c hc channel hchannel } }

/-- A request shows the frame that was converted last, and no line is touched. -/
theorem Tracks.frameUpdateWork (h : Tracks viewer reflect f s) :
    Tracks viewer reflect (f.step viewer .frameUpdateWork)
      (s.frameUpdateWork viewer reflect pad d) := by
  cases hrequests : s.frameRequests with
  | zero =>
    rw [Screen.frameUpdateWork, hrequests, Feed.step, if_pos (h.frameRequests ▸ hrequests)]
    exact h
  | succ n =>
    have hf : f.frameRequests = n + 1 := h.frameRequests ▸ hrequests
    obtain ⟨src, hsrc⟩ := Option.isSome_iff_exists.mp (h.waitingFrame (by omega))
    have hviewer : viewer ≠ .waterfall := fun hwaterfall => by
      have hnone := (h.noFrames hwaterfall).1
      omega
    have hframe := h.frame src hsrc
    have hfits : xImageOffset d viewer + d.frameWidthSamples / incrOf viewer ≤
        d.frameWidthSamples + 2 * nonComboMargin := by
      cases hcase : viewer with
      | frame =>
        change 15 + d.frameWidthSamples / 1 ≤ d.frameWidthSamples + 2 * 15
        rw [Nat.div_one]
        omega
      | waterfall => exact absurd hcase hviewer
      | combo =>
        change d.frameWidthSamples / 2 + 2 * 15 + d.frameWidthSamples / 2 ≤
          d.frameWidthSamples + 2 * 15
        omega
    rw [Screen.frameUpdateWork, hrequests, Feed.step, if_neg (by omega)]
    simp only
    rw [hframe.1]
    exact { h with
      sized := ImageDisplay.sized_displayFrame h.sized
      frameRequests := by rw [hf, Nat.add_sub_cancel]
      line := h.line
      frame := h.frame
      waitingFrame := fun _ => h.waitingFrame (by omega)
      noFrames := fun hwaterfall => absurd hwaterfall hviewer
      shows := {
        height := h.shows.height
        waterfall := by
          by_cases hlines : viewer = .frame
          · rw [(h.noLines hlines).2]
            exact Strip.shows_nil
          · have hcombo : viewer = .combo := by
              cases hcase : viewer with
              | frame => exact absurd hcase hlines
              | waterfall => exact absurd hcase hviewer
              | combo => rfl
            refine h.shows.waterfall.congr fun r c hin => ?_
            obtain ⟨hleft, hbytes⟩ := strip_left hcombo hin
            exact ImageDisplay.displayFrame_left r hleft hbytes
        frame := by
          intro shown hshown row hrow c hc channel hchannel
          rw [hsrc] at hshown
          obtain rfl := Option.mem_some_iff.mp hshown
          have hcolumn : (if reflect then d.frameWidthSamples / incrOf viewer - 1 - c else c) <
              d.frameWidthSamples / incrOf viewer := by
            split_ifs <;> omega
          rw [ImageDisplay.displayFrame_shows h.sized (Nat.div_le_self ..) hfits row hrow c hc
            channel hchannel]
          simp only [pixelRGB, List.getD_eq_getElem?_getD]
          rw [hframe.2 row hrow _ hcolumn channel hchannel, Option.getD_some] } }

/-- Every event keeps the screen as it should be. -/
theorem Tracks.step (hwidth : d.frameWidthSamples < 2 ^ 16) (h : Tracks viewer reflect f s)
    (e : ScreenEvent d) :
    ∃ s', s.step viewer reflect pad e = some s' ∧ Tracks viewer reflect (f.step viewer e) s' := by
  cases e with
  | image src => exact h.image src
  | caughtUp src => exact h.caughtUp src
  | waterfallUpdateWork => exact h.waterfallUpdateWork hwidth
  | frameUpdateWork => exact ⟨_, rfl, h.frameUpdateWork⟩

theorem Tracks.run (hwidth : d.frameWidthSamples < 2 ^ 16) (h : Tracks viewer reflect f s)
    (events : List (ScreenEvent d)) :
    ∃ s', Runs.run (Screen.step viewer reflect pad) s events = some s' ∧
      Tracks viewer reflect (events.foldl (Feed.step viewer) f) s' := by
  induction events generalizing f s with
  | nil => exact ⟨s, rfl, h⟩
  | cons e events ih =>
    obtain ⟨s₁, hstep, h₁⟩ := @Tracks.step d viewer reflect pad f s hwidth h e
    obtain ⟨s₂, hrest, h₂⟩ := ih h₁
    exact ⟨s₂, run_cons_eq_some.mpr ⟨s₁, hstep, hrest⟩, h₂⟩

end Refinement

/-! ### Runs -/

/-- What happens between two changes of the viewer or of the reflection, each of which resets
the display. -/
structure Viewing (d : FrameDims) where
  viewer : ViewerType
  reflect : Bool
  events : List (ScreenEvent d)

namespace Screen

variable (pad : UInt8)

def initial (d : FrameDims) : Screen := ⟨.initial d, .initial d, 0, 0⟩

def resetImageDisplay (s : Screen) : Screen := { s with display := s.display.reset }

def viewing (s : Screen) (v : Viewing d) : Option Screen :=
  run (step v.viewer v.reflect pad) s.resetImageDisplay v.events

def Drained (s : Screen) : Prop := s.waterfallRequests = 0 ∧ s.frameRequests = 0

variable {pad} {s : Screen}

/-- After a reset, nothing that was drawn before is shown. -/
theorem tracks_reset (viewer : ViewerType) (reflect : Bool) (hview : Allocated d s.view)
    (hsized : s.display.Sized d) (hdrained : s.Drained) :
    Tracks viewer reflect (Feed.initial (d := d) s.view.skipLeft) s.resetImageDisplay where
  allocated := hview
  sized := hsized
  skipLeft := rfl
  lineRequests := hdrained.1
  frameRequests := hdrained.2
  line := nofun
  frame := nofun
  waitingLine := fun h => absurd rfl h
  waitingFrame := fun h => absurd rfl h
  noLines := fun _ => ⟨rfl, rfl⟩
  noFrames := fun _ => ⟨rfl, rfl⟩
  shows := ⟨(Nat.zero_min _).symm, Strip.shows_nil, nofun⟩

theorem viewing_tracks (hwidth : d.frameWidthSamples < 2 ^ 16) (v : Viewing d)
    (hview : Allocated d s.view) (hsized : s.display.Sized d) (hdrained : s.Drained) :
    ∃ s', s.viewing pad v = some s' ∧
      Tracks v.viewer v.reflect (Feed.after v.viewer s.view.skipLeft v.events) s' :=
  (tracks_reset v.viewer v.reflect hview hsized hdrained).run hwidth v.events

/-- After any viewings at whose ends no request waited. -/
theorem viewings_ready (hwidth : d.frameWidthSamples < 2 ^ 16) (viewings : List (Viewing d))
    (hview : Allocated d s.view) (hsized : s.display.Sized d) (hdrained : s.Drained)
    (hends : EachStep (viewing pad) (fun _ _ s => s.Drained) s viewings) :
    ∃ s', run (viewing pad) s viewings = some s' ∧ Allocated d s'.view ∧ s'.display.Sized d ∧
      s'.Drained := by
  induction viewings generalizing s with
  | nil => exact ⟨s, rfl, hview, hsized, hdrained⟩
  | cons v viewings ih =>
    obtain ⟨s₁, hstep, h₁⟩ := @viewing_tracks d pad s hwidth v hview hsized hdrained
    obtain ⟨hend, hrest⟩ := (eachStep_cons_iff hstep).mp hends
    obtain ⟨s₂, hrun, h₂⟩ := ih h₁.allocated h₁.sized hend hrest
    exact ⟨s₂, run_cons_eq_some.mpr ⟨s₁, hstep, hrun⟩, h₂⟩

def exampleDims : FrameDims := ⟨3, 2, by decide, by decide⟩

def exampleImage : ViewSource exampleDims where
  viewerType := .combo
  darkSub := false
  redBand := ⟨1, by decide⟩
  greenBand := ⟨2, by decide⟩
  blueBand := ⟨1, by decide⟩
  downtrackSkip := 1
  imageBuffer := ⟨[0, 0, 10, 20, 30, 40], rfl⟩
  darkFrame := ⟨[0, 0, 0, 0, 0, 0], rfl⟩
  luts := .initial

def exampleViewing : Viewing exampleDims :=
  ⟨.combo, true, [.image exampleImage, .waterfallUpdateWork, .caughtUp exampleImage,
    .frameUpdateWork, .image exampleImage, .waterfallUpdateWork]⟩

def exampleBefore : List (Viewing exampleDims) := [⟨.waterfall, false, []⟩]

theorem exampleEnds : EachStep (viewing (d := exampleDims) 0) (fun _ _ s => s.Drained)
    (initial exampleDims) exampleBefore := by
  intro s hs
  obtain rfl := Option.some.inj hs
  exact ⟨⟨rfl, rfl⟩, trivial⟩

/-- From the start of the program, through any changes of the viewer, any images and any delay
of the requests: as long as none waits when the viewer changes, no access is outside of a buffer,
and the screen shows, for each request that was handled since, the line or the frame that the
buffers held then. -/
theorem viewings_show (pad : UInt8) (hwidth : d.frameWidthSamples < 2 ^ 16)
    (viewings : List (Viewing d)) (v : Viewing d)
    (hends : EachStep (viewing pad) (fun _ _ s => s.Drained) (initial d) viewings) :
    ∃ s s', run (viewing pad) (initial d) viewings = some s ∧ s.viewing pad v = some s' ∧
      ScreenShows v.viewer v.reflect (Feed.after v.viewer s.view.skipLeft v.events)
        s'.display := by
  obtain ⟨s, hrun, hview, hsized, hdrained⟩ := viewings_ready hwidth viewings allocated_initial
    ImageDisplay.sized_initial ⟨rfl, rfl⟩ hends
  obtain ⟨s', hstep, h⟩ := @viewing_tracks d pad s hwidth v hview hsized hdrained
  exact ⟨s, s', hrun, hstep, h.shows⟩

theorem viewings_show_example : ∃ s s',
    run (viewing 0) (initial exampleDims) exampleBefore = some s ∧
      s.viewing 0 exampleViewing = some s' ∧
      ScreenShows .combo true (Feed.after .combo s.view.skipLeft exampleViewing.events)
        s'.display :=
  viewings_show 0 (by decide) _ exampleViewing exampleEnds

end Screen

/-! ### One line for every few images -/

/-- The events that concern the waterfall. -/
def ScreenEvent.isLine : ScreenEvent d → Bool
  | image _ => true
  | waterfallUpdateWork => true
  | _ => false

/-- Every image, with the request for its line handled before the next image is read. -/
def promptLines (images : List (ViewSource d)) : List (ScreenEvent d) :=
  images.flatMap fun src => [.image src, .waterfallUpdateWork]

namespace Feed

variable {viewer : ViewerType}

theorem lines_filter (f g : Feed d) (events : List (ScreenEvent d))
    (h : f.skipLeft = g.skipLeft ∧ f.line = g.line ∧ f.lineRequests = g.lineRequests ∧
      f.lines = g.lines) :
    (events.foldl (step viewer) f).lines =
      ((events.filter ScreenEvent.isLine).foldl (step viewer) g).lines := by
  induction events generalizing f g with
  | nil => exact h.2.2.2
  | cons e events ih =>
    obtain ⟨hskip, hline, hrequests, hlines⟩ := h
    cases e with
    | image src =>
      refine ih _ _ ?_
      simp only [step]
      rw [hskip]
      split_ifs
      · exact ⟨hskip, hline, hrequests, hlines⟩
      · exact ⟨rfl, rfl, congrArg (· + 1) hrequests, hlines⟩
      · exact ⟨rfl, hline, hrequests, hlines⟩
    | caughtUp src =>
      refine ih _ g ?_
      simp only [step]
      split_ifs <;> exact ⟨hskip, hline, hrequests, hlines⟩
    | waterfallUpdateWork =>
      refine ih _ _ ?_
      simp only [step]
      rw [hrequests]
      split_ifs
      · exact ⟨hskip, hline, hrequests, hlines⟩
      · exact ⟨hskip, hline, rfl, by rw [hline, hlines]⟩
    | frameUpdateWork =>
      refine ih _ g ?_
      simp only [step]
      split_ifs <;> exact ⟨hskip, hline, hrequests, hlines⟩

/-- A line whose request is handled at once. -/
theorem step_line (hviewer : viewer ≠ .frame) {f : Feed d} (hskip : f.skipLeft ≤ 0)
    (hrequests : f.lineRequests = 0) (src : ViewSource d) :
    (f.step viewer (.image src)).step viewer .waterfallUpdateWork =
      { f with
        skipLeft := src.downtrackSkip
        line := some src
        lineRequests := 0
        lines := src :: f.lines } := by
  rw [step, if_neg hviewer, if_pos hskip, hrequests]
  rfl

theorem step_skip (hviewer : viewer ≠ .frame) {f : Feed d} (hskip : ¬f.skipLeft ≤ 0)
    (hrequests : f.lineRequests = 0) (src : ViewSource d) :
    (f.step viewer (.image src)).step viewer .waterfallUpdateWork =
      { f with skipLeft := f.skipLeft - 1 } := by
  rw [step, if_neg hviewer, if_neg hskip, step]
  exact if_pos hrequests

/-- The images that become lines are `skip + 1` apart. -/
theorem lines_prompt (hviewer : viewer ≠ .frame) (skip : ℕ) (images : List (ViewSource d))
    (hskip : ∀ src ∈ images, src.downtrackSkip = skip) (f : Feed d) (n : ℕ)
    (hn : f.skipLeft.toNat = n) (hrequests : f.lineRequests = 0) :
    ∃ picked : List (ViewSource d),
      ((promptLines images).foldl (step viewer) f).lines = picked.reverse ++ f.lines ∧
      ∀ i, picked[i]? = images[n + i * (skip + 1)]? := by
  induction images generalizing f n with
  | nil => exact ⟨[], rfl, fun _ => rfl⟩
  | cons src images ih =>
    obtain ⟨hsrc, hrest⟩ := List.forall_mem_cons.mp hskip
    rw [promptLines, List.flatMap_cons, List.foldl_append, List.foldl_cons, List.foldl_cons,
      List.foldl_nil, ← promptLines]
    cases n with
    | zero =>
      rw [step_line hviewer (by omega) hrequests]
      obtain ⟨picked, hlines, hpicked⟩ := ih hrest { f with
        skipLeft := src.downtrackSkip
        line := some src
        lineRequests := 0
        lines := src :: f.lines } skip (congrArg Int.toNat hsrc) rfl
      refine ⟨src :: picked, ?_, ?_⟩
      · rw [hlines, List.reverse_cons, List.append_assoc]
        rfl
      · intro i
        cases i with
        | zero =>
          rw [Nat.zero_mul]
          rfl
        | succ i =>
          have hindex : 0 + (i + 1) * (skip + 1) = skip + i * (skip + 1) + 1 := by ring
          rw [hindex, List.getElem?_cons_succ, List.getElem?_cons_succ, hpicked]
    | succ n =>
      rw [step_skip hviewer (by omega) hrequests]
      obtain ⟨picked, hlines, hpicked⟩ := ih hrest { f with skipLeft := f.skipLeft - 1 } n
        (by change (f.skipLeft - 1).toNat = n; omega) hrequests
      refine ⟨picked, hlines, fun i => ?_⟩
      rw [Nat.add_right_comm, List.getElem?_cons_succ, hpicked]

end Feed

namespace Screen

/-- The viewer shows every image after `skip` others as one line, the newest on top, if each
line is drawn before the next image is read; whatever frames are drawn in between. -/
theorem prompt_shows (pad : UInt8) (hwidth : d.frameWidthSamples < 2 ^ 16)
    (viewings : List (Viewing d)) (v : Viewing d)
    (hends : EachStep (viewing pad) (fun _ _ s => s.Drained) (initial d) viewings)
    (hviewer : v.viewer ≠ .frame) (skip : ℕ) (images : List (ViewSource d))
    (hskip : ∀ src ∈ images, src.downtrackSkip = skip)
    (hprompt : v.events.filter ScreenEvent.isLine = promptLines images) :
    ∃ s s', run (viewing pad) (initial d) viewings = some s ∧ s.viewing pad v = some s' ∧
      ∃ picked : List (ViewSource d),
        (∀ i, picked[i]? = images[s.view.skipLeft.toNat + i * (skip + 1)]?) ∧
        s'.display.currentWaterfallHeight = min picked.length (d.frameHeightLines - 1) ∧
        (strip d v.viewer (d.frameWidthSamples / incrOf v.viewer)).Shows (d.frameHeightLines - 1)
          s'.display.surface (picked.reverse.map (waterfallLine v.viewer v.reflect)) := by
  obtain ⟨s, hrun, hview, hsized, hdrained⟩ := viewings_ready hwidth viewings allocated_initial
    ImageDisplay.sized_initial ⟨rfl, rfl⟩ hends
  obtain ⟨s', hstep, h⟩ := @viewing_tracks d pad s hwidth v hview hsized hdrained
  obtain ⟨picked, hlines, hpicked⟩ := Feed.lines_prompt hviewer skip images hskip
    (Feed.initial s.view.skipLeft) _ rfl rfl
  have hfeed : (Feed.after v.viewer s.view.skipLeft v.events).lines = picked.reverse := by
    rw [Feed.after, Feed.lines_filter _ (Feed.initial s.view.skipLeft) v.events
      ⟨rfl, rfl, rfl, rfl⟩, hprompt, hlines]
    exact List.append_nil _
  have hheight := h.shows.height
  have hwaterfall := h.shows.waterfall
  rw [hfeed] at hheight hwaterfall
  rw [List.length_reverse] at hheight
  exact ⟨s, s', hrun, hstep, picked, hpicked, hheight, hwaterfall⟩

theorem prompt_shows_example : ∃ s s',
    run (viewing 0) (initial exampleDims) exampleBefore = some s ∧
      s.viewing 0 exampleViewing = some s' ∧
      ∃ picked : List (ViewSource exampleDims),
        (∀ i, picked[i]? = [exampleImage, exampleImage][s.view.skipLeft.toNat + i * 2]?) ∧
        s'.display.currentWaterfallHeight = min picked.length 2 ∧
        (strip exampleDims .combo 1).Shows 2 s'.display.surface
          (picked.reverse.map (waterfallLine .combo true)) :=
  prompt_shows 0 (by decide) _ exampleViewing exampleEnds (by decide) 1
    [exampleImage, exampleImage] (by simp [exampleImage]) rfl

end Screen

end Display
