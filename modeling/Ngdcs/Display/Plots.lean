import Ngdcs.Lib.Runs
import Ngdcs.Lib.Window
import Ngdcs.Recorder.State

/-! `PlotDisplay`: plots that fill up from the left and then scroll. All plots of a display share
the number of points. -/
namespace Display
open Stores Window Runs

/-- `PLOT_POINTS_MAX` -/
def plotPointsMax : ℕ := 300

/-- `PLOT_MARGIN_TOP` -/
def plotMarginTop : ℕ := 20

/-- `PLOT_HEIGHT` -/
def plotHeight : ℕ := 200

/-- `PLOT_MARGIN_LEFT` -/
def plotMarginLeft : ℕ := 50

/-- `m_min` and `m_max`, and what a double becomes in an `int` that it does not fit. -/
structure PlotScale where
  min : ℚ
  max : ℚ
  unfit : ℚ → ℤ

namespace PlotScale

variable (s : PlotScale)

/-- `(int)` of a double. -/
def toInt (q : ℚ) : ℤ :=
  if -2 ^ 31 ≤ Recorder.toInt q ∧ Recorder.toInt q < 2 ^ 31 then Recorder.toInt q else s.unfit q

/-- The `y` of a value. -/
def yPixel (v : ℚ) : ℤ :=
  let y := s.toInt (plotMarginTop + plotHeight - (v - s.min) / (s.max - s.min) * plotHeight)
  if y < plotMarginTop then plotMarginTop
  else if y > plotMarginTop + plotHeight then plotMarginTop + plotHeight
  else y

theorem yPixel_clamped (v : ℚ) :
    plotMarginTop ≤ s.yPixel v ∧ s.yPixel v ≤ plotMarginTop + plotHeight := by
  unfold yPixel
  simp only
  split_ifs <;> omega

end PlotScale

/-- `m_x[p][i]` and `m_y[p][i]` -/
abbrev Point := ℤ × ℤ

/-- `m_pointsPlotted`, and the arrays `m_x[p]` and `m_y[p]` side by side for each plot `p`. -/
structure PlotDisplay where
  pointsPlotted : ℕ
  points : List (List Point)

/-- The values of one call, `m_numPlots` of them. -/
abbrev PlotValues (numPlots : ℕ) := { v : List ℚ // v.length = numPlots }

namespace PlotDisplay

/-- The constructor. -/
def initial (numPlots : ℕ) : PlotDisplay :=
  ⟨0, List.replicate numPlots (List.replicate plotPointsMax (0, 0))⟩

/-- What becomes of the arrays of one plot. -/
def plotRow (pointsPlotted : ℕ) (y : ℤ) (row : List Point) : Option (List Point) :=
  if pointsPlotted < plotPointsMax then
    store row pointsPlotted (plotMarginLeft + 1 + pointsPlotted, y)
  else
    scroll plotPointsMax (fun (x, y) => (x - 1, y)) (plotMarginLeft + 1 + plotPointsMax - 1, y) row

variable (s : PlotScale) (numPlots : ℕ) (d : PlotDisplay)

/-- The body of the loop of `addPoint`. -/
def plotPoint (v : List ℚ) (p : ℕ) : Option PlotDisplay := do
  let value ← v[p]?
  let row ← d.points[p]?
  let row ← plotRow d.pointsPlotted (s.yPixel value) row
  let points ← store d.points p row
  if d.pointsPlotted < plotPointsMax ∧ p + 1 = numPlots then
    some ⟨d.pointsPlotted + 1, points⟩
  else some ⟨d.pointsPlotted, points⟩

/-- The loop over the plots from `p` on, `n` of them. -/
def addPointLoop (v : List ℚ) : ℕ → ℕ → PlotDisplay → Option PlotDisplay
  | 0, _, d => some d
  | n + 1, p, d => do
    let d ← d.plotPoint s numPlots v p
    addPointLoop v n (p + 1) d

/-- `PlotDisplay::addPoint` -/
def addPoint (v : PlotValues numPlots) : Option PlotDisplay :=
  addPointLoop s numPlots v.val numPlots 0 d

/-- `PlotDisplay::reset` -/
def reset : PlotDisplay := { d with pointsPlotted := 0 }

end PlotDisplay

/-- The calls that change a plot display. -/
inductive PlotOp (numPlots : ℕ) where
  | addPoint (v : PlotValues numPlots)
  | reset

namespace PlotOp

variable {numPlots : ℕ}

/-- `none` is an access outside of an array. -/
def step (s : PlotScale) (d : PlotDisplay) : PlotOp numPlots → Option PlotDisplay
  | addPoint v => d.addPoint s numPlots v
  | reset => some d.reset

end PlotOp

/-- The `x` of point number `i`. -/
def xPixel (i : ℕ) : ℤ := plotMarginLeft + 1 + i

/-- The points of one plot for the `y` of all its values. -/
def plotted (ys : List ℤ) : List Point :=
  (recent plotPointsMax ys).mapIdx fun i y => (xPixel i, y)

/-- The arrays of a plot show these values, in front of whatever else they hold. -/
structure Shows (row : List Point) (ys : List ℤ) : Prop where
  length : row.length = plotPointsMax
  points : row.take (min ys.length plotPointsMax) = plotted ys

theorem shows_nil {row : List Point} (h : row.length = plotPointsMax) : Shows row [] :=
  ⟨h, by simp [plotted, recent]⟩

theorem plotted_concat_of_lt {ys : List ℤ} (y : ℤ) (h : ys.length < plotPointsMax) :
    plotted (ys ++ [y]) = plotted ys ++ [(xPixel ys.length, y)] := by
  have hle : (ys ++ [y]).length ≤ plotPointsMax := by
    rw [List.length_append, List.length_singleton]
    exact h
  rw [plotted, plotted, recent_of_le hle, recent_of_le h.le, List.mapIdx_append]
  simp

/-- Scrolling takes every point but the first to the place of the one in front of it. -/
theorem plotted_concat_of_ge {ys : List ℤ} (y : ℤ) (h : plotPointsMax ≤ ys.length) :
    plotted (ys ++ [y]) = (plotted ys).tail.map (fun (x, y) => (x - 1, y)) ++
      [(xPixel (plotPointsMax - 1), y)] := by
  have hlen : (recent plotPointsMax ys).length = plotPointsMax := by
    rw [length_recent, min_eq_right h]
  rw [plotted, plotted, recent_concat y h (by decide)]
  cases hrecent : recent plotPointsMax ys with
  | nil =>
    rw [hrecent] at hlen
    exact absurd hlen (by decide)
  | cons z zs =>
    have hzs : zs.length = plotPointsMax - 1 := by
      rw [hrecent, List.length_cons] at hlen
      omega
    have hmoved : (zs.mapIdx fun i y => (xPixel (i + 1), y)).map (fun (x, y) => (x - 1, y)) =
        zs.mapIdx fun i y => (xPixel i, y) :=
      List.ext_getElem (by simp) fun i _ _ => by simp [xPixel]; omega
    have htail : ((z :: zs).mapIdx fun i y => (xPixel i, y)).tail =
        zs.mapIdx fun i y => (xPixel (i + 1), y) := by
      rw [List.mapIdx_cons, List.tail_cons]
    rw [htail, hmoved, List.tail_cons, List.mapIdx_append, List.mapIdx_cons, List.mapIdx_nil,
      Nat.zero_add, hzs]

namespace PlotDisplay

/-- One more value for one plot. -/
theorem plotRow_shows {row : List Point} {ys : List ℤ} (h : Shows row ys) (y : ℤ) :
    ∃ row', plotRow (min ys.length plotPointsMax) y row = some row' ∧ Shows row' (ys ++ [y]) := by
  have hlen := h.length
  have hpoints := h.points
  unfold plotRow
  split_ifs with hlt
  · have hys : ys.length < plotPointsMax := by omega
    rw [min_eq_left hys.le] at hpoints ⊢
    refine ⟨row.set ys.length (xPixel ys.length, y), ?_, ?_, ?_⟩
    · rw [store, if_pos (by omega)]
      rfl
    · rw [List.length_set, hlen]
    · rw [List.length_append, List.length_singleton, min_eq_left (by omega),
        plotted_concat_of_lt y hys, List.take_succ_eq_append_getElem (by simpa using by omega),
        List.take_set_of_le (Nat.le_refl _), List.getElem_set_self, hpoints]
  · have hys : plotPointsMax ≤ ys.length := by omega
    rw [min_eq_right hys, ← hlen, List.take_length] at hpoints
    refine ⟨_, scroll_eq _ _ hlen (by decide), ?_, ?_⟩
    · rw [List.length_append, List.length_map, List.length_tail, hlen]
      rfl
    · rw [List.take_of_length_le, plotted_concat_of_ge y hys, hpoints]
      · rfl
      · have hpos : 0 < plotPointsMax := by decide
        rw [List.length_append, List.length_append, List.length_map, List.length_tail, hlen,
          List.length_singleton, List.length_singleton]
        omega

variable {s : PlotScale} {numPlots : ℕ}

/-- The `y` of the values of plot `p`. -/
def column (s : PlotScale) (p : ℕ) (vs : List (PlotValues numPlots)) : List ℤ :=
  vs.map fun v => s.yPixel (v.val.getD p 0)

theorem column_concat (p : ℕ) (vs : List (PlotValues numPlots)) (v : PlotValues numPlots) :
    column s p (vs ++ [v]) = column s p vs ++ [s.yPixel (v.val.getD p 0)] := by
  simp [column]

/-- In the loop: the plots up to `p` show the new value as well. -/
structure Tracks (s : PlotScale) (d : PlotDisplay) (vs : List (PlotValues numPlots))
    (v : PlotValues numPlots) (p : ℕ) : Prop where
  rows : d.points.length = numPlots
  done : ∀ q < p, ∀ row ∈ d.points[q]?, Shows row (column s q (vs ++ [v]))
  pending : ∀ q, p ≤ q → ∀ row ∈ d.points[q]?, Shows row (column s q vs)

theorem plotPoint_tracks {d : PlotDisplay} {vs : List (PlotValues numPlots)}
    {v : PlotValues numPlots} {p : ℕ} (h : Tracks s d vs v p) (hp : p < numPlots)
    (hcount : d.pointsPlotted = min vs.length plotPointsMax) :
    ∃ d', d.plotPoint s numPlots v.val p = some d' ∧ Tracks s d' vs v (p + 1) ∧
      d'.pointsPlotted =
        if p + 1 = numPlots then min (vs.length + 1) plotPointsMax else d.pointsPlotted := by
  have hrow : p < d.points.length := by rw [h.rows]; exact hp
  have hv : p < v.val.length := by rw [v.property]; exact hp
  have hshows := h.pending p le_rfl _ (List.getElem?_eq_getElem hrow)
  obtain ⟨row', hplot, hshows'⟩ := plotRow_shows hshows (s.yPixel v.val[p])
  have hlen : (column s p vs).length = vs.length := List.length_map _
  rw [hlen, ← hcount] at hplot
  have hnew : Shows row' (column s p (vs ++ [v])) := by
    rw [column_concat, List.getD_eq_getElem?_getD, List.getElem?_eq_getElem hv]
    exact hshows'
  have htracks (k : ℕ) : Tracks s ⟨k, d.points.set p row'⟩ vs v (p + 1) := by
    refine ⟨by rw [List.length_set, h.rows], ?_, ?_⟩
    · intro q hq row hmem
      simp only [List.getElem?_set] at hmem
      split_ifs at hmem with heq
      · subst heq
        rw [Option.mem_some_iff] at hmem
        exact hmem ▸ hnew
      · exact h.done q (by omega) row hmem
    · intro q hq row hmem
      simp only [List.getElem?_set, if_neg (show p ≠ q by omega)] at hmem
      exact h.pending q (by omega) row hmem
  have hpoint : d.plotPoint s numPlots v.val p =
      if d.pointsPlotted < plotPointsMax ∧ p + 1 = numPlots then
        some ⟨d.pointsPlotted + 1, d.points.set p row'⟩
      else some ⟨d.pointsPlotted, d.points.set p row'⟩ := by
    simp only [plotPoint, List.getElem?_eq_getElem hv, List.getElem?_eq_getElem hrow,
      Option.bind_eq_bind, Option.bind_some, hplot, store, if_pos hrow]
  rw [hpoint]
  split_ifs with hlast hone hone
  · exact ⟨_, rfl, htracks _, by show d.pointsPlotted + 1 = _; omega⟩
  · exact absurd hlast.2 hone
  · exact ⟨_, rfl, htracks _, by show d.pointsPlotted = _; omega⟩
  · exact ⟨_, rfl, htracks _, rfl⟩

theorem addPointLoop_tracks {d : PlotDisplay} {vs : List (PlotValues numPlots)}
    {v : PlotValues numPlots} (n p : ℕ) (h : Tracks s d vs v p) (hn : p + n = numPlots)
    (hcount : d.pointsPlotted = min vs.length plotPointsMax) :
    ∃ d', addPointLoop s numPlots v.val n p d = some d' ∧ Tracks s d' vs v numPlots ∧
      d'.pointsPlotted =
        if n = 0 then d.pointsPlotted else min (vs.length + 1) plotPointsMax := by
  induction n generalizing d p with
  | zero =>
    rw [Nat.add_zero] at hn
    exact ⟨d, rfl, hn ▸ h, rfl⟩
  | succ n ih =>
    obtain ⟨d₁, hpoint, h₁, hcount₁⟩ := plotPoint_tracks h (by omega) hcount
    rw [addPointLoop, hpoint, Option.bind_eq_bind, Option.bind_some, if_neg (Nat.succ_ne_zero n)]
    cases n with
    | zero =>
      rw [if_pos (by omega)] at hcount₁
      have hend : p + 1 = numPlots := by omega
      exact ⟨d₁, rfl, hend ▸ h₁, hcount₁⟩
    | succ n =>
      rw [if_neg (by omega)] at hcount₁
      obtain ⟨d₂, hrun, h₂, hcount₂⟩ := ih (p + 1) h₁ (by omega) (hcount₁.trans hcount)
      rw [if_neg (Nat.succ_ne_zero n)] at hcount₂
      exact ⟨d₂, hrun, h₂, hcount₂⟩

/-- Between two calls: all plots show the values `vs`. -/
structure Holds (s : PlotScale) (vs : List (PlotValues numPlots)) (d : PlotDisplay) : Prop where
  rows : d.points.length = numPlots
  shows : ∀ q, ∀ row ∈ d.points[q]?, Shows row (column s q vs)
  counted : d.pointsPlotted = if numPlots = 0 then 0 else min vs.length plotPointsMax

theorem Holds.addPoint {vs : List (PlotValues numPlots)} {d : PlotDisplay} (h : Holds s vs d)
    (v : PlotValues numPlots) :
    ∃ d', d.addPoint s numPlots v = some d' ∧ Holds s (vs ++ [v]) d' := by
  have hcounted := h.counted
  have hstart : Tracks s d vs v 0 :=
    ⟨h.rows, fun q hq => absurd hq (Nat.not_lt_zero q), fun q _ => h.shows q⟩
  by_cases hzero : numPlots = 0
  · have hrows := h.rows
    rw [if_pos hzero] at hcounted
    refine ⟨d, by subst hzero; rfl, hrows, ?_, by rw [if_pos hzero, hcounted]⟩
    intro q row hmem
    rw [List.getElem?_eq_none (by omega)] at hmem
    cases hmem
  · rw [if_neg hzero] at hcounted
    obtain ⟨d', hrun, hend, hcount⟩ :=
      addPointLoop_tracks numPlots 0 hstart (Nat.zero_add _) hcounted
    refine ⟨d', hrun, hend.rows, ?_, ?_⟩
    · intro q row hmem
      have hq : q < numPlots := by
        rw [← hend.rows]
        exact (List.getElem?_eq_some_iff.mp hmem).1
      exact hend.done q hq row hmem
    · rw [hcount, if_neg hzero, if_neg hzero, List.length_append, List.length_singleton]

theorem Holds.reset {vs : List (PlotValues numPlots)} {d : PlotDisplay} (h : Holds s vs d) :
    Holds s ([] : List (PlotValues numPlots)) d.reset := by
  refine ⟨h.rows, fun q row hmem => shows_nil (h.shows q row hmem).length, ?_⟩
  split_ifs <;> simp [PlotDisplay.reset]

theorem holds_initial : Holds s ([] : List (PlotValues numPlots)) (initial numPlots) := by
  refine ⟨List.length_replicate, ?_, by simp [initial]⟩
  intro q row hmem
  have hrow := List.eq_of_mem_replicate (List.mem_of_getElem? hmem)
  exact shows_nil (by rw [hrow, List.length_replicate])

/-- What a display with these values since the last reset promises. -/
structure Scrolls (s : PlotScale) (vs : List (PlotValues numPlots)) (d : PlotDisplay) : Prop where
  counted : d.pointsPlotted = if numPlots = 0 then 0 else min vs.length plotPointsMax
  point : ∀ p < numPlots, ∀ i < d.pointsPlotted, ∃ v ∈ (recent d.pointsPlotted vs)[i]?,
    ∃ row ∈ d.points[p]?, row[i]? = some (xPixel i, s.yPixel (v.val.getD p 0))
  clamped : ∀ v, plotMarginTop ≤ s.yPixel v ∧ s.yPixel v ≤ plotMarginTop + plotHeight

theorem Holds.scrolled {vs : List (PlotValues numPlots)} {d : PlotDisplay} (h : Holds s vs d) :
    Scrolls s vs d := by
  refine ⟨h.counted, ?_, s.yPixel_clamped⟩
  intro p hp i hi
  have hcounted := h.counted
  rw [if_neg (by omega)] at hcounted
  have hrow : p < d.points.length := by rw [h.rows]; exact hp
  have hshows := (h.shows p _ (List.getElem?_eq_getElem hrow)).points
  have hlen : (column s p vs).length = vs.length := List.length_map _
  have hv : i < (recent plotPointsMax vs).length := by
    rw [length_recent]
    omega
  rw [hcounted, recent_min]
  refine ⟨_, List.getElem?_eq_getElem hv, _, List.getElem?_eq_getElem hrow, ?_⟩
  rw [hlen] at hshows
  have hget := congrArg (fun l => l[i]?) hshows
  simp only [plotted, column, recent_map, List.getElem?_mapIdx, List.getElem?_map,
    List.getElem?_eq_getElem hv, Option.map_some] at hget
  rwa [List.getElem?_take_of_lt (by omega)] at hget

end PlotDisplay

/-- The values since the last reset after one more call. -/
def PlotOp.record {numPlots : ℕ} (vs : List (PlotValues numPlots)) :
    PlotOp numPlots → List (PlotValues numPlots)
  | .addPoint v => vs ++ [v]
  | .reset => []

/-- The values added since the last reset. -/
def sinceReset {numPlots : ℕ} (ops : List (PlotOp numPlots)) : List (PlotValues numPlots) :=
  ops.foldl PlotOp.record []

theorem PlotDisplay.Holds.run {s : PlotScale} {numPlots : ℕ} {vs : List (PlotValues numPlots)}
    {d : PlotDisplay} (h : Holds s vs d) (ops : List (PlotOp numPlots)) :
    ∃ d', run (PlotOp.step s) d ops = some d' ∧ Holds s (ops.foldl PlotOp.record vs) d' := by
  induction ops generalizing vs d with
  | nil => exact ⟨d, rfl, h⟩
  | cons op ops ih =>
    cases op with
    | addPoint v =>
      obtain ⟨d₁, hadd, h₁⟩ := h.addPoint v
      obtain ⟨d₂, hrun, h₂⟩ := ih h₁
      exact ⟨d₂, run_cons_eq_some.mpr ⟨d₁, hadd, hrun⟩, h₂⟩
    | reset =>
      obtain ⟨d₂, hrun, h₂⟩ := ih h.reset
      exact ⟨d₂, run_cons_eq_some.mpr ⟨d.reset, rfl, hrun⟩, h₂⟩

/-- For every number of plots and every sequence of calls: no access is outside of an array, and
the display shows the last values of every plot. Without plots no point is counted. -/
theorem scrolls (s : PlotScale) (numPlots : ℕ) (ops : List (PlotOp numPlots)) :
    ∃ d, run (PlotOp.step s) (.initial numPlots) ops = some d ∧
      d.Scrolls s (sinceReset ops) := by
  obtain ⟨d, hrun, hholds⟩ := (PlotDisplay.holds_initial (s := s)).run ops
  exact ⟨d, hrun, hholds.scrolled⟩

/-- A display without plots does not count its points. -/
theorem not_counted_without_plots : ¬∀ (s : PlotScale) (numPlots : ℕ)
    (ops : List (PlotOp numPlots)) (d : PlotDisplay),
    run (PlotOp.step s) (.initial numPlots) ops = some d →
      d.pointsPlotted = min (sinceReset ops).length plotPointsMax := by
  intro h
  have hzero := h ⟨0, 1, fun _ => 0⟩ 0 [.addPoint ⟨[], rfl⟩] (.initial 0) rfl
  exact absurd hzero (by decide)

end Display
