import Ngdcs.Gps.Simulator.Decoding
import Ngdcs.Gps.Simulator.Rates
import Ngdcs.Recorder.Dark.Average

/-! The round trip through the frames. The messages come out as they went in, unless a frame
ends behind the type word of a message; whether one ever does is a matter of the frame rate. -/
namespace Gps
open Backlog Scan

def SimMessage.fix? : SimMessage → Option NavFix
  | m3500 _ _ => none
  | m3501 fix => some fix

def SimMessage.status? : SimMessage → Option (UInt16 × UInt16)
  | m3500 gpsMode systemStatus => some (gpsMode, systemStatus)
  | m3501 _ => none

namespace SimRun

/-- The messages whose words have all been placed. -/
def placed (r : SimRun) : List SimMessage :=
  (advance SimMessage.size (gpsStream r.images).length r.simulator.enqueued).1

/-- The words placed are the messages in order, the buffer has never held too many of them, and
the messages placed are the ones decoded: every fix by one call of `add3501`, and the mode and
status of the last 3500 in the colours. -/
structure RoundTrip (r : SimRun) : Prop where
  order : gpsStream r.images ++ r.simulator.msgSimBuf =
    r.simulator.enqueued.flatMap SimMessage.words
  held : r.simulator.msgSimBuf.length ≤ r.simulator.mostWords
  bounded : r.simulator.mostWords ≤ msgSimBufWords
  decoded : r.monitor.messages = r.placed.map SimMessage.words
  fixes : r.monitor.added3501.map add3501 = r.placed.filterMap SimMessage.fix?
  status : ∀ gpsMode systemStatus,
    (r.placed.filterMap SimMessage.status?).getLast? = some (gpsMode, systemStatus) →
      r.monitor.airNavCheckColor = GpsMonitor.airNavColor gpsMode ∧
        r.monitor.gpsValidCheckColor = validColor systemStatus

variable {cfg : SimSettings} {n : ℕ} {r : SimRun} {f : SimInput}

/-! ### What every run keeps -/

/-- After `n` frames, at any frame rate. -/
structure Sends (cfg : SimSettings) (n : ℕ) (r : SimRun) : Prop where
  frameCount : r.frameCount = UInt32.ofNat n
  buffers : Buffers (gpsStream r.images) (Layout.after cfg n) r.simulator

theorem sends_initial (cfg : SimSettings) : Sends cfg 0 initial := ⟨rfl, .initial⟩

/-- The words of the next frame -/
def chunk (cfg : SimSettings) (r : SimRun) (f : SimInput) : List UInt16 :=
  (r.simulator.fill cfg (r.frameCount + 1) f).msgSimBuf.take maxChunk

/-- The next frame -/
def image (cfg : SimSettings) (r : SimRun) (f : SimInput) : ℕ → UInt16 :=
  (r.simulator.addGPSSimToFrame cfg (r.frameCount + 1) f
    (simImageFrame cfg.frameWidthSamples f.pixels)).2

theorem holds_image (cfg : SimSettings) (r : SimRun) (f : SimInput) :
    Holds (r.image cfg f) (r.chunk cfg f) := holds_frame cfg _ _ f

theorem gpsStream_frame (cfg : SimSettings) (r : SimRun) (f : SimInput) :
    gpsStream (r.frame cfg f).images = gpsStream r.images ++ r.chunk cfg f := by
  show gpsStream (r.images ++ [r.image cfg f]) = _
  rw [← (holds_image cfg r f).feed_words]
  simp [gpsStream, feed]

theorem Sends.frame (h : Sends cfg n r) (f : SimInput) : Sends cfg (n + 1) (r.frame cfg f) := by
  have hcount : r.frameCount + 1 = UInt32.ofNat (n + 1) := by
    rw [h.frameCount, UInt32.ofNat_add]
    rfl
  have hlayout : Layout.after cfg (n + 1) = (Layout.after cfg n).frame
      (GpsSimulator.due3500 cfg (r.frameCount + 1))
      (GpsSimulator.due3501 cfg (r.frameCount + 1)) := by
    rw [hcount]
    rfl
  refine ⟨hcount, ?_⟩
  rw [gpsStream_frame, hlayout]
  exact h.buffers.addGPSSimToFrame cfg _ f _

theorem sends_run (cfg : SimSettings) (inputs : List SimInput) :
    Sends cfg inputs.length (run cfg inputs) := by
  induction inputs using List.reverseRecOn with
  | nil => exact sends_initial cfg
  | append_singleton inputs f ih =>
    rw [run, List.foldl_concat, List.length_append]
    exact ih.frame f

/-- The words placed are the first words of the messages. -/
theorem Sends.stream_eq (h : Sends cfg n r) : gpsStream r.images =
    (r.simulator.enqueued.flatMap SimMessage.words).take (gpsStream r.images).length := by
  rw [← h.buffers.order, List.take_left]

/-- What a scanner makes of the words placed. -/
theorem Sends.scan (h : Sends cfg n r) :
    gpsFormat.emitted [] (gpsStream r.images) = r.placed.map SimMessage.words ∧
      (gpsFormat.pending [] (gpsStream r.images)).length = (Layout.after cfg n).done := by
  obtain ⟨hemitted, hpending⟩ :=
    @MessageFormat.scan_backlog _ gpsFormat _ SimMessage.words r.simulator.enqueued
      (fun m _ => isMessage_words m) (gpsStream r.images).length
  rw [← h.stream_eq] at hemitted hpending
  refine ⟨hemitted, ?_⟩
  rw [hpending, h.buffers.layout]
  exact length_kept _ _

/-! ### Decoding -/

/-- The parser has followed the scanner through all frames. -/
structure Follows (r : SimRun) : Prop where
  tracks : r.monitor.parser.Tracks (gpsFormat.pending [] (gpsStream r.images))
  messages : r.monitor.messages = gpsFormat.emitted [] (gpsStream r.images)
  shows : Shows r.monitor

theorem follows_initial : Follows initial := ⟨MsgParser.tracks_initial, rfl, .initial⟩

/-- The parser and the messages after the next frame -/
theorem monitor_frame (cfg : SimSettings) (r : SimRun) (f : SimInput) :
    (r.frame cfg f).monitor.parser =
        (r.monitor.parser.parse (areaFeed (r.image cfg f) 341 (r.chunk cfg f).length)).1 ∧
      (r.frame cfg f).monitor.messages = r.monitor.messages ++
        (r.monitor.parser.parse (areaFeed (r.image cfg f) 341 (r.chunk cfg f).length)).2 := by
  rw [← (holds_image cfg r f).feed]
  exact processImageGPSData_parses cfg.env r.monitor (r.image cfg f)

theorem shows_frame (cfg : SimSettings) (f : SimInput) (h : Shows r.monitor) :
    Shows (r.frame cfg f).monitor :=
  h.processImageGPSData rfl (holds_image cfg r f).valid

theorem area_words (cfg : SimSettings) (r : SimRun) (f : SimInput) :
    (areaFeed (r.image cfg f) 341 (r.chunk cfg f).length).map Prod.snd = r.chunk cfg f := by
  rw [← (holds_image cfg r f).feed]
  exact (holds_image cfg r f).feed_words

/-- A frame that does not begin behind a type word -/
theorem Follows.frame (h : Follows r) (hr : Sends cfg n r) (hdone : (Layout.after cfg n).done ≠ 2)
    (f : SimInput) : Follows (r.frame cfg f) := by
  have hstate : r.monitor.parser.gpsMsgParseState ≠ 2 := by
    intro hs
    apply hdone
    rw [← hr.scan.2]
    exact h.tracks.state_two_iff.mp hs
  obtain ⟨hparser, hmessages⟩ := monitor_frame cfg r f
  obtain ⟨htracks, hwords⟩ := @MsgParser.Tracks.parse_area _ _ h.tracks (r.image cfg f) 341
    (r.chunk cfg f).length fun _ hs => absurd hs hstate
  rw [area_words] at htracks hwords
  constructor
  · rw [hparser, gpsStream_frame, MessageFormat.pending_append]
    exact htracks
  · rw [hmessages, gpsStream_frame, MessageFormat.emitted_append, h.messages, hwords]
  · exact shows_frame cfg f h.shows

theorem filter_fixes (ms : List SimMessage) :
    ((ms.map SimMessage.words).filter fun msg => !is3500 msg).map add3501 =
      ms.filterMap SimMessage.fix? := by
  induction ms with
  | nil => rfl
  | cons m ms ih =>
    cases m with
    | m3500 gpsMode systemStatus => exact ih
    | m3501 fix => exact congrArg₂ List.cons (add3501_words fix) ih

theorem filter_status (ms : List SimMessage) :
    (ms.map SimMessage.words).filter is3500 =
      (ms.filterMap SimMessage.status?).map fun s => (SimMessage.m3500 s.1 s.2).words := by
  induction ms with
  | nil => rfl
  | cons m ms ih =>
    cases m with
    | m3500 gpsMode systemStatus => exact congrArg _ ih
    | m3501 fix => exact ih

theorem Follows.roundTrip (h : Follows r) (hr : Sends cfg n r) : RoundTrip r := by
  have hdecoded : r.monitor.messages = r.placed.map SimMessage.words :=
    h.messages.trans hr.scan.1
  refine ⟨hr.buffers.order, hr.buffers.held, hr.buffers.bounded, hdecoded, ?_, ?_⟩
  · rw [h.shows.added, hdecoded]
    exact filter_fixes r.placed
  · intro gpsMode systemStatus hlast
    have hmsg : (r.monitor.messages.filter is3500).getLast? =
        some (SimMessage.m3500 gpsMode systemStatus).words := by
      rw [hdecoded, filter_status, List.getLast?_map, hlast]
      rfl
    exact h.shows.status _ hmsg

/-- No frame up to number `n` ends behind a type word. -/
def SplitFree (cfg : SimSettings) (n : ℕ) : Prop := ∀ k < n, (Layout.after cfg k).done ≠ 2

theorem follows_run (inputs : List SimInput) (h : SplitFree cfg inputs.length) :
    Follows (run cfg inputs) := by
  induction inputs using List.reverseRecOn with
  | nil => exact follows_initial
  | append_singleton inputs f ih =>
    rw [List.length_append] at h
    rw [run, List.foldl_concat]
    apply (ih fun k hk => h k (Nat.lt_succ_of_lt hk)).frame (sends_run cfg inputs)
    exact h inputs.length (Nat.lt_succ_self _)

theorem roundTrip_of_splitFree (inputs : List SimInput) (h : SplitFree cfg inputs.length) :
    RoundTrip (run cfg inputs) := (follows_run inputs h).roundTrip (sends_run cfg inputs)

/-! ### A message that is lost -/

/-- Without a magic number in it, a message whose beginning is lost is passed over. -/
def Calm (m : SimMessage) : Prop := gpsMagicNumber ∉ m.words.drop 3

instance (m : SimMessage) : Decidable (Calm m) := inferInstanceAs (Decidable (_ ∉ _))

/-- The first pending message, of which two words have been placed. -/
theorem Sends.split_head (h : Sends cfg n r) (hdone : (Layout.after cfg n).done = 2) :
    ∃ m ms, (advance SimMessage.size (gpsStream r.images).length
        r.simulator.enqueued).2 = ⟨m :: ms, 2⟩ ∧ m ∈ r.simulator.enqueued ∧
      m.words.drop 2 <+: r.simulator.msgSimBuf := by
  rw [h.buffers.layout] at hdone
  have hsent : (advance (fun m : SimMessage => m.words.length) (gpsStream r.images).length
    r.simulator.enqueued).2.done = 2 := hdone
  obtain ⟨m, ms, hitems⟩ := @items_of_done _ _ SimMessage.words (gpsStream r.images).length
    r.simulator.enqueued (hsent ▸ Nat.two_pos)
  have hmem := @advance_items _ SimMessage.size (gpsStream r.images).length r.simulator.enqueued
  rw [show (advance SimMessage.size _ _).2.items = m :: ms from hitems] at hmem
  refine ⟨m, ms, ?_, hmem ▸ List.mem_append_right _ List.mem_cons_self, ?_⟩
  · rw [← hsent, ← hitems]
    rfl
  · have hlong : 2 ≤ m.words.length := (isMessage_length (isMessage_words m)).trans' (by decide)
    have hrest := @drop_flatMap _ _ SimMessage.words (gpsStream r.images).length
      r.simulator.enqueued
    rw [← h.buffers.order, List.drop_left, hitems, List.flatMap_cons] at hrest
    rw [hrest, hsent, List.drop_append_of_le_length hlong]
    exact List.prefix_append _ _

theorem simulator_frame (cfg : SimSettings) (r : SimRun) (f : SimInput) :
    (r.frame cfg f).simulator =
      { r.simulator.fill cfg (r.frameCount + 1) f with
        msgSimBuf := (r.simulator.fill cfg (r.frameCount + 1) f).msgSimBuf.drop maxChunk } :=
  placeChunk_state _ _

theorem enqueued_frame (cfg : SimSettings) (r : SimRun) (f : SimInput) :
    r.simulator.enqueued <+: (r.frame cfg f).simulator.enqueued := by
  rw [simulator_frame]
  exact (behind_fill cfg r.simulator (r.frameCount + 1) f).enqueued

/-- The frame behind a type word: the parser gives the message up. -/
theorem Follows.frame_lost (h : Follows r) (hr : Sends cfg n r)
    (hdone : (Layout.after cfg n).done = 2) {w : UInt16} {ws : List UInt16}
    (hchunk : r.chunk cfg f = w :: ws) (hw : w ≠ gpsMagicNumber) :
    (r.frame cfg f).monitor.parser.Tracks (gpsFormat.pending [] ws) ∧
      (r.frame cfg f).monitor.messages = r.monitor.messages := by
  have hholds := holds_image cfg r f
  have hwords := area_words cfg r f
  rw [hchunk, List.length_cons, areaFeed_succ, List.map_cons, List.cons.injEq] at hwords
  have hshort : ws.length + 1 ≤ maxChunk := by
    have := hholds.short
    rwa [hchunk] at this
  have htype : isMsgType (r.image cfg f 341) = false := by
    rw [hholds.count, hchunk]
    exact (by decide : ∀ k ≤ 21, isMsgType (UInt16.ofNat k) = false) _ hshort
  have hfirst : r.image cfg f 342 = w := hwords.1
  have hkept : (gpsFormat.pending [] (gpsStream r.images)).length = 2 := hr.scan.2.trans hdone
  obtain ⟨hparser, hmessages⟩ := monitor_frame cfg r f
  obtain ⟨htracks, hemitted⟩ := @MsgParser.Tracks.parse_lost _ _ h.tracks hkept (r.image cfg f) 341
    ws.length htype fun hmagic => hw (hfirst.symm.trans hmagic)
  rw [hwords.2] at htracks hemitted
  rw [hchunk, List.length_cons] at hparser hmessages
  constructor
  · rw [hparser]
    exact htracks
  · rw [hmessages, hemitted, MsgParser.emitted_of_short (lt_of_lt_of_le hshort (by decide)),
      List.append_nil]

/-- A frame whose words begin no message that is already under way -/
theorem messages_frame_idle (h : r.monitor.parser.Tracks []) (f : SimInput) :
    (r.frame cfg f).monitor.messages = r.monitor.messages := by
  have hstate : r.monitor.parser.gpsMsgParseState ≠ 2 := by
    intro hs
    cases h.state_two_iff.mp hs
  have hemitted := (@MsgParser.Tracks.parse_area _ _ h (r.image cfg f) 341
    (r.chunk cfg f).length fun _ hs => absurd hs hstate).2
  have hshort : (r.chunk cfg f).length < 22 :=
    lt_of_le_of_lt (holds_image cfg r f).short (by decide)
  rw [(monitor_frame cfg r f).2, hemitted, area_words, MsgParser.emitted_of_short hshort,
    List.append_nil]

/-- The message has been placed, but no message has been decoded. -/
theorem Follows.not_roundTrip {t : SimRun} {k : ℕ} {m : SimMessage} {ms : List SimMessage}
    (h : Follows r) (hr : Sends cfg n r)
    (hsplit : (advance SimMessage.size (gpsStream r.images).length
      r.simulator.enqueued).2 = ⟨m :: ms, 2⟩)
    (hmessages : t.monitor.messages = r.monitor.messages)
    (hmore : r.simulator.enqueued <+: t.simulator.enqueued)
    (hstream : (gpsStream t.images).length = (gpsStream r.images).length + k)
    (hk : m.size ≤ 2 + k) : ¬RoundTrip t := by
  intro ht
  obtain ⟨more, hmore⟩ := hmore
  have hgrows := @advance_grows _ _ SimMessage.size_pos _ k m r.simulator.enqueued ms more
    hr.buffers.placed_le (by rw [hsplit]) (by rw [hsplit]; exact hk)
  have hplaced : t.placed.map SimMessage.words = r.placed.map SimMessage.words := by
    rw [← ht.decoded, hmessages, h.messages, hr.scan.1]
  have hlength := congrArg List.length hplaced
  rw [List.length_map, List.length_map, placed, placed, hstream, ← hmore] at hlength
  omega

/-- What the next frame takes from a message of which two words have been placed. -/
theorem chunk_split {m : SimMessage} (hbuf : m.words.drop 2 <+: r.simulator.msgSimBuf) :
    ∃ more, (r.simulator.fill cfg (r.frameCount + 1) f).msgSimBuf = m.words.drop 2 ++ more ∧
      r.chunk cfg f = (m.words.drop 2 ++ more).take 21 := by
  obtain ⟨more, hmore⟩ := hbuf.trans (behind_fill cfg r.simulator (r.frameCount + 1) f).msgSimBuf
  refine ⟨more, hmore.symm, ?_⟩
  rw [hmore]
  rfl

/-- The next frame has all the rest of a 3500 message. -/
theorem Follows.lost_3500 (h : Follows r) (hr : Sends cfg n r)
    (hdone : (Layout.after cfg n).done = 2) {gpsMode systemStatus : UInt16} {ms : List SimMessage}
    (hsplit : (advance SimMessage.size (gpsStream r.images).length
      r.simulator.enqueued).2 = ⟨.m3500 gpsMode systemStatus :: ms, 2⟩)
    (hbuf : (SimMessage.m3500 gpsMode systemStatus).words.drop 2 <+: r.simulator.msgSimBuf)
    (f : SimInput) : ¬RoundTrip (r.frame cfg f) := by
  obtain ⟨more, -, hchunk⟩ := @chunk_split cfg r f _ hbuf
  have hstream := congrArg List.length (gpsStream_frame cfg r f)
  rw [List.length_append] at hstream
  have hlost := h.frame_lost hr hdone hchunk (by decide)
  have hlength : 20 ≤ (r.chunk cfg f).length := by
    rw [hchunk, List.length_take, List.length_append]
    exact le_min (by decide) (Nat.le_add_right 20 _)
  apply h.not_roundTrip hr hsplit hlost.2 (enqueued_frame cfg r f) hstream
  rw [size_m3500, gpsMsg3500Words]
  omega

/-- The rest of a 3501 message takes two frames. -/
theorem Follows.lost_3501 (h : Follows r) (hr : Sends cfg n r)
    (hdone : (Layout.after cfg n).done = 2) {fix : NavFix} {ms : List SimMessage}
    (hsplit : (advance SimMessage.size (gpsStream r.images).length
      r.simulator.enqueued).2 = ⟨.m3501 fix :: ms, 2⟩)
    (hbuf : (SimMessage.m3501 fix).words.drop 2 <+: r.simulator.msgSimBuf)
    (hcalm : Calm (.m3501 fix)) (f g : SimInput) : ¬RoundTrip ((r.frame cfg f).frame cfg g) := by
  obtain ⟨more, hmore, hchunk⟩ := @chunk_split cfg r f _ hbuf
  have hstream := congrArg List.length (gpsStream_frame cfg r f)
  have hstream' := congrArg List.length (gpsStream_frame cfg (r.frame cfg f) g)
  rw [List.length_append] at hstream
  rw [List.length_append, hstream, Nat.add_assoc] at hstream'
  let rest := (SimMessage.m3501 fix).words.drop 3
  have hrest : (rest ++ more).take 20 = rest.take 20 :=
    List.take_append_of_le_length (by decide : 20 ≤ 25)
  have hlost := h.frame_lost hr hdone (hchunk.trans (congrArg (22 :: ·) hrest)) (by decide)
  have hmagic : gpsMagicNumber ∉ rest.take 20 := fun hin => hcalm (List.mem_of_mem_take hin)
  have hidle := @messages_frame_idle cfg _ (MsgParser.pending_of_not_magic hmagic ▸ hlost.1) g
  have hfull : (r.chunk cfg f).length = 21 := by
    rw [hchunk]
    rfl
  have hleft : 5 ≤ (r.frame cfg f).simulator.msgSimBuf.length := by
    rw [simulator_frame]
    show 5 ≤ (List.drop maxChunk _).length
    rw [List.length_drop, hmore, List.length_append]
    show 5 ≤ 26 + more.length - 21
    omega
  have hnext : 5 ≤ ((r.frame cfg f).chunk cfg g).length := by
    rw [chunk, List.length_take]
    exact le_min (by decide) (hleft.trans (behind_fill cfg _ _ g).msgSimBuf.length_le)
  apply h.not_roundTrip hr hsplit (hidle.trans hlost.2)
    ((enqueued_frame cfg r f).trans (enqueued_frame cfg _ g)) hstream'
  rw [size_m3501, gpsMsg3501Words]
  omega

/-! ### Calm runs -/

/-- A frame with an empty picture and a trajectory that stays at zero. -/
def calm : SimInput where
  pixels := fun _ => 0
  frameCountAtGPSInit := ~~~0
  gpsInitMode := .ground
  trajectory := fun _ => ⟨0, 0, 0, 0, 0⟩

def calmRun (cfg : SimSettings) (n : ℕ) : SimRun := run cfg (List.replicate n calm)

theorem calmRun_succ (cfg : SimSettings) (n : ℕ) :
    calmRun cfg (n + 1) = (calmRun cfg n).frame cfg calm := by
  rw [calmRun, List.replicate_succ', run, List.foldl_concat]
  rfl

theorem sends_calmRun (cfg : SimSettings) (n : ℕ) : Sends cfg n (calmRun cfg n) := by
  have h := sends_run cfg (List.replicate n calm)
  rwa [List.length_replicate] at h

theorem calm_m3500 (frameCount : UInt32) (f : SimInput) :
    Calm (.m3500 (GpsSimulator.nextGpsMode frameCount f) 1) := by
  unfold GpsSimulator.nextGpsMode
  split_ifs <;> decide

theorem calm_m3501 (gpsMode : UInt16) :
    Calm (.m3501 (GpsSimulator.navFix gpsMode ⟨0, 0, 0, 0, 0⟩)) := by
  unfold GpsSimulator.navFix
  split_ifs <;> decide

theorem calm_push {s : GpsSimulator} {m : SimMessage} (hs : ∀ x ∈ s.enqueued, Calm x)
    (hm : Calm m) : ∀ x ∈ (s.push m).enqueued, Calm x := by
  intro x hx
  rcases List.mem_append.mp hx with hold | hnew
  · exact hs x hold
  · rw [List.mem_singleton.mp hnew]
    exact hm

theorem calm_calmRun (cfg : SimSettings) (n : ℕ) :
    ∀ m ∈ (calmRun cfg n).simulator.enqueued, Calm m := by
  induction n with
  | zero => exact fun m hm => by cases hm
  | succ n ih =>
    rw [calmRun_succ, simulator_frame]
    apply @fill_invariant fun t => ∀ m ∈ t.enqueued, Calm m
    · intro t ht
      exact calm_push ht (calm_m3500 _ _)
    · intro t ht
      exact calm_push ht (calm_m3501 _)
    · exact ih

/-- A calm run does not survive the first frame that ends behind a type word. -/
theorem calmRun_fails (h : SplitFree cfg n) (hdone : (Layout.after cfg n).done = 2) :
    ¬RoundTrip (calmRun cfg (n + 1)) ∨ ¬RoundTrip (calmRun cfg (n + 2)) := by
  have hr := sends_calmRun cfg n
  have hfollows : Follows (calmRun cfg n) :=
    follows_run (List.replicate n calm) (by rwa [List.length_replicate])
  obtain ⟨m, ms, hsplit, hmem, hbuf⟩ := hr.split_head hdone
  rw [calmRun_succ, calmRun_succ, calmRun_succ]
  cases m with
  | m3500 gpsMode systemStatus => exact Or.inl (hfollows.lost_3500 hr hdone hsplit hbuf calm)
  | m3501 fix =>
    exact Or.inr (hfollows.lost_3501 hr hdone hsplit hbuf (calm_calmRun cfg n _ hmem) calm calm)

/-- A 3500 message that is split is lost with the next frame. -/
theorem calmRun_fails_3500 (h : SplitFree cfg n) {sizes : List ℕ}
    (hlayout : Layout.after cfg n = ⟨gpsMsg3500Words :: sizes, 2⟩) :
    ¬RoundTrip (calmRun cfg (n + 1)) := by
  have hr := sends_calmRun cfg n
  have hfollows : Follows (calmRun cfg n) :=
    follows_run (List.replicate n calm) (by rwa [List.length_replicate])
  have hdone : (Layout.after cfg n).done = 2 := congrArg Pending.done hlayout
  obtain ⟨m, ms, hsplit, -, hbuf⟩ := hr.split_head hdone
  rw [calmRun_succ]
  cases m with
  | m3500 gpsMode systemStatus => exact hfollows.lost_3500 hr hdone hsplit hbuf calm
  | m3501 fix =>
    have hitems := congrArg Pending.items (hr.buffers.layout.symm.trans hlayout)
    rw [layoutOf, hsplit] at hitems
    have hsize := (List.cons.inj hitems).1
    rw [size_m3501] at hsize
    exact absurd hsize (by decide)

theorem roundTrip_iff_splitFree (cfg : SimSettings) :
    (∀ inputs, RoundTrip (run cfg inputs)) ↔ ∀ n, (Layout.after cfg n).done ≠ 2 := by
  constructor
  · intro h
    by_contra hsplit
    push Not at hsplit
    rcases calmRun_fails (fun k hk => Nat.find_min hsplit hk) (Nat.find_spec hsplit) with hk | hk
    · exact hk (h _)
    · exact hk (h _)
  · exact fun h inputs => roundTrip_of_splitFree inputs fun k _ => h k

/-- The round trip works in every run exactly when there are no 3500 messages, or at least 20
frames between the PPS pulses. -/
theorem round_trip_iff (cfg : SimSettings) :
    (∀ inputs, RoundTrip (run cfg inputs)) ↔
      cfg.gpsSim = .allBut3 ∨ 20 ≤ ppsInterval cfg.frameRateHz :=
  (roundTrip_iff_splitFree cfg).trans (Layout.unsplit_iff cfg)

/-! ### The frame rates of the frame buffer -/

/-- A run with a frame size and a frame rate of the frame buffer. -/
def ofFrameBuffer (gpsSim : GpsSim) (hsim : gpsSim ≠ .none) (headless : Bool) (fh fw i : ℕ)
    (hfh : fh ∈ Recorder.frameHeightsLines) (hfw : fw ∈ frameWidthsSamples)
    (hi : i < Recorder.numFrameRates) : SimSettings where
  gpsSim := gpsSim
  frameRateHz := Recorder.availableFrameRateInHz fh fw i
  frameWidthSamples := fw
  headless := headless
  simulated := hsim
  interval_pos := (by decide +kernel : ∀ fh ∈ Recorder.frameHeightsLines,
    ∀ fw ∈ frameWidthsSamples, ∀ i < Recorder.numFrameRates,
      0 < ppsInterval (Recorder.availableFrameRateInHz fh fw i)) fh hfh fw hfw i hi
  width_mem := hfw

/-- The frame rates that are fast enough: all of them with 285 lines, and with 481 lines unless
both the lines are long and the rate is one of the two lowest; with 1024 lines the highest
one, and with short lines the one below it. -/
theorem fast_frameRate_iff : ∀ fh ∈ Recorder.frameHeightsLines, ∀ fw ∈ frameWidthsSamples,
    ∀ i < Recorder.numFrameRates,
      20 ≤ ppsInterval (Recorder.availableFrameRateInHz fh fw i) ↔
        fh = 285 ∨ fh = 481 ∧ (fw = 640 ∨ 2 ≤ i) ∨ fh = 1024 ∧ (i = 6 ∨ fw = 640 ∧ i = 5) := by
  decide +kernel

/-- 1024 lines of 1024 samples at the lowest rate, 4.47 Hz -/
def slow : SimSettings :=
  ofFrameBuffer .all (by decide) true 1024 1024 0 (by decide) (by decide) (by decide)

/-- The 24th frame ends behind a type word, and the 3500 message that the 25th frame brings to
its end is not decoded. -/
theorem slow_rate_loses_3500 : ¬RoundTrip (calmRun slow 25) := by
  have hlayouts : (∀ k < 24, (Layout.timed true 4 k).done ≠ 2) ∧
      Layout.timed true 4 24 = ⟨[22], 2⟩ := by
    decide +kernel
  have hinterval : ppsInterval slow.frameRateHz = 4 := by
    decide +kernel
  have hafter (k : ℕ) : Layout.after slow k = Layout.timed true 4 k := by
    rw [Layout.after_eq_timed, hinterval]
    rfl
  apply calmRun_fails_3500
  · intro k hk
    rw [hafter]
    exact hlayouts.1 k hk
  · rw [hafter]
    exact hlayouts.2

end SimRun

end Gps
