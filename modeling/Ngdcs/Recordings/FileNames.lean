import Ngdcs.Recordings.Orphans

/-! The names that `DisplayTab` gives to the recorded files (`displayTab.cpp`), and that the scan
reads the times in them back. -/
namespace Recordings

open CStrings ExchangeSort Ftp

/-! ### The calendar -/

variable {time : ℤ}

/-- Centuries of 36524 days, four years of 1461 and years of 365, and what is left. Only the last
year of four has a day more, and of a century only in the last one. -/
theorem era_split {day : ℤ} (hpos : 0 ≤ day) (hlt : day ≤ 146096) : ∃ c q y d : ℤ,
    day = 36524 * c + 1461 * q + 365 * y + d ∧ (0 ≤ c ∧ c ≤ 3) ∧ (0 ≤ q ∧ q ≤ 24) ∧
      (0 ≤ y ∧ y ≤ 3) ∧ (0 ≤ d ∧ d ≤ 365) ∧ (d = 365 → y = 3 ∧ (q = 24 → c = 3)) := by
  obtain ⟨c, rest, hc⟩ : ∃ c rest : ℤ, day = 36524 * c + rest ∧ 0 ≤ c ∧ c ≤ 3 ∧ 0 ≤ rest ∧
      (rest ≤ 36523 ∨ rest = 36524 ∧ c = 3) :=
    ⟨min (day / 36524) 3, day - 36524 * min (day / 36524) 3, by omega⟩
  obtain ⟨q, rest', hq⟩ : ∃ q rest' : ℤ, rest = 1461 * q + rest' ∧ 0 ≤ q ∧ q ≤ 24 ∧ 0 ≤ rest' ∧
      rest' ≤ 1460 :=
    ⟨rest / 1461, rest % 1461, by omega⟩
  obtain ⟨y, d, hy⟩ : ∃ y d : ℤ, rest' = 365 * y + d ∧ 0 ≤ y ∧ y ≤ 3 ∧ 0 ≤ d ∧
      (d ≤ 364 ∨ d = 365 ∧ y = 3) :=
    ⟨min (rest' / 365) 3, rest' - 365 * min (rest' / 365) 3, by omega⟩
  exact ⟨c, q, y, d, by omega, by omega, by omega, by omega, by omega, by omega⟩

/-- The days of the leap years are taken off, so that all years have 365. -/
theorem yearOfEra_eq {c q y d : ℤ} (hc : 0 ≤ c ∧ c ≤ 3) (hq : 0 ≤ q ∧ q ≤ 24)
    (hy : 0 ≤ y ∧ y ≤ 3) (hd : 0 ≤ d ∧ d ≤ 365) (hleap : d = 365 → y = 3 ∧ (q = 24 → c = 3)) :
    let day := 36524 * c + 1461 * q + 365 * y + d
    (day - day / 1460 + day / 36524 - day / 146096) / 365 = 100 * c + 4 * q + y := by
  intro day
  have hera : day / 146096 = if 365 * y + d = 1460 ∧ q = 24 then 1 else 0 := by
    split_ifs <;> omega
  have hcenturies : day / 36524 = c + if 365 * y + d = 1460 ∧ q = 24 then 1 else 0 := by
    split_ifs <;> omega
  have hleaps : day / 1460 = 25 * c + q + if 1460 ≤ 24 * c + q + 365 * y + d then 1 else 0 := by
    split_ifs <;> omega
  rw [hera, hcenturies, hleaps]
  split_ifs <;> omega

/-- The day of the era as its year and the day of the year, which begins in March. -/
theorem yearOfEra_spec {day : ℤ} (hpos : 0 ≤ day) (hlt : day ≤ 146096) :
    let year := (day - day / 1460 + day / 36524 - day / 146096) / 365
    (0 ≤ year ∧ year ≤ 399) ∧ 0 ≤ day - (365 * year + year / 4 - year / 100) ∧
      day - (365 * year + year / 4 - year / 100) ≤ 365 := by
  obtain ⟨c, q, y, d, rfl, hc, hq, hy, hd, hleap⟩ := era_split hpos hlt
  rw [yearOfEra_eq hc hq hy hd hleap]
  have hfours : (100 * c + 4 * q + y) / 4 = 25 * c + q := by omega
  have hcenturies : (100 * c + 4 * q + y) / 100 = c := by omega
  intro year
  dsimp only [year]
  rw [hfours, hcenturies]
  omega

/-- A day of a year that begins in March, as month and day. -/
theorem daysFromCivil_march {era year day : ℤ} (hyear : 0 ≤ year ∧ year ≤ 399) (hday : 0 ≤ day)
    (hlt : day ≤ 365) :
    let month := (5 * day + 2) / 153
    let y := year + era * 400
    let m := if month < 10 then month + 3 else month - 9
    let d := day - (153 * month + 2) / 5 + 1
    daysFromCivil (if m ≤ 2 then y + 1 else y) m d =
        era * 146097 + (year * 365 + year / 4 - year / 100 + day) - 719468 ∧
      (1 ≤ m ∧ m ≤ 12) ∧ 1 ≤ d ∧ d ≤ 31 := by
  intro month y m d
  have hmonth : 0 ≤ month ∧ month ≤ 11 := by omega
  have hera : y / 400 = era := by omega
  have hd : 1 ≤ d ∧ d ≤ 31 := by omega
  by_cases hlate : month < 10
  · have hm : m = month + 3 := if_pos hlate
    have hspring : ¬m ≤ 2 := by omega
    refine ⟨?_, by omega, hd⟩
    unfold daysFromCivil
    simp only [if_neg hspring]
    rw [hera, show y - era * 400 = year by omega]
    omega
  · have hm : m = month - 9 := if_neg hlate
    have hwinter : m ≤ 2 := by omega
    refine ⟨?_, by omega, hd⟩
    unfold daysFromCivil
    simp only [if_pos hwinter]
    rw [show y + 1 - 1 = y by omega, hera, show y - era * 400 = year by omega]
    omega

/-- What `civilFromDays` returns is a month and a day of it, and `daysFromCivil` takes it back. -/
theorem civilFromDays_spec (days : ℤ) :
    let date := civilFromDays days
    daysFromCivil date.1 date.2.1 date.2.2 = days ∧ (1 ≤ date.2.1 ∧ date.2.1 ≤ 12) ∧
      1 ≤ date.2.2 ∧ date.2.2 ≤ 31 := by
  obtain ⟨hyear, hday, hlt⟩ := @yearOfEra_spec
    (days + 719468 - (days + 719468) / 146097 * 146097) (by omega) (by omega)
  obtain ⟨hdays, hrange⟩ := @daysFromCivil_march ((days + 719468) / 146097) _ _ hyear hday hlt
  exact ⟨hdays.trans (by omega), hrange⟩

/-- `timegm` undoes `gmtime`. -/
theorem timegm_gmtime (time : ℤ) : timegm (gmtime time) = (time, gmtime time) := by
  have hseconds : seconds (gmtime time) = time := by
    have hspec := civilFromDays_spec (time / 86400)
    unfold seconds gmtime
    dsimp only at hspec ⊢
    generalize civilFromDays (time / 86400) = date at hspec ⊢
    obtain ⟨y, m, d⟩ := date
    obtain ⟨hdays, hmonth, -⟩ := hspec
    dsimp only at hdays hmonth ⊢
    rw [show y - 1900 + 1900 + (m - 1) / 12 = y by omega, show (m - 1) % 12 + 1 = m by omega, hdays]
    omega
  rw [timegm, hseconds]

/-- The fields of `gmtime` that have two digits are in the ranges that `strptime` takes. -/
theorem gmtime_ranges (time : ℤ) :
    let t := gmtime time
    (0 ≤ t.mon ∧ t.mon ≤ 11) ∧ (1 ≤ t.mday ∧ t.mday ≤ 31) ∧ (0 ≤ t.hour ∧ t.hour ≤ 23) ∧
      (0 ≤ t.min ∧ t.min ≤ 59) ∧ 0 ≤ t.sec ∧ t.sec ≤ 59 := by
  obtain ⟨-, hmonth, hday⟩ := civilFromDays_spec (time / 86400)
  dsimp only [gmtime]
  omega

/-! ### Digits -/

/-- The digits of a number with so many digits at most, with zeros in front. -/
def padded : ℕ → ℕ → List UInt8
  | 0, _ => []
  | places + 1, n => padded places (n / 10) ++ [.ofNat (48 + n % 10)]

theorem length_padded (places n : ℕ) : (padded places n).length = places := by
  induction places generalizing n with
  | zero => rfl
  | succ places ih => rw [padded, List.length_append, ih, List.length_singleton]

theorem isDigit_digit {d : ℕ} (hd : d < 10) : isDigit (.ofNat (48 + d)) = true := by
  interval_cases d <;> rfl

theorem toNat_digit {d : ℕ} (hd : d < 10) : (UInt8.ofNat (48 + d)).toNat - 48 = d := by
  interval_cases d <;> rfl

/-- `takeNumber` reads the digits of a number up to `hi`. -/
theorem takeNumber_padded {hi n : ℕ} (places : ℕ) (hle : n ≤ hi) (hlt : n < 10 ^ places)
    (more : ℕ) (rest : List UInt8) :
    takeNumber hi (places + more) 0 (padded places n ++ rest) = takeNumber hi more n rest := by
  induction places generalizing n more rest with
  | zero =>
    obtain rfl : n = 0 := by simpa using hlt
    rw [padded, List.nil_append, Nat.zero_add]
  | succ places ih =>
    have hdigit : n % 10 < 10 := Nat.mod_lt n (by decide)
    have htens : n / 10 * 10 ≤ hi := le_trans (Nat.div_mul_le_self n 10) hle
    have hshort : n / 10 < 10 ^ places := by
      rw [Nat.div_lt_iff_lt_mul (by decide)]
      rwa [pow_succ] at hlt
    rw [padded, List.append_assoc, Nat.add_assoc, Nat.add_comm 1 more,
      ih (le_trans (Nat.div_le_self n 10) hle) hshort, List.singleton_append, takeNumber,
      if_pos ⟨isDigit_digit hdigit, htens⟩, toNat_digit hdigit, Nat.div_add_mod']

theorem getNumber_padded {lo hi n : ℕ} (places : ℕ) (hlo : lo ≤ n) (hle : n ≤ hi)
    (hlt : n < 10 ^ (places + 1)) (rest : List UInt8) :
    getNumber lo hi (places + 1) (padded (places + 1) n ++ rest) = some (n, rest) := by
  have hhead : ∃ d tail, d < 10 ∧ padded (places + 1) n ++ rest = .ofNat (48 + d) :: tail := by
    clear hlo hle hlt
    induction places generalizing n rest with
    | zero => exact ⟨n % 10, rest, Nat.mod_lt n (by decide), rfl⟩
    | succ places ih =>
      obtain ⟨d, tail, hd, heq⟩ := @ih (n / 10) (.ofNat (48 + n % 10) :: rest)
      exact ⟨d, tail, hd, by rw [padded, List.append_assoc, List.singleton_append, heq]⟩
  have hread := takeNumber_padded (places + 1) hle hlt 0 rest
  have hstop : takeNumber hi 0 n rest = (n, rest) := by cases rest <;> rfl
  obtain ⟨d, tail, hd, heq⟩ := hhead
  have hblank : (UInt8.ofNat (48 + d) :: tail).dropWhile (· = 32) = .ofNat (48 + d) :: tail := by
    interval_cases d <;> rfl
  rw [Nat.add_zero, hstop, heq] at hread
  rw [heq]
  unfold getNumber
  simp only [hblank, List.head?_cons, Option.map_some, Option.getD_some, isDigit_digit hd, if_true,
    hread, hlo, hle, and_self]

theorem strptime_padded {lo hi places n : ℕ} {store : ℕ → Tm → Tm} {format : List Directive}
    {rest : List UInt8} {u : Tm} (hlo : lo ≤ n) (hle : n ≤ hi) (hlt : n < 10 ^ (places + 1)) :
    strptime (.number ⟨lo, hi, places + 1, store⟩ :: format) (padded (places + 1) n ++ rest) u =
      strptime format rest (store n u) :=
  @strptime_number_some ⟨lo, hi, places + 1, store⟩ format _ rest n u
    (getNumber_padded places hlo hle hlt rest)

/-- `%d` of a number that has exactly so many digits. -/
theorem printDigits_eq_padded {fuel n places : ℕ} (hfuel : n < fuel) (hge : 10 ^ places ≤ n)
    (hlt : n < 10 ^ (places + 1)) : printDigits fuel n = padded (places + 1) n := by
  induction places generalizing fuel n with
  | zero =>
    obtain ⟨fuel, rfl⟩ := Nat.exists_eq_succ_of_ne_zero (Nat.ne_of_gt (Nat.zero_lt_of_lt hfuel))
    rw [printDigits, if_pos (by omega), padded, padded, List.nil_append,
      Nat.mod_eq_of_lt (by omega)]
  | succ places ih =>
    obtain ⟨fuel, rfl⟩ := Nat.exists_eq_succ_of_ne_zero (Nat.ne_of_gt (Nat.zero_lt_of_lt hfuel))
    have hpow : 1 ≤ 10 ^ places := Nat.one_le_pow _ _ (by decide)
    rw [pow_succ] at hge hlt
    rw [printDigits, if_neg (by omega), padded, ih (by omega) (by omega) (by omega)]

theorem printInt_eq_padded {year : ℤ} (hge : 1000 ≤ year) (hle : year ≤ 9999) :
    printInt year = padded 4 year.toNat := by
  rw [printInt, if_neg (by omega), printNat, show year.natAbs = year.toNat by omega]
  exact printDigits_eq_padded (Nat.lt_succ_self _) (by omega) (by omega)

/-! ### The names -/

/-- `strftime(timeString, ..., "%Y%m%dt%H%M%S", &tm_struct)` of `gmtime` -/
def timeString (time : ℤ) : List UInt8 :=
  let t := gmtime time
  printInt (t.year + 1900) ++ padded 2 (t.mon + 1).toNat ++ padded 2 t.mday.toNat ++
    116 :: (padded 2 t.hour.toNat ++ padded 2 t.min.toNat ++ padded 2 t.sec.toNat)

/-- The name of a recorded file: `imagefile` of `openFiles`, and the names that `cleanupForExit`
and the constructor give to the end-to-end files. -/
def recordedName (currentPrefix : List UInt8) (time : ℤ) (type : RecordingType) : List UInt8 :=
  currentPrefix ++ timeString time ++ type.suffix

example : recordedName (bytes "ang") 1704164645 .flightLine = bytes "ang20240102t030405_raw" := by
  decide

/-- The year has four digits. -/
def FourDigits (time : ℤ) : Prop :=
  1000 ≤ (gmtime time).year + 1900 ∧ (gmtime time).year + 1900 ≤ 9999

instance (time : ℤ) : Decidable (FourDigits time) := inferInstanceAs (Decidable (_ ∧ _))

theorem length_timeString (h : FourDigits time) : (timeString time).length = 15 := by
  unfold timeString
  simp only [printInt_eq_padded h.1 h.2, List.length_append, List.length_cons, length_padded]

/-- `strptime` reads back what `strftime` has written. -/
theorem strptime_timeString (h : FourDigits time) (rest : List UInt8) (u : Tm) :
    strptime startFormat (timeString time ++ rest) u = (true, gmtime time) := by
  have hformat : startFormat = [.number ⟨0, 9999, 4, fun n t => { t with year := n - 1900 }⟩,
      .number ⟨1, 12, 2, fun n t => { t with mon := n - 1 }⟩,
      .number ⟨1, 31, 2, fun n t => { t with mday := n }⟩, .literal 116,
      .number ⟨0, 23, 2, fun n t => { t with hour := n }⟩,
      .number ⟨0, 59, 2, fun n t => { t with min := n }⟩,
      .number ⟨0, 61, 2, fun n t => { t with sec := n }⟩] := rfl
  obtain ⟨hmon, hmday, hhour, hmin, hsec⟩ := gmtime_ranges time
  obtain ⟨hge, hle⟩ := h
  unfold timeString
  generalize gmtime time = t at hmon hmday hhour hmin hsec hge hle ⊢
  rw [hformat]
  simp only [printInt_eq_padded hge hle, List.append_assoc, List.cons_append]
  rw [strptime_padded (by omega) (by omega) (by omega), strptime_padded (by omega) (by omega)
    (by omega), strptime_padded (by omega) (by omega) (by omega), strptime_literal,
    strptime_padded (by omega) (by omega) (by omega), strptime_padded (by omega) (by omega)
    (by omega), strptime_padded (by omega) (by omega) (by omega)]
  obtain ⟨year, mon, mday, hour, min, sec⟩ := t
  dsimp only at hmon hmday hhour hmin hsec hge hle ⊢
  simp only [strptime, Prod.mk.injEq, true_and, Tm.mk.injEq]
  omega

/-- Each suffix begins with the last underscore of the name. -/
theorem suffix_eq (type : RecordingType) : ∃ rest, type.suffix = 95 :: rest ∧ 95 ∉ rest := by
  cases type <;> exact ⟨_, rfl, by decide⟩

theorem timeText_recordedName (h : FourDigits time) (currentPrefix : List UInt8)
    (type : RecordingType) :
    timeText (recordedName currentPrefix time type) = some (timeString time ++ type.suffix) := by
  obtain ⟨rest, hsuffix, hrest⟩ := suffix_eq type
  have hlast : lastUnderscore (recordedName currentPrefix time type) =
      currentPrefix.length + 15 := by
    have hidx : (recordedName currentPrefix time type).reverse.idxOf 95 = rest.length := by
      rw [recordedName, hsuffix, List.reverse_append, List.reverse_cons, List.append_assoc,
        List.idxOf_append_of_notMem (by simpa using hrest), List.length_reverse,
        List.singleton_append, List.idxOf_cons_self, Nat.add_zero]
    rw [lastUnderscore, hidx, recordedName, hsuffix]
    simp only [List.length_append, List.length_cons, length_timeString h]
    omega
  unfold timeText
  rw [hlast]
  simp only [if_neg (show ¬currentPrefix.length + 15 < 15 by omega), Nat.add_sub_cancel]
  rw [recordedName, List.append_assoc, List.drop_left]

/-- The scan decodes the time at which a file was named. -/
theorem decode_recordedName (h : FourDigits time) (currentPrefix : List UInt8)
    (type : RecordingType) : decode (recordedName currentPrefix time type) = some time := by
  unfold decode
  rw [timeText_recordedName h, Option.bind_some, strptime_timeString h]
  simp only [if_true, timegm_gmtime]

/-! ### The scan -/

theorem endsIn_append {base name suffix : List UInt8} (h : suffix.length ≤ name.length) :
    endsIn (base ++ name) suffix = endsIn name suffix := by
  unfold endsIn
  rw [List.length_append, Nat.add_sub_assoc h, List.drop_append, List.drop_eq_nil_of_le (by omega),
    List.nil_append, Nat.add_sub_cancel_left]
  simp only [h, show suffix.length ≤ base.length + name.length by omega, decide_true]

theorem endsIn_of_getLast {base name suffix : List UInt8} (hne : name ≠ []) (hne' : suffix ≠ [])
    (h : name.getLast hne ≠ suffix.getLast hne') : endsIn (base ++ name) suffix = false := by
  by_contra hends
  obtain ⟨base', heq⟩ := endsIn_iff.mp (Bool.of_not_eq_false hends)
  apply h
  calc name.getLast hne = (base ++ name).getLast (List.append_ne_nil_of_right_ne_nil _ hne) :=
        (List.getLast_append_right hne).symm
    _ = (base' ++ suffix).getLast (List.append_ne_nil_of_right_ne_nil _ hne') := by
        simp only [heq]
    _ = suffix.getLast hne' := List.getLast_append_right hne'

/-- Two suffixes differ in their last letter or have the same length. -/
theorem endsIn_suffix (base : List UInt8) (type type' : RecordingType) :
    endsIn (base ++ type.suffix) type'.suffix = decide (type' = type) := by
  cases type <;> cases type' <;>
    first
    | exact (endsIn_append (by decide)).trans (by decide)
    | exact (endsIn_of_getLast (by decide) (by decide) (by decide)).trans (by decide)

theorem recordingTypeOf_recordedName (currentPrefix : List UInt8) (time : ℤ)
    (type : RecordingType) :
    recordingTypeOf (recordedName currentPrefix time type) = some type := by
  unfold recordingTypeOf recordedName
  simp only [endsIn_suffix]
  cases type <;> rfl

/-- The recorded files of the directory are those that the program has named, and are accessible. -/
def OwnFiles (dir : DataDir) : Prop :=
  ∀ d ∈ dir.entries, d.skipped = false → d.files.isSome ∧ ∀ e ∈ d.files.getD [], e.mtime.isSome ∧
    ((recordingTypeOf e.name).isSome → ∃ currentPrefix time type, FourDigits time ∧
      e.name = recordedName currentPrefix time type)

/-- The files that the program has named are listed once each, with the times of their names. -/
structure ListsOwn (dir : DataDir) (recordings : List Recording) : Prop where
  once : ∀ d files, Scanned dir d files → ∀ currentPrefix time type mtime, FourDigits time →
    ⟨recordedName currentPrefix time type, some mtime⟩ ∈ files →
      recordings.count
        (newRecording dir.path d.name (recordedName currentPrefix time type) type time mtime) = 1
  only : ∀ r ∈ recordings, ∃ d files, Scanned dir d files ∧ ∃ currentPrefix time type mtime,
    FourDigits time ∧ ⟨recordedName currentPrefix time type, some mtime⟩ ∈ files ∧
      r = newRecording dir.path d.name (recordedName currentPrefix time type) type time mtime
  sorted : recordings.Pairwise fun r r' => r.startTime ≤ r'.startTime

section

variable {dir : DataDir} (h : OwnFiles dir)

include h

theorem OwnFiles.accessible : Accessible dir := by
  intro d hd hskipped
  obtain ⟨hfiles, hown⟩ := h d hd hskipped
  refine ⟨hfiles, fun e he => ⟨(hown e he).1, fun htype => ?_⟩⟩
  obtain ⟨currentPrefix, time, type, hfour, hname⟩ := (hown e he).2 htype
  rw [hname, decode_recordedName hfour]
  rfl

/-- What should become of a file is the recording that was made. -/
theorem OwnFiles.mem_expected {r : Recording} :
    r ∈ dir.entries.flatMap (expectedEntry dir.path) ↔ ∃ d files, Scanned dir d files ∧
      ∃ currentPrefix time type mtime, FourDigits time ∧
        ⟨recordedName currentPrefix time type, some mtime⟩ ∈ files ∧ r =
          newRecording dir.path d.name (recordedName currentPrefix time type) type time mtime := by
  rw [List.mem_flatMap]
  constructor
  · rintro ⟨d, hd, hr⟩
    have hskipped : d.skipped = false := by
      by_contra hskipped
      rw [expectedEntry, if_pos (Bool.of_not_eq_false hskipped)] at hr
      cases hr
    obtain ⟨e, he, hexpected⟩ := mem_expectedEntry hr
    obtain ⟨hmtime, hown⟩ := (h d hd hskipped).2 e he
    have htype : (recordingTypeOf e.name).isSome := by
      by_contra hnone
      rw [expectedFile_of_none (by simpa using hnone)] at hexpected
      cases hexpected
    obtain ⟨currentPrefix, time, type, hfour, hname⟩ := hown htype
    obtain ⟨mtime, hmtime⟩ := Option.isSome_iff_exists.mp hmtime
    refine ⟨d, _, h.accessible.scanned hd hskipped, currentPrefix, time, type, mtime, hfour, ?_,
      ?_⟩
    · rwa [← hname, ← hmtime]
    · rw [expectedFile_eq (hname ▸ recordingTypeOf_recordedName currentPrefix time type)
        (hname ▸ decode_recordedName hfour currentPrefix type) hmtime] at hexpected
      rw [← hname]
      exact (Option.some.inj hexpected).symm
  · rintro ⟨d, files, ⟨hd, hskipped, hfiles⟩, currentPrefix, time, type, mtime, hfour, he, rfl⟩
    refine ⟨d, hd, ?_⟩
    rw [expectedEntry, hskipped, if_neg Bool.false_ne_true, hfiles]
    exact List.mem_filterMap.mpr ⟨_, he, expectedFile_eq
      (recordingTypeOf_recordedName currentPrefix time type)
      (decode_recordedName hfour currentPrefix type) rfl⟩

end

/-- In whatever order `readdir` returns the entries: each file that the program has named is listed
once, as what it is and with the time at which it was named. -/
theorem scanDirs_listsOwn {dir : DataDir} (h : OwnFiles dir) (order : List RootEntry)
    (horder : Reordered dir.entries order) (tm : Tm) :
    ListsOwn dir (scanDirs dir.path (some order) tm).1 := by
  have hperm := scanDirs_perm h.accessible.allUniform horder tm
  refine ⟨?_, ?_, ?_⟩
  · intro d files hscanned currentPrefix time type mtime hfour he
    rw [hperm.count_eq]
    exact List.count_eq_one_of_mem (List.Nodup.of_map _ (nodup_paths dir))
      (h.mem_expected.mpr ⟨d, files, hscanned, currentPrefix, time, type, mtime, hfour, he, rfl⟩)
  · intro r hr
    exact h.mem_expected.mp (hperm.mem_iff.mp hr)
  · refine (exchangeSort_sorted later_asymm not_later_trans _).imp fun {r r'} hlater => ?_
    unfold later at hlater
    simp only [Bool.or_eq_false_iff, decide_eq_false_iff_not] at hlater
    omega

/-- A flight line and the log of its session. -/
def ownDir : DataDir where
  path := bytes "/data"
  entries := [⟨bytes "20240102", true,
    some [⟨recordedName (bytes "ang") 1704164645 .flightLine, some 1704164700⟩,
      ⟨recordedName (bytes "ang") 1704164600 .log, some 1704164800⟩]⟩]
  distinct := by decide
  noSlash := by decide
  filesDistinct := by decide

theorem ownFiles_ownDir : OwnFiles ownDir := by
  intro d hd _
  obtain rfl := List.mem_singleton.mp hd
  refine ⟨rfl, ?_⟩
  simp only [Option.getD_some, List.forall_mem_cons]
  exact ⟨⟨rfl, fun _ => ⟨bytes "ang", 1704164645, .flightLine, by decide, rfl⟩⟩,
    ⟨rfl, fun _ => ⟨bytes "ang", 1704164600, .log, by decide, rfl⟩⟩, nofun⟩

theorem scanDirs_listsOwn_ownDir :
    ListsOwn ownDir (scanDirs ownDir.path (some ownDir.entries) ⟨0, 0, 0, 0, 0, 0⟩).1 :=
  scanDirs_listsOwn ownFiles_ownDir ownDir.entries (Reordered.refl _) ⟨0, 0, 0, 0, 0, 0⟩

end Recordings
