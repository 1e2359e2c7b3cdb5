import Ngdcs.Ftp.Listing

/-! The start time in the name of a recorded file: `strptime` with a literal in its format, and
`timegm`. -/
namespace Recordings

open CStrings Ftp

/-- A part of a format: a number field, or a character that must be there. -/
inductive Directive where
  | number (conv : Conversion)
  | literal (b : UInt8)

/-- `"%Y%m%dt%H%M%S"` -/
def startFormat : List Directive :=
  (dateFormat.take 3).map .number ++ .literal 116 :: (dateFormat.drop 3).map .number

/-- `strptime(s, format, &t)`: whether it succeeds, and what it has stored until then. -/
def strptime : List Directive → List UInt8 → Tm → Bool × Tm
  | [], _, t => (true, t)
  | .literal _ :: _, [], t => (false, t)
  | .literal b :: format, c :: s, t => if c = b then strptime format s t else (false, t)
  | .number conv :: format, s, t =>
    match getNumber conv.lo conv.hi conv.places s with
    | none => (false, t)
    | some (n, s) => strptime format s (conv.store n t)

/-- The days from 1970-01-01 to a day of the Gregorian calendar; the years begin in March. -/
def daysFromCivil (y m d : ℤ) : ℤ :=
  let y := if m ≤ 2 then y - 1 else y
  let era := y / 400
  let yearOfEra := y - era * 400
  let dayOfYear := (153 * (if m ≤ 2 then m + 9 else m - 3) + 2) / 5 + d - 1
  era * 146097 + (yearOfEra * 365 + yearOfEra / 4 - yearOfEra / 100 + dayOfYear) - 719468

/-- The day of the Gregorian calendar that is so many days after 1970-01-01. -/
def civilFromDays (days : ℤ) : ℤ × ℤ × ℤ :=
  let z := days + 719468
  let era := z / 146097
  let dayOfEra := z - era * 146097
  let yearOfEra := (dayOfEra - dayOfEra / 1460 + dayOfEra / 36524 - dayOfEra / 146096) / 365
  let dayOfYear := dayOfEra - (365 * yearOfEra + yearOfEra / 4 - yearOfEra / 100)
  let month := (5 * dayOfYear + 2) / 153
  let y := yearOfEra + era * 400
  let m := if month < 10 then month + 3 else month - 9
  (if m ≤ 2 then y + 1 else y, m, dayOfYear - (153 * month + 2) / 5 + 1)

def seconds (t : Tm) : ℤ :=
  ((daysFromCivil (t.year + 1900 + t.mon / 12) (t.mon % 12 + 1) t.mday * 24 + t.hour) * 60 +
    t.min) * 60 + t.sec

def gmtime (time : ℤ) : Tm :=
  let date := civilFromDays (time / 86400)
  let rest := time % 86400
  ⟨date.1 - 1900, date.2.1 - 1, date.2.2, rest / 3600, rest % 3600 / 60, rest % 60⟩

/-- `timegm(&t)`, which also brings the fields into their ranges. -/
def timegm (t : Tm) : ℤ × Tm := (seconds t, gmtime (seconds t))

example : timegm ⟨124, 0, 31, 23, 59, 61⟩ = (1706745601, ⟨124, 1, 1, 0, 0, 1⟩) := by decide

variable {conv : Conversion} {format : List Directive} {s s' : List UInt8} {n : ℕ} {t : Tm}

theorem strptime_number_none (h : getNumber conv.lo conv.hi conv.places s = none) :
    strptime (.number conv :: format) s t = (false, t) := by
  rw [strptime, h]

theorem strptime_number_some (h : getNumber conv.lo conv.hi conv.places s = some (n, s')) :
    strptime (.number conv :: format) s t = strptime format s' (conv.store n t) := by
  rw [strptime, h]

theorem number_of_success (h : (strptime (.number conv :: format) s t).1 = true) :
    ∃ n s', getNumber conv.lo conv.hi conv.places s = some (n, s') := by
  cases hget : getNumber conv.lo conv.hi conv.places s with
  | none =>
    rw [strptime_number_none hget] at h
    cases h
  | some r => exact ⟨r.1, r.2, rfl⟩

theorem literal_of_success {b : UInt8} (h : (strptime (.literal b :: format) s t).1 = true) :
    ∃ s', s = b :: s' := by
  cases s with
  | nil => cases h
  | cons c s =>
    rw [strptime] at h
    split_ifs at h with hc
    · exact ⟨s, hc ▸ rfl⟩

theorem strptime_literal {b : UInt8} : strptime (.literal b :: format) (b :: s) t =
    strptime format s t := by
  rw [strptime, if_pos rfl]

/-- A start time that is there sets all of the fields. -/
theorem strptime_success (h : (strptime startFormat s t).1 = true) (u : Tm) :
    strptime startFormat s u = strptime startFormat s t := by
  have hformat : startFormat = [.number ⟨0, 9999, 4, fun n t => { t with year := n - 1900 }⟩,
      .number ⟨1, 12, 2, fun n t => { t with mon := n - 1 }⟩,
      .number ⟨1, 31, 2, fun n t => { t with mday := n }⟩, .literal 116,
      .number ⟨0, 23, 2, fun n t => { t with hour := n }⟩,
      .number ⟨0, 59, 2, fun n t => { t with min := n }⟩,
      .number ⟨0, 61, 2, fun n t => { t with sec := n }⟩] := rfl
  rw [hformat] at h ⊢
  obtain ⟨y, s, hy⟩ := number_of_success h
  rw [strptime_number_some hy] at h
  rw [strptime_number_some hy, strptime_number_some hy]
  obtain ⟨m, s, hm⟩ := number_of_success h
  rw [strptime_number_some hm] at h
  rw [strptime_number_some hm, strptime_number_some hm]
  obtain ⟨d, s, hd⟩ := number_of_success h
  rw [strptime_number_some hd] at h
  rw [strptime_number_some hd, strptime_number_some hd]
  obtain ⟨s, rfl⟩ := literal_of_success h
  rw [strptime_literal] at h
  rw [strptime_literal, strptime_literal]
  obtain ⟨hour, s, hhour⟩ := number_of_success h
  rw [strptime_number_some hhour] at h
  rw [strptime_number_some hhour, strptime_number_some hhour]
  obtain ⟨min, s, hmin⟩ := number_of_success h
  rw [strptime_number_some hmin] at h
  rw [strptime_number_some hmin, strptime_number_some hmin]
  obtain ⟨sec, s, hsec⟩ := number_of_success h
  rw [strptime_number_some hsec, strptime_number_some hsec]

def Tm.setSec (t : Tm) (k : ℤ) : Tm := { t with sec := k }

/-- A directive that does not set the seconds. -/
def Directive.KeepsSec : Directive → Prop
  | .number conv => ∀ n t k, conv.store n (Tm.setSec t k) = Tm.setSec (conv.store n t) k
  | .literal _ => True

/-- Where the last field is not read, the seconds stay what they were. -/
theorem strptime_failure {before : List Directive} (hkeeps : ∀ d ∈ before, d.KeepsSec)
    (h : (strptime (before ++ [.number conv]) s t).1 = false) (k : ℤ) :
    strptime (before ++ [.number conv]) s (Tm.setSec t k) =
      (false, Tm.setSec (strptime (before ++ [.number conv]) s t).2 k) := by
  induction before generalizing s t with
  | nil =>
    rw [List.nil_append] at h ⊢
    cases hget : getNumber conv.lo conv.hi conv.places s with
    | none => rw [strptime_number_none hget, strptime_number_none hget]
    | some r =>
      rw [strptime_number_some hget] at h
      cases h
  | cons d before ih =>
    obtain ⟨hd, hrest⟩ := List.forall_mem_cons.mp hkeeps
    rw [List.cons_append] at h ⊢
    cases d with
    | literal b =>
      cases s with
      | nil => rfl
      | cons c s =>
        rw [strptime] at h
        rw [strptime, strptime]
        by_cases hc : c = b
        · rw [if_pos hc] at h
          rw [if_pos hc, if_pos hc]
          exact ih hrest h
        · rw [if_neg hc, if_neg hc]
    | number conv' =>
      cases hget : getNumber conv'.lo conv'.hi conv'.places s with
      | none => rw [strptime_number_none hget, strptime_number_none hget]
      | some r =>
        rw [strptime_number_some hget] at h
        rw [strptime_number_some hget, strptime_number_some hget, hd]
        exact ih hrest h

theorem seconds_setSec (t : Tm) (k : ℤ) : seconds (Tm.setSec t k) = seconds t - t.sec + k := by
  unfold seconds Tm.setSec
  dsimp only
  omega

theorem keepsSec_startFormat : ∀ d ∈ startFormat.dropLast, d.KeepsSec := by
  have hformat : startFormat.dropLast = (dateFormat.take 3).map .number ++
      .literal 116 :: ((dateFormat.drop 3).take 2).map .number := rfl
  rw [hformat]
  simp only [dateFormat, List.take_succ_cons, List.take_zero, List.drop_succ_cons, List.drop_zero,
    List.map_cons, List.map_nil, List.cons_append, List.nil_append, List.forall_mem_cons]
  exact ⟨fun _ _ _ => rfl, fun _ _ _ => rfl, fun _ _ _ => rfl, trivial, fun _ _ _ => rfl,
    fun _ _ _ => rfl, nofun⟩

/-- A start time that is not there keeps the seconds of an earlier one. -/
theorem strptime_keeps_sec (h : (strptime startFormat s t).1 = false) (k : ℤ) :
    (timegm (strptime startFormat s (Tm.setSec t k)).2).1 =
      (timegm (strptime startFormat s t).2).1 - (strptime startFormat s t).2.sec + k := by
  have hformat : startFormat = startFormat.dropLast ++
      [.number ⟨0, 61, 2, fun n t => { t with sec := n }⟩] := rfl
  rw [hformat] at h ⊢
  rw [strptime_failure keepsSec_startFormat h k]
  exact seconds_setSec _ k

end Recordings
