import Ngdcs.Ftp.Connection
import Ngdcs.Lib.Numerals

/-! The reply to `pasv`: which replies `FTPConvertResponseToHostAndPort` accepts, and what it
makes of them. -/
namespace Ftp
open CStrings

/-- What the reply holds between the parenthesis, the commas and the parenthesis. -/
structure PasvFields where
  h1 : List UInt8
  h2 : List UInt8
  h3 : List UInt8
  h4 : List UInt8
  p1 : List UInt8
  p2 : List UInt8

/-- A decimal number in 0..255. -/
structure IsOctet (s : List UInt8) : Prop where
  ne_nil : s ≠ []
  digits : ∀ b ∈ s, isDigit b = true
  le : decimal s ≤ 255

instance (s : List UInt8) : Decidable (IsOctet s) :=
  decidable_of_iff (s.isEmpty = false ∧ s.all isDigit = true ∧ decimal s ≤ 255)
    ⟨fun h => ⟨List.isEmpty_eq_false_iff.mp h.1, List.all_eq_true.mp h.2.1, h.2.2⟩,
      fun h => ⟨List.isEmpty_eq_false_iff.mpr h.ne_nil, List.all_eq_true.mpr h.digits, h.le⟩⟩

namespace PasvFields

variable (f : PasvFields)

/-- The text of the fields. -/
def text : List UInt8 :=
  f.h1 ++ 44 :: (f.h2 ++ 44 :: (f.h3 ++ 44 :: (f.h4 ++ 44 :: (f.p1 ++ 44 :: (f.p2 ++ [41])))))

def Octets : Prop :=
  IsOctet f.h1 ∧ IsOctet f.h2 ∧ IsOctet f.h3 ∧ IsOctet f.h4 ∧ IsOctet f.p1 ∧ IsOctet f.p2

instance : Decidable f.Octets := inferInstanceAs (Decidable (_ ∧ _))

def host : List UInt8 := f.h1 ++ 46 :: f.h2 ++ 46 :: f.h3 ++ 46 :: f.h4

def port : ℤ := decimal f.p1 * 256 + decimal f.p2

end PasvFields

/-- Behind its first parenthesis, the reply has six decimal numbers in 0..255. -/
def HasForm (response : List UInt8) (f : PasvFields) : Prop :=
  f.Octets ∧ ∃ before after, response = before ++ 40 :: (f.text ++ after) ∧ 40 ∉ before

/-- What the conversion should do with a reply. -/
structure ConvertsReply (response : List UInt8) : Prop where
  accepts : ∀ f, HasForm response f → f.port ≤ 65535 ∧
    ftpConvertResponseToHostAndPort response = some (f.host, f.port)
  rejects : (∀ f, ¬HasForm response f) → ftpConvertResponseToHostAndPort response = none

section Split

/-- The text up to the next `b`, and what follows it. -/
def splitByte (b : UInt8) (s : List UInt8) : Option (List UInt8 × List UInt8) :=
  match s.dropWhile (· ≠ b) with
  | [] => none
  | _ :: rest => some (s.takeWhile (· ≠ b), rest)

theorem splitComma_eq (s : List UInt8) : splitComma s = splitByte 44 s := rfl

theorem splitByte_eq_some {b : UInt8} {s t rest : List UInt8} :
    splitByte b s = some (t, rest) ↔ s = t ++ b :: rest ∧ b ∉ t := by
  constructor
  · intro h
    unfold splitByte at h
    split at h
    · cases h
    next x tail hdrop =>
      obtain ⟨rfl, rfl⟩ := Prod.mk.inj (Option.some.inj h)
      have hx : x = b := by
        have hhead := List.head?_dropWhile_not (· ≠ b) s
        rw [hdrop] at hhead
        simpa using hhead
      rw [hx] at hdrop
      constructor
      · rw [← hdrop]
        exact List.takeWhile_append_dropWhile.symm
      · intro hmem
        simpa using List.mem_takeWhile_imp hmem
  · rintro ⟨rfl, hb⟩
    unfold splitByte
    rw [List.dropWhile_append_of_pos fun c hc => by simpa using fun h : c = b => hb (h ▸ hc),
      List.dropWhile_cons_of_neg (by simp), takeWhile_ne_append hb]

theorem splitByte_eq_none {b : UInt8} {s : List UInt8} (h : splitByte b s = none) : b ∉ s := by
  intro hmem
  unfold splitByte at h
  split at h
  next hdrop => simpa using List.dropWhile_eq_nil_iff.mp hdrop b hmem
  · cases h

/-- Where a number has to be followed by a separator, `strtol` has to read all the text up to
the next one. -/
theorem strtol_until {b : UInt8} (hb : Separator b) (s : List UInt8) :
    match splitByte b s with
    | none => (strtol s).2.head? ≠ some b
    | some (t, rest) =>
      if (strtol t).2 = [] then strtol s = ((strtol t).1, b :: rest)
      else (strtol s).2.head? ≠ some b := by
  cases hsplit : splitByte b s with
  | none =>
    intro hhead
    have hmem := (strtol_suffix s).subset (List.mem_of_head? hhead)
    exact splitByte_eq_none hsplit hmem
  | some r =>
    obtain ⟨rfl, hnot⟩ := splitByte_eq_some.mp hsplit
    simp only [strtol_append hb]
    split_ifs with hall
    · rw [hall, List.nil_append]
    · intro hhead
      rw [List.head?_append_of_ne_nil _ hall] at hhead
      exact hnot ((strtol_suffix r.1).subset (List.mem_of_head? hhead))

end Split

/-- The fields of a reply, up to the parenthesis behind them. -/
def pasvFields (response : List UInt8) : Option PasvFields := do
  let temp ← (response.dropWhile (· ≠ 40)).tail?
  let (h1, temp) ← splitByte 44 temp
  let (h2, temp) ← splitByte 44 temp
  let (h3, temp) ← splitByte 44 temp
  let (h4, temp) ← splitByte 44 temp
  let (p1, temp) ← splitByte 44 temp
  let (p2, _) ← splitByte 41 temp
  return ⟨h1, h2, h3, h4, p1, p2⟩

/-- `strtol` reads all of both port fields. -/
def PasvFields.PortsRead (f : PasvFields) : Prop := (strtol f.p1).2 = [] ∧ (strtol f.p2).2 = []

instance (f : PasvFields) : Decidable f.PortsRead := inferInstanceAs (Decidable (_ ∧ _))

/-- What `strtol` makes of the port fields, in an `int`. -/
def PasvFields.portRead (f : PasvFields) : ℤ :=
  longToInt (longToInt ((strtol f.p1).1 * 256) + (strtol f.p2).1)

/-- The part of the conversion behind the fourth comma reads the port fields whole. -/
theorem readPorts_eq (host temp : List UInt8) :
    ((guard ((strtol temp).2.head? = some 44) : Option Unit).bind fun _ =>
      (guard ((strtol (strtol temp).2.tail).2.head? = some 41) : Option Unit).bind fun _ =>
        some (host,
          longToInt (longToInt ((strtol temp).1 * 256) + (strtol (strtol temp).2.tail).1))) =
    (splitByte 44 temp).bind fun r => (splitByte 41 r.2).bind fun r' =>
      if (strtol r.1).2 = [] ∧ (strtol r'.1).2 = [] then
        some (host, longToInt (longToInt ((strtol r.1).1 * 256) + (strtol r'.1).1))
      else none := by
  have hcomma := strtol_until separator_comma temp
  rcases hp1 : splitByte 44 temp with _ | ⟨p1, temp'⟩
  · rw [hp1] at hcomma
    simp [hcomma]
  · rw [hp1] at hcomma
    simp only at hcomma
    split_ifs at hcomma with hall
    · have hparen := strtol_until separator_rparen temp'
      rcases hp2 : splitByte 41 temp' with _ | ⟨p2, after⟩
      · rw [hp2] at hparen
        simp [hcomma, hparen, hp2]
      · rw [hp2] at hparen
        simp only at hparen
        split_ifs at hparen with hall' <;> simp [hcomma, hparen, hp2, hall, hall']
    · simp [hcomma, hall]

theorem convert_eq (response : List UInt8) : ftpConvertResponseToHostAndPort response =
    (pasvFields response).bind fun f =>
      if f.PortsRead then some (f.host, f.portRead) else none := by
  unfold ftpConvertResponseToHostAndPort pasvFields
  simp only [splitComma_eq, Option.bind_eq_bind]
  cases (response.dropWhile (· ≠ 40)).tail? with
  | none => rfl
  | some temp =>
    simp only [Option.bind_some]
    rcases splitByte 44 temp with _ | ⟨h1, temp⟩
    · rfl
    simp only [Option.bind_some]
    rcases splitByte 44 temp with _ | ⟨h2, temp⟩
    · rfl
    simp only [Option.bind_some]
    rcases splitByte 44 temp with _ | ⟨h3, temp⟩
    · rfl
    simp only [Option.bind_some]
    rcases splitByte 44 temp with _ | ⟨h4, temp⟩
    · rfl
    simp only [Option.bind_some, Option.bind_assoc, Option.pure_def]
    exact readPorts_eq _ temp

theorem tail_dropWhile (b : UInt8) (s : List UInt8) :
    (s.dropWhile (· ≠ b)).tail? = (splitByte b s).map Prod.snd := by
  unfold splitByte
  cases s.dropWhile (· ≠ b) <;> rfl

/-- The fields are what stands between the first parenthesis, five commas and the next
parenthesis. -/
theorem pasvFields_eq_some {response : List UInt8} {f : PasvFields} :
    pasvFields response = some f ↔
      (∃ before after, response = before ++ 40 :: (f.text ++ after) ∧ 40 ∉ before) ∧
        (44 ∉ f.h1 ∧ 44 ∉ f.h2 ∧ 44 ∉ f.h3 ∧ 44 ∉ f.h4 ∧ 44 ∉ f.p1) ∧ 41 ∉ f.p2 := by
  obtain ⟨h1, h2, h3, h4, p1, p2⟩ := f
  unfold pasvFields PasvFields.text
  rw [tail_dropWhile]
  simp only [Option.bind_eq_bind, Option.bind_eq_some_iff, Option.map_eq_some_iff, Prod.exists,
    splitByte_eq_some, Option.pure_def, Option.some.injEq, PasvFields.mk.injEq]
  constructor
  · rintro ⟨t0, ⟨before, t, ⟨hr, hb⟩, rfl⟩, a1, t1, ⟨rfl, hn1⟩, a2, t2, ⟨rfl, hn2⟩, a3, t3,
      ⟨rfl, hn3⟩, a4, t4, ⟨rfl, hn4⟩, a5, t5, ⟨rfl, hn5⟩, a6, after, ⟨rfl, hn6⟩, rfl, rfl, rfl, rfl,
      rfl, rfl⟩
    exact ⟨⟨before, after, by simpa using hr, hb⟩, ⟨hn1, hn2, hn3, hn4, hn5⟩, hn6⟩
  · rintro ⟨⟨before, after, hr, hb⟩, ⟨hn1, hn2, hn3, hn4, hn5⟩, hn6⟩
    refine ⟨_, ⟨before, _, ⟨hr, hb⟩, rfl⟩, h1, _, ⟨by simp, hn1⟩, h2, _, ⟨rfl, hn2⟩, h3, _,
      ⟨rfl, hn3⟩, h4, _, ⟨rfl, hn4⟩, p1, _, ⟨rfl, hn5⟩, p2, after, ⟨rfl, hn6⟩, rfl, rfl, rfl, rfl,
      rfl, rfl⟩

theorem IsOctet.not_mem {s : List UInt8} (h : IsOctet s) : 44 ∉ s ∧ 41 ∉ s :=
  ⟨fun hmem => absurd (h.digits 44 hmem) (by decide),
    fun hmem => absurd (h.digits 41 hmem) (by decide)⟩

theorem hasForm_iff {response : List UInt8} {f : PasvFields} :
    HasForm response f ↔ pasvFields response = some f ∧ f.Octets := by
  rw [pasvFields_eq_some, HasForm]
  constructor
  · rintro ⟨hoctets, hform⟩
    obtain ⟨h1, h2, h3, h4, p1, p2⟩ := hoctets
    exact ⟨⟨hform, ⟨h1.not_mem.1, h2.not_mem.1, h3.not_mem.1, h4.not_mem.1, p1.not_mem.1⟩,
      p2.not_mem.2⟩, h1, h2, h3, h4, p1, p2⟩
  · rintro ⟨⟨hform, -⟩, hoctets⟩
    exact ⟨hoctets, hform⟩

/-- What `strtol` makes of a port field in the right range, where it reads it whole. -/
theorem IsOctet.strtol {s : List UInt8} (h : IsOctet s) :
    (PlainDecimal s → CStrings.strtol s = ((decimal s : ℤ), [])) ∧
      ((CStrings.strtol s).2 = [] → 0 ≤ (CStrings.strtol s).1 ∧
        (CStrings.strtol s).1 ≤ decimal s ∧
        ((CStrings.strtol s).1 = decimal s → PlainDecimal s)) := by
  have hle := h.le
  have hlong : (decimal s : ℤ) ≤ longMax := by
    unfold longMax
    omega
  obtain ⟨hplain, hother⟩ := strtol_decimal h.ne_nil h.digits hlong
  refine ⟨hplain, ?_⟩
  intro hall
  by_cases hs : PlainDecimal s
  · rw [hplain hs]
    exact ⟨by omega, le_rfl, fun _ => hs⟩
  · obtain ⟨h0, hlt⟩ := hother hs hall
    exact ⟨h0, hlt.le, fun heq => absurd heq hlt.ne⟩

namespace PasvFields

variable {f : PasvFields} (h : f.Octets)
include h

theorem Octets.port_range : 0 ≤ f.port ∧ f.port ≤ 65535 := by
  obtain ⟨-, -, -, -, hp1, hp2⟩ := h
  have h1 := hp1.le
  have h2 := hp2.le
  unfold port
  omega

/-- Octal port fields come out lower. -/
theorem Octets.portRead_eq_iff (hread : f.PortsRead) :
    f.portRead = f.port ↔ PlainDecimal f.p1 ∧ PlainDecimal f.p2 := by
  obtain ⟨-, -, -, -, hp1, hp2⟩ := h
  obtain ⟨hplain1, hle1⟩ := hp1.strtol
  obtain ⟨hplain2, hle2⟩ := hp2.strtol
  obtain ⟨h01, hd1, heq1⟩ := hle1 hread.1
  obtain ⟨h02, hd2, heq2⟩ := hle2 hread.2
  have h255 := hp1.le
  have h255' := hp2.le
  have hvalue : f.portRead = (CStrings.strtol f.p1).1 * 256 + (CStrings.strtol f.p2).1 := by
    have hhigh : longToInt ((CStrings.strtol f.p1).1 * 256) = (CStrings.strtol f.p1).1 * 256 :=
      longToInt_of_abs (abs_lt.mpr (by omega))
    rw [portRead, hhigh, longToInt_of_abs (abs_lt.mpr (by omega))]
  rw [hvalue, port]
  constructor
  · intro heq
    exact ⟨heq1 (by omega), heq2 (by omega)⟩
  · rintro ⟨hs1, hs2⟩
    rw [hplain1 hs1, hplain2 hs2]

theorem Octets.portsRead (hp1 : PlainDecimal f.p1) (hp2 : PlainDecimal f.p2) : f.PortsRead := by
  obtain ⟨-, -, -, -, h1, h2⟩ := h
  exact ⟨by rw [h1.strtol.1 hp1], by rw [h2.strtol.1 hp2]⟩

end PasvFields

/-- A reply that the conversion takes as it is meant: six decimal numbers in 0..255 whose port
fields are not taken for octal, or other fields of which `strtol` does not read the port fields
whole. -/
def TakenAsMeant (response : List UInt8) : Prop :=
  ∀ f, pasvFields response = some f →
    (f.Octets → PlainDecimal f.p1 ∧ PlainDecimal f.p2) ∧ (¬f.Octets → ¬f.PortsRead)

/-- Port 1034 with a leading zero, which is read as port 1032. -/
def octalReply : List UInt8 := bytes "227 Entering Passive Mode (10,0,0,1,4,010)"

end Ftp
