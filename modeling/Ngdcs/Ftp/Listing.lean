import Ngdcs.Ftp.Connection
import Ngdcs.Lib.ExchangeSort

/-! `FTPConnection::FTPList`: the names come over the data connection, and each is asked about on
the control connection, where the reply to `nlst` is still to come. -/
namespace Ftp

open Actions CStrings ExchangeSort Ipc

/-! ### Dates -/

/-- The fields of a `struct tm` that a reply to `mdtm` can set. -/
structure Tm where
  year : ℤ
  mon : ℤ
  mday : ℤ
  hour : ℤ
  min : ℤ
  sec : ℤ
  deriving DecidableEq

/-- The digits of a number up to `hi`, after digits with the value `n`, where at most `places`
more are read; and what follows them. -/
def takeNumber (hi : ℕ) : ℕ → ℕ → List UInt8 → ℕ × List UInt8
  | places + 1, n, b :: s =>
    if isDigit b ∧ n * 10 ≤ hi then takeNumber hi places (n * 10 + (b.toNat - 48)) s
    else (n, b :: s)
  | _, n, s => (n, s)

/-- A number field of `strptime`: blanks may precede it. -/
def getNumber (lo hi places : ℕ) (s : List UInt8) : Option (ℕ × List UInt8) :=
  let s := s.dropWhile (· = 32)
  if (s.head?.map isDigit).getD false then
    let r := takeNumber hi places 0 s
    if lo ≤ r.1 ∧ r.1 ≤ hi then some r else none
  else none

structure Conversion where
  lo : ℕ
  hi : ℕ
  places : ℕ
  store : ℕ → Tm → Tm

/-- `"%Y%m%d%H%M%S"` -/
def dateFormat : List Conversion := [
  ⟨0, 9999, 4, fun n t => { t with year := n - 1900 }⟩,
  ⟨1, 12, 2, fun n t => { t with mon := n - 1 }⟩,
  ⟨1, 31, 2, fun n t => { t with mday := n }⟩,
  ⟨0, 23, 2, fun n t => { t with hour := n }⟩,
  ⟨0, 59, 2, fun n t => { t with min := n }⟩,
  ⟨0, 61, 2, fun n t => { t with sec := n }⟩]

/-- `strptime(s, format, &t)`: the fields are stored as they are read, up to the first one that
is not there. -/
def strptime : List Conversion → List UInt8 → Tm → Tm
  | [], _, t => t
  | conv :: format, s, t =>
    match getNumber conv.lo conv.hi conv.places s with
    | none => t
    | some (n, s) => strptime format s (conv.store n t)

/-! ### The listing -/

/-- `ftpDirEntry_t` -/
structure DirEntry where
  name : List UInt8
  time : Tm
  size : ℤ
  deriving DecidableEq

/-- `strtol(subresponse+4, NULL, 0)` as an `int`. A reply of three characters is taken as if it
went on empty, where the source reads behind its NUL. -/
def readSize (subresponse : List UInt8) : ℤ := longToInt (strtol (subresponse.drop 4)).1

/-- `strptime(subresponse+4, "%Y%m%d%H%M%S", &t)`. A date of odd form gives a warning only; a reply
of three characters is taken as in `readSize`. -/
def readDate (t : Tm) (subresponse : List UInt8) : Tm :=
  strptime dateFormat (subresponse.drop 4) t

/-- The loop of `FTPList`; `t` keeps what the last dates left in it. -/
def listLoop : ℕ → Socket → Tm → FtpAction (List DirEntry)
  | 0, _, _ => return []
  | fuel + 1, s, t =>
    match acceptLine s with
    | (none, _) => return []
    | (some name, s) => do
      let subresponse ← ftpCommand (.size name) .cmdOkay
      let size := readSize subresponse
      let subresponse ← ftpCommand (.mdtm name) .cmdOkay
      let t := readDate t subresponse
      let datasets ← listLoop fuel s t
      return ⟨name, t, size⟩ :: datasets

/-- The part of `FTPList` before the loop. An odd reply to `pasv` drops the control connection;
a data connection that cannot be made does not. -/
def requestList (data : Option Socket) : FtpAction Socket := do
  let _ ← ftpCommand .typeA .cmdOkay
  let response ← ftpCommand .pasv .cmdOkay
  match ftpConvertResponseToHostAndPort response with
  | none => fun c => .fail c.drop
  | some _ => do
    let s ← Action.ofOption data
    ftpSendCommand .nlst
    return s

/-- The comparison of `FTPList`: `strcmp(datasets[i].name, datasets[j].name) > 0` -/
def nameGreater (a b : DirEntry) : Bool := strcmpGreater a.name b.name

/-- `FTPConnection::FTPList`: `data` is the data connection, if it can be made, and `t` is what
is in the local variable at first. Each line that is accepted takes two bytes at least. -/
def ftpList (data : Option Socket) (t : Tm) : FtpAction (List DirEntry) := do
  let s ← requestList data
  let datasets ← listLoop (s.payload.length + 1) s t
  return exchangeSort nameGreater datasets

/-! ### What is asked and answered -/

/-- A name with the replies that `FTPList` settles for. -/
structure Asked where
  name : List UInt8
  sizeLine : List UInt8
  dateLine : List UInt8

def Asked.commands (a : Asked) : List Command := [.size a.name, .mdtm a.name]

def Asked.lines (a : Asked) : List (List UInt8) := [a.sizeLine, a.dateLine]

/-- The entries that are made of the replies. -/
def entries : Tm → List Asked → List DirEntry
  | _, [] => []
  | t, a :: asked =>
    ⟨a.name, readDate t a.dateLine, readSize a.sizeLine⟩ :: entries (readDate t a.dateLine) asked

theorem entries_names (t : Tm) (asked : List Asked) :
    (entries t asked).map DirEntry.name = asked.map Asked.name := by
  induction asked generalizing t with
  | nil => rfl
  | cons a asked ih => exact congrArg (a.name :: ·) (ih _)

/-- From `c`, with the control connection `ch`, the names are asked about and the replies make
the entries. -/
def AsksAbout (names : List (List UInt8)) (t : Tm) (ch : Channel) (c : FTPConnection)
    (datasets : List DirEntry) (c' : FTPConnection) : Prop :=
  ∃ asked ch', asked.map Asked.name = names ∧
    Answers ch (asked.flatMap Asked.commands) (asked.flatMap Asked.lines) ch' ∧
    datasets = entries t asked ∧ c' = { c with ftpConn := some ch' }

theorem asksAbout_nil_iff {t : Tm} {ch : Channel} {c c' : FTPConnection}
    {datasets : List DirEntry} (hch : c.ftpConn = some ch) :
    AsksAbout [] t ch c datasets c' ↔ datasets = [] ∧ c' = c := by
  constructor
  · rintro ⟨asked, ch', hnames, hanswers, rfl, rfl⟩
    obtain rfl := List.map_eq_nil_iff.mp hnames
    cases hanswers
    exact ⟨rfl, by rw [← hch]⟩
  · rintro ⟨rfl, rfl⟩
    exact ⟨[], ch, rfl, .nil ch, rfl, by rw [← hch]⟩

theorem asksAbout_cons_iff {name : List UInt8} {names : List (List UInt8)} {t : Tm}
    {ch : Channel} {c c' : FTPConnection} {datasets : List DirEntry} :
    AsksAbout (name :: names) t ch c datasets c' ↔ ∃ sizeLine dateLine ch₁ rest,
      Answers ch [.size name, .mdtm name] [sizeLine, dateLine] ch₁ ∧
      AsksAbout names (readDate t dateLine) ch₁ { c with ftpConn := some ch₁ } rest c' ∧
      datasets = ⟨name, readDate t dateLine, readSize sizeLine⟩ :: rest := by
  constructor
  · rintro ⟨asked, ch', hnames, hanswers, rfl, rfl⟩
    cases asked with
    | nil => cases hnames
    | cons a asked =>
      obtain ⟨rfl, rfl⟩ := List.cons_eq_cons.mp hnames
      obtain ⟨ch₁, hsize, hanswers⟩ := answers_cons_iff.mp hanswers
      obtain ⟨ch₂, hdate, hanswers⟩ := answers_cons_iff.mp hanswers
      exact ⟨a.sizeLine, a.dateLine, ch₂, _, answers_append hsize hdate,
        ⟨asked, ch', rfl, hanswers, rfl, rfl⟩, rfl⟩
  · rintro ⟨sizeLine, dateLine, ch₁, rest, hown, ⟨asked, ch', rfl, hanswers, rfl, rfl⟩, rfl⟩
    exact ⟨⟨name, sizeLine, dateLine⟩ :: asked, ch', rfl, answers_append hown hanswers, rfl, rfl⟩

/-- Every name that comes over the data connection is asked about. -/
theorem listLoop_eq_ok {fuel : ℕ} {s : Socket} {t : Tm} {ch : Channel} {c c' : FTPConnection}
    {datasets : List DirEntry} (hch : c.ftpConn = some ch) :
    listLoop fuel s t c = .ok datasets c' ↔
      AsksAbout (acceptLines fuel s).1 t ch c datasets c' := by
  induction fuel generalizing s t ch c datasets with
  | zero =>
    rw [acceptLines, asksAbout_nil_iff hch]
    exact ⟨by rintro ⟨⟩; exact ⟨rfl, rfl⟩, by rintro ⟨rfl, rfl⟩; rfl⟩
  | succ fuel ih =>
    rw [listLoop, acceptLines]
    rcases acceptLine s with ⟨_ | name, s⟩
    · rw [asksAbout_nil_iff hch]
      exact ⟨by rintro ⟨⟩; exact ⟨rfl, rfl⟩, by rintro ⟨rfl, rfl⟩; rfl⟩
    · rw [asksAbout_cons_iff]
      constructor
      · intro h
        obtain ⟨sizeLine, _, hfirst, h⟩ := bind_eq_ok.mp h
        obtain ⟨dateLine, _, hsecond, h⟩ := bind_eq_ok.mp h
        obtain ⟨rest, _, hrest, ⟨⟩⟩ := bind_eq_ok.mp h
        obtain ⟨_, ch₁, hsame, hsize, rfl⟩ := ftpCommand_eq_ok.mp hfirst
        obtain ⟨_, ch₂, ⟨⟩, hdate, rfl⟩ := ftpCommand_eq_ok.mp hsecond
        obtain rfl := Option.some.inj (hch.symm.trans hsame)
        exact ⟨sizeLine, dateLine, ch₂, rest, answers_append hsize hdate, (ih rfl).mp hrest, rfl⟩
      · rintro ⟨sizeLine, dateLine, ch₂, rest, hown, hrest, rfl⟩
        obtain ⟨ch₁, hsize, hdate⟩ := answers_cons_iff.mp hown
        refine bind_eq_ok.mpr ⟨_, _, ftpCommand_eq_ok.mpr ⟨ch, ch₁, hch, hsize, rfl⟩, ?_⟩
        refine bind_eq_ok.mpr ⟨_, _, ftpCommand_eq_ok.mpr ⟨ch₁, ch₂, rfl, hdate, rfl⟩, ?_⟩
        exact bind_eq_ok.mpr ⟨rest, c', (ih rfl).mpr hrest, rfl⟩

theorem requestList_eq_ok {data : Option Socket} {s : Socket} {c c' : FTPConnection} :
    requestList data c = .ok s c' ↔ data = some s ∧ ∃ ch typeLine pasvLine ch₁,
      c.ftpConn = some ch ∧ Answers ch [.typeA, .pasv] [typeLine, pasvLine] ch₁ ∧
      (ftpConvertResponseToHostAndPort pasvLine).isSome = true ∧
      (ch₁.exchange .nlst).sent = true ∧ c' = { c with ftpConn := some (ch₁.send .nlst) } := by
  constructor
  · intro h
    obtain ⟨typeLine, _, hfirst, h⟩ := bind_eq_ok.mp h
    obtain ⟨pasvLine, _, hsecond, h⟩ := bind_eq_ok.mp h
    obtain ⟨ch, ch₁, hch, htype, rfl⟩ := ftpCommand_eq_ok.mp hfirst
    obtain ⟨_, ch₂, ⟨⟩, hpasv, rfl⟩ := ftpCommand_eq_ok.mp hsecond
    cases haddress : ftpConvertResponseToHostAndPort pasvLine with
    | none =>
      simp only [haddress] at h
      cases h
    | some address =>
      simp only [haddress] at h
      obtain ⟨u, _, hconnect, h⟩ := bind_eq_ok.mp h
      obtain ⟨_, _, hnlst, h⟩ := bind_eq_ok.mp h
      obtain ⟨hdata, rfl⟩ := ofOption_eq_ok.mp hconnect
      obtain ⟨_, ⟨⟩, hsent, rfl⟩ := ftpSendCommand_eq_ok.mp hnlst
      cases h
      exact ⟨hdata, ch, typeLine, pasvLine, ch₂, hch, answers_append htype hpasv,
        by rw [haddress]; rfl, hsent, rfl⟩
  · rintro ⟨rfl, ch, typeLine, pasvLine, ch₂, hch, hanswers, haddress, hsent, rfl⟩
    obtain ⟨ch₁, htype, hpasv⟩ := answers_cons_iff.mp hanswers
    obtain ⟨address, haddress⟩ := Option.isSome_iff_exists.mp haddress
    refine bind_eq_ok.mpr ⟨_, _, ftpCommand_eq_ok.mpr ⟨ch, ch₁, hch, htype, rfl⟩, ?_⟩
    refine bind_eq_ok.mpr ⟨_, _, ftpCommand_eq_ok.mpr ⟨ch₁, ch₂, rfl, hpasv, rfl⟩, ?_⟩
    simp only [haddress]
    refine bind_eq_ok.mpr ⟨_, _, ofOption_eq_ok.mpr ⟨rfl, rfl⟩, ?_⟩
    exact bind_eq_ok.mpr ⟨(), _, ftpSendCommand_eq_ok.mpr ⟨ch₂, rfl, hsent, rfl⟩, rfl⟩

end Ftp
