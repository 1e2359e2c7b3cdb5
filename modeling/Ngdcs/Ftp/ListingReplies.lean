import Ngdcs.Ftp.Listing

/-! What `FTPList` returns. A reply is not matched to its command: the last line of class 2 that
comes in time counts, and it may be the reply to `nlst`. -/
namespace Ftp

open Actions CStrings ExchangeSort Ipc

/-- What the server has: the names that it lists, and its size and date for a name, where it does
not answer with class 4 or 5. -/
structure RemoteFiles where
  names : List (List UInt8)
  size : List UInt8 → Option ℤ
  date : List UInt8 → Option Tm

/-- The entries are sorted and are those of the server's files. -/
structure RemoteFiles.Lists (files : RemoteFiles) (datasets : List DirEntry) : Prop where
  names : (datasets.map DirEntry.name).Perm files.names
  own : ∀ e ∈ datasets, files.size e.name = some e.size ∧ files.date e.name = some e.time
  sorted : datasets.Pairwise fun a b => nameGreater a b = false

/-- `FTPList` returns 0 only with the server's files, and -1 if a size or date is refused. -/
def CorrectOnSuccess (files : RemoteFiles) (data : Option Socket) (t : Tm) (c : FTPConnection) :
    Prop :=
  (∀ datasets c', ftpList data t c = .ok datasets c' → files.Lists datasets) ∧
  ((∃ name ∈ files.names, files.size name = none ∨ files.date name = none) →
    ∀ datasets c', ftpList data t c ≠ .ok datasets c')

/-- All the commands of `FTPList` are answered by a line of class 2 in time; `asked` has the
names that come over the data connection before the first pause, and the last such line for
each of their commands. -/
def AllAnswered (data : Option Socket) (c : FTPConnection) (asked : List Asked) : Prop :=
  ∃ s ch typeLine pasvLine ch₁ ch₂, data = some s ∧ c.ftpConn = some ch ∧
    Answers ch [.typeA, .pasv] [typeLine, pasvLine] ch₁ ∧
    (ftpConvertResponseToHostAndPort pasvLine).isSome = true ∧
    (ch₁.exchange .nlst).sent = true ∧ asked.map Asked.name = (drain s).1 ∧
    Answers (ch₁.send .nlst) (asked.flatMap Asked.commands) (asked.flatMap Asked.lines) ch₂

/-- The lines read as the size and the date of the file that was asked about. -/
def OwnReplies (files : RemoteFiles) : Tm → List Asked → Prop
  | _, [] => True
  | t, a :: asked =>
    files.size a.name = some (readSize a.sizeLine) ∧
    files.date a.name = some (readDate t a.dateLine) ∧
    OwnReplies files (readDate t a.dateLine) asked

theorem ownReplies_iff {files : RemoteFiles} {t : Tm} {asked : List Asked} :
    OwnReplies files t asked ↔ ∀ e ∈ entries t asked,
      files.size e.name = some e.size ∧ files.date e.name = some e.time := by
  induction asked generalizing t with
  | nil => exact ⟨fun _ => nofun, fun _ => trivial⟩
  | cons a asked ih =>
    rw [OwnReplies, entries, List.forall_mem_cons, ih, and_assoc]

theorem ftpList_eq_ok {data : Option Socket} {t : Tm} {c : FTPConnection}
    {datasets : List DirEntry} : (∃ c', ftpList data t c = .ok datasets c') ↔
      ∃ asked, AllAnswered data c asked ∧
        datasets = exchangeSort nameGreater (entries t asked) := by
  constructor
  · rintro ⟨c', h⟩
    obtain ⟨s, _, hrequest, h⟩ := bind_eq_ok.mp h
    obtain ⟨found, _, hloop, ⟨⟩⟩ := bind_eq_ok.mp h
    obtain ⟨hdata, ch, typeLine, pasvLine, ch₁, hch, hanswers, haddress, hsent, rfl⟩ :=
      requestList_eq_ok.mp hrequest
    obtain ⟨asked, ch₂, hnames, hasked, rfl, rfl⟩ := (listLoop_eq_ok rfl).mp hloop
    exact ⟨asked, ⟨s, ch, typeLine, pasvLine, ch₁, ch₂, hdata, hch, hanswers, haddress, hsent,
      hnames, hasked⟩, rfl⟩
  · rintro ⟨asked, ⟨s, ch, typeLine, pasvLine, ch₁, ch₂, hdata, hch, hanswers, haddress, hsent,
      hnames, hasked⟩, rfl⟩
    have hrequest := requestList_eq_ok.mpr
      ⟨hdata, ch, typeLine, pasvLine, ch₁, hch, hanswers, haddress, hsent, rfl⟩
    have hloop := (listLoop_eq_ok (t := t) (c := { c with ftpConn := some (ch₁.send .nlst) })
      rfl).mpr ⟨asked, ch₂, hnames, hasked, rfl, rfl⟩
    exact ⟨_, bind_eq_ok.mpr ⟨s, _, hrequest, bind_eq_ok.mpr ⟨_, _, hloop, rfl⟩⟩⟩

theorem exchangeSort_names_sorted (datasets : List DirEntry) :
    (exchangeSort nameGreater datasets).Pairwise fun a b => nameGreater a b = false :=
  @exchangeSort_sorted _ nameGreater (fun _ _ h => strcmpGreater_asymm h)
    (fun _ _ _ h h' => not_strcmpGreater_trans h h') datasets

theorem lists_sorted_iff {files : RemoteFiles} {t : Tm} {asked : List Asked} :
    files.Lists (exchangeSort nameGreater (entries t asked)) ↔
      (asked.map Asked.name).Perm files.names ∧ OwnReplies files t asked := by
  have hperm := @exchangeSort_perm _ nameGreater (entries t asked)
  have hnames := hperm.map DirEntry.name
  rw [entries_names] at hnames
  rw [ownReplies_iff]
  constructor
  · rintro ⟨hlisted, hown, -⟩
    exact ⟨hnames.symm.trans hlisted, fun e he => hown e (hperm.mem_iff.mpr he)⟩
  · rintro ⟨hlisted, hown⟩
    exact ⟨hnames.trans hlisted, fun e he => hown e (hperm.mem_iff.mp he),
      exchangeSort_names_sorted _⟩

/-- A list of the server's files has a size and a date for each name. -/
theorem RemoteFiles.Lists.not_refused {files : RemoteFiles} {datasets : List DirEntry}
    (h : files.Lists datasets) {name : List UInt8} (hname : name ∈ files.names) :
    ¬(files.size name = none ∨ files.date name = none) := by
  obtain ⟨e, he, rfl⟩ := List.mem_map.mp (h.names.mem_iff.mpr hname)
  obtain ⟨hsize, hdate⟩ := h.own e he
  simp [hsize, hdate]

/-- `FTPList` returns 0 only with the server's files exactly when, if all its commands are
answered, the names arrive whole and each last reply is the one to its command, or reads as
if it were. -/
theorem ftpList_correct_iff (files : RemoteFiles) (data : Option Socket) (t : Tm)
    (c : FTPConnection) : CorrectOnSuccess files data t c ↔
      ∀ asked, AllAnswered data c asked →
        (asked.map Asked.name).Perm files.names ∧ OwnReplies files t asked := by
  constructor
  · rintro ⟨hlists, -⟩ asked hasked
    obtain ⟨c', hlist⟩ := ftpList_eq_ok.mpr ⟨asked, hasked, rfl⟩
    exact lists_sorted_iff.mp (hlists _ c' hlist)
  · intro h
    have hlists : ∀ datasets c', ftpList data t c = .ok datasets c' → files.Lists datasets := by
      intro datasets c' hlist
      obtain ⟨asked, hasked, rfl⟩ := ftpList_eq_ok.mp ⟨c', hlist⟩
      exact lists_sorted_iff.mpr (h asked hasked)
    refine ⟨hlists, ?_⟩
    rintro ⟨name, hname, hrefused⟩ datasets c' hlist
    exact (hlists datasets c' hlist).not_refused hname hrefused

/-- A server whose reply to `nlst`, 226, arrives just before its reply to `size`, 550. -/
def busyServer (commands : List Command) : Exchange where
  sent := true
  arrives := Socket.ofBytes (match commands.getLast? with
    | some .pasv => [50, 50, 55, 32, 40, 49, 44, 50, 44, 51, 44, 52, 44, 53, 44, 54, 41, 13, 10]
    | some .nlst => []
    | some (.size _) => [50, 50, 54, 32, 79, 75, 13, 10, 53, 53, 48, 32, 78, 111, 13, 10]
    | some (.mdtm _) =>
      [50, 49, 51, 32, 50, 48, 49, 52, 48, 49, 48, 49, 49, 50, 48, 48, 48, 48, 13, 10]
    | _ => [50, 48, 48, 13, 10])

/-- The file `a`, whose size the server refuses. -/
def refusedFiles : RemoteFiles where
  names := [[97]]
  size := fun _ => none
  date := fun _ => some ⟨114, 0, 1, 12, 0, 0⟩

theorem refused_size_masked : ¬CorrectOnSuccess refusedFiles (some [.fragment 97 [13, 10], .closed])
    ⟨0, 0, 0, 0, 0, 0⟩ ⟨some ⟨[], [], busyServer⟩, none⟩ := by
  rintro ⟨-, hrefused⟩
  exact hrefused ⟨[97], List.mem_singleton_self _, Or.inl rfl⟩ _ _ rfl

end Ftp
