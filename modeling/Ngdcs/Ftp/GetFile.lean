import Ngdcs.Ftp.Connection

/-! `FTPConnection::FTPGetFile` and what it leaves on the disk when it returns 0. The end of the
data, a pause, an error and a dropped connection look the same to it. -/
namespace Ftp

open Actions Ipc

/-- The local file system: whether the file can be created, how many bytes each `fwrite` takes
(all of them once the list is used up), and how many of the last bytes written `fclose` loses
when it flushes its buffer. -/
structure LocalFs where
  creates : Bool
  takes : List ℕ
  lost : ℕ

/-- The bytes that arrive before the first event that is not data. -/
def arrived : Socket → List UInt8
  | .fragment b bs :: s => b :: bs ++ arrived s
  | .interrupted :: s => arrived s
  | _ => []

/-- What is on the disk after `fclose`. -/
def LocalFs.flushed (fs : LocalFs) (written : List UInt8) : List UInt8 :=
  written.take (written.length - fs.lost)

/-- The loop of `FTPGetFile` over the pieces that `accept_bytes` returns; `none` where `fwrite`
took less than it was given. -/
def saveLoop : ℕ → Socket → List ℕ → List UInt8 → Option (List UInt8)
  | 0, _, _, written => some written
  | fuel + 1, s, takes, written =>
    match acceptBytes 1024 false false s with
    | (.bytes got, s) =>
      match takes with
      | [] => saveLoop fuel s [] (written ++ got)
      | n :: takes => if n < got.length then none else saveLoop fuel s takes (written ++ got)
    | _ => some written

/-- The part of `FTPGetFile` before the local file is opened; `data` is the data connection, if
it can be made. -/
def requestFile (remoteName : List UInt8) (data : Option Socket) : FtpAction Socket := do
  let _ ← ftpCommand .typeI .cmdOkay
  let response ← ftpCommand .pasv .cmdOkay
  let _ ← Action.ofOption (ftpConvertResponseToHostAndPort response)
  let s ← Action.ofOption data
  let _ ← ftpCommand (.retr remoteName) .cmdOkay
  return s

/-- The rest of `FTPGetFile`. A piece has at least one byte. -/
def saveFile (fs : LocalFs) (s : Socket) : FtpAction Unit := fun c =>
  if fs.creates then
    match saveLoop (s.payload.length + 1) s fs.takes [] with
    | none => .fail { c with localFile := none }
    | some written => .ok () { c with localFile := some (fs.flushed written) }
  else .fail c

/-- `FTPConnection::FTPGetFile` -/
def ftpGetFile (remoteName : List UInt8) (data : Option Socket) (fs : LocalFs) :
    FtpAction Unit := do
  let s ← requestFile remoteName data
  saveFile fs s

/-! ### The pieces -/

/-- The pieces that `accept_bytes` returns to the loop. -/
def pieces : ℕ → Socket → List (List UInt8)
  | 0, _ => []
  | fuel + 1, s =>
    match acceptBytes 1024 false false s with
    | (.bytes got, s) => got :: pieces fuel s
    | _ => []

/-- Every `fwrite` takes the whole piece that it is given. -/
def TakesAll : List ℕ → List (List UInt8) → Prop
  | n :: takes, piece :: rest => piece.length ≤ n ∧ TakesAll takes rest
  | _, _ => True

theorem saveLoop_eq_some_iff {fuel : ℕ} {s : Socket} {takes : List ℕ}
    {written file : List UInt8} : saveLoop fuel s takes written = some file ↔
      TakesAll takes (pieces fuel s) ∧ file = written ++ (pieces fuel s).flatten := by
  induction fuel generalizing s takes written with
  | zero => cases takes <;> simp [saveLoop, pieces, TakesAll, eq_comm]
  | succ fuel ih =>
    rw [saveLoop, pieces]
    cases hread : acceptBytes 1024 false false s with
    | mk outcome t =>
      cases outcome with
      | bytes got =>
        cases takes with
        | nil => simp [ih, TakesAll]
        | cons n takes =>
          by_cases hn : n < got.length
          · simp [hn, TakesAll]
          · have hle : got.length ≤ n := Nat.not_lt.mp hn
            simp [hn, hle, ih, TakesAll]
      | failed => cases takes <;> simp [TakesAll, eq_comm]
      | blocked => cases takes <;> simp [TakesAll, eq_comm]

theorem arrived_ofBytes_append (bytes : List UInt8) (s : Socket) :
    arrived (Socket.ofBytes bytes ++ s) = bytes ++ arrived s := by
  cases bytes <;> rfl

/-- A piece is the beginning of what arrives; without one nothing more arrives in time. -/
theorem acceptBytes_piece {n : ℕ} (hn : 0 < n) (s : Socket) :
    (∃ got t, acceptBytes n false false s = (.bytes got, t) ∧ got ≠ [] ∧
      arrived s = got ++ arrived t ∧ s.payload = got ++ t.payload) ∨
    (∃ outcome t, acceptBytes n false false s = (outcome, t) ∧ (∀ got, outcome ≠ .bytes got) ∧
      arrived s = []) := by
  obtain ⟨k, rfl⟩ : ∃ k, n = k + 1 := ⟨n - 1, by omega⟩
  induction s with
  | nil => exact Or.inr ⟨.failed, [], rfl, nofun, rfl⟩
  | cons e s ih =>
    cases e with
    | fragment b bs =>
      left
      by_cases hle : (b :: bs).length ≤ k + 1
      · refine ⟨b :: bs, s, ?_, by simp, rfl, rfl⟩
        rw [acceptBytes, acceptLoop, if_pos hle, if_neg (by simp), List.nil_append]
      · refine ⟨(b :: bs).take (k + 1), Socket.ofBytes ((b :: bs).drop (k + 1)) ++ s,
          ?_, ?_, ?_, ?_⟩
        · rw [acceptBytes, acceptLoop, if_neg hle, List.nil_append]
        · simp
        · rw [arrived_ofBytes_append, ← List.append_assoc, List.take_append_drop]
          rfl
        · rw [payload_append, payload_ofBytes, ← List.append_assoc, List.take_append_drop]
          rfl
    | interrupted => exact ih
    | pause => exact Or.inr ⟨.failed, s, rfl, nofun, rfl⟩
    | closed => exact Or.inr ⟨.failed, .closed :: s, rfl, nofun, rfl⟩
    | failed => exact Or.inr ⟨.failed, s, rfl, nofun, rfl⟩

/-- The pieces together are what arrives in time. -/
theorem pieces_flatten {fuel : ℕ} {s : Socket} (hfuel : s.payload.length < fuel) :
    (pieces fuel s).flatten = arrived s := by
  induction fuel generalizing s with
  | zero => omega
  | succ fuel ih =>
    rw [pieces]
    rcases acceptBytes_piece (show 0 < 1024 by decide) s with
      ⟨got, t, hread, hne, harrived, hpayload⟩ | ⟨outcome, t, hread, hnone, harrived⟩
    · have hpos : 0 < got.length := List.length_pos_iff.mpr hne
      have hlength := congrArg List.length hpayload
      rw [List.length_append] at hlength
      simp only [hread]
      rw [List.flatten_cons, ih (by omega), harrived]
    · cases outcome with
      | bytes got => exact absurd rfl (hnone got)
      | failed =>
        simp only [hread]
        exact harrived.symm
      | blocked =>
        simp only [hread]
        exact harrived.symm

theorem saveFile_eq_ok_iff {fs : LocalFs} {s : Socket} {c d : FTPConnection} :
    saveFile fs s c = .ok () d ↔ fs.creates = true ∧
      TakesAll fs.takes (pieces (s.payload.length + 1) s) ∧
      d = { c with localFile := some (fs.flushed (arrived s)) } := by
  have hpieces := pieces_flatten (Nat.lt_succ_self s.payload.length)
  unfold saveFile
  by_cases hcreates : fs.creates = true
  · rw [if_pos hcreates]
    cases hsave : saveLoop (s.payload.length + 1) s fs.takes [] with
    | none =>
      have hnot : ¬TakesAll fs.takes (pieces (s.payload.length + 1) s) := by
        intro htakes
        rw [saveLoop_eq_some_iff.mpr ⟨htakes, rfl⟩] at hsave
        cases hsave
      simp [hnot]
    | some written =>
      obtain ⟨htakes, hwritten⟩ := saveLoop_eq_some_iff.mp hsave
      rw [List.nil_append, hpieces] at hwritten
      simp [hcreates, htakes, hwritten, eq_comm]
  · simp [hcreates]

/-! ### Complete files -/

/-- A data connection over which the server sends a file: all of it, or what it sends before the
connection is dropped. -/
structure Download where
  content : List UInt8
  socket : Socket
  sends : socket.payload <+: content

/-- If `FTPGetFile` returns 0, the local file is the remote one. -/
def CompleteOnSuccess (remoteName : List UInt8) (d : Download) (fs : LocalFs)
    (c : FTPConnection) : Prop :=
  ∀ c', ftpGetFile remoteName (some d.socket) fs c = .ok () c' → c'.localFile = some d.content

/-- The three commands are answered, the file can be created and every `fwrite` takes what it is
given. -/
def GetsThrough (remoteName : List UInt8) (d : Download) (fs : LocalFs) (c : FTPConnection) :
    Prop :=
  (∃ ch typeLine pasvLine retrLine ch', c.ftpConn = some ch ∧
    Answers ch [.typeI, .pasv, .retr remoteName] [typeLine, pasvLine, retrLine] ch' ∧
    (ftpConvertResponseToHostAndPort pasvLine).isSome = true) ∧
  fs.creates = true ∧ TakesAll fs.takes (pieces (d.socket.payload.length + 1) d.socket)

/-- The whole file arrives before the first pause, error or end of the data, and `fclose` loses
nothing of it. -/
def ArrivesWhole (d : Download) (fs : LocalFs) : Prop :=
  arrived d.socket = d.content ∧ (fs.lost = 0 ∨ d.content = [])

theorem prefix_arrived (s : Socket) : arrived s <+: s.payload := by
  induction s with
  | nil => exact List.prefix_rfl
  | cons e s ih =>
    cases e with
    | fragment b bs => exact (List.prefix_append_right_inj _).mpr ih
    | interrupted => exact ih
    | pause => exact List.nil_prefix
    | closed => exact List.nil_prefix
    | failed => exact List.nil_prefix

theorem flushed_eq_iff {d : Download} {fs : LocalFs} :
    fs.flushed (arrived d.socket) = d.content ↔ ArrivesWhole d fs := by
  have hstarts := (prefix_arrived d.socket).trans d.sends
  unfold LocalFs.flushed ArrivesWhole
  constructor
  · intro h
    have hlength := congrArg List.length h
    rw [List.length_take] at hlength
    have hwhole : arrived d.socket = d.content :=
      hstarts.eq_of_length (le_antisymm hstarts.length_le (by omega))
    refine ⟨hwhole, ?_⟩
    rw [hwhole] at hlength
    rcases Nat.eq_zero_or_pos d.content.length with hzero | hpos
    · exact Or.inr (List.length_eq_zero_iff.mp hzero)
    · exact Or.inl (by omega)
  · rintro ⟨hwhole, hlost | hempty⟩
    · rw [hwhole, hlost, Nat.sub_zero, List.take_length]
    · rw [hwhole, hempty, List.take_nil]

theorem requestFile_eq_ok {remoteName : List UInt8} {s t : Socket} {c c' : FTPConnection} :
    requestFile remoteName (some s) c = .ok t c' ↔ t = s ∧
      ∃ ch typeLine pasvLine retrLine ch', c.ftpConn = some ch ∧
        Answers ch [.typeI, .pasv, .retr remoteName] [typeLine, pasvLine, retrLine] ch' ∧
        (ftpConvertResponseToHostAndPort pasvLine).isSome = true ∧
        c' = { c with ftpConn := some ch' } := by
  constructor
  · intro h
    obtain ⟨typeLine, _, hfirst, h⟩ := bind_eq_ok.mp h
    obtain ⟨pasvLine, _, hsecond, h⟩ := bind_eq_ok.mp h
    obtain ⟨address, _, hconvert, h⟩ := bind_eq_ok.mp h
    obtain ⟨u, _, hconnect, h⟩ := bind_eq_ok.mp h
    obtain ⟨retrLine, _, hthird, h⟩ := bind_eq_ok.mp h
    obtain ⟨ch, ch₁, hch, htype, rfl⟩ := ftpCommand_eq_ok.mp hfirst
    obtain ⟨_, ch₂, ⟨⟩, hpasv, rfl⟩ := ftpCommand_eq_ok.mp hsecond
    obtain ⟨haddress, rfl⟩ := ofOption_eq_ok.mp hconvert
    obtain ⟨hdata, rfl⟩ := ofOption_eq_ok.mp hconnect
    obtain ⟨_, ch₃, ⟨⟩, hretr, rfl⟩ := ftpCommand_eq_ok.mp hthird
    cases h
    exact ⟨(Option.some.inj hdata).symm, ch, typeLine, pasvLine, retrLine, ch₃, hch,
      answers_append htype (answers_append hpasv hretr), Option.isSome_of_mem haddress, rfl⟩
  · rintro ⟨rfl, ch, typeLine, pasvLine, retrLine, ch₃, hch, hanswers, haddress, rfl⟩
    obtain ⟨ch₁, htype, hanswers⟩ := answers_cons_iff.mp hanswers
    obtain ⟨ch₂, hpasv, hretr⟩ := answers_cons_iff.mp hanswers
    obtain ⟨address, haddress⟩ := Option.isSome_iff_exists.mp haddress
    refine bind_eq_ok.mpr ⟨_, _, ftpCommand_eq_ok.mpr ⟨ch, ch₁, hch, htype, rfl⟩, ?_⟩
    refine bind_eq_ok.mpr ⟨_, _, ftpCommand_eq_ok.mpr ⟨ch₁, ch₂, rfl, hpasv, rfl⟩, ?_⟩
    refine bind_eq_ok.mpr ⟨_, _, ofOption_eq_ok.mpr ⟨haddress, rfl⟩, ?_⟩
    refine bind_eq_ok.mpr ⟨_, _, ofOption_eq_ok.mpr ⟨rfl, rfl⟩, ?_⟩
    exact bind_eq_ok.mpr ⟨_, _, ftpCommand_eq_ok.mpr ⟨ch₂, ch₃, rfl, hretr, rfl⟩, rfl⟩

/-- `FTPGetFile` returns 0 only with the complete file exactly when, if it gets as far as the
end of its loop, the file arrives whole. -/
theorem ftpGetFile_complete_iff (remoteName : List UInt8) (d : Download) (fs : LocalFs)
    (c : FTPConnection) : CompleteOnSuccess remoteName d fs c ↔
      (GetsThrough remoteName d fs c → ArrivesWhole d fs) := by
  rw [← flushed_eq_iff]
  constructor
  · rintro h ⟨⟨ch, typeLine, pasvLine, retrLine, ch', hch, hanswers, haddress⟩, hcreates, htakes⟩
    have hrequest : requestFile remoteName (some d.socket) c =
        .ok d.socket { c with ftpConn := some ch' } :=
      requestFile_eq_ok.mpr
        ⟨rfl, ch, typeLine, pasvLine, retrLine, ch', hch, hanswers, haddress, rfl⟩
    have hsave := saveFile_eq_ok_iff (c := { c with ftpConn := some ch' }).mpr
      ⟨hcreates, htakes, rfl⟩
    exact Option.some.inj (h _ (bind_eq_ok.mpr ⟨_, _, hrequest, hsave⟩))
  · intro h c'' hget
    obtain ⟨s, c', hrequest, hsave⟩ := bind_eq_ok.mp hget
    obtain ⟨rfl, ch, typeLine, pasvLine, retrLine, ch', hch, hanswers, haddress, rfl⟩ :=
      requestFile_eq_ok.mp hrequest
    obtain ⟨hcreates, htakes, rfl⟩ := saveFile_eq_ok_iff.mp hsave
    have hgets : GetsThrough remoteName d fs c :=
      ⟨⟨ch, typeLine, pasvLine, retrLine, ch', hch, hanswers, haddress⟩, hcreates, htakes⟩
    exact congrArg some (h hgets)

/-- A server whose replies arrive at once: 200 to `type i`, 227 with an address to `pasv`, and 226
to a `retr` whose file has been sent. -/
def exampleServer (commands : List Command) : Exchange where
  sent := true
  arrives := Socket.ofBytes (match commands.getLast? with
    | some .pasv => [50, 50, 55, 32, 40, 49, 44, 50, 44, 51, 44, 52, 44, 53, 44, 54, 41, 13, 10]
    | some (.retr _) => [50, 50, 54, 13, 10]
    | _ => [50, 48, 48, 13, 10])

/-- Three bytes, the last of them after a pause longer than the timeout. -/
def pausedDownload : Download where
  content := [1, 2, 3]
  socket := [.fragment 1 [2], .pause, .fragment 3 []]
  sends := ⟨[], rfl⟩

theorem paused_download_truncated : ¬CompleteOnSuccess [97] pausedDownload ⟨true, [], 0⟩
    ⟨some ⟨[], [], exampleServer⟩, none⟩ := by
  intro h
  have hfile := h _ rfl
  exact absurd hfile (by decide)

end Ftp
