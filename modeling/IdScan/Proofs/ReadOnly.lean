import IdScan.Proofs.OutputFiles
import IdScan.Proofs.ReadAgreement

/-! # The programs only read

  Whatever a connection answers, and wherever it raises, the three programs send
  a card nothing but the SELECT of the applet, commands that read bytes, and GET
  RESPONSE for as many bytes as the command before it asked for. How much they
  send is bounded: a card that answers nothing is not asked for ever.
-/

namespace IdScan

open ReadImproved (IsRead readCommand)

/-! ### What is sent over a connection that may raise -/

/-- What is sent to read some commands: each command, and GET RESPONSE for its
    length behind those that do not raise. -/
inductive Sent (req : Apdu) : List Apdu → List Apdu → Prop where
  | nil : Sent req [] []
  | raised {cmds sent : List Apdu} (cmd : Apdu) : Sent req cmds sent →
      Sent req (cmd :: cmds) (cmd :: sent)
  | answered {cmds sent : List Apdu} (cmd : Apdu) : Sent req cmds sent →
      Sent req (cmd :: cmds) (cmd :: (req ++ [cmd.getLastD 0x00]) :: sent)

theorem Sent.length_le {req : Apdu} {cmds sent : List Apdu} (h : Sent req cmds sent) :
    sent.length ≤ 2 * cmds.length := by
  induction h with
  | nil => exact Nat.zero_le _
  | raised cmd _ ih =>
    rw [List.length_cons, List.length_cons]
    omega
  | answered cmd _ ih =>
    rw [List.length_cons, List.length_cons, List.length_cons]
    omega

theorem Sent.mem {req : Apdu} {cmds sent : List Apdu} (h : Sent req cmds sent) {cmd : Apdu}
    (hmem : cmd ∈ sent) : cmd ∈ cmds ∨ ∃ n, cmd = req ++ [n] := by
  induction h with
  | nil => cases hmem
  | raised head _ ih =>
    rcases List.mem_cons.mp hmem with rfl | hmem
    · exact .inl List.mem_cons_self
    · exact (ih hmem).imp_left (List.mem_cons_of_mem _)
  | answered head _ ih =>
    rcases List.mem_cons.mp hmem with rfl | hmem
    · exact .inl List.mem_cons_self
    · rcases List.mem_cons.mp hmem with rfl | hmem
      · exact .inr ⟨_, rfl⟩
      · exact (ih hmem).imp_left (List.mem_cons_of_mem _)

/-- One command more in front. -/
theorem Sent.cons {req cmd : Apdu} {cmds sent before after : List Apdu}
    (hone : after = before ++ [cmd] ∨ after = before ++ [cmd, req ++ [cmd.getLastD 0x00]])
    (h : Sent req cmds sent) :
    ∃ sent', after ++ sent = before ++ sent' ∧ Sent req (cmd :: cmds) sent' := by
  rcases hone with rfl | rfl
  · exact ⟨cmd :: sent, by simp, .raised cmd h⟩
  · exact ⟨cmd :: (req ++ [cmd.getLastD 0x00]) :: sent, by simp, .answered cmd h⟩

/-- A `get_data` sends its command, and GET RESPONSE unless the command raises. -/
theorem commandsSent_getData_cases (connection : Connection) (req cmd : Apdu) (ses : Session) :
    commandsSent (connection.getData cmd req ses).2 = commandsSent ses ++ [cmd] ∨
      commandsSent (connection.getData cmd req ses).2
        = commandsSent ses ++ [cmd, req ++ [cmd.getLastD 0x00]] := by
  cases hr : connection.respond ses cmd with
  | ok r => exact .inr (commandsSent_getData hr)
  | error e =>
    left
    simp only [Connection.getData, Connection.transmit, bind, StateT.bind, hr]
    exact List.map_append

/-- The reads of some commands, over any connection. -/
theorem sent_afterReads (connection : Connection) (req : Apdu) (cmds : List Apdu) (ses : Session) :
    ∃ sent, commandsSent (afterReads connection req cmds ses) = commandsSent ses ++ sent ∧
      Sent req cmds sent := by
  induction cmds generalizing ses with
  | nil => exact ⟨[], (List.append_nil _).symm, .nil⟩
  | cons cmd cmds ih =>
    obtain ⟨sent, hsent, hshape⟩ := ih (connection.getData cmd req ses).2
    obtain ⟨sent', hsent', hshape'⟩ :=
      hshape.cons (commandsSent_getData_cases connection req cmd ses)
    exact ⟨sent', hsent.trans hsent', hshape'⟩

/-! ### What a program may send -/

/-- The SELECT of the applet, a command that reads bytes, or GET RESPONSE. -/
def Reads (cmd : Apdu) : Prop :=
  cmd = ReadImproved.SELECT ++ ReadImproved.THAI_CARD ∨ IsRead cmd ∨
    ∃ code n, cmd = [0x00, 0xc0, 0x00, code, n]

/-- A program tries the SELECT at most so often, and then reads some of the
    commands, from the first on. -/
structure OnlyReads (tries : Nat) (cmds sent : List Apdu) : Prop where
  shape : ∃ k req cmds' sent', k ≤ tries ∧ cmds' <+: cmds ∧
    sent = List.replicate k (ReadImproved.SELECT ++ ReadImproved.THAI_CARD) ++ sent' ∧
    Sent req cmds' sent'
  reads : ∀ cmd ∈ sent, Reads cmd
  bound : sent.length ≤ tries + 2 * cmds.length

/-- The shape tells the rest. -/
theorem OnlyReads.of_shape {tries k : Nat} {req : Apdu} {cmds cmds' sent' : List Apdu}
    (hread : ∀ cmd ∈ cmds, IsRead cmd) (hreq : ∃ code, req = [0x00, 0xc0, 0x00, code])
    (hk : k ≤ tries) (hpre : cmds' <+: cmds) (hsent : Sent req cmds' sent') :
    OnlyReads tries cmds
      (List.replicate k (ReadImproved.SELECT ++ ReadImproved.THAI_CARD) ++ sent') where
  shape := ⟨k, req, cmds', sent', hk, hpre, rfl, hsent⟩
  reads := by
    intro cmd hmem
    rcases List.mem_append.mp hmem with hselect | hmem
    · exact .inl (List.mem_replicate.mp hselect).2
    · rcases hsent.mem hmem with hcmd | ⟨n, rfl⟩
      · exact .inr (.inl (hread cmd (hpre.subset hcmd)))
      · obtain ⟨code, rfl⟩ := hreq
        exact .inr (.inr ⟨code, n, rfl⟩)
  bound := by
    have hlen := hsent.length_le
    have hcmds := hpre.length_le
    rw [List.length_append, List.length_replicate]
    omega

theorem OnlyReads.nil (tries : Nat) (cmds : List Apdu) : OnlyReads tries cmds [] where
  shape := ⟨0, [], [], [], Nat.zero_le _, List.nil_prefix, rfl, .nil⟩
  reads := by simp
  bound := Nat.zero_le _

/-! ### `read.py` -/

namespace Read

/-- A field sends its command, and GET RESPONSE unless the command raises. -/
theorem commandsSent_readField (connection : Connection) (req cmd : Apdu) (ses : Session) :
    commandsSent ((readField connection req cmd).run ses).2 = commandsSent ses ++ [cmd] ∨
      commandsSent ((readField connection req cmd).run ses).2
        = commandsSent ses ++ [cmd, req ++ [cmd.getLastD 0x00]] := by
  rw [readField_run]
  cases connection.respond ses cmd with
  | error e => exact .inl List.map_append
  | ok r₁ =>
    right
    dsimp only
    cases connection.respond (ses ++ [⟨cmd, .ok r₁⟩]) (req ++ [cmd.getLastD 0x00]) with
    | error e => simp [commandsSent]
    | ok r₂ => simp [commandsSent]

/-- The script stops at the first field that raises. -/
theorem sent_readFields (connection : Connection) (req : Apdu) (cmds : List Apdu) (ses : Session) :
    ∃ cmds' sent, cmds' <+: cmds ∧
      commandsSent ((readFields connection req cmds).run ses).2 = commandsSent ses ++ sent ∧
      Sent req cmds' sent := by
  induction cmds generalizing ses with
  | nil => exact ⟨[], [], List.nil_prefix, (List.append_nil _).symm, .nil⟩
  | cons cmd cmds ih =>
    have hone := commandsSent_readField connection req cmd ses
    unfold readFields
    rw [ReadImproved.run_bind]
    generalize (readField connection req cmd).run ses = field at hone
    obtain ⟨outcome, ses₁⟩ := field
    cases outcome with
    | error e =>
      obtain ⟨sent, hsent, hshape⟩ := Sent.nil.cons hone
      rw [List.append_nil] at hsent
      refine ⟨[cmd], sent, ?_, hsent, hshape⟩
      rw [List.cons_prefix_cons]
      exact ⟨rfl, List.nil_prefix⟩
    | ok text =>
      dsimp only at hone ⊢
      obtain ⟨cmds', sent, hpre, hsent, hshape⟩ := ih ses₁
      obtain ⟨sent', hsent', hshape'⟩ := hshape.cons hone
      refine ⟨cmd :: cmds', sent', ?_, ?_, hshape'⟩
      · rw [List.cons_prefix_cons]
        exact ⟨rfl, hpre⟩
      · rw [← hsent', ← hsent, ReadImproved.run_bind]
        generalize (readFields connection req cmds).run ses₁ = rest
        obtain ⟨outcome, ses₂⟩ := rest
        cases outcome <;> rfl

theorem requestCode_shape {atr : List UInt8} {req : Apdu} (h : requestCode atr = some req) :
    ∃ code, req = [0x00, 0xc0, 0x00, code] := by
  unfold requestCode at h
  split at h
  · split at h
    · exact ⟨_, (Option.some.inj h).symm⟩
    · exact ⟨_, (Option.some.inj h).symm⟩
  · cases h

/-- What `read.py` sends. -/
theorem main_onlyReads (connection : Connection) (atr : List UInt8) :
    OnlyReads 1 textCommands (commandsSent ((main connection atr).run []).2) := by
  rw [main_eq]
  cases hreq : requestCode atr with
  | none => exact OnlyReads.nil 1 textCommands
  | some req =>
    have hcode := requestCode_shape hreq
    have hread : ∀ cmd ∈ textCommands, IsRead cmd := ReadImproved.isRead_textCommands
    dsimp only
    rw [ReadImproved.run_bind_mk]
    unfold Connection.transmit
    dsimp only
    cases connection.respond [] (SELECT ++ THAI_CARD) with
    | error e => exact OnlyReads.of_shape hread hcode le_rfl List.nil_prefix .nil
    | ok r =>
      dsimp only
      obtain ⟨cmds', sent, hpre, hsent, hshape⟩ :=
        sent_readFields connection req textCommands [⟨SELECT ++ THAI_CARD, .ok r⟩]
      have hall : commandsSent ((readFields connection req textCommands >>= fun texts =>
          pure (List.zipWith (· ++ ·) labels texts)).run [⟨SELECT ++ THAI_CARD, .ok r⟩]).2
          = List.replicate 1 (ReadImproved.SELECT ++ ReadImproved.THAI_CARD) ++ sent := by
        rw [ReadImproved.run_bind]
        generalize (readFields connection req textCommands).run _ = run at hsent ⊢
        obtain ⟨outcome, ses⟩ := run
        cases outcome with
        | error e => exact hsent
        | ok texts => exact hsent
      rw [List.nil_append, hall]
      exact OnlyReads.of_shape hread hcode le_rfl hpre hshape

end Read

/-! ### `read_improved.py` -/

namespace ReadImproved

theorem requestCode_shape {atr : List UInt8} {req : Apdu} (h : requestCode atr = some req) :
    ∃ code, req = [0x00, 0xc0, 0x00, code] := by
  cases atr with
  | nil => cases h
  | cons a0 rest =>
    by_cases h0 : a0 = 0x3B
    · cases rest with
      | nil => simp [requestCode, h0] at h
      | cons a1 rest =>
        rw [requestCode_cons_cons] at h
        split at h
        · exact ⟨_, (Option.some.inj h).symm⟩
        · exact ⟨_, (Option.some.inj h).symm⟩
    · simp only [requestCode, if_neg h0] at h
      exact ⟨_, (Option.some.inj h).symm⟩

/-- The commands of a run, with the photo if one is asked for. -/
def askedCommands (save_photo : Bool) : List Apdu :=
  textCommands ++ if save_photo then CMD_PHOTO else []

theorem isRead_askedCommands (save_photo : Bool) : ∀ cmd ∈ askedCommands save_photo, IsRead cmd := by
  intro cmd hcmd
  unfold askedCommands at hcmd
  rcases List.mem_append.mp hcmd with htext | hphoto
  · exact isRead_textCommands cmd htext
  · cases save_photo with
    | false => cases hphoto
    | true => exact isRead_CMD_PHOTO cmd hphoto

/-- What `read_thai_id_card` sends. -/
theorem read_thai_id_card_onlyReads (host : Host) (connection : Connection) (atr : List UInt8)
    (save_photo : Bool) (output_dir : Str) :
    OnlyReads 1 (askedCommands save_photo)
      (commandsSent ((read_thai_id_card host connection atr save_photo output_dir).run []).2) := by
  have hread := isRead_askedCommands save_photo
  rw [read_thai_id_card_run]
  cases hreq : requestCode atr with
  | none => exact OnlyReads.nil 1 _
  | some req =>
    have hcode := requestCode_shape hreq
    dsimp only
    cases connection.respond [] (SELECT ++ THAI_CARD) with
    | error e => exact OnlyReads.of_shape hread hcode le_rfl List.nil_prefix .nil
    | ok r =>
      dsimp only
      by_cases hrefused : r.sw1 ≠ 0x90 ∨ r.sw2 ≠ 0x00
      · rw [if_pos hrefused]
        exact OnlyReads.of_shape hread hcode le_rfl List.nil_prefix .nil
      · rw [if_neg hrefused, readSelected_session]
        obtain ⟨sent, hsent, hshape⟩ := sent_afterReads connection req (askedCommands save_photo)
          ([] ++ [⟨SELECT ++ THAI_CARD, .ok r⟩])
        have hall : commandsSent (afterReads connection req
            (textCommands ++ if save_photo then CMD_PHOTO else [])
            ([] ++ [⟨SELECT ++ THAI_CARD, .ok r⟩]))
            = List.replicate 1 (SELECT ++ THAI_CARD) ++ sent := hsent
        rw [hall]
        exact OnlyReads.of_shape hread hcode le_rfl List.prefix_rfl hshape

/-- A run of the program talks to the card as `read_thai_id_card` does. -/
theorem main_session (fs : FileSystem) (binString : List UInt8 → Contents) (now : Str)
    (connection : Connection) (atr : List UInt8) (args : Args) :
    (main fs binString now connection atr args ⟨[], []⟩).2.session
      = ((read_thai_id_card (savingHost fs binString now args.output_dir []) connection atr
          args.photo args.output_dir).run []).2 := by
  have hsaving := read_thai_id_card_saving_eq fs binString now connection atr args.photo
    args.output_dir ⟨[], []⟩
  dsimp only at hsaving
  rw [hsaving, main_apply]
  unfold mainBody
  rw [run_bind]
  generalize (read_thai_id_card_saving fs binString now connection atr args.photo args.output_dir).run
    ⟨[], []⟩ = read
  obtain ⟨outcome, log⟩ := read
  cases outcome with
  | error e => rfl
  | ok found =>
    cases found with
    | none => rfl
    | some card_data =>
      dsimp only
      by_cases hjson : args.json = true
      · rw [if_pos hjson, run_bind_mk, onFiles_apply]
        dsimp only
        cases ((save_to_json fs card_data args.output_dir).run log.files).1 <;> rfl
      · rw [if_neg hjson]
        rfl

end ReadImproved

/-! ### `gui_reader.py` -/

namespace GuiReader

theorem requestCode_eq (atr : List UInt8) : requestCode atr = ReadImproved.requestCode atr := rfl

/-- The session of a round of the monitor, where `current_cid` stands as given. -/
def roundSession (connection : Connection) (atr : List UInt8) (current_cid : Option Str) : Session :=
  match pollCard (.connected atr connection) with
  | .card read =>
    if read.cid ≠ [] ∧ current_cid ≠ some read.cid then
      (read_card_data read.connection read.req read.cid [] read.session).2
    else read.session
  | _ =>
    match requestCode atr with
    | none => []
    | some _ => (select_applet connection max_retries 0x00 []).2

/-- A round that posts a record has read it in this session. -/
theorem roundSession_of_posts {connection : Connection} {atr : List UInt8}
    {current_cid : Option Str} {now : Str} {card_info : CardInfo}
    (h : .add_card_to_table card_info
      ∈ (monitor_card_round (.connected atr connection) now ⟨current_cid, []⟩).pending) :
    ∃ read, pollCard (.connected atr connection) = .card read ∧
      read_card_data read.connection read.req read.cid now read.session
        = (some card_info, roundSession connection atr current_cid) := by
  obtain ⟨read, hpoll, hne, hcur, rfl⟩ := mem_monitor_card_round.mp h
  refine ⟨read, hpoll, ?_⟩
  rw [roundSession, hpoll]
  dsimp only
  rw [if_pos ⟨hne, hcur⟩, read_card_data_eq, read_card_data_eq]

/-- A round that posts none has read no field but the CID. -/
theorem roundSession_of_not_posts {connection : Connection} {atr : List UInt8}
    {current_cid : Option Str} {now : Str} {read : CardRead}
    (hpoll : pollCard (.connected atr connection) = .card read)
    (h : ∀ card_info, .add_card_to_table card_info
      ∉ (monitor_card_round (.connected atr connection) now ⟨current_cid, []⟩).pending) :
    roundSession connection atr current_cid = read.session := by
  have hcond : ¬ (read.cid ≠ [] ∧ current_cid ≠ some read.cid) := fun hcond =>
    h _ (mem_monitor_card_round.mpr ⟨read, hpoll, hcond.1, hcond.2, rfl⟩)
  rw [roundSession, hpoll]
  dsimp only
  rw [if_neg hcond]

/-- The loop tries the SELECT as often as it has attempts, or less. -/
theorem sent_select_applet (connection : Connection) (n : Nat) (sw1 : UInt8) (ses : Session) :
    ∃ k ≤ n, commandsSent (select_applet connection n sw1 ses).2
      = commandsSent ses ++ List.replicate k (SELECT ++ THAI_CARD) := by
  induction n generalizing sw1 ses with
  | zero => exact ⟨0, le_rfl, (List.append_nil _).symm⟩
  | succ n ih =>
    -- behind an attempt the loop goes on with one attempt less
    have hmore : ∀ (sw1 : UInt8) (outcome : Except PyExc Response),
        ∃ k ≤ n + 1, commandsSent
            (select_applet connection n sw1 (ses ++ [⟨SELECT ++ THAI_CARD, outcome⟩])).2
          = commandsSent ses ++ List.replicate k (SELECT ++ THAI_CARD) := by
      intro sw1 outcome
      obtain ⟨k, hk, hsent⟩ := ih sw1 (ses ++ [⟨SELECT ++ THAI_CARD, outcome⟩])
      refine ⟨k + 1, Nat.succ_le_succ hk, ?_⟩
      rw [hsent, List.replicate_succ]
      simp [commandsSent]
    unfold select_applet
    rw [show ∀ (f : Except PyExc Response → StateM Session UInt8),
      (connection.transmit (SELECT ++ THAI_CARD) >>= f) ses
        = f (connection.respond ses (SELECT ++ THAI_CARD))
            (ses ++ [⟨SELECT ++ THAI_CARD, connection.respond ses (SELECT ++ THAI_CARD)⟩])
      from fun f => rfl]
    cases connection.respond ses (SELECT ++ THAI_CARD) with
    | error e => exact hmore sw1 (.error e)
    | ok response =>
      dsimp only
      by_cases hacc : accepted response.sw1 = true
      · rw [if_pos hacc]
        exact ⟨1, Nat.succ_le_succ (Nat.zero_le n), List.map_append⟩
      · rw [if_neg hacc]
        exact hmore response.sw1 (.ok response)

/-- A round in which the card is not read: the SELECT was tried. -/
theorem selects_onlyReads (connection : Connection) {req : Apdu} {cmds' sent' : List Apdu}
    (hreq : ∃ code, req = [0x00, 0xc0, 0x00, code])
    (hpre : cmds' <+: ReadImproved.textCommands) (hsent : Sent req cmds' sent') {ses : Session}
    (hses : commandsSent ses
      = commandsSent (select_applet connection max_retries 0x00 []).2 ++ sent') :
    OnlyReads max_retries ReadImproved.textCommands (commandsSent ses) := by
  obtain ⟨k, hk, hselects⟩ := sent_select_applet connection max_retries 0x00 []
  rw [hses, hselects]
  exact OnlyReads.of_shape ReadImproved.isRead_textCommands hreq hk hpre hsent

/-- What a round of the monitor sends. -/
theorem round_onlyReads (connection : Connection) (atr : List UInt8) (current_cid : Option Str) :
    OnlyReads max_retries ReadImproved.textCommands
      (commandsSent (roundSession connection atr current_cid)) := by
  cases hreq : requestCode atr with
  | none =>
    have hpoll : pollCard (.connected atr connection) = .nothing := by
      simp only [pollCard, hreq]
    unfold roundSession
    rw [hpoll]
    dsimp only
    rw [hreq]
    exact OnlyReads.nil _ _
  | some req =>
    have hcode := ReadImproved.requestCode_shape ((requestCode_eq atr).symm.trans hreq)
    have hpoll : pollCard (.connected atr connection)
        = if accepted (select_applet connection max_retries 0x00 []).1 = true
          then
            let data := get_data connection CMD_CID req
              (select_applet connection max_retries 0x00 []).2
            .card { connection, req, cid := thai2unicode data.1.data, session := data.2 }
          else .nothing := by
      simp only [pollCard, hreq]
    by_cases hacc : accepted (select_applet connection max_retries 0x00 []).1 = true
    · rw [if_pos hacc] at hpoll
      dsimp only at hpoll
      -- the eight fields behind the CID are read for a record that is posted
      by_cases hposts : ∃ card_info, .add_card_to_table card_info
          ∈ (monitor_card_round (.connected atr connection) [] ⟨current_cid, []⟩).pending
      · obtain ⟨card_info, hmem⟩ := hposts
        obtain ⟨read, hread, hsession⟩ := roundSession_of_posts hmem
        cases hpoll.symm.trans hread
        have hsame : _ = roundSession connection atr current_cid := congrArg Prod.snd hsession
        obtain ⟨sent, hsent, hshape⟩ := sent_afterReads connection req ReadImproved.textCommands
          (select_applet connection max_retries 0x00 []).2
        rw [← hsame]
        exact selects_onlyReads connection hcode List.prefix_rfl hshape hsent
      · obtain ⟨sent, hsent, hshape⟩ := sent_afterReads connection req [CMD_CID]
          (select_applet connection max_retries 0x00 []).2
        rw [roundSession_of_not_posts hpoll (not_exists.mp hposts)]
        exact selects_onlyReads connection hcode ⟨ReadImproved.textCommands.tail, rfl⟩ hshape hsent
    · rw [if_neg hacc] at hpoll
      rw [roundSession, hpoll]
      dsimp only
      rw [hreq]
      exact selects_onlyReads connection hcode List.nil_prefix .nil (List.append_nil _).symm

end GuiReader

/-- The programs only read: whatever the connection does, `read.py`, a run of
    `read_improved.py` and a round of the window's monitor send SELECTs and
    commands that read, and no more of them than they have. -/
theorem programs_only_read (connection : Connection) (atr : List UInt8) (fs : FileSystem)
    (binString : List UInt8 → Contents) (now : Str) (args : ReadImproved.Args)
    (current_cid : Option Str) :
    OnlyReads 1 Read.textCommands (commandsSent ((Read.main connection atr).run []).2) ∧
      OnlyReads 1 (ReadImproved.askedCommands args.photo)
        (commandsSent (ReadImproved.main fs binString now connection atr args ⟨[], []⟩).2.session) ∧
      OnlyReads GuiReader.max_retries ReadImproved.textCommands
        (commandsSent (GuiReader.roundSession connection atr current_cid)) := by
  refine ⟨Read.main_onlyReads connection atr, ?_,
    GuiReader.round_onlyReads connection atr current_cid⟩
  rw [ReadImproved.main_session]
  exact ReadImproved.read_thai_id_card_onlyReads _ connection atr args.photo args.output_dir

end IdScan
