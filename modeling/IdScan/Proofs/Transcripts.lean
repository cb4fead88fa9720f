import IdScan.Model.Read
import IdScan.Proofs.CardSession

/-! # What is sent to a card

  Both command-line programs read a card field by field: the command, and GET
  RESPONSE for the length the command ends in. As long as no command raises,
  what they send is fixed by their command tables and the response code.
-/

namespace IdScan

/-! ### Reading a list of commands -/

/-- The session behind the reads of some commands. -/
def afterReads (connection : Connection) (req : Apdu) : List Apdu → Session → Session
  | [], ses => ses
  | cmd :: cmds, ses => afterReads connection req cmds (connection.getData cmd req ses).2

theorem afterReads_append (connection : Connection) (req : Apdu) (cmds cmds' : List Apdu)
    (ses : Session) :
    afterReads connection req (cmds ++ cmds') ses
      = afterReads connection req cmds' (afterReads connection req cmds ses) := by
  induction cmds generalizing ses with
  | nil => rfl
  | cons cmd cmds ih => exact ih _

/-- What is sent to read some commands. -/
def transcript (req : Apdu) (cmds : List Apdu) : List Apdu :=
  cmds.flatMap fun cmd => [cmd, req ++ [cmd.getLastD 0x00]]

/-- The commands of a session. -/
def commandsSent (ses : Session) : List Apdu := ses.map Exchange.cmd

/-- The connection never raises on the commands. -/
def Answers (connection : Connection) (cmds : List Apdu) : Prop :=
  ∀ cmd ∈ cmds, ∀ ses, ∃ r, connection.respond ses cmd = .ok r

/-- What comes of a `get_data` whose command does not raise. -/
theorem getData_of_ok {connection : Connection} {cmd req : Apdu} {ses : Session} {r : Response}
    (h : connection.respond ses cmd = .ok r) :
    connection.getData cmd req ses =
      (match connection.respond (ses ++ [⟨cmd, .ok r⟩]) (req ++ [cmd.getLastD 0x00]) with
      | .error e => (⟨[], 0x00, 0x00⟩,
          ses ++ [⟨cmd, .ok r⟩, ⟨req ++ [cmd.getLastD 0x00], .error e⟩])
      | .ok response => (response,
          ses ++ [⟨cmd, .ok r⟩, ⟨req ++ [cmd.getLastD 0x00], .ok response⟩]) :
        Response × Session) := by
  simp only [Connection.getData, Connection.transmit, bind, StateT.bind, h]
  cases connection.respond (ses ++ [⟨cmd, .ok r⟩]) (req ++ [cmd.getLastD 0x00]) with
  | error e =>
    show (_, ses ++ [_] ++ [_]) = _
    rw [List.append_assoc]
    rfl
  | ok response =>
    show (_, ses ++ [_] ++ [_]) = _
    rw [List.append_assoc]
    rfl

/-- GET RESPONSE is sent unless the command raises. -/
theorem commandsSent_getData {connection : Connection} {cmd req : Apdu} {ses : Session}
    {r : Response} (h : connection.respond ses cmd = .ok r) :
    commandsSent (connection.getData cmd req ses).2
      = commandsSent ses ++ [cmd, req ++ [cmd.getLastD 0x00]] := by
  rw [getData_of_ok h]
  split <;> simp [commandsSent]

theorem commandsSent_afterReads {connection : Connection} {req : Apdu} {cmds : List Apdu}
    (h : Answers connection cmds) (ses : Session) :
    commandsSent (afterReads connection req cmds ses)
      = commandsSent ses ++ transcript req cmds := by
  induction cmds generalizing ses with
  | nil => simp [afterReads, transcript]
  | cons cmd cmds ih =>
    obtain ⟨r, hr⟩ := h cmd (by simp) ses
    have hrest : Answers connection cmds := fun cmd' hmem => h cmd' (by simp [hmem])
    rw [afterReads, ih hrest, commandsSent_getData hr, transcript, transcript, List.flatMap_cons,
      List.append_assoc]

/-! ### What the programs send -/

namespace ReadImproved

open GuiReader (readTexts)

/-- The commands of the nine texts, as `read_thai_id_card` sends them. -/
def textCommands : List Apdu :=
  [CMD_CID, CMD_THFULLNAME, CMD_ENFULLNAME, CMD_BIRTH, CMD_GENDER, CMD_ISSUER, CMD_ISSUE,
    CMD_EXPIRE, CMD_ADDRESS]

theorem read_photo_session (connection : Connection) (req : Apdu) (cmds : List Apdu)
    (photo_data : List UInt8) (ses : Session) :
    (read_photo connection req cmds photo_data ses).2 = afterReads connection req cmds ses := by
  induction cmds generalizing photo_data ses with
  | nil => rfl
  | cons cmd cmds ih => exact ih _ _

/-- The session of `read_thai_id_card` from the accepted SELECT on. -/
theorem readSelected_session (host : Host) (connection : Connection) (req : Apdu)
    (save_photo : Bool) (output_dir : Str) (ses : Session) :
    (readSelected host connection req save_photo output_dir ses).2
      = afterReads connection req (textCommands ++ if save_photo then CMD_PHOTO else []) ses := by
  cases save_photo with
  | false => rfl
  | true =>
    have hread : (readRecord host.now connection req ses).2
        = afterReads connection req textCommands ses := rfl
    -- whether the saving raises, the session is that of the photo
    rw [readSelected_true, if_pos rfl, afterReads_append, ← hread]
    dsimp only
    rw [read_photo_session]

/-- The run of `read_thai_id_card` on a card that accepts the SELECT. -/
theorem run_of_selected {connection : Connection} {atr : List UInt8} {req : Apdu} {r : Response}
    (hreq : requestCode atr = some req)
    (hselect : connection.respond [] (SELECT ++ THAI_CARD) = .ok r) (hsw1 : r.sw1 = 0x90)
    (hsw2 : r.sw2 = 0x00) (save_photo : Bool) (host : Host) (output_dir : Str) :
    (read_thai_id_card host connection atr save_photo output_dir).run []
      = readSelected host connection req save_photo output_dir
          [⟨SELECT ++ THAI_CARD, .ok r⟩] := by
  have haccepted : ¬ (r.sw1 ≠ 0x90 ∨ r.sw2 ≠ 0x00) := by simp [hsw1, hsw2]
  rw [read_thai_id_card_run, hreq]
  dsimp only
  rw [hselect]
  dsimp only
  rw [if_neg haccepted]
  rfl

/-- What `read_thai_id_card` sends to such a card. -/
theorem commandsSent_read_thai_id_card {connection : Connection} {atr : List UInt8} {req : Apdu}
    {r : Response} (hreq : requestCode atr = some req)
    (hselect : connection.respond [] (SELECT ++ THAI_CARD) = .ok r) (hsw1 : r.sw1 = 0x90)
    (hsw2 : r.sw2 = 0x00) (save_photo : Bool)
    (hanswers : Answers connection (textCommands ++ if save_photo then CMD_PHOTO else []))
    (host : Host) (output_dir : Str) :
    commandsSent ((read_thai_id_card host connection atr save_photo output_dir).run []).2
      = (SELECT ++ THAI_CARD)
        :: transcript req (textCommands ++ if save_photo then CMD_PHOTO else []) := by
  rw [run_of_selected hreq hselect hsw1 hsw2, readSelected_session,
    commandsSent_afterReads hanswers]
  rfl

theorem requestCode_cons_cons (a0 a1 : UInt8) (rest : List UInt8) :
    requestCode (a0 :: a1 :: rest)
      = some (if a0 = 0x3B ∧ a1 = 0x67 then [0x00, 0xc0, 0x00, 0x01]
          else [0x00, 0xc0, 0x00, 0x00]) := by
  unfold requestCode
  by_cases h0 : a0 = 0x3B
  · by_cases h1 : a1 = 0x67 <;> simp [h0, h1]
  · simp [h0]

end ReadImproved

namespace Read

/-- The commands `read.py` sends. -/
def textCommands : List Apdu :=
  [CMD_CID, CMD_THFULLNAME, CMD_ENFULLNAME, CMD_BIRTH, CMD_GENDER, CMD_ISSUER, CMD_ISSUE,
    CMD_EXPIRE, CMD_ADDRESS]

/-- The two programs carry the same commands. -/
theorem textCommands_eq : textCommands = ReadImproved.textCommands := rfl

/-- The bytes of every answer decode. -/
def Decodable (card : Session → Apdu → Response) : Prop :=
  ∀ ses cmd, (decodeTis620 (card ses cmd).data).isSome = true

theorem thai2unicode_of_decodable {data : List UInt8} (h : (decodeTis620 data).isSome = true) :
    thai2unicode data = .ok (stripDecoded data) := by
  obtain ⟨text, htext⟩ := Option.isSome_iff_exists.mp h
  simp [thai2unicode, stripDecoded, htext]

/-- One field of the script, on a card that answers everything. -/
theorem run_field {card : Session → Apdu → Response} (hcard : Decodable card) (cmd req : Apdu)
    {β : Type} (f : Str → ExceptT PyExc (StateM Session) β) (ses : Session) :
    (getData (.ofCard card) cmd req >>= fun data =>
        ExceptT.mk (pure (thai2unicode data.data)) >>= f).run ses
      = (f (stripDecoded ((Connection.ofCard card).getData cmd req ses).1.data)).run
          ((Connection.ofCard card).getData cmd req ses).2 := by
  rw [getData_of_ok rfl]
  simp only [getData, bind_assoc, ReadImproved.run_bind_mk, Connection.transmit, Connection.ofCard,
    thai2unicode_of_decodable (hcard _ _), List.append_assoc]
  rfl

theorem main_session {card : Session → Apdu → Response} (hcard : Decodable card)
    {atr : List UInt8} {req : Apdu} (hreq : requestCode atr = some req) :
    ((main (.ofCard card) atr).run []).2
      = afterReads (.ofCard card) req textCommands
          [⟨SELECT ++ THAI_CARD, .ok (card [] (SELECT ++ THAI_CARD))⟩] := by
  unfold main
  rw [hreq]
  dsimp only
  rw [ReadImproved.run_bind_mk]
  show ((getData _ _ _ >>= _).run _).2 = _
  simp only [run_field hcard]
  rfl

/-- What `read.py` sends to a card that answers everything. -/
theorem commandsSent_main {card : Session → Apdu → Response} (hcard : Decodable card)
    {atr : List UInt8} {req : Apdu} (hreq : requestCode atr = some req) :
    commandsSent ((main (.ofCard card) atr).run []).2
      = (SELECT ++ THAI_CARD) :: transcript req textCommands := by
  have hanswers : Answers (.ofCard card) textCommands := fun cmd _ ses => ⟨card ses cmd, rfl⟩
  rw [main_session hcard hreq, commandsSent_afterReads hanswers]
  rfl

/-- No second byte has all the bits of 0x67 in common with 0x3B. -/
theorem and_ne (a1 : UInt8) : 0x3B &&& a1 ≠ 0x67 := by
  intro h
  have hbit : (0x3B &&& a1) &&& 0x40 = 0x67 &&& 0x40 := by rw [h]
  have hclear : (0x3B : UInt8) &&& 0x40 = 0 := by decide
  rw [UInt8.and_comm 0x3B a1, UInt8.and_assoc, hclear, UInt8.and_zero] at hbit
  exact absurd hbit (by decide)

/-- The chained comparison never holds. -/
theorem requestCode_cons_cons (a0 a1 : UInt8) (rest : List UInt8) :
    requestCode (a0 :: a1 :: rest) = some [0x00, 0xc0, 0x00, 0x00] := by
  simp [requestCode, and_ne]

end Read

/-- **When the two command-line programs send the same commands**: to every card
    but those that need the other response code. -/
theorem same_commands_iff (card : Session → Apdu → Response) (hcard : Read.Decodable card)
    (hsw1 : (card [] (Read.SELECT ++ Read.THAI_CARD)).sw1 = 0x90)
    (hsw2 : (card [] (Read.SELECT ++ Read.THAI_CARD)).sw2 = 0x00)
    (a0 a1 : UInt8) (rest : List UInt8) (host : ReadImproved.Host) (output_dir : Str) :
    commandsSent ((Read.main (.ofCard card) (a0 :: a1 :: rest)).run []).2
        = commandsSent ((ReadImproved.read_thai_id_card host (.ofCard card) (a0 :: a1 :: rest)
            false output_dir).run []).2 ↔
      ¬ (a0 = 0x3B ∧ a1 = 0x67) := by
  rw [Read.commandsSent_main hcard (Read.requestCode_cons_cons a0 a1 rest), Read.textCommands_eq,
    ReadImproved.commandsSent_read_thai_id_card (ReadImproved.requestCode_cons_cons a0 a1 rest)
      rfl hsw1 hsw2 false (fun cmd _ ses => ⟨card ses cmd, rfl⟩) host output_dir]
  by_cases h : a0 = 0x3B ∧ a1 = 0x67
  · -- the codes differ, and with them every GET RESPONSE
    rw [if_pos h]
    refine iff_of_false ?_ (not_not_intro h)
    decide
  · rw [if_neg h]
    exact iff_of_true rfl h

/-- A card that answers everything with the digit 1. -/
def digitCard : Session → Apdu → Response := fun _ _ => ⟨[0x31], 0x90, 0x00⟩

theorem digitCard_decodable : Read.Decodable digitCard := by
  intro _ _
  show (decodeTis620 [0x31]).isSome = true
  decide

theorem same_commands_digitCard :
    commandsSent ((Read.main (.ofCard digitCard) [0x3B, 0x68]).run []).2
      = commandsSent ((ReadImproved.read_thai_id_card ⟨[], fun _ _ => .ok ()⟩ (.ofCard digitCard)
          [0x3B, 0x68] false []).run []).2 :=
  (same_commands_iff digitCard digitCard_decodable rfl rfl 0x3B 0x68 [] ⟨[], fun _ _ => .ok ()⟩
    []).mpr (by decide)

/-- On the ATR 3B 67 the first GET RESPONSE differs. -/
theorem other_response_code :
    Read.Decodable digitCard ∧
      (commandsSent ((Read.main (.ofCard digitCard) [0x3B, 0x67]).run []).2)[2]?
        = some [0x00, 0xc0, 0x00, 0x00, 0x0d] ∧
      (commandsSent ((ReadImproved.read_thai_id_card ⟨[], fun _ _ => .ok ()⟩ (.ofCard digitCard)
          [0x3B, 0x67] false []).run []).2)[2]? = some [0x00, 0xc0, 0x00, 0x01, 0x0d] ∧
      commandsSent ((Read.main (.ofCard digitCard) [0x3B, 0x67]).run []).2
        ≠ commandsSent ((ReadImproved.read_thai_id_card ⟨[], fun _ _ => .ok ()⟩ (.ofCard digitCard)
          [0x3B, 0x67] false []).run []).2 := by
  have hread : (commandsSent ((Read.main (.ofCard digitCard) [0x3B, 0x67]).run []).2)[2]?
      = some [0x00, 0xc0, 0x00, 0x00, 0x0d] := by decide +kernel
  have himproved : (commandsSent ((ReadImproved.read_thai_id_card ⟨[], fun _ _ => .ok ()⟩
      (.ofCard digitCard) [0x3B, 0x67] false []).run []).2)[2]?
      = some [0x00, 0xc0, 0x00, 0x01, 0x0d] := by decide +kernel
  refine ⟨digitCard_decodable, hread, himproved, ?_⟩
  intro heq
  rw [heq, himproved] at hread
  simp at hread

end IdScan
