import IdScan.Proofs.Transcripts

/-! # What the first reader prints

  `read.py` ends normally exactly if nothing raises on its way: neither a
  transmit nor the decoding of a text. The status words of the SELECT do not
  count, so that it prints a record of a card that refused it. Where the card
  accepts, what it prints is the record of `read_improved.py`, from the very
  same session.
-/

namespace IdScan

namespace Read

open ReadImproved (run_bind run_bind_mk)
open GuiReader (CardTexts readTexts)

/-! ### One field, and a list of them -/

/-- A field of the script: its data, decoded. -/
def readField (connection : Connection) (req cmd : Apdu) : ExceptT PyExc (StateM Session) Str := do
  let data ← getData connection cmd req
  ExceptT.mk (pure (thai2unicode data.data))

/-- The fields of some commands, one after the other. -/
def readFields (connection : Connection) (req : Apdu) :
    List Apdu → ExceptT PyExc (StateM Session) (List Str)
  | [] => return []
  | cmd :: cmds => do
    let text ← readField connection req cmd
    let texts ← readFields connection req cmds
    return text :: texts

/-- The labels of the printed lines. -/
def labels : List Str :=
  ["CID: ".toList, "TH Fullname: ".toList, "EN Fullname: ".toList, "Date of birth: ".toList,
    "Gender: ".toList, "Card Issuer: ".toList, "Issue Date: ".toList, "Expire Date: ".toList,
    "Address: ".toList]

/-- The script reads the fields of its commands and prints each behind a label. -/
theorem main_eq (connection : Connection) (atr : List UInt8) :
    main connection atr =
      match requestCode atr with
      | none => throw .other
      | some req => do
        let _ ← ExceptT.mk (connection.transmit (SELECT ++ THAI_CARD))
        let texts ← readFields connection req textCommands
        return List.zipWith (· ++ ·) labels texts := by
  unfold main
  cases requestCode atr with
  | none => rfl
  | some req =>
    simp only [readFields, readField, textCommands, labels, bind_assoc, pure_bind,
      List.zipWith_cons_cons, List.zipWith_nil_left]

/-- The field is fetched at this point of a session: neither transmit raises, and
    the bytes decode. -/
def Fetched (connection : Connection) (req cmd : Apdu) (ses : Session) : Prop :=
  ∃ r₁ r₂, connection.respond ses cmd = .ok r₁ ∧
    connection.respond (ses ++ [⟨cmd, .ok r₁⟩]) (req ++ [cmd.getLastD 0x00]) = .ok r₂ ∧
    (decodeTis620 r₂.data).isSome = true

/-- All the fields are fetched, one after the other. -/
def AllFetched (connection : Connection) (req : Apdu) : List Apdu → Session → Prop
  | [], _ => True
  | cmd :: cmds, ses =>
    Fetched connection req cmd ses ∧
      AllFetched connection req cmds (connection.getData cmd req ses).2

/-- A card that answers everything with bytes that decode has all its fields
    fetched. -/
theorem allFetched_ofCard {card : Session → Apdu → Response} (hcard : Decodable card) (req : Apdu)
    (cmds : List Apdu) (ses : Session) : AllFetched (.ofCard card) req cmds ses := by
  induction cmds generalizing ses with
  | nil => trivial
  | cons cmd cmds ih => exact ⟨⟨_, _, rfl, rfl, hcard _ _⟩, ih _⟩

section fields
variable {connection : Connection} {req cmd : Apdu} {ses : Session}

/-- What comes of a field. -/
theorem readField_run (connection : Connection) (req cmd : Apdu) (ses : Session) :
    (readField connection req cmd).run ses =
      match connection.respond ses cmd with
      | .error e => (.error e, ses ++ [⟨cmd, .error e⟩])
      | .ok r₁ =>
        let ses₁ := ses ++ [⟨cmd, .ok r₁⟩]
        match connection.respond ses₁ (req ++ [cmd.getLastD 0x00]) with
        | .error e => (.error e, ses₁ ++ [⟨req ++ [cmd.getLastD 0x00], .error e⟩])
        | .ok r₂ => (thai2unicode r₂.data, ses₁ ++ [⟨req ++ [cmd.getLastD 0x00], .ok r₂⟩]) := by
  unfold readField getData
  rw [bind_assoc, run_bind_mk]
  unfold Connection.transmit
  dsimp only
  cases connection.respond ses cmd with
  | error e => rfl
  | ok r₁ =>
    dsimp only
    rw [run_bind_mk]
    cases connection.respond (ses ++ [⟨cmd, .ok r₁⟩]) (req ++ [cmd.getLastD 0x00]) with
    | error e => rfl
    | ok r₂ => rfl

/-- A field that is fetched is the text `read_improved.py` makes of it, and
    leaves the same session. -/
theorem readField_of_fetched (h : Fetched connection req cmd ses) :
    (readField connection req cmd).run ses
      = (.ok (stripDecoded (connection.getData cmd req ses).1.data),
          (connection.getData cmd req ses).2) := by
  obtain ⟨r₁, r₂, hr₁, hr₂, hdecode⟩ := h
  rw [readField_run, getData_of_ok hr₁, hr₁]
  dsimp only
  rw [hr₂]
  dsimp only
  rw [thai2unicode_of_decodable hdecode, List.append_assoc]
  rfl

/-- Only a field that is fetched comes back. -/
theorem fetched_of_readField {text : Str} (h : ((readField connection req cmd).run ses).1 = .ok text) :
    Fetched connection req cmd ses := by
  rw [readField_run] at h
  cases hr₁ : connection.respond ses cmd with
  | error e =>
    rw [hr₁] at h
    cases h
  | ok r₁ =>
    rw [hr₁] at h
    dsimp only at h
    cases hr₂ : connection.respond (ses ++ [⟨cmd, .ok r₁⟩]) (req ++ [cmd.getLastD 0x00]) with
    | error e =>
      rw [hr₂] at h
      cases h
    | ok r₂ =>
      rw [hr₂] at h
      refine ⟨r₁, r₂, hr₁, hr₂, ?_⟩
      cases hdecode : decodeTis620 r₂.data with
      | none => simp [thai2unicode, hdecode] at h
      | some _ => rfl

/-- The texts of some commands, as `read_improved.py` reads them. -/
def textsRead (connection : Connection) (req : Apdu) : List Apdu → Session → List Str
  | [], _ => []
  | cmd :: cmds, ses =>
    stripDecoded (connection.getData cmd req ses).1.data
      :: textsRead connection req cmds (connection.getData cmd req ses).2

/-- Fields that are fetched come back as the other program reads them. -/
theorem readFields_of_fetched {cmds : List Apdu} (h : AllFetched connection req cmds ses) :
    (readFields connection req cmds).run ses
      = (.ok (textsRead connection req cmds ses), afterReads connection req cmds ses) := by
  induction cmds generalizing ses with
  | nil => rfl
  | cons cmd cmds ih =>
    obtain ⟨hfetched, hrest⟩ := h
    unfold readFields
    rw [run_bind, readField_of_fetched hfetched]
    dsimp only
    rw [run_bind, ih hrest]
    rfl

/-- Only fields that are all fetched come back. -/
theorem allFetched_of_readFields {cmds : List Apdu} {texts : List Str}
    (h : ((readFields connection req cmds).run ses).1 = .ok texts) :
    AllFetched connection req cmds ses := by
  induction cmds generalizing ses texts with
  | nil => trivial
  | cons cmd cmds ih =>
    unfold readFields at h
    rw [run_bind] at h
    cases hfield : ((readField connection req cmd).run ses).1 with
    | error e =>
      rw [hfield] at h
      cases h
    | ok text =>
      have hfetched : Fetched connection req cmd ses := fetched_of_readField hfield
      rw [readField_of_fetched hfetched] at h
      dsimp only at h
      rw [run_bind] at h
      refine ⟨hfetched, ?_⟩
      cases hrest : ((readFields connection req cmds).run
          (connection.getData cmd req ses).2).1 with
      | error e =>
        rw [hrest] at h
        cases h
      | ok texts' => exact ih hrest

end fields

/-! ### The whole script -/

/-- The lines printed for a CID and the other texts. -/
def printedLines (cid : Str) (t : CardTexts) : List Str :=
  List.zipWith (· ++ ·) labels
    [cid, t.th_name, t.en_name, t.birth, t.gender, t.issuer, t.issue, t.expire, t.address]

/-- The lines printed for a session behind the SELECT. -/
def sessionLines (connection : Connection) (req : Apdu) (ses : Session) : List Str :=
  printedLines (stripDecoded (connection.getData CMD_CID req ses).1.data)
    (readTexts connection req (connection.getData CMD_CID req ses).2).1

/-- The texts are those the other program reads. -/
theorem zipWith_textsRead (connection : Connection) (req : Apdu) (ses : Session) :
    List.zipWith (· ++ ·) labels (textsRead connection req textCommands ses)
      = sessionLines connection req ses := rfl

/-- The script behind its ATR and its SELECT. -/
theorem main_run_of_selected {connection : Connection} {atr : List UInt8} {req : Apdu} {r : Response}
    (hreq : requestCode atr = some req)
    (hselect : connection.respond [] (SELECT ++ THAI_CARD) = .ok r) :
    (main connection atr).run []
      = (readFields connection req textCommands >>= fun texts =>
          pure (List.zipWith (· ++ ·) labels texts)).run [⟨SELECT ++ THAI_CARD, .ok r⟩] := by
  rw [main_eq, hreq]
  dsimp only
  rw [run_bind_mk]
  unfold Connection.transmit
  dsimp only
  rw [hselect]
  rfl

/-- A run whose fields are all fetched. -/
theorem main_run_of_fetched {connection : Connection} {atr : List UInt8} {req : Apdu} {r : Response}
    (hreq : requestCode atr = some req)
    (hselect : connection.respond [] (SELECT ++ THAI_CARD) = .ok r)
    (hall : AllFetched connection req textCommands [⟨SELECT ++ THAI_CARD, .ok r⟩]) :
    (main connection atr).run []
      = (.ok (sessionLines connection req [⟨SELECT ++ THAI_CARD, .ok r⟩]),
          afterReads connection req textCommands [⟨SELECT ++ THAI_CARD, .ok r⟩]) := by
  rw [main_run_of_selected hreq hselect, run_bind, readFields_of_fetched hall,
    ← zipWith_textsRead]
  rfl

/-- Only such a run ends normally. -/
theorem fetched_of_main_ok {connection : Connection} {atr : List UInt8} {lines : List Str}
    (h : ((main connection atr).run []).1 = .ok lines) :
    ∃ req r, requestCode atr = some req ∧
      connection.respond [] (SELECT ++ THAI_CARD) = .ok r ∧
      AllFetched connection req textCommands [⟨SELECT ++ THAI_CARD, .ok r⟩] := by
  cases hreq : requestCode atr with
  | none =>
    rw [main_eq, hreq] at h
    cases h
  | some req =>
    cases hselect : connection.respond [] (SELECT ++ THAI_CARD) with
    | error e =>
      rw [main_eq, hreq] at h
      dsimp only at h
      rw [run_bind_mk] at h
      unfold Connection.transmit at h
      dsimp only at h
      rw [hselect] at h
      cases h
    | ok r =>
      refine ⟨req, r, rfl, rfl, ?_⟩
      rw [main_run_of_selected hreq hselect, run_bind] at h
      cases hfields : ((readFields connection req textCommands).run
          [⟨SELECT ++ THAI_CARD, .ok r⟩]).1 with
      | error e =>
        rw [hfields] at h
        cases h
      | ok texts => exact allFetched_of_readFields hfields

/-- **When `read.py` ends normally, and what it prints**: exactly if the ATR has
    two bytes, the transmit of the SELECT does not raise, whatever it answers,
    and all nine fields are fetched. -/
theorem main_ok_iff (connection : Connection) (atr : List UInt8) (lines : List Str) :
    ((main connection atr).run []).1 = .ok lines ↔
      ∃ req r, requestCode atr = some req ∧
        connection.respond [] (SELECT ++ THAI_CARD) = .ok r ∧
        AllFetched connection req textCommands [⟨SELECT ++ THAI_CARD, .ok r⟩] ∧
        lines = sessionLines connection req [⟨SELECT ++ THAI_CARD, .ok r⟩] := by
  constructor
  · intro h
    obtain ⟨req, r, hreq, hselect, hall⟩ := fetched_of_main_ok h
    rw [main_run_of_fetched hreq hselect hall] at h
    exact ⟨req, r, hreq, hselect, hall, (Except.ok.inj h).symm⟩
  · intro h
    obtain ⟨req, r, hreq, hselect, hall, rfl⟩ := h
    rw [main_run_of_fetched hreq hselect hall]

/-- **What `read.py` prints is the record of `read_improved.py`**, read by the
    same session, unless the card refuses the SELECT: then the one prints what
    the other turns away. -/
theorem printed_is_record (connection : Connection) (a0 a1 : UInt8) (rest : List UInt8)
    (lines : List Str) (hread : ((main connection (a0 :: a1 :: rest)).run []).1 = .ok lines)
    (hatr : ¬ (a0 = 0x3B ∧ a1 = 0x67)) (host : ReadImproved.Host) (output_dir : Str) :
    let run := (ReadImproved.read_thai_id_card host connection (a0 :: a1 :: rest) false
      output_dir).run []
    ∃ r cid t, connection.respond [] (SELECT ++ THAI_CARD) = .ok r ∧ lines = printedLines cid t ∧
      (r.sw1 = 0x90 ∧ r.sw2 = 0x00 →
        run = (.ok (some (ReadImproved.cardData t cid host.now)),
          ((main connection (a0 :: a1 :: rest)).run []).2)) ∧
      (¬ (r.sw1 = 0x90 ∧ r.sw2 = 0x00) → run.1 = .ok none) := by
  obtain ⟨req, r, hreq, hselect, hall⟩ := fetched_of_main_ok hread
  have hrun := main_run_of_fetched hreq hselect hall
  have hlines : lines = sessionLines connection req [⟨SELECT ++ THAI_CARD, .ok r⟩] := by
    rw [hrun] at hread
    exact (Except.ok.inj hread).symm
  have hcode : ReadImproved.requestCode (a0 :: a1 :: rest) = some req := by
    rw [← hreq, requestCode_cons_cons, ReadImproved.requestCode_cons_cons, if_neg hatr]
  dsimp only
  refine ⟨r, _, _, hselect, hlines, ?_, ?_⟩
  · intro haccepted
    obtain ⟨hsw1, hsw2⟩ := haccepted
    rw [ReadImproved.run_of_selected hcode hselect hsw1 hsw2, hrun]
    rfl
  · intro hrefused
    have hwords : r.sw1 ≠ 0x90 ∨ r.sw2 ≠ 0x00 := by
      rw [not_and_or] at hrefused
      exact hrefused
    have hselect' : connection.respond [] (ReadImproved.SELECT ++ ReadImproved.THAI_CARD) = .ok r :=
      hselect
    rw [ReadImproved.read_thai_id_card_run, hcode]
    dsimp only
    rw [hselect']
    dsimp only
    rw [if_pos hwords]

/-- The lines for a card that answers everything with the digit 1. -/
theorem printed_is_record_digitCard :
    ∃ lines cid t, ((main (.ofCard digitCard) [0x3B, 0x68]).run []).1 = .ok lines ∧
      lines = printedLines cid t ∧
      ((ReadImproved.read_thai_id_card ⟨[], fun _ _ => .ok ()⟩ (.ofCard digitCard) [0x3B, 0x68] false
        []).run []).1 = .ok (some (ReadImproved.cardData t cid [])) := by
  have hall : AllFetched (.ofCard digitCard) [0x00, 0xc0, 0x00, 0x00] textCommands
      [⟨SELECT ++ THAI_CARD, .ok ⟨[0x31], 0x90, 0x00⟩⟩] :=
    allFetched_ofCard digitCard_decodable _ _ _
  have hrun : (main (.ofCard digitCard) [0x3B, 0x68]).run [] = _ :=
    main_run_of_fetched rfl rfl hall
  have hread := congrArg Prod.fst hrun
  obtain ⟨r, cid, t, hselect, hlines, haccepted, -⟩ := printed_is_record (.ofCard digitCard) 0x3B
    0x68 [] _ hread (by decide) ⟨[], fun _ _ => .ok ()⟩ []
  cases hselect
  exact ⟨_, cid, t, hread, hlines, congrArg Prod.fst (haccepted ⟨rfl, rfl⟩)⟩

end Read

end IdScan
