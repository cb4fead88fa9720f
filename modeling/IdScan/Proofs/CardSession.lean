import IdScan.Model.System
import IdScan.Model.ReadImproved

/-! # Sessions with a card

  What the two readers make of a session, whatever the card answers and
  wherever the connection fails.
-/

namespace IdScan

open GuiReader (accepted)

/-! ### The texts of a session -/

namespace GuiReader

/-- The decoded texts of the fields `read_card_data` reads. -/
structure CardTexts where
  th_name : Str
  en_name : Str
  birth : Str
  gender : Str
  issuer : Str
  issue : Str
  expire : Str
  address : Str
  deriving DecidableEq

/-- The eight reads of `read_card_data`, in their order. -/
def readTexts (connection : Connection) (req : Apdu) : StateM Session CardTexts := do
  let th_name ← get_data connection CMD_THFULLNAME req
  let en_name ← get_data connection CMD_ENFULLNAME req
  let birth ← get_data connection CMD_BIRTH req
  let gender ← get_data connection CMD_GENDER req
  let issuer ← get_data connection CMD_ISSUER req
  let issue ← get_data connection CMD_ISSUE req
  let expire ← get_data connection CMD_EXPIRE req
  let address ← get_data connection CMD_ADDRESS req
  return {
    th_name := thai2unicode th_name.data
    en_name := thai2unicode en_name.data
    birth := thai2unicode birth.data
    gender := thai2unicode gender.data
    issuer := thai2unicode issuer.data
    issue := thai2unicode issue.data
    expire := thai2unicode expire.data
    address := thai2unicode address.data }

/-- The record of these texts. -/
def CardTexts.cardInfo (t : CardTexts) (cid now : Str) : CardInfo where
  cid := cid
  timestamp := some now
  th_title := some (parse_name t.th_name).title
  th_firstname := some (parse_name t.th_name).firstname
  th_lastname := some (parse_name t.th_name).lastname
  th_fullname := (parse_name t.th_name).fullname
  en_title := some (parse_name t.en_name).title
  en_firstname := some (parse_name t.en_name).firstname
  en_lastname := some (parse_name t.en_name).lastname
  en_fullname := (parse_name t.en_name).fullname
  birth_date := some (format_date t.birth)
  gender := some (genderText t.gender)
  issuer := some t.issuer
  issue_date := some (format_date t.issue)
  expire_date := some (format_date t.expire)
  address_house_no := some (parse_address t.address).house_no
  address_moo_soi := some (parse_address t.address).moo_soi
  address_subdistrict := some (parse_address t.address).subdistrict
  address_district := some (parse_address t.address).district
  address_province := some (parse_address t.address).province
  address := (parse_address t.address).fulladdress

/-- **`read_card_data` always returns a record.** Its handler is never reached:
    whatever fails at the card has become an empty text before. -/
theorem read_card_data_eq (connection : Connection) (req : Apdu) (cid now : Str)
    (ses : Session) :
    read_card_data connection req cid now ses
      = (some ((readTexts connection req ses).1.cardInfo cid now),
          (readTexts connection req ses).2) := rfl

/-- The callback of the record a round posts: there is one exactly if the round
    reads a cid that is not marked, and then it is the record of the texts read
    after it. -/
theorem mem_monitor_card_round {env : PollEnv} {now : Str} {current : Option Str}
    {card_info : CardInfo} :
    .add_card_to_table card_info ∈ (monitor_card_round env now ⟨current, []⟩).pending ↔
      ∃ read, pollCard env = .card read ∧ read.cid ≠ [] ∧ current ≠ some read.cid ∧
        card_info = (readTexts read.connection read.req read.session).1.cardInfo read.cid now := by
  unfold monitor_card_round
  cases hfound : pollCard env with
  | nothing => simp
  | noCard =>
    dsimp only
    split <;> simp [Shared.post]
  | card read =>
    dsimp only
    split
    · next hcond => simp [read_card_data_eq, Shared.post, hcond.1, hcond.2]
    · next hcond =>
      -- a cid that is empty or marked: at most a status is posted
      have hnot : ¬ ∃ read', PollFound.card read = .card read' ∧ read'.cid ≠ [] ∧
          current ≠ some read'.cid ∧ card_info
            = (readTexts read'.connection read'.req read'.session).1.cardInfo read'.cid now := by
        intro h
        obtain ⟨read', heq, hne, hcur, _⟩ := h
        cases heq
        exact hcond ⟨hne, hcur⟩
      split <;> simpa [Shared.post] using hnot

end GuiReader

/-! ### The command-line reader -/

namespace ReadImproved

open GuiReader (CardTexts readTexts)

/-- The record of the command-line reader from the same texts. -/
def cardData (t : CardTexts) (cid now : Str) : CardData where
  cid := cid
  th_fullname := t.th_name
  en_fullname := t.en_name
  birth_date := format_date t.birth
  gender := genderText t.gender
  issuer := t.issuer
  issue_date := format_date t.issue
  expire_date := format_date t.expire
  address := t.address
  photo_path := none
  read_timestamp := now

/-- `read_thai_id_card` from the accepted SELECT on. -/
def readSelected (host : Host) (connection : Connection) (req : Apdu) (save_photo : Bool)
    (output_dir : Str) (ses : Session) : Except PyExc (Option CardData) × Session :=
  let data := get_data connection CMD_CID req ses
  let cid := thai2unicode data.1.data
  let texts := readTexts connection req data.2
  let card_data := cardData texts.1 cid host.now
  if save_photo then
    let photo := read_photo connection req CMD_PHOTO [] texts.2
    let photo_filename := output_dir ++ '/' :: (cid ++ ".jpg".toList)
    match host.savePhoto photo_filename photo.1 with
    | .ok _ => (.ok (some { card_data with photo_path := some photo_filename }), photo.2)
    | .error e => (.error e, photo.2)
  else (.ok (some card_data), texts.2)

/-- The record of a session without a photo, and the session behind it. -/
def readRecord (now : Str) (connection : Connection) (req : Apdu) (ses : Session) :
    CardData × Session :=
  let data := get_data connection CMD_CID req ses
  let texts := readTexts connection req data.2
  (cardData texts.1 (thai2unicode data.1.data) now, texts.2)

theorem readSelected_false (host : Host) (connection : Connection) (req : Apdu) (output_dir : Str)
    (ses : Session) :
    readSelected host connection req false output_dir ses
      = (.ok (some (readRecord host.now connection req ses).1),
          (readRecord host.now connection req ses).2) := rfl

/-- With a photo, the saving decides what comes back. -/
theorem readSelected_true (host : Host) (connection : Connection) (req : Apdu) (output_dir : Str)
    (ses : Session) :
    readSelected host connection req true output_dir ses =
      (let read := readRecord host.now connection req ses
       let photo := read_photo connection req CMD_PHOTO [] read.2
       let photo_filename := output_dir ++ '/' :: (read.1.cid ++ ".jpg".toList)
       ((host.savePhoto photo_filename photo.1).map fun _ =>
          some { read.1 with photo_path := some photo_filename }, photo.2)) := by
  unfold readSelected readRecord cardData
  dsimp only
  rw [if_pos rfl]
  generalize read_photo connection req CMD_PHOTO []
    (readTexts connection req (get_data connection CMD_CID req ses).2).2 = photo
  split
  · next hsave =>
    rw [hsave]
    rfl
  · next hsave =>
    rw [hsave]
    rfl

/-! A few rules to run the monad of `read_thai_id_card`, over any state. -/

section running
variable {σ α β : Type}

theorem run_bind_lift (x : StateM σ α) (f : α → ExceptT PyExc (StateM σ) β) (s : σ) :
    ((liftM x : ExceptT PyExc (StateM σ) α) >>= f).run s = (f (x s).1).run (x s).2 := rfl

theorem run_bind (x : ExceptT PyExc (StateM σ) α) (f : α → ExceptT PyExc (StateM σ) β) (s : σ) :
    (x >>= f).run s =
      match (x.run s).1 with
      | .ok a => (f a).run (x.run s).2
      | .error e => (.error e, (x.run s).2) := by
  show (ExceptT.bindCont f (x.run s).1 : StateM σ (Except PyExc β)) (x.run s).2 = _
  cases (x.run s).1 <;> rfl

theorem run_bind_mk (x : StateM σ (Except PyExc α)) (f : α → ExceptT PyExc (StateM σ) β) (s : σ) :
    (ExceptT.mk x >>= f).run s =
      match (x s).1 with
      | .ok a => (f a).run (x s).2
      | .error e => (.error e, (x s).2) := run_bind (ExceptT.mk x) f s

theorem run_bind_pure (x : Except PyExc α) (f : α → ExceptT PyExc (StateM σ) β) (s : σ) :
    (ExceptT.mk (pure x) >>= f).run s =
      match x with
      | .ok a => (f a).run s
      | .error e => (.error e, s) := by
  cases x <;> rfl

theorem run_pure (a : α) (s : σ) : (pure a : ExceptT PyExc (StateM σ) α).run s = (.ok a, s) := rfl

end running

/-- The run of `read_thai_id_card`, down to the accepted SELECT. -/
theorem read_thai_id_card_run (host : Host) (connection : Connection) (atr : List UInt8)
    (save_photo : Bool) (output_dir : Str) (ses : Session) :
    (read_thai_id_card host connection atr save_photo output_dir).run ses =
      match requestCode atr with
      | none => (.error .other, ses)
      | some req =>
        match connection.respond ses (SELECT ++ THAI_CARD) with
        | .error e => (.error e, ses ++ [⟨SELECT ++ THAI_CARD, .error e⟩])
        | .ok r =>
          if r.sw1 ≠ 0x90 ∨ r.sw2 ≠ 0x00 then (.ok none, ses ++ [⟨SELECT ++ THAI_CARD, .ok r⟩])
          else readSelected host connection req save_photo output_dir
            (ses ++ [⟨SELECT ++ THAI_CARD, .ok r⟩]) := by
  unfold read_thai_id_card
  cases requestCode atr with
  | none => rfl
  | some req =>
    simp only [run_bind_mk, Connection.transmit]
    cases connection.respond ses (SELECT ++ THAI_CARD) with
    | error e => rfl
    | ok r =>
      dsimp only
      split
      · rfl
      · cases save_photo with
        | false => rfl
        | true =>
          -- the saving of the photo is the one call that can still raise
          simp only [run_bind_lift, run_bind_pure, if_true, run_pure]
          unfold readSelected
          rw [if_pos rfl]
          dsimp only
          split
          · next hsave =>
            split
            · rfl
            · next hsave' => cases hsave.symm.trans hsave'
          · next hsave =>
            split
            · next hsave' => cases hsave.symm.trans hsave'
            · next hsave' =>
              cases hsave.symm.trans hsave'
              rfl

/-- Once the SELECT is accepted, a record or an exception comes back, never
    `None`. -/
theorem readSelected_ne_none (host : Host) (connection : Connection) (req : Apdu)
    (save_photo : Bool) (output_dir : Str) (ses : Session) :
    (readSelected host connection req save_photo output_dir ses).1 ≠ .ok none := by
  cases save_photo with
  | false => simp [readSelected_false]
  | true =>
    rw [readSelected_true]
    dsimp only
    cases host.savePhoto _ _ <;> simp [Except.map]

end ReadImproved

/-! ### What has been obtained -/

/-- A field of the card: the command that reads it, and whether its bytes are
    decoded as a text. -/
structure Field where
  cmd : Apdu
  isText : Bool

/-- The field is obtained at this point of a session: neither transmit of its
    `get_data` raises or answers an error status, and the bytes of a text
    decode. -/
def Obtained (connection : Connection) (req : Apdu) (field : Field) (ses : Session) : Prop :=
  ∃ r₁ r₂, connection.respond ses field.cmd = .ok r₁ ∧ accepted r₁.sw1 = true ∧
    connection.respond (ses ++ [⟨field.cmd, .ok r₁⟩]) (req ++ [field.cmd.getLastD 0x00]) = .ok r₂ ∧
    accepted r₂.sw1 = true ∧ (field.isText = true → (decodeTis620 r₂.data).isSome = true)

/-- All the fields are obtained, read one after the other. -/
def AllObtained (connection : Connection) (req : Apdu) : List Field → Session → Prop
  | [], _ => True
  | field :: fields, ses =>
    Obtained connection req field ses ∧
      AllObtained connection req fields (connection.getData field.cmd req ses).2

/-- A field that no point of a session obtains is enough to spoil them all. -/
theorem not_allObtained_of_mem {connection : Connection} {req : Apdu} {field : Field}
    (hnot : ∀ ses, ¬ Obtained connection req field ses) {fields : List Field}
    (hmem : field ∈ fields) (ses : Session) : ¬ AllObtained connection req fields ses := by
  induction fields generalizing ses with
  | nil => cases hmem
  | cons head fields ih =>
    -- induction on the fields, each read at its own point of the session
    intro h
    obtain ⟨hhead, hrest⟩ := h
    rcases List.mem_cons.mp hmem with rfl | hmem
    · exact hnot ses hhead
    · exact ih hmem _ hrest

/-- The fields `read_card_data` reads. The CID is not one of them: the round has
    read it before, and calls `read_card_data` only with a CID that is not empty. -/
def GuiReader.fields : List Field :=
  [CMD_THFULLNAME, CMD_ENFULLNAME, CMD_BIRTH, CMD_GENDER, CMD_ISSUER, CMD_ISSUE, CMD_EXPIRE,
    CMD_ADDRESS].map fun cmd => ⟨cmd, true⟩

/-- The fields `read_thai_id_card` reads. -/
def ReadImproved.fields (save_photo : Bool) : List Field :=
  [CMD_CID, CMD_THFULLNAME, CMD_ENFULLNAME, CMD_BIRTH, CMD_GENDER, CMD_ISSUER, CMD_ISSUE,
    CMD_EXPIRE, CMD_ADDRESS].map (fun cmd => ⟨cmd, true⟩) ++
    if save_photo then CMD_PHOTO.map fun cmd => ⟨cmd, false⟩ else []

/-- A round of the monitor comes to the CID of a card, and `read_card_data`, called
    then, obtains all its fields. -/
def GuiReader.PollObtained (env : PollEnv) : Prop :=
  ∃ read, pollCard env = .card read ∧
    AllObtained read.connection read.req fields read.session

/-- `read_thai_id_card` comes past its SELECT and obtains all its fields. -/
def ReadImproved.CliObtained (connection : Connection) (atr : List UInt8) (save_photo : Bool) :
    Prop :=
  ∃ req r, requestCode atr = some req ∧
    connection.respond [] (SELECT ++ THAI_CARD) = .ok r ∧ r.sw1 = 0x90 ∧ r.sw2 = 0x00 ∧
    AllObtained connection req (fields save_photo) [⟨SELECT ++ THAI_CARD, .ok r⟩]

/-- The card is asked, and answers the SELECT by other words than 90 00. -/
def ReadImproved.Refused (connection : Connection) (atr : List UInt8) : Prop :=
  (requestCode atr).isSome = true ∧
    ∃ r, connection.respond [] (SELECT ++ THAI_CARD) = .ok r ∧ (r.sw1 ≠ 0x90 ∨ r.sw2 ≠ 0x00)

/-- How `read_thai_id_card` ends, by what becomes of its SELECT. -/
theorem ReadImproved.read_thai_id_card_ends (host : Host) (connection : Connection)
    (atr : List UInt8) (save_photo : Bool) (output_dir : Str) :
    (((read_thai_id_card host connection atr save_photo output_dir).run []).1 = .ok none ∧
      Refused connection atr) ∨
    (((read_thai_id_card host connection atr save_photo output_dir).run []).1 ≠ .ok none ∧
      ¬ Refused connection atr) := by
  rw [read_thai_id_card_run]
  unfold Refused
  cases requestCode atr with
  | none => simp
  | some req =>
    cases connection.respond [] (SELECT ++ THAI_CARD) with
    | error e => simp
    | ok r =>
      dsimp only
      by_cases hrefused : r.sw1 ≠ 0x90 ∨ r.sw2 ≠ 0x00
      · rw [if_pos hrefused]
        exact .inl ⟨rfl, rfl, r, rfl, hrefused⟩
      · rw [if_neg hrefused]
        refine .inr ⟨readSelected_ne_none _ _ _ _ _ _, ?_⟩
        intro h
        obtain ⟨-, r', heq, hrefused'⟩ := h
        cases heq
        exact hrefused hrefused'

/-- A round posts nothing of a partial read exactly if it does not come to post
    a record, or obtains all the fields. -/
theorem GuiReader.round_posts_complete_iff (env : PollEnv) (now : Str) (current : Option Str) :
    (¬ PollObtained env → ∀ card_info,
        .add_card_to_table card_info ∉ (monitor_card_round env now ⟨current, []⟩).pending) ↔
      ∀ read, pollCard env = .card read → read.cid = [] ∨ current = some read.cid ∨
        AllObtained read.connection read.req fields read.session := by
  constructor
  · intro hnothing read hfound
    by_contra hcome
    simp only [not_or] at hcome
    -- the round would post the record of a partial read
    obtain ⟨hne, hcur, hnot⟩ := hcome
    refine hnothing ?_ _ (mem_monitor_card_round.mpr ⟨read, hfound, hne, hcur, rfl⟩)
    intro h
    obtain ⟨read', hfound', hall⟩ := h
    cases hfound.symm.trans hfound'
    exact hnot hall
  · intro hcond hnot card_info hmem
    obtain ⟨read, hfound, hne, hcur, _⟩ := mem_monitor_card_round.mp hmem
    rcases hcond read hfound with h | h | h
    · exact hne h
    · exact hcur h
    · exact hnot ⟨read, hfound, h⟩

/-- The command-line reader returns complete records and `None` otherwise
    exactly if the card refuses the SELECT or everything is obtained. -/
theorem ReadImproved.cli_complete_iff (host : Host) (connection : Connection) (atr : List UInt8)
    (save_photo : Bool) (output_dir : Str) :
    ((∀ card_data, ((read_thai_id_card host connection atr save_photo output_dir).run []).1
          = .ok (some card_data) → CliObtained connection atr save_photo) ∧
        (¬ CliObtained connection atr save_photo →
          ((read_thai_id_card host connection atr save_photo output_dir).run []).1 = .ok none)) ↔
      Refused connection atr ∨ CliObtained connection atr save_photo := by
  rcases read_thai_id_card_ends host connection atr save_photo output_dir with
    ⟨hnone, hrefused⟩ | ⟨hsome, hrefused⟩
  · simp [hnone, hrefused]
  · constructor
    · intro h
      obtain ⟨-, hnone⟩ := h
      by_contra hnot
      exact hsome (hnone fun h => hnot (.inr h))
    · intro h
      have hall := h.resolve_left hrefused
      exact ⟨fun _ _ => hall, fun hnot => absurd hall hnot⟩

/-- **When a partial read is not recorded.** For each of the three (the record
    function and a round of the window, and the command-line reader): records
    are returned, or posted, only for complete reads, and nothing otherwise,
    exactly under the condition on the right. -/
theorem partial_read_not_recorded_iff (connection : Connection) (req : Apdu) (cid now : Str)
    (ses : Session) (env : GuiReader.PollEnv) (current : Option Str) (host : ReadImproved.Host)
    (atr : List UInt8) (save_photo : Bool) (output_dir : Str) :
    (((∀ card_info, (GuiReader.read_card_data connection req cid now ses).1 = some card_info →
          AllObtained connection req GuiReader.fields ses) ∧
        (¬ AllObtained connection req GuiReader.fields ses →
          (GuiReader.read_card_data connection req cid now ses).1 = none)) ↔
      AllObtained connection req GuiReader.fields ses) ∧
    ((¬ GuiReader.PollObtained env → ∀ card_info, .add_card_to_table card_info ∉
        (GuiReader.monitor_card_round env now ⟨current, []⟩).pending) ↔
      ∀ read, GuiReader.pollCard env = .card read → read.cid = [] ∨ current = some read.cid ∨
        AllObtained read.connection read.req GuiReader.fields read.session) ∧
    (((∀ card_data, ((ReadImproved.read_thai_id_card host connection atr save_photo
            output_dir).run []).1 = .ok (some card_data) →
          ReadImproved.CliObtained connection atr save_photo) ∧
        (¬ ReadImproved.CliObtained connection atr save_photo →
          ((ReadImproved.read_thai_id_card host connection atr save_photo
            output_dir).run []).1 = .ok none)) ↔
      ReadImproved.Refused connection atr ∨
        ReadImproved.CliObtained connection atr save_photo) := by
  refine ⟨?_, GuiReader.round_posts_complete_iff env now current,
    ReadImproved.cli_complete_iff host connection atr save_photo output_dir⟩
  -- the handler is never reached, so that a record always comes back
  rw [GuiReader.read_card_data_eq]
  constructor
  · intro h
    exact h.1 _ rfl
  · intro hall
    exact ⟨fun _ _ => hall, fun hnot => absurd hall hnot⟩

/-- A card that is pulled out before its address is read. -/
def pulledCard : Connection where
  respond := fun _ cmd =>
    if cmd = GuiReader.CMD_ADDRESS then .error .CardConnectionException
    else .ok ⟨[0x31], 0x90, 0x00⟩

theorem pulledCard_not_obtained (req : Apdu) (ses : Session) :
    ¬ Obtained pulledCard req ⟨GuiReader.CMD_ADDRESS, true⟩ ses := by
  intro h
  obtain ⟨r₁, r₂, hraise, -⟩ := h
  simp [pulledCard] at hraise

/-- Both programs record the card that was pulled out. -/
theorem pulledCard_recorded :
    ((∃ card_info, (GuiReader.read_card_data pulledCard [0x00, 0xc0, 0x00, 0x00] ['1'] []
        []).1 = some card_info) ∧
      ¬ AllObtained pulledCard [0x00, 0xc0, 0x00, 0x00] GuiReader.fields []) ∧
    ((∃ card_info, .add_card_to_table card_info ∈
        (GuiReader.monitor_card_round (.connected [0x3B, 0x68] pulledCard) [] ⟨none, []⟩).pending) ∧
      ¬ GuiReader.PollObtained (.connected [0x3B, 0x68] pulledCard)) ∧
    (∃ card_data, ((ReadImproved.read_thai_id_card ⟨[], fun _ _ => .ok ()⟩ pulledCard [0x3B, 0x68]
        false []).run []).1 = .ok (some card_data)) ∧
      ¬ ReadImproved.CliObtained pulledCard [0x3B, 0x68] false := by
  have hgui : ∀ req ses, ¬ AllObtained pulledCard req GuiReader.fields ses := fun req ses =>
    not_allObtained_of_mem (pulledCard_not_obtained req) (by simp [GuiReader.fields]) ses
  have hcli : ∀ req ses, ¬ AllObtained pulledCard req (ReadImproved.fields false) ses :=
    fun req ses => not_allObtained_of_mem (pulledCard_not_obtained req)
      (by simp [ReadImproved.fields, ReadImproved.CMD_ADDRESS, GuiReader.CMD_ADDRESS]) ses
  refine ⟨⟨⟨_, rfl⟩, hgui _ _⟩, ⟨⟨_, GuiReader.mem_monitor_card_round.mpr
    ⟨_, rfl, by decide +kernel, by simp, rfl⟩⟩, ?_⟩, ⟨_, rfl⟩, ?_⟩
  · intro h
    obtain ⟨read, hfound, hall⟩ := h
    cases hfound
    exact hgui _ _ hall
  · intro h
    obtain ⟨req, r, -, -, -, -, hall⟩ := h
    exact hcli _ _ hall

end IdScan
