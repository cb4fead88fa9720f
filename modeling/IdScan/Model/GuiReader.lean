import IdScan.Model.Card
import IdScan.Model.Parse

/-! # Reading a card in the GUI

  The card side of `gui_reader.py`: the commands, the field formats,
  `read_card_data`, and the part of one round of `monitor_card` that talks to
  the card.
-/

namespace IdScan

/-- The dictionary of one card, as `read_card_data` and `import_from_csv` both
    build it. The derived texts are always texts. -/
structure CardInfo where
  cid : Str
  timestamp : PyVal
  th_title : PyVal
  th_firstname : PyVal
  th_lastname : PyVal
  th_fullname : Str
  en_title : PyVal
  en_firstname : PyVal
  en_lastname : PyVal
  en_fullname : Str
  birth_date : PyVal
  gender : PyVal
  issuer : PyVal
  issue_date : PyVal
  expire_date : PyVal
  address_house_no : PyVal
  address_moo_soi : PyVal
  address_subdistrict : PyVal
  address_district : PyVal
  address_province : PyVal
  address : Str
  deriving DecidableEq

namespace GuiReader

def SELECT : Apdu := [0x00, 0xA4, 0x04, 0x00, 0x08]
def THAI_CARD : Apdu := [0xA0, 0x00, 0x00, 0x00, 0x54, 0x48, 0x00, 0x01]
def CMD_CID : Apdu := [0x80, 0xb0, 0x00, 0x04, 0x02, 0x00, 0x0d]
def CMD_THFULLNAME : Apdu := [0x80, 0xb0, 0x00, 0x11, 0x02, 0x00, 0x64]
def CMD_ENFULLNAME : Apdu := [0x80, 0xb0, 0x00, 0x75, 0x02, 0x00, 0x64]
def CMD_BIRTH : Apdu := [0x80, 0xb0, 0x00, 0xD9, 0x02, 0x00, 0x08]
def CMD_GENDER : Apdu := [0x80, 0xb0, 0x00, 0xE1, 0x02, 0x00, 0x01]
def CMD_ISSUER : Apdu := [0x80, 0xb0, 0x00, 0xF6, 0x02, 0x00, 0x64]
def CMD_ISSUE : Apdu := [0x80, 0xb0, 0x01, 0x67, 0x02, 0x00, 0x08]
def CMD_EXPIRE : Apdu := [0x80, 0xb0, 0x01, 0x6F, 0x02, 0x00, 0x08]
def CMD_ADDRESS : Apdu := [0x80, 0xb0, 0x15, 0x79, 0x02, 0x00, 0x64]

/-- `thai2unicode`. -/
def thai2unicode (data : List UInt8) : Str := stripDecoded data

/-- `get_data`. -/
def get_data (connection : Connection) (cmd req : Apdu) : StateM Session Response :=
  connection.getData cmd req

/-- `format_date`: YYYYMMDD becomes DD/MM/YYYY. -/
def format_date (date_str : Str) : Str :=
  if date_str.length = 8 then
    -- slices of a `str` count characters
    let year := date_str.take 4
    let month := (date_str.drop 4).take 2
    let day := (date_str.drop 6).take 2
    day ++ '/' :: (month ++ '/' :: year)
  else date_str

def genderText (gender : Str) : Str := if gender = ['1'] then "ชาย".toList else "หญิง".toList

/-- The `try` of `read_card_data`. Its calls catch their own exceptions, so it
    never comes to `throw`; the handler is kept below all the same. -/
def read_card_fields (connection : Connection) (req : Apdu) (cid now : Str) :
    ExceptT PyExc (StateM Session) CardInfo := do
  let data ← get_data connection CMD_THFULLNAME req
  let th_name_parsed := parse_name (thai2unicode data.data)
  let data ← get_data connection CMD_ENFULLNAME req
  let en_name_parsed := parse_name (thai2unicode data.data)
  let data ← get_data connection CMD_BIRTH req
  let birth_date := format_date (thai2unicode data.data)
  let data ← get_data connection CMD_GENDER req
  let gender := genderText (thai2unicode data.data)
  let data ← get_data connection CMD_ISSUER req
  let issuer := thai2unicode data.data
  let data ← get_data connection CMD_ISSUE req
  let issue_date := format_date (thai2unicode data.data)
  let data ← get_data connection CMD_EXPIRE req
  let expire_date := format_date (thai2unicode data.data)
  let data ← get_data connection CMD_ADDRESS req
  let address_parsed := parse_address (thai2unicode data.data)
  return {
    cid
    timestamp := some now
    th_title := some th_name_parsed.title
    th_firstname := some th_name_parsed.firstname
    th_lastname := some th_name_parsed.lastname
    th_fullname := th_name_parsed.fullname
    en_title := some en_name_parsed.title
    en_firstname := some en_name_parsed.firstname
    en_lastname := some en_name_parsed.lastname
    en_fullname := en_name_parsed.fullname
    birth_date := some birth_date
    gender := some gender
    issuer := some issuer
    issue_date := some issue_date
    expire_date := some expire_date
    address_house_no := some address_parsed.house_no
    address_moo_soi := some address_parsed.moo_soi
    address_subdistrict := some address_parsed.subdistrict
    address_district := some address_parsed.district
    address_province := some address_parsed.province
    address := address_parsed.fulladdress }

/-- `read_card_data`: the record, or `None` from the handler. -/
def read_card_data (connection : Connection) (req : Apdu) (cid now : Str) :
    StateM Session (Option CardInfo) := do
  match ← (read_card_fields connection req cid now).run with
  | .ok card_info => return some card_info
  | .error _ => return none

/-! ### One round of `monitor_card` at the card -/

/-- The response code for an ATR; `none` where indexing it raises. -/
def requestCode (atr : List UInt8) : Option Apdu :=
  match atr with
  | [] => none
  | a0 :: rest =>
    if a0 = 0x3B then
      match rest with
      | [] => none
      | a1 :: _ =>
        if a1 = 0x67 then some [0x00, 0xc0, 0x00, 0x01] else some [0x00, 0xc0, 0x00, 0x00]
    else some [0x00, 0xc0, 0x00, 0x00]

/-- A status word the programs accept: 0x90, or 0x61 for more data. -/
def accepted (sw1 : UInt8) : Bool := sw1 == 0x90 || sw1 == 0x61

/-- The SELECT loop with `n` attempts left. It returns the last `sw1` that an
    attempt answered. -/
def select_applet (connection : Connection) : Nat → UInt8 → StateM Session UInt8
  | 0, sw1 => return sw1
  | n + 1, sw1 => do
    match ← connection.transmit (SELECT ++ THAI_CARD) with
    -- the exception is caught in the loop, and `sw1` stays as it was
    | .error _ => select_applet connection n sw1
    | .ok response =>
      if accepted response.sw1 then return response.sw1
      else select_applet connection n response.sw1

/-- `max_retries`. -/
def max_retries : Nat := 3

/-- What the reader offers to one round of the monitor. -/
inductive PollEnv where
  /-- `self.reader` is `None`. -/
  | noReader
  /-- Creating the connection, connecting or reading the ATR raises. -/
  | connectRaises (e : PyExc)
  | connected (atr : List UInt8) (connection : Connection)

/-- A card whose CID has been read. -/
structure CardRead where
  connection : Connection
  req : Apdu
  cid : Str
  session : Session

/-- How the card part of a round ends. -/
inductive PollFound where
  /-- No reader, another exception, or no Thai card. -/
  | nothing
  /-- `NoCardException`. -/
  | noCard
  | card (read : CardRead)

/-- One round of `monitor_card` down to the decoded CID. Once the connection
    stands no exception leaves it but the one for a short ATR. -/
def pollCard : PollEnv → PollFound
  | .noReader => .nothing
  | .connectRaises .NoCardException => .noCard
  | .connectRaises _ => .nothing
  | .connected atr connection =>
    match requestCode atr with
    -- the `IndexError` ends in the handler of the whole round
    | none => .nothing
    | some req =>
      let select := select_applet connection max_retries 0x00 []
      if accepted select.1 then
        let data := get_data connection CMD_CID req select.2
        .card { connection, req, cid := thai2unicode data.1.data, session := data.2 }
      else .nothing

end GuiReader

end IdScan
