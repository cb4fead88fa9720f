import IdScan.Model.Card

/-! # The command-line reader

  `read_improved.py`: its own copies of the commands and field formats, and
  `read_thai_id_card`.
-/

namespace IdScan

namespace ReadImproved

def SELECT : Apdu := [0x00, 0xA4, 0x04, 0x00, 0x08]
def THAI_CARD : Apdu := [0xA0, 0x00, 0x00, 0x00, 0x54, 0x48, 0x00, 0x01]
def CMD_CID : Apdu := [0x80, 0xb0, 0x00, 0x04, 0x02, 0x00, 0x0d]
def CMD_THFULLNAME : Apdu := [0x80, 0xb0, 0x00, 0x11, 0x02, 0x00, 0x64]
def CMD_ENFULLNAME : Apdu := [0x80, 0xb0, 0x00, 0x75, 0x02, 0x00, 0x64]
def CMD_BIRTH : Apdu := [0x80, 0xb0, 0x00, 0xD9, 0x02, 0x00, 0x08]
def CMD_GENDER : Apdu := [0x80, 0xb0, 0x00, 0xE1, 0x02, 0x00, 0x01]
def CMD_ISSUER : Apdu := [0x80, 0xb0, 0x00, 0xF6, 0x02, 0x00, 0x64]
def CMD_ISSUE : Apdu := [0x80, 0xb0, 0x01, 0x67, 0x02, 0x00, 0x08]
def CMD_EXPIRE : Apdu := [0x80, 0xb0, 0x01, 0x6F, 0x02, 0x00, 0x08]
def CMD_ADDRESS : Apdu := [0x80, 0xb0, 0x15, 0x79, 0x02, 0x00, 0x64]

/-- The twenty parts of the photo. -/
def CMD_PHOTO : List Apdu := [
  [0x80, 0xb0, 0x01, 0x7B, 0x02, 0x00, 0xFF],
  [0x80, 0xb0, 0x02, 0x7A, 0x02, 0x00, 0xFF],
  [0x80, 0xb0, 0x03, 0x79, 0x02, 0x00, 0xFF],
  [0x80, 0xb0, 0x04, 0x78, 0x02, 0x00, 0xFF],
  [0x80, 0xb0, 0x05, 0x77, 0x02, 0x00, 0xFF],
  [0x80, 0xb0, 0x06, 0x76, 0x02, 0x00, 0xFF],
  [0x80, 0xb0, 0x07, 0x75, 0x02, 0x00, 0xFF],
  [0x80, 0xb0, 0x08, 0x74, 0x02, 0x00, 0xFF],
  [0x80, 0xb0, 0x09, 0x73, 0x02, 0x00, 0xFF],
  [0x80, 0xb0, 0x0A, 0x72, 0x02, 0x00, 0xFF],
  [0x80, 0xb0, 0x0B, 0x71, 0x02, 0x00, 0xFF],
  [0x80, 0xb0, 0x0C, 0x70, 0x02, 0x00, 0xFF],
  [0x80, 0xb0, 0x0D, 0x6F, 0x02, 0x00, 0xFF],
  [0x80, 0xb0, 0x0E, 0x6E, 0x02, 0x00, 0xFF],
  [0x80, 0xb0, 0x0F, 0x6D, 0x02, 0x00, 0xFF],
  [0x80, 0xb0, 0x10, 0x6C, 0x02, 0x00, 0xFF],
  [0x80, 0xb0, 0x11, 0x6B, 0x02, 0x00, 0xFF],
  [0x80, 0xb0, 0x12, 0x6A, 0x02, 0x00, 0xFF],
  [0x80, 0xb0, 0x13, 0x69, 0x02, 0x00, 0xFF],
  [0x80, 0xb0, 0x14, 0x68, 0x02, 0x00, 0xFF]]

/-- `thai2unicode`. -/
def thai2unicode (data : List UInt8) : Str := stripDecoded data

/-- `get_data`. -/
def get_data (connection : Connection) (cmd req : Apdu) : StateM Session Response :=
  connection.getData cmd req

/-- `format_date`: DDMMYYYY becomes DD/MM/YYYY. -/
def format_date (date_str : Str) : Str :=
  if date_str.length = 8 then
    date_str.take 2 ++ '/' :: ((date_str.drop 2).take 2 ++ '/' :: (date_str.drop 4).take 4)
  else date_str

/-- The dictionary `read_thai_id_card` builds. -/
structure CardData where
  cid : Str
  th_fullname : Str
  en_fullname : Str
  birth_date : Str
  gender : Str
  issuer : Str
  issue_date : Str
  expire_date : Str
  address : Str
  photo_path : Option Str
  read_timestamp : Str
  deriving DecidableEq

/-- The response code for an ATR; `none` where indexing it raises. -/
def requestCode (atr : List UInt8) : Option Apdu :=
  match atr with
  | [] => none
  | a0 :: rest =>
    if a0 = 0x3B then
      match rest with
      | [] => none
      | a1 :: _ =>
        if a1 = 0x67 then some [0x00, 0xc0, 0x00, 0x01] else some [0x00, 0xc0, 0x00, 0x00]
    else some [0x00, 0xc0, 0x00, 0x00]

def genderText (gender : Str) : Str := if gender = ['1'] then "ชาย".toList else "หญิง".toList

/-- The photo loop: the data of all parts, in order. -/
def read_photo (connection : Connection) (req : Apdu) :
    List Apdu → List UInt8 → StateM Session (List UInt8)
  | [], photo_data => return photo_data
  | cmd :: cmds, photo_data => do
    let data ← get_data connection cmd req
    read_photo connection req cmds (photo_data ++ data.data)

/-- What `read_thai_id_card` needs from outside: the clock, and the saving of
    the photo bytes under a path (`makedirs`, `HexListToBinString`, `open` and
    `write`), which may raise. -/
structure Host where
  now : Str
  savePhoto : Str → List UInt8 → Except PyExc Unit

/-- `read_thai_id_card`: a record, `None`, or an exception that leaves it. -/
def read_thai_id_card (host : Host) (connection : Connection) (atr : List UInt8)
    (save_photo : Bool) (output_dir : Str) : ExceptT PyExc (StateM Session) (Option CardData) := do
  match requestCode atr with
  -- nothing catches the `IndexError` of a short ATR
  | none => throw .other
  | some req =>
    -- nor what the transmit of the SELECT raises
    let select ← ExceptT.mk (connection.transmit (SELECT ++ THAI_CARD))
    if select.sw1 ≠ 0x90 ∨ select.sw2 ≠ 0x00 then
      return none
    let data ← get_data connection CMD_CID req
    let cid := thai2unicode data.data
    let data ← get_data connection CMD_THFULLNAME req
    let th_name := thai2unicode data.data
    let data ← get_data connection CMD_ENFULLNAME req
    let en_name := thai2unicode data.data
    let data ← get_data connection CMD_BIRTH req
    let birth := thai2unicode data.data
    let data ← get_data connection CMD_GENDER req
    let gender := thai2unicode data.data
    let data ← get_data connection CMD_ISSUER req
    let issuer := thai2unicode data.data
    let data ← get_data connection CMD_ISSUE req
    let issue := thai2unicode data.data
    let data ← get_data connection CMD_EXPIRE req
    let expire := thai2unicode data.data
    let data ← get_data connection CMD_ADDRESS req
    let address := thai2unicode data.data
    let card_data : CardData :=
      { cid
        th_fullname := th_name
        en_fullname := en_name
        birth_date := format_date birth
        gender := genderText gender
        issuer
        issue_date := format_date issue
        expire_date := format_date expire
        address
        photo_path := none
        read_timestamp := host.now }
    if save_photo then
      -- a part that fails contributes no bytes
      let photo_data ← read_photo connection req CMD_PHOTO []
      let photo_filename := output_dir ++ '/' :: (cid ++ ".jpg".toList)
      ExceptT.mk (pure (host.savePhoto photo_filename photo_data))
      return some { card_data with photo_path := some photo_filename }
    else return some card_data

end ReadImproved

end IdScan
