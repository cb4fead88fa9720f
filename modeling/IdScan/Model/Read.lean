import IdScan.Model.Card

/-! # The first reader

  `read.py`: a script from top to bottom. It prints what it reads and catches
  nothing. Its photo commands are not used, because the lines that would send
  them stand in a string.
-/

namespace IdScan

namespace Read

def SELECT : Apdu := [0x00, 0xA4, 0x04, 0x00, 0x08]
def THAI_CARD : Apdu := [0xA0, 0x00, 0x00, 0x00, 0x54, 0x48, 0x00, 0x01]
def CMD_CID : Apdu := [0x80, 0xb0, 0x00, 0x04, 0x02, 0x00, 0x0d]
def CMD_THFULLNAME : Apdu := [0x80, 0xb0, 0x00, 0x11, 0x02, 0x00, 0x64]
def CMD_ENFULLNAME : Apdu := [0x80, 0xb0, 0x00, 0x75, 0x02, 0x00, 0x64]
def CMD_BIRTH : Apdu := [0x80, 0xb0, 0x00, 0xD9, 0x02, 0x00, 0x08]
def CMD_GENDER : Apdu := [0x80, 0xb0, 0x00, 0xE1, 0x02, 0x00, 0x01]
def CMD_ISSUER : Apdu := [0x80, 0xb0, 0x00, 0xF6, 0x02, 0x00, 0x64]
def CMD_ISSUE : Apdu := [0x80, 0xb0, 0x01, 0x67, 0x02, 0x00, 0x08]
def CMD_EXPIRE : Apdu := [0x80, 0xb0, 0x01, 0x6F, 0x02, 0x00, 0x08]
def CMD_ADDRESS : Apdu := [0x80, 0xb0, 0x15, 0x79, 0x02, 0x00, 0x64]

/-- `thai2unicode`, which lets the exception of the decoder pass. -/
def thai2unicode (data : List UInt8) : Except PyExc Str :=
  match decodeTis620 data with
  | some text => .ok (strip text)
  | none => .error .other

/-- `getData`, which lets the exceptions of both transmits pass. -/
def getData (connection : Connection) (cmd req : Apdu) :
    ExceptT PyExc (StateM Session) Response := do
  let _ ← ExceptT.mk (connection.transmit cmd)
  ExceptT.mk (connection.transmit (req ++ [cmd.getLastD 0x00]))

/-- The response code for an ATR; `none` where indexing it raises. In
    `atr[0] == 0x3B & atr[1] == 0x67` the `&` binds first, and the two
    comparisons are chained around it. -/
def requestCode (atr : List UInt8) : Option Apdu :=
  match atr with
  | a0 :: a1 :: _ =>
    if a0 = 0x3B &&& a1 ∧ 0x3B &&& a1 = 0x67 then some [0x00, 0xc0, 0x00, 0x01]
    else some [0x00, 0xc0, 0x00, 0x00]
  | _ => none

/-- The script behind `connection.getATR()`, with the lines it prints of the
    card. -/
def main (connection : Connection) (atr : List UInt8) :
    ExceptT PyExc (StateM Session) (List Str) := do
  match requestCode atr with
  | none => throw .other
  | some req =>
    -- the status words of the SELECT are printed and not looked at
    let _ ← ExceptT.mk (connection.transmit (SELECT ++ THAI_CARD))
    let data ← getData connection CMD_CID req
    let cid ← ExceptT.mk (pure (thai2unicode data.data))
    let data ← getData connection CMD_THFULLNAME req
    let th_fullname ← ExceptT.mk (pure (thai2unicode data.data))
    let data ← getData connection CMD_ENFULLNAME req
    let en_fullname ← ExceptT.mk (pure (thai2unicode data.data))
    let data ← getData connection CMD_BIRTH req
    let birth ← ExceptT.mk (pure (thai2unicode data.data))
    let data ← getData connection CMD_GENDER req
    let gender ← ExceptT.mk (pure (thai2unicode data.data))
    let data ← getData connection CMD_ISSUER req
    let issuer ← ExceptT.mk (pure (thai2unicode data.data))
    let data ← getData connection CMD_ISSUE req
    let issue ← ExceptT.mk (pure (thai2unicode data.data))
    let data ← getData connection CMD_EXPIRE req
    let expire ← ExceptT.mk (pure (thai2unicode data.data))
    let data ← getData connection CMD_ADDRESS req
    let address ← ExceptT.mk (pure (thai2unicode data.data))
    return ["CID: ".toList ++ cid, "TH Fullname: ".toList ++ th_fullname,
      "EN Fullname: ".toList ++ en_fullname, "Date of birth: ".toList ++ birth,
      "Gender: ".toList ++ gender, "Card Issuer: ".toList ++ issuer,
      "Issue Date: ".toList ++ issue, "Expire Date: ".toList ++ expire,
      "Address: ".toList ++ address]

end Read

end IdScan
