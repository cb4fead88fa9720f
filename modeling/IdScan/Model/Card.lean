import IdScan.Model.Python

/-! # The card behind a reader

  A connection is anything that answers: what it does at a transmit may depend
  on the whole session so far, and it may raise at any point. A session is the
  log of its transmits, each with what came of it.
-/

namespace IdScan

/-- The exceptions the programs tell apart. -/
inductive PyExc where
  | NoCardException
  | CardConnectionException
  | other
  deriving DecidableEq

/-- A command, as the list of its bytes. -/
abbrev Apdu := List UInt8

/-- What a transmit returns: `data, sw1, sw2`. -/
structure Response where
  data : List UInt8
  sw1 : UInt8
  sw2 : UInt8
  deriving DecidableEq

/-- One transmit and its outcome. -/
structure Exchange where
  cmd : Apdu
  answer : Except PyExc Response

/-- The transmits of a session, oldest first. -/
abbrev Session := List Exchange

/-- A connection to a card, by its behaviour. -/
structure Connection where
  respond : Session → Apdu → Except PyExc Response

/-- A card that answers every command and never lets the connection fail. -/
def Connection.ofCard (card : Session → Apdu → Response) : Connection where
  respond := fun ses cmd => .ok (card ses cmd)

/-- `connection.transmit(cmd)`. -/
def Connection.transmit (connection : Connection) (cmd : Apdu) :
    StateM Session (Except PyExc Response) := fun ses =>
  let answer := connection.respond ses cmd
  (answer, ses ++ [⟨cmd, answer⟩])

/-- The body of the `get_data` functions: the command, then GET RESPONSE for
    the length the command ends in. Whatever raises gives no data at all. -/
def Connection.getData (connection : Connection) (cmd req : Apdu) : StateM Session Response := do
  match ← connection.transmit cmd with
  | .error _ => return ⟨[], 0x00, 0x00⟩
  -- data and status words of the first answer are overwritten unseen
  | .ok _ =>
    match ← connection.transmit (req ++ [cmd.getLastD 0x00]) with
    | .error _ => return ⟨[], 0x00, 0x00⟩
    | .ok response => return response

/-! ### TIS-620 -/

/-- One byte of TIS-620; `none` for the bytes the encoding leaves undefined. -/
def tis620 (b : UInt8) : Option Char :=
  let n := b.toNat
  if n < 0xA0 then some (Char.ofNat n)
  else if (0xA1 ≤ n ∧ n ≤ 0xDA) ∨ (0xDF ≤ n ∧ n ≤ 0xFB) then some (Char.ofNat (n + 0xD60))
  else none

/-- `bytes(data).decode('tis-620')`, which raises on an undefined byte. -/
def decodeTis620 (data : List UInt8) : Option Str := data.mapM tis620

/-- The body of the `thai2unicode` functions. Undecodable bytes give the empty
    text. -/
def stripDecoded (data : List UInt8) : Str :=
  match decodeTis620 data with
  | some text => strip text
  | none => []

/-- What the decoders return is trimmed. -/
@[simp] theorem strip_stripDecoded (data : List UInt8) :
    strip (stripDecoded data) = stripDecoded data := by
  unfold stripDecoded
  split
  · simp
  · rfl

end IdScan
