import IdScan.Model.ReadImproved

/-! # The files of the command-line reader

  What `read_improved.py` does to the files: the saving of the photo in
  `read_thai_id_card`, `save_to_json`, and `main` with both of them.

  As a card, a file system is anything that answers: what a call does may depend
  on all the calls before it, and most of them may raise.
-/

namespace IdScan

/-! ### File systems -/

/-- What is written to a file. A text is encoded in UTF-8. -/
inductive Contents where
  | bytes (data : List UInt8)
  | text (s : Str)

/-- How a file is opened for writing: `"wb"` or `'w'`. -/
inductive FileMode where
  | binary
  | text

/-- Does the file take what is written to it? -/
def Contents.fits : Contents → FileMode → Bool
  | .bytes _, .binary => true
  | .text _, .text => true
  | _, _ => false

/-- A call and its outcome. A file is opened for writing. -/
inductive FileCall where
  | exists_ (path : Str) (answer : Bool)
  | makedirs (path : Str) (outcome : Except PyExc Unit)
  | open_ (path : Str) (outcome : Except PyExc Unit)
  | write (contents : Contents) (outcome : Except PyExc Unit)

/-- The calls of a run, oldest first. -/
abbrev FileLog := List FileCall

/-- A file system, by its behaviour. The empty path names no directory, and none
    can be made there. -/
structure FileSystem where
  exists_ : FileLog → Str → Bool
  makedirs : FileLog → Str → Except PyExc Unit
  open_ : FileLog → Str → Except PyExc Unit
  write : FileLog → Contents → Except PyExc Unit
  exists_nil : ∀ log, exists_ log [] = false
  makedirs_nil : ∀ log, makedirs log [] ≠ .ok ()

/-- The paths of the files that were opened. -/
def openedFiles (log : FileLog) : List Str :=
  log.filterMap fun
    | .open_ path (.ok _) => some path
    | _ => none

namespace FileSystem

/-- `os.path.exists(path)`. -/
def callExists (fs : FileSystem) (path : Str) : StateM FileLog Bool := fun log =>
  let answer := fs.exists_ log path
  (answer, log ++ [.exists_ path answer])

/-- `os.makedirs(path)`. -/
def callMakedirs (fs : FileSystem) (path : Str) : StateM FileLog (Except PyExc Unit) := fun log =>
  let outcome := fs.makedirs log path
  (outcome, log ++ [.makedirs path outcome])

/-- `open(path, ...)` for writing. -/
def callOpen (fs : FileSystem) (path : Str) : StateM FileLog (Except PyExc Unit) := fun log =>
  let outcome := fs.open_ log path
  (outcome, log ++ [.open_ path outcome])

/-- `f.write(contents)`. A `str` for a binary file, or bytes for a text file,
    is a `TypeError`. -/
def callWrite (fs : FileSystem) (mode : FileMode) (contents : Contents) :
    StateM FileLog (Except PyExc Unit) := fun log =>
  let outcome := if contents.fits mode then fs.write log contents else .error .other
  (outcome, log ++ [.write contents outcome])

/-- `if not os.path.exists(output_dir): os.makedirs(output_dir)`. -/
def makeDirectory (fs : FileSystem) (output_dir : Str) : ExceptT PyExc (StateM FileLog) Unit := do
  let found ← fs.callExists output_dir
  if !found then
    ExceptT.mk (fs.callMakedirs output_dir)

/-- `with open(filename, mode) as f: f.write(contents)`. -/
def writeFile (fs : FileSystem) (filename : Str) (mode : FileMode) (contents : Contents) :
    ExceptT PyExc (StateM FileLog) Unit := do
  ExceptT.mk (fs.callOpen filename)
  ExceptT.mk (fs.callWrite mode contents)

/-- How both files are saved. -/
def save (fs : FileSystem) (output_dir filename : Str) (mode : FileMode) (contents : Contents) :
    ExceptT PyExc (StateM FileLog) Str := do
  fs.makeDirectory output_dir
  fs.writeFile filename mode contents
  return filename

end FileSystem

namespace ReadImproved

/-! ### The two files -/

/-- The end of the photo part of `read_thai_id_card`. `HexListToBinString` is
    that of the smart card library, whatever it makes of the bytes; it is the
    argument `binString` here and below. -/
def save_photo_file (fs : FileSystem) (binString : List UInt8 → Contents) (output_dir cid : Str)
    (photo_data : List UInt8) : ExceptT PyExc (StateM FileLog) Str :=
  fs.save output_dir (output_dir ++ '/' :: (cid ++ ".jpg".toList)) .binary (binString photo_data)

/-- A character in a JSON text, `ensure_ascii=False`. -/
def jsonChar (c : Char) : Str :=
  if c = '"' then "\\\"".toList
  else if c = '\\' then "\\\\".toList
  else if c = '\n' then "\\n".toList
  else if c = '\r' then "\\r".toList
  else if c = '\t' then "\\t".toList
  else if c = '\x0c' then "\\f".toList
  else if c = '\x08' then "\\b".toList
  else if c.toNat < 0x10 then "\\u000".toList ++ Nat.toDigits 16 c.toNat
  else if c.toNat < 0x20 then "\\u00".toList ++ Nat.toDigits 16 c.toNat
  else [c]

def jsonString (s : Str) : Str := '"' :: (s.flatMap jsonChar ++ ['"'])

example : jsonString "ก\t\\\x1f".toList = "\"ก\\t\\\\\\u001f\"".toList := by decide

/-- The dictionary, in the order of its insertions. The photo is only there if
    it was saved. -/
def CardData.items (data : CardData) : List (Str × Str) :=
  [("cid".toList, data.cid), ("th_fullname".toList, data.th_fullname),
    ("en_fullname".toList, data.en_fullname), ("birth_date".toList, data.birth_date),
    ("gender".toList, data.gender), ("issuer".toList, data.issuer),
    ("issue_date".toList, data.issue_date), ("expire_date".toList, data.expire_date),
    ("address".toList, data.address)]
    ++ (data.photo_path.toList.map fun path => ("photo_path".toList, path))
    ++ [("read_timestamp".toList, data.read_timestamp)]

/-- `json.dump(data, f, ensure_ascii=False, indent=2)`. -/
def jsonDump (data : CardData) : Str :=
  "\x7b\n".toList
    ++ ",\n".toList.intercalate (data.items.map fun (key, value) =>
      "  ".toList ++ jsonString key ++ ": ".toList ++ jsonString value)
    ++ "\n\x7d".toList

/-- `save_to_json`. -/
def save_to_json (fs : FileSystem) (data : CardData) (output_dir : Str) :
    ExceptT PyExc (StateM FileLog) Str :=
  fs.save output_dir (output_dir ++ '/' :: (data.cid ++ ".json".toList)) .text
    (.text (jsonDump data))

/-! ### The run of the program -/

/-- What a run has done so far, at the card and to the files. -/
structure RunLog where
  session : Session
  files : FileLog

def onCard {α : Type} (x : StateM Session α) : StateM RunLog α := fun log =>
  let (a, session) := x log.session
  (a, { log with session })

def onFiles {α : Type} (x : StateM FileLog α) : StateM RunLog α := fun log =>
  let (a, files) := x log.files
  (a, { log with files })

/-- The photo part of `read_thai_id_card`: the photo is read and saved, and its
    path is added to the record. -/
def photoPart (fs : FileSystem) (binString : List UInt8 → Contents) (connection : Connection)
    (req : Apdu) (output_dir : Str) (card_data : CardData) :
    ExceptT PyExc (StateM RunLog) CardData := do
  let photo_data ← (onCard (read_photo connection req CMD_PHOTO []) : StateM RunLog _)
  let photo_filename ←
    ExceptT.mk (onFiles (save_photo_file fs binString output_dir card_data.cid photo_data).run)
  return { card_data with photo_path := some photo_filename }

/-- `read_thai_id_card` with what it does to the files: the record without a
    photo, and then the photo part. -/
def read_thai_id_card_saving (fs : FileSystem) (binString : List UInt8 → Contents) (now : Str)
    (connection : Connection) (atr : List UInt8) (save_photo : Bool) (output_dir : Str) :
    ExceptT PyExc (StateM RunLog) (Option CardData) := do
  let host : Host := ⟨now, fun _ _ => .ok ()⟩
  let card_data ← ExceptT.mk (onCard (read_thai_id_card host connection atr false output_dir).run)
  match card_data, requestCode atr with
  | some card_data, some req =>
    if save_photo then
      let card_data ← photoPart fs binString connection req output_dir card_data
      return some card_data
    else return some card_data
  | _, _ => return none

/-- The arguments of `main` but for the number of the reader. -/
structure Args where
  photo : Bool
  json : Bool
  output_dir : Str

/-- The `try` of `main`, from the connection on. -/
def mainBody (fs : FileSystem) (binString : List UInt8 → Contents) (now : Str)
    (connection : Connection) (atr : List UInt8) (args : Args) :
    ExceptT PyExc (StateM RunLog) Nat := do
  match ← read_thai_id_card_saving fs binString now connection atr args.photo args.output_dir with
  | none => return 1
  | some card_data =>
    if args.json then
      let _ ← ExceptT.mk (onFiles (save_to_json fs card_data args.output_dir).run)
    return 0

/-- `main`, from the connection on: the exit code. -/
def main (fs : FileSystem) (binString : List UInt8 → Contents) (now : Str)
    (connection : Connection) (atr : List UInt8) (args : Args) : StateM RunLog Nat := do
  match ← (mainBody fs binString now connection atr args).run with
  | .ok code => return code
  | .error _ => return 1

/-- The files a run of the program writes. -/
def filesWritten (fs : FileSystem) (binString : List UInt8 → Contents) (now : Str)
    (connection : Connection) (atr : List UInt8) (args : Args) : List Str :=
  openedFiles (main fs binString now connection atr args ⟨[], []⟩).2.files

end ReadImproved

end IdScan
