import IdScan.Proofs.Transcripts

/-! # The photo

  The photo is read in twenty parts, each by its own offset and length. On a
  card that serves a byte memory the parts join to one slice of the memory,
  because each begins where the part before ends.
-/

namespace IdScan

namespace ReadImproved

open GuiReader (readTexts)

/-! ### A byte memory behind the reader -/

/-- The bytes of the memory at `offset`. -/
def slice (mem : Nat → UInt8) (offset length : Nat) : List UInt8 :=
  (List.range' offset length).map mem

theorem slice_append (mem : Nat → UInt8) (offset m n : Nat) :
    slice mem offset m ++ slice mem (offset + m) n = slice mem offset (m + n) := by
  unfold slice
  rw [← List.map_append, List.range'_append_1]

/-- The command for `len` bytes at the offset `hi`, `lo`. -/
def readCommand (hi lo len : UInt8) : Apdu := [0x80, 0xb0, hi, lo, 0x02, 0x00, len]

/-- The connection serves the memory: the command for some bytes and the GET
    RESPONSE for their number do not raise, and bring these bytes. -/
def ServesMemory (connection : Connection) (req : Apdu) (mem : Nat → UInt8) : Prop :=
  ∀ (hi lo len : UInt8) (ses : Session), ∃ r₁ r₂,
    connection.respond ses (readCommand hi lo len) = .ok r₁ ∧
      connection.respond (ses ++ [⟨readCommand hi lo len, .ok r₁⟩]) (req ++ [len]) = .ok r₂ ∧
      r₂.data = slice mem (256 * hi.toNat + lo.toNat) len.toNat

/-! ### The commands of the program -/

/-- Where a command reads. -/
def readOffset (cmd : Apdu) : Nat := 256 * (cmd.getD 2 0x00).toNat + (cmd.getD 3 0x00).toNat

/-- How many bytes it reads. -/
def readLength (cmd : Apdu) : Nat := (cmd.getLastD 0x00).toNat

def totalLength : List Apdu → Nat
  | [] => 0
  | cmd :: cmds => readLength cmd + totalLength cmds

/-- The byte positions a command reads. -/
def positions (cmd : Apdu) : List Nat := List.range' (readOffset cmd) (readLength cmd)

/-- The command is one that reads bytes. -/
def IsRead (cmd : Apdu) : Prop :=
  cmd = readCommand (cmd.getD 2 0x00) (cmd.getD 3 0x00) (cmd.getLastD 0x00)

instance (cmd : Apdu) : Decidable (IsRead cmd) := inferInstanceAs (Decidable (cmd = _))

/-- Each command reads where the one before it ended. -/
def Consecutive : Nat → List Apdu → Prop
  | _, [] => True
  | start, cmd :: cmds => readOffset cmd = start ∧ Consecutive (start + readLength cmd) cmds

instance : (start : Nat) → (cmds : List Apdu) → Decidable (Consecutive start cmds)
  | _, [] => inferInstanceAs (Decidable True)
  | start, cmd :: cmds =>
    have : Decidable (Consecutive (start + readLength cmd) cmds) :=
      instDecidableConsecutive (start + readLength cmd) cmds
    inferInstanceAs (Decidable (_ ∧ _))

theorem isRead_textCommands : ∀ cmd ∈ textCommands, IsRead cmd := by decide

theorem isRead_CMD_PHOTO : ∀ cmd ∈ CMD_PHOTO, IsRead cmd := by decide

theorem consecutive_CMD_PHOTO : Consecutive 0x17B CMD_PHOTO := by decide

theorem totalLength_CMD_PHOTO : totalLength CMD_PHOTO = 5100 := by decide

/-- No text lies in the photo. -/
theorem textCommands_apart : ∀ cmd ∈ textCommands,
    readOffset cmd + readLength cmd ≤ 0x17B ∨ 0x17B + 5100 ≤ readOffset cmd := by decide

/-! ### Reading on -/

section serving
variable {connection : Connection} {req : Apdu} {mem : Nat → UInt8}

/-- A memory answers the commands that read it. -/
theorem ServesMemory.answers (h : ServesMemory connection req mem) {cmds : List Apdu}
    (hread : ∀ cmd ∈ cmds, IsRead cmd) : Answers connection cmds := by
  intro cmd hmem ses
  obtain ⟨r₁, _, hr₁, _⟩ := h (cmd.getD 2 0x00) (cmd.getD 3 0x00) (cmd.getLastD 0x00) ses
  rw [← hread cmd hmem] at hr₁
  exact ⟨r₁, hr₁⟩

/-- One part of the memory. -/
theorem ServesMemory.getData (h : ServesMemory connection req mem) {cmd : Apdu}
    (hread : IsRead cmd) (ses : Session) :
    (connection.getData cmd req ses).1.data = slice mem (readOffset cmd) (readLength cmd) := by
  obtain ⟨r₁, r₂, hr₁, hr₂, hdata⟩ :=
    h (cmd.getD 2 0x00) (cmd.getD 3 0x00) (cmd.getLastD 0x00) ses
  rw [← hread] at hr₁ hr₂
  rw [getData_of_ok hr₁, hr₂]
  exact hdata

/-- Parts that follow on each other join to one slice. -/
theorem ServesMemory.read_photo (h : ServesMemory connection req mem) {cmds : List Apdu}
    (hread : ∀ cmd ∈ cmds, IsRead cmd) {start : Nat} (hnext : Consecutive start cmds)
    (photo_data : List UInt8) (ses : Session) :
    (read_photo connection req cmds photo_data ses).1
      = photo_data ++ slice mem start (totalLength cmds) := by
  induction cmds generalizing start photo_data ses with
  | nil =>
    show photo_data = photo_data ++ []
    rw [List.append_nil]
  | cons cmd cmds ih =>
    obtain ⟨hoffset, hnext⟩ := hnext
    have hrest : ∀ cmd' ∈ cmds, IsRead cmd' := fun cmd' hmem => hread cmd' (by simp [hmem])
    have hpart := h.getData (hread cmd (by simp)) ses
    show (ReadImproved.read_photo connection req cmds
      (photo_data ++ (connection.getData cmd req ses).1.data)
      (connection.getData cmd req ses).2).1 = _
    rw [ih hrest hnext, hpart, hoffset, List.append_assoc, slice_append, totalLength]

end serving

/-- The cid a session begins with. -/
def sessionCid (connection : Connection) (req : Apdu) (ses : Session) : Str :=
  thai2unicode (get_data connection CMD_CID req ses).1.data

/-- Where the photo of a session is saved. -/
def photoPath (connection : Connection) (req : Apdu) (output_dir : Str) (ses : Session) : Str :=
  output_dir ++ '/' :: (sessionCid connection req ses ++ ".jpg".toList)

/-- The record of a session whose photo is saved. -/
def photoRecord (connection : Connection) (req : Apdu) (now output_dir : Str) (ses : Session) :
    CardData :=
  { cardData (readTexts connection req (get_data connection CMD_CID req ses).2).1
      (sessionCid connection req ses) now with
    photo_path := some (photoPath connection req output_dir ses) }

/-- What is handed on to be saved, and what comes of it. -/
theorem readSelected_photo (host : Host) (connection : Connection) (req : Apdu)
    (output_dir : Str) (ses : Session) :
    (readSelected host connection req true output_dir ses).1
      = (host.savePhoto (photoPath connection req output_dir ses)
          (ReadImproved.read_photo connection req CMD_PHOTO []
            (afterReads connection req textCommands ses)).1).map fun _ =>
        some (photoRecord connection req host.now output_dir ses) := by
  rw [readSelected_true]
  rfl

/-- **The photo is one slice of the memory.** What is handed on to be saved is
    the 5100 bytes from 0x17B on, whatever the memory holds; the commands are
    those of the nine texts and of the photo; and no text shares a byte with
    the photo. -/
theorem photo_is_slice (connection : Connection) (mem : Nat → UInt8) (atr : List UInt8)
    (req : Apdu) (r : Response) (hreq : requestCode atr = some req)
    (hselect : connection.respond [] (SELECT ++ THAI_CARD) = .ok r) (hsw1 : r.sw1 = 0x90)
    (hsw2 : r.sw2 = 0x00) (hmem : ServesMemory connection req mem) (now output_dir : Str) :
    (∃ path card_data, ∀ savePhoto,
        ((read_thai_id_card ⟨now, savePhoto⟩ connection atr true output_dir).run []).1
          = (savePhoto path (slice mem 0x17B 5100)).map fun _ => some card_data) ∧
      (∀ savePhoto, commandsSent
          ((read_thai_id_card ⟨now, savePhoto⟩ connection atr true output_dir).run []).2
        = (SELECT ++ THAI_CARD) :: transcript req (textCommands ++ CMD_PHOTO)) ∧
      ∀ cmd ∈ textCommands, ∀ p ∈ positions cmd, p < 0x17B ∨ 0x17B + 5100 ≤ p := by
  have hanswers : Answers connection (textCommands ++ CMD_PHOTO) := by
    apply hmem.answers
    intro cmd hcmd
    rcases List.mem_append.mp hcmd with hcmd | hcmd
    · exact isRead_textCommands cmd hcmd
    · exact isRead_CMD_PHOTO cmd hcmd
  refine ⟨?_, ?_, ?_⟩
  · refine ⟨photoPath connection req output_dir [⟨SELECT ++ THAI_CARD, .ok r⟩],
      photoRecord connection req now output_dir [⟨SELECT ++ THAI_CARD, .ok r⟩],
      fun savePhoto => ?_⟩
    have hphoto := hmem.read_photo isRead_CMD_PHOTO consecutive_CMD_PHOTO []
      (afterReads connection req textCommands [⟨SELECT ++ THAI_CARD, .ok r⟩])
    rw [totalLength_CMD_PHOTO, List.nil_append] at hphoto
    rw [run_of_selected hreq hselect hsw1 hsw2, readSelected_photo, hphoto]
  · intro savePhoto
    exact commandsSent_read_thai_id_card hreq hselect hsw1 hsw2 true hanswers _ _
  · intro cmd hcmd p hp
    have hpos := List.mem_range'_1.mp hp
    have hapart := textCommands_apart cmd hcmd
    omega

/-- A card with this memory. -/
def memoryCard (mem : Nat → UInt8) : Connection where
  respond := fun ses cmd =>
    if IsRead cmd then .ok ⟨[], 0x61, cmd.getLastD 0x00⟩
    else
      match ses.getLast? with
      | some exchange =>
        .ok ⟨slice mem (readOffset exchange.cmd) (readLength exchange.cmd), 0x90, 0x00⟩
      | none => .ok ⟨[], 0x90, 0x00⟩

theorem servesMemory_memoryCard (mem : Nat → UInt8) :
    ServesMemory (memoryCard mem) [0x00, 0xc0, 0x00, 0x00] mem := by
  intro hi lo len ses
  refine ⟨⟨[], 0x61, len⟩, ⟨slice mem (256 * hi.toNat + lo.toNat) len.toNat, 0x90, 0x00⟩,
    ?_, ?_, rfl⟩
  · simp [memoryCard, IsRead, readCommand]
  · simp [memoryCard, IsRead, readCommand, readOffset, readLength]

theorem photo_is_slice_memoryCard :
    ∃ path card_data, ∀ savePhoto,
      ((read_thai_id_card ⟨[], savePhoto⟩ (memoryCard UInt8.ofNat) [0x3B, 0x68] true
          "output".toList).run []).1
        = (savePhoto path (slice UInt8.ofNat 0x17B 5100)).map fun _ => some card_data :=
  (photo_is_slice (memoryCard UInt8.ofNat) UInt8.ofNat [0x3B, 0x68] [0x00, 0xc0, 0x00, 0x00]
    ⟨[], 0x90, 0x00⟩ rfl (by decide) rfl rfl (servesMemory_memoryCard UInt8.ofNat) []
    "output".toList).1

end ReadImproved

end IdScan
