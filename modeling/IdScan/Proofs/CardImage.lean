import IdScan.Framework.Image
import IdScan.Proofs.NameLayout
import IdScan.Proofs.Photo
import IdScan.Proofs.ReadAgreement
import IdScan.Proofs.TwoReaders
import Mathlib.Data.List.Forall2

/-! # A person on a card, and back

  What the programs are for, from the card on: the data of a person is written
  to a byte memory, each text in TIS-620 and in the slot that its command
  reads, filled up with spaces. A card that serves this memory is read by all
  three programs as this person.
-/

namespace IdScan

open ReadImproved (readOffset readLength slice ServesMemory IsRead)
open GuiReader (CardTexts readTexts)

/-! ### A person -/

/-- A name as it is printed on a card. -/
structure PersonName where
  title : Str
  firstname : Str
  lastname : Str
  clean : ∀ part ∈ [title, firstname, lastname], CleanPart part
  firstname_ne : firstname ≠ []

/-- A date, by its digits. -/
structure CardDate where
  year : Str
  month : Str
  day : Str
  length : year.length = 4 ∧ month.length = 2 ∧ day.length = 2
  trimmed : strip (year ++ month ++ day) = year ++ month ++ day

/-- An address in one of the two documented layouts. -/
structure PersonAddress where
  house_no : Str
  moo_soi : Str
  subdistrict : Str
  district : Str
  province : Str
  /-- A single `#` stands behind the house number. -/
  shortForm : Bool
  clean : ∀ part ∈ [house_no, moo_soi, subdistrict, district, province], CleanPart part
  noYear : ¬ StartsWithYear house_no
  moo_soi_ne : shortForm = true → moo_soi ≠ []
  subdistrict_ne : subdistrict ≠ []
  district_ne : district ≠ []
  province_ne : province ≠ []

/-- What a card tells of a person. -/
structure Person where
  cid : Str
  th : PersonName
  en : PersonName
  birth : CardDate
  male : Bool
  issuer : Str
  issue : CardDate
  expire : CardDate
  address : PersonAddress
  cid_ne : cid ≠ []
  trimmed : strip cid = cid ∧ strip issuer = issuer

/-! ### The texts on the card -/

def PersonName.text (name : PersonName) : Str :=
  nameLayout name.title name.firstname name.lastname

def PersonName.fullname (name : PersonName) : Str :=
  name.title ++ ' ' :: (name.firstname ++ ' ' :: name.lastname)

def CardDate.text (date : CardDate) : Str := date.year ++ date.month ++ date.day

def CardDate.shown (date : CardDate) : Str := date.day ++ '/' :: (date.month ++ '/' :: date.year)

def PersonAddress.text (a : PersonAddress) : Str :=
  if a.shortForm then shortLayout a.house_no a.moo_soi a.subdistrict a.district a.province
  else longLayout a.house_no a.moo_soi a.subdistrict a.district a.province

def Person.cardTexts (p : Person) : CardTexts where
  th_name := p.th.text
  en_name := p.en.text
  birth := p.birth.text
  gender := if p.male then ['1'] else ['2']
  issuer := p.issuer
  issue := p.issue.text
  expire := p.expire.text
  address := p.address.text

/-- The texts in the order of their commands. -/
def listTexts (cid : Str) (t : CardTexts) : List Str :=
  [cid, t.th_name, t.en_name, t.birth, t.gender, t.issuer, t.issue, t.expire, t.address]

def Person.texts (p : Person) : List Str := listTexts p.cid p.cardTexts

theorem strip_bracketed {u v : Str} (hu : strip u = u) (hv : strip v = v) (s : Str) :
    strip (u ++ '#' :: (s ++ '#' :: v)) = u ++ '#' :: (s ++ '#' :: v) := by
  have hhead := (Text.trim_eq_self_iff.mp hu).1
  have hlast := (Text.trim_eq_self_iff.mp hv).2
  unfold strip
  rw [Text.trim_eq_self_iff]
  constructor
  · intro x hx
    cases u with
    | nil =>
      obtain rfl : '#' = x := by simpa using hx
      decide
    | cons y u => exact hhead x hx
  · intro x hx
    cases v with
    | nil =>
      have hends : u ++ '#' :: (s ++ ['#']) = (u ++ '#' :: s) ++ ['#'] := by simp
      rw [hends, List.getLast?_concat] at hx
      obtain rfl : '#' = x := by simpa using hx
      decide
    | cons y v =>
      have hends : u ++ '#' :: (s ++ '#' :: y :: v) = (u ++ '#' :: (s ++ ['#'])) ++ y :: v := by
        simp
      rw [hends, List.getLast?_append_of_ne_nil _ (List.cons_ne_nil y v)] at hx
      exact hlast x hx

theorem PersonName.strip_text (name : PersonName) : strip name.text = name.text := by
  have htext : name.text = name.title ++ '#' :: (name.firstname ++ '#' :: ('#' :: name.lastname)) :=
    rfl
  have htitle : strip name.title = name.title := (name.clean _ (by simp)).2
  have hlast : strip name.lastname = name.lastname := (name.clean _ (by simp)).2
  have hsplit : name.text = name.title ++ '#' :: ((name.firstname ++ ['#']) ++ '#' :: name.lastname) := by
    simp [htext]
  rw [hsplit]
  exact strip_bracketed htitle hlast _

theorem PersonName.parse_text (name : PersonName) :
    parse_name name.text
      = { title := name.title, firstname := name.firstname, lastname := name.lastname,
          fullname := name.fullname } := by
  have ht := name.clean name.title (by simp)
  have hf := name.clean name.firstname (by simp)
  have hl := name.clean name.lastname (by simp)
  rw [PersonName.text, parse_name_nameLayout ht.1 hf.1 hl.1 name.firstname_ne, ht.2, hf.2, hl.2]
  rfl

theorem CardDate.format_text (date : CardDate) : GuiReader.format_date date.text = date.shown := by
  obtain ⟨hyear, hmonth, hday⟩ := date.length
  have hlen : date.text.length = 8 := by simp [CardDate.text, hyear, hmonth, hday]
  unfold GuiReader.format_date
  rw [if_pos hlen]
  dsimp only
  have htake : date.text.take 4 = date.year := by
    rw [CardDate.text, List.append_assoc, List.take_left' hyear]
  have hmid : (date.text.drop 4).take 2 = date.month := by
    rw [CardDate.text, List.append_assoc, List.drop_left' hyear, List.take_left' hmonth]
  have hend : (date.text.drop 6).take 2 = date.day := by
    rw [CardDate.text, List.drop_left' (by simp [hyear, hmonth]), List.take_of_length_le hday.le]
  rw [htake, hmid, hend]
  rfl

theorem PersonAddress.strip_text (a : PersonAddress) : strip a.text = a.text := by
  have hhouse : strip a.house_no = a.house_no := (a.clean _ (by simp)).2
  have hprovince : strip a.province = a.province := (a.clean _ (by simp)).2
  unfold PersonAddress.text
  split
  · have hsplit : shortLayout a.house_no a.moo_soi a.subdistrict a.district a.province
        = a.house_no ++ '#' :: ((a.moo_soi ++ ['#', '#'] ++ a.subdistrict ++ ['#'] ++ a.district)
          ++ '#' :: a.province) := by
      simp [shortLayout]
    rw [hsplit]
    exact strip_bracketed hhouse hprovince _
  · have hsplit : longLayout a.house_no a.moo_soi a.subdistrict a.district a.province
        = a.house_no ++ '#' :: ((['#', '#'] ++ a.moo_soi ++ ['#', '#'] ++ a.subdistrict ++ ['#']
          ++ a.district) ++ '#' :: a.province) := by
      simp [longLayout]
    rw [hsplit]
    exact strip_bracketed hhouse hprovince _

theorem PersonAddress.parse_text (a : PersonAddress) :
    parse_address a.text
      = layoutAddress a.house_no a.moo_soi a.subdistrict a.district a.province := by
  have hnot : ∀ part ∈ [a.house_no, a.moo_soi, a.subdistrict, a.district, a.province],
      '#' ∉ part := fun part hpart => (a.clean part hpart).1
  -- the year would have to end before the first `#`
  have hdrop : ∀ behind, dropYear (a.house_no ++ '#' :: behind) = a.house_no ++ '#' :: behind := by
    intro behind
    rw [dropYear_append_cons (by decide) (by decide), dropYear_of_not_startsWithYear a.noYear]
  have hread : ReadAs (dropYear a.text) a.house_no a.moo_soi
      (adminText a.subdistrict a.district a.province) := by
    unfold PersonAddress.text
    split
    · next hshort =>
      have hyear : dropYear (shortLayout a.house_no a.moo_soi a.subdistrict a.district a.province)
          = shortLayout a.house_no a.moo_soi a.subdistrict a.district a.province := by
        simpa [shortLayout] using hdrop _
      rw [hyear]
      exact readAs_shortLayout (hnot _ (by simp)) (hnot _ (by simp)) (hnot _ (by simp))
        (hnot _ (by simp)) (hnot _ (by simp)) (a.moo_soi_ne hshort) a.subdistrict_ne
    · have hyear : dropYear (longLayout a.house_no a.moo_soi a.subdistrict a.district a.province)
          = longLayout a.house_no a.moo_soi a.subdistrict a.district a.province := by
        simpa [longLayout] using hdrop _
      rw [hyear]
      exact readAs_longLayout (hnot _ (by simp)) (hnot _ (by simp)) _ _ _
  exact hread.parse_address_clean a.clean a.subdistrict_ne a.district_ne a.province_ne

/-- All the texts of a person are trimmed. -/
theorem Person.strip_texts (p : Person) : ∀ text ∈ p.texts, strip text = text := by
  have hgender : strip p.cardTexts.gender = p.cardTexts.gender := by
    unfold Person.cardTexts
    dsimp only
    split <;> decide
  simp only [Person.texts, listTexts, List.forall_mem_cons, List.not_mem_nil, false_implies,
    implies_true, and_true]
  exact ⟨p.trimmed.1, p.th.strip_text, p.en.strip_text, p.birth.trimmed, hgender, p.trimmed.2,
    p.issue.trimmed, p.expire.trimmed, p.address.strip_text⟩

/-! ### The memory of the card -/

/-- One character in TIS-620, where it has a byte. -/
def encodeTis620 (c : Char) : Option UInt8 :=
  let n := c.toNat
  if n < 0xA0 then some (UInt8.ofNat n)
  else if (0xE01 ≤ n ∧ n ≤ 0xE3A) ∨ (0xE3F ≤ n ∧ n ≤ 0xE5B) then some (UInt8.ofNat (n - 0xD60))
  else none

theorem tis620_of_encode {c : Char} {b : UInt8} (h : encodeTis620 c = some b) :
    tis620 b = some c := by
  unfold encodeTis620 at h
  dsimp only at h
  split at h
  · next hlow =>
    obtain rfl := Option.some.inj h
    have hn : (UInt8.ofNat c.toNat).toNat = c.toNat := by
      rw [UInt8.toNat_ofNat']
      omega
    unfold tis620
    dsimp only
    rw [hn, if_pos hlow, Char.ofNat_toNat]
  · split at h
    · next hthai =>
      obtain rfl := Option.some.inj h
      have hn : (UInt8.ofNat (c.toNat - 0xD60)).toNat = c.toNat - 0xD60 := by
        rw [UInt8.toNat_ofNat']
        omega
      have hback : c.toNat - 0xD60 + 0xD60 = c.toNat := by omega
      unfold tis620
      dsimp only
      rw [hn, if_neg (by omega), if_pos (by omega), hback, Char.ofNat_toNat]
    · cases h

/-- The code the programs decode. -/
def tis620Code : Image.Code Char UInt8 where
  enc := encodeTis620
  dec := tis620
  dec_of_enc := tis620_of_encode

/-- The memory with each text in the slot its command reads. `none` if a text
    does not fit. -/
def storeTexts (mem : Nat → UInt8) : List Apdu → List Str → Option (Nat → UInt8)
  | cmd :: cmds, text :: texts => do
    let mem ← storeTexts mem cmds texts
    let bytes ← tis620Code.slot 0x20 (readLength cmd) text
    return Image.write mem (readOffset cmd) bytes
  | _, _ => some mem

/-- The memory of a person's card, over what else the card holds. -/
def personalise (mem : Nat → UInt8) (p : Person) : Option (Nat → UInt8) :=
  storeTexts mem ReadImproved.textCommands p.texts

/-- The slots of two commands lie apart. -/
def SlotsApart (cmd cmd' : Apdu) : Prop :=
  readOffset cmd + readLength cmd ≤ readOffset cmd' ∨
    readOffset cmd' + readLength cmd' ≤ readOffset cmd

instance (cmd cmd' : Apdu) : Decidable (SlotsApart cmd cmd') := inferInstanceAs (Decidable (_ ∨ _))

theorem textCommands_slotsApart : ReadImproved.textCommands.Pairwise SlotsApart := by decide

/-- Each slot holds its text. -/
def Stored (mem : Nat → UInt8) (cmd : Apdu) (text : Str) : Prop :=
  tis620Code.slot 0x20 (readLength cmd) text = some (slice mem (readOffset cmd) (readLength cmd))

theorem stored_storeTexts {mem mem' : Nat → UInt8} {cmds : List Apdu} {texts : List Str}
    (h : storeTexts mem cmds texts = some mem') (hlen : cmds.length = texts.length)
    (hapart : cmds.Pairwise SlotsApart) : List.Forall₂ (Stored mem') cmds texts := by
  induction cmds generalizing texts mem' with
  | nil =>
    obtain rfl := List.eq_nil_of_length_eq_zero hlen.symm
    exact .nil
  | cons cmd cmds ih =>
    obtain ⟨text, texts, rfl⟩ := List.exists_cons_of_length_eq_add_one hlen.symm
    rw [List.pairwise_cons] at hapart
    obtain ⟨hcmd, hcmds⟩ := hapart
    rw [storeTexts, Option.bind_eq_bind, Option.bind_eq_some_iff] at h
    obtain ⟨before, hbefore, h⟩ := h
    rw [Option.bind_eq_bind, Option.bind_eq_some_iff] at h
    obtain ⟨bytes, hbytes, h⟩ := h
    obtain rfl : Image.write before (readOffset cmd) bytes = mem' := Option.some.inj h
    have hlength : bytes.length = readLength cmd := tis620Code.length_of_slot hbytes
    refine .cons ?_ ?_
    · have hread := Image.read_write before (readOffset cmd) bytes
      rw [hlength] at hread
      exact hbytes.trans (congrArg some hread.symm)
    · -- the other slots are as they were
      have hrest := ih hbefore (Nat.succ.inj hlen) hcmds
      refine ((List.forall₂_and_left _ _).mpr ⟨fun cmd' hmem => hcmd cmd' hmem, hrest⟩).imp ?_
      intro cmd' text' hstored
      obtain ⟨hcmdApart, hstored⟩ := hstored
      rw [SlotsApart, ← hlength] at hcmdApart
      have hsame : slice (Image.write before (readOffset cmd) bytes) (readOffset cmd')
          (readLength cmd') = slice before (readOffset cmd') (readLength cmd') :=
        Image.read_write_apart before hcmdApart.symm
      exact hstored.trans (congrArg some hsame.symm)

/-! ### Reading it back -/

section serving
variable {connection : Connection} {req : Apdu} {mem : Nat → UInt8}

/-- What a slot holds is fetched, and decodes to its text. -/
theorem fetched_of_stored (hserves : ServesMemory connection req mem) {cmd : Apdu}
    (hread : IsRead cmd) {text : Str} (htext : strip text = text) (hstored : Stored mem cmd text)
    (ses : Session) :
    Read.Fetched connection req cmd ses ∧
      stripDecoded (connection.getData cmd req ses).1.data = text := by
  have hspace : tis620Code.dec 0x20 = some ' ' := by decide
  obtain ⟨decoded, hdecoded, htrim⟩ :=
    tis620Code.trim_decode_slot hspace (p := isspace) (by decide) htext hstored
  have hdecode : decodeTis620 (slice mem (readOffset cmd) (readLength cmd)) = some decoded :=
    hdecoded
  constructor
  · obtain ⟨r₁, r₂, hr₁, hr₂, hdata⟩ :=
      hserves (cmd.getD 2 0x00) (cmd.getD 3 0x00) (cmd.getLastD 0x00) ses
    rw [← hread] at hr₁ hr₂
    have hslot : r₂.data = slice mem (readOffset cmd) (readLength cmd) := hdata
    exact ⟨r₁, r₂, hr₁, hr₂, by rw [hslot, hdecode]; rfl⟩
  · rw [hserves.getData hread, stripDecoded, hdecode]
    exact htrim

/-- And so are all the slots, in any session. -/
theorem textsRead_of_stored (hserves : ServesMemory connection req mem) {cmds : List Apdu}
    {texts : List Str} (hread : ∀ cmd ∈ cmds, IsRead cmd) (htexts : ∀ text ∈ texts, strip text = text)
    (h : List.Forall₂ (Stored mem) cmds texts) (ses : Session) :
    Read.AllFetched connection req cmds ses ∧ Read.textsRead connection req cmds ses = texts := by
  induction h generalizing ses with
  | nil => exact ⟨trivial, rfl⟩
  | cons hstored _ ih =>
    rw [List.forall_mem_cons] at hread htexts
    obtain ⟨hfetched, htext⟩ := fetched_of_stored hserves hread.1 htexts.1 hstored ses
    obtain ⟨hall, hrest⟩ := ih hread.2 htexts.2 (connection.getData _ req ses).2
    refine ⟨⟨hfetched, hall⟩, ?_⟩
    rw [Read.textsRead, htext, hrest]

/-- The card of a person is read as their texts. -/
theorem readTexts_of_personalise (hserves : ServesMemory connection req mem)
    {blank : Nat → UInt8} {p : Person} (h : personalise blank p = some mem) (ses : Session) :
    Read.AllFetched connection req Read.textCommands ses ∧
      stripDecoded (connection.getData ReadImproved.CMD_CID req ses).1.data = p.cid ∧
      (readTexts connection req (connection.getData ReadImproved.CMD_CID req ses).2).1
        = p.cardTexts := by
  obtain ⟨hall, hread⟩ := textsRead_of_stored hserves ReadImproved.isRead_textCommands
    p.strip_texts (stored_storeTexts h rfl textCommands_slotsApart) ses
  have hlist : listTexts (stripDecoded (connection.getData ReadImproved.CMD_CID req ses).1.data)
      (readTexts connection req (connection.getData ReadImproved.CMD_CID req ses).2).1
        = listTexts p.cid p.cardTexts := hread
  simp only [listTexts, List.cons.injEq, and_true] at hlist
  obtain ⟨hcid, hth, hen, hbirth, hgender, hissuer, hissue, hexpire, haddress⟩ := hlist
  refine ⟨hall, hcid, ?_⟩
  generalize (readTexts connection req (connection.getData ReadImproved.CMD_CID req ses).2).1 = t
    at hth hen hbirth hgender hissuer hissue hexpire haddress
  obtain ⟨th, en, birth, gender, issuer, issue, expire, address⟩ := t
  dsimp only at hth hen hbirth hgender hissuer hissue hexpire haddress
  subst hth hen hbirth hgender hissuer hissue hexpire haddress
  rfl

end serving

/-! ### The three records -/

def genderShown (male : Bool) : Str := if male then "ชาย".toList else "หญิง".toList

/-- The record of the window. -/
def Person.cardInfo (p : Person) (now : Str) : CardInfo where
  cid := p.cid
  timestamp := some now
  th_title := some p.th.title
  th_firstname := some p.th.firstname
  th_lastname := some p.th.lastname
  th_fullname := p.th.fullname
  en_title := some p.en.title
  en_firstname := some p.en.firstname
  en_lastname := some p.en.lastname
  en_fullname := p.en.fullname
  birth_date := some p.birth.shown
  gender := some (genderShown p.male)
  issuer := some p.issuer
  issue_date := some p.issue.shown
  expire_date := some p.expire.shown
  address_house_no := some p.address.house_no
  address_moo_soi := some p.address.moo_soi
  address_subdistrict := some p.address.subdistrict
  address_district := some p.address.district
  address_province := some p.address.province
  address := Text.joinNonEmpty [' '] [p.address.house_no, p.address.moo_soi,
    p.address.subdistrict, p.address.district, p.address.province]

/-- The record of the command line tells of the person. Names and address keep
    the layout of the card; its dates are not spoken of. -/
structure Person.ToldBy (p : Person) (now : Str) (card_data : ReadImproved.CardData) : Prop where
  cid : card_data.cid = p.cid
  th_fullname : card_data.th_fullname = p.th.text
  en_fullname : card_data.en_fullname = p.en.text
  gender : card_data.gender = genderShown p.male
  issuer : card_data.issuer = p.issuer
  address : card_data.address = p.address.text
  photo_path : card_data.photo_path = none
  read_timestamp : card_data.read_timestamp = now

theorem Person.genderText_cardTexts (p : Person) :
    GuiReader.genderText p.cardTexts.gender = genderShown p.male := by
  cases hmale : p.male with
  | false => simp [Person.cardTexts, hmale, GuiReader.genderText, genderShown]
  | true => simp [Person.cardTexts, hmale, GuiReader.genderText, genderShown]

theorem Person.cardInfo_cardTexts (p : Person) (now : Str) :
    p.cardTexts.cardInfo p.cid now = p.cardInfo now := by
  have hgender := p.genderText_cardTexts
  have hbirth : GuiReader.format_date p.cardTexts.birth = p.birth.shown := p.birth.format_text
  have hissue : GuiReader.format_date p.cardTexts.issue = p.issue.shown := p.issue.format_text
  have hexpire : GuiReader.format_date p.cardTexts.expire = p.expire.shown := p.expire.format_text
  have hth : parse_name p.cardTexts.th_name = _ := p.th.parse_text
  have hen : parse_name p.cardTexts.en_name = _ := p.en.parse_text
  have haddress : parse_address p.cardTexts.address = _ := p.address.parse_text
  unfold CardTexts.cardInfo
  rw [hgender, hbirth, hissue, hexpire, hth, hen, haddress]
  rfl

theorem Person.toldBy_cardTexts (p : Person) (now : Str) :
    p.ToldBy now (ReadImproved.cardData p.cardTexts p.cid now) :=
  ⟨rfl, rfl, rfl, p.genderText_cardTexts, rfl, rfl, rfl, rfl⟩

/-- A round whose first SELECT is accepted reads the CID behind it. The commands
    are those of the command line. -/
theorem pollCard_of_accepted {connection : Connection} {atr : List UInt8} {req : Apdu} {r : Response}
    (hreq : GuiReader.requestCode atr = some req)
    (hselect : connection.respond [] (ReadImproved.SELECT ++ ReadImproved.THAI_CARD) = .ok r)
    (haccepted : GuiReader.accepted r.sw1 = true) :
    GuiReader.pollCard (.connected atr connection) = .card
      { connection, req,
        cid := stripDecoded (connection.getData ReadImproved.CMD_CID req
          [⟨ReadImproved.SELECT ++ ReadImproved.THAI_CARD, .ok r⟩]).1.data,
        session := (connection.getData ReadImproved.CMD_CID req
          [⟨ReadImproved.SELECT ++ ReadImproved.THAI_CARD, .ok r⟩]).2 } := by
  have hanswer : connection.respond [] (GuiReader.SELECT ++ GuiReader.THAI_CARD) = .ok r := hselect
  have hfirst : GuiReader.select_applet connection GuiReader.max_retries 0x00 []
      = (r.sw1, [⟨GuiReader.SELECT ++ GuiReader.THAI_CARD, .ok r⟩]) := by
    simp only [GuiReader.max_retries, GuiReader.select_applet, Connection.transmit, bind,
      StateT.bind, hanswer, haccepted, if_true]
    rfl
  simp only [GuiReader.pollCard, hreq, hfirst, haccepted, if_true]
  rfl

/-- **A person on a card is read as this person**, whatever else the card holds,
    if it accepts the SELECT and serves its memory: by the window, unless the
    person is the one it has marked, by the command line but for the dates, and
    by the first reader, which knows one response code only. -/
theorem person_read_back (p : Person) (blank mem : Nat → UInt8)
    (hcard : personalise blank p = some mem) (connection : Connection) (a0 a1 : UInt8)
    (rest : List UInt8) (req : Apdu)
    (hreq : ReadImproved.requestCode (a0 :: a1 :: rest) = some req)
    (hserves : ServesMemory connection req mem) (r : Response)
    (hselect : connection.respond [] (ReadImproved.SELECT ++ ReadImproved.THAI_CARD) = .ok r)
    (haccepted : r.sw1 = 0x90 ∧ r.sw2 = 0x00) (now : Str) (current : Option Str)
    (host : ReadImproved.Host) (output_dir : Str) :
    (∀ card_info, .add_card_to_table card_info ∈ (GuiReader.monitor_card_round
        (.connected (a0 :: a1 :: rest) connection) now ⟨current, []⟩).pending ↔
          current ≠ some p.cid ∧ card_info = p.cardInfo now) ∧
      (∃ card_data, ((ReadImproved.read_thai_id_card host connection (a0 :: a1 :: rest) false
          output_dir).run []).1 = .ok (some card_data) ∧ p.ToldBy host.now card_data) ∧
      (¬ (a0 = 0x3B ∧ a1 = 0x67) → ((Read.main connection (a0 :: a1 :: rest)).run []).1
        = .ok (Read.printedLines p.cid p.cardTexts)) := by
  obtain ⟨hsw1, hsw2⟩ := haccepted
  obtain ⟨hall, hcid, htexts⟩ := readTexts_of_personalise hserves hcard
    [⟨ReadImproved.SELECT ++ ReadImproved.THAI_CARD, .ok r⟩]
  refine ⟨?_, ?_, ?_⟩
  · intro card_info
    have hacc : GuiReader.accepted r.sw1 = true := by
      rw [hsw1]
      decide
    have hcode : GuiReader.requestCode (a0 :: a1 :: rest) = some req := hreq
    have hpoll := pollCard_of_accepted hcode hselect hacc
    rw [GuiReader.mem_monitor_card_round]
    constructor
    · intro h
      obtain ⟨read, hread, -, hcurrent, rfl⟩ := h
      cases hpoll.symm.trans hread
      dsimp only at hcurrent ⊢
      rw [hcid] at hcurrent
      rw [htexts, hcid, p.cardInfo_cardTexts]
      exact ⟨hcurrent, rfl⟩
    · intro h
      obtain ⟨hcurrent, rfl⟩ := h
      refine ⟨_, hpoll, ?_, ?_, ?_⟩
      · dsimp only
        rw [hcid]
        exact p.cid_ne
      · dsimp only
        rw [hcid]
        exact hcurrent
      · dsimp only
        rw [htexts, hcid, p.cardInfo_cardTexts]
  · have hrecord : (ReadImproved.readRecord host.now connection req
        [⟨ReadImproved.SELECT ++ ReadImproved.THAI_CARD, .ok r⟩]).1
          = ReadImproved.cardData p.cardTexts p.cid host.now := by
      rw [← htexts, ← hcid]
      rfl
    rw [ReadImproved.run_of_selected hreq hselect hsw1 hsw2, ReadImproved.readSelected_false, hrecord]
    exact ⟨_, rfl, p.toldBy_cardTexts host.now⟩
  · intro hatr
    have hread : Read.requestCode (a0 :: a1 :: rest) = some req := by
      rw [← hreq, Read.requestCode_cons_cons, ReadImproved.requestCode_cons_cons, if_neg hatr]
    rw [Read.main_run_of_fetched hread hselect hall]
    have hlines : Read.sessionLines connection req
        [⟨ReadImproved.SELECT ++ ReadImproved.THAI_CARD, .ok r⟩]
          = Read.printedLines p.cid p.cardTexts := by
      rw [← htexts, ← hcid]
      rfl
    rw [← hlines]
    rfl

/-- A short text does not begin with a year. -/
theorem not_startsWithYear_of_length {s : Str} (h : s.length < 5) : ¬ StartsWithYear s := by
  intro hyear
  obtain ⟨year, c, behind, rfl, hlen, -⟩ := hyear
  rw [List.length_append, List.length_cons, hlen] at h
  omega

/-- A person for whose texts there is room. -/
def somchai : Person where
  cid := "1234567890121".toList
  th := ⟨"นาย".toList, "สมชาย".toList, "ใจดี".toList, by decide +kernel, by decide⟩
  en := ⟨"Mr.".toList, "Somchai".toList, "Jaidee".toList, by decide +kernel, by decide⟩
  birth := ⟨"2530".toList, "01".toList, "17".toList, by decide, by decide +kernel⟩
  male := true
  issuer := "ท้องถิ่นก".toList
  issue := ⟨"2560".toList, "05".toList, "09".toList, by decide, by decide +kernel⟩
  expire := ⟨"2569".toList, "01".toList, "16".toList, by decide, by decide +kernel⟩
  address :=
    { house_no := "99/1".toList
      moo_soi := "หมู่ที่ 3".toList
      subdistrict := "ตำบลก".toList
      district := "อำเภอข".toList
      province := "จังหวัดค".toList
      shortForm := false
      clean := by decide +kernel
      noYear := not_startsWithYear_of_length (by decide)
      moo_soi_ne := by decide
      subdistrict_ne := by decide
      district_ne := by decide
      province_ne := by decide }
  cid_ne := by decide
  trimmed := by decide +kernel

theorem person_read_back_somchai :
    ∃ mem, personalise (fun _ => 0x00) somchai = some mem ∧
      (∀ card_info, .add_card_to_table card_info ∈ (GuiReader.monitor_card_round
          (.connected [0x3B, 0x68] (ReadImproved.memoryCard mem)) [] ⟨none, []⟩).pending ↔
            card_info = somchai.cardInfo []) ∧
      (∃ card_data, ((ReadImproved.read_thai_id_card ⟨[], fun _ _ => .ok ()⟩
          (ReadImproved.memoryCard mem) [0x3B, 0x68] false []).run []).1 = .ok (some card_data) ∧
        somchai.ToldBy [] card_data) ∧
      ((Read.main (ReadImproved.memoryCard mem) [0x3B, 0x68]).run []).1
        = .ok (Read.printedLines somchai.cid somchai.cardTexts) := by
  have hsome : (personalise (fun _ => 0x00) somchai).isSome = true := by decide +kernel
  obtain ⟨mem, hmem⟩ := Option.isSome_iff_exists.mp hsome
  obtain ⟨hwindow, hcli, hfirst⟩ := person_read_back somchai (fun _ => 0x00) mem hmem
    (ReadImproved.memoryCard mem) 0x3B 0x68 [] [0x00, 0xc0, 0x00, 0x00] rfl
    (ReadImproved.servesMemory_memoryCard mem) ⟨[], 0x90, 0x00⟩ rfl ⟨rfl, rfl⟩ []
    none ⟨[], fun _ _ => .ok ()⟩ []
  refine ⟨mem, hmem, fun card_info => ?_, hcli, hfirst (by decide)⟩
  rw [hwindow card_info]
  simp

end IdScan
