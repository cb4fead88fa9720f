import IdScan.Proofs.AddressReturns
import IdScan.Proofs.RoundTrip

/-! # The derived texts

  The full names and the address of a record are made twice: by `parse_name` and
  `parse_address` from the text on the card, and by the import from the exported
  parts. The two agree on texts that have the layout of the card, with all the
  parts of a name filled and no carriage return inside a part. Where
  `parse_name` or `parse_address` gives up, it fills the full text alone, and
  that is not exported.
-/

namespace IdScan

/-! ### Names -/

/-- The name has the layout: these are its pieces. -/
def NamePieces (fullname title_part first_part last_part : Str) : Prop :=
  ∃ name_part more, Text.split ['#', '#'] fullname = [name_part, last_part] ∧
    Text.split ['#'] name_part = title_part :: first_part :: more

/-- The name comes through: it is blank, or has the layout with three parts that
    are not blank and hold no carriage return. -/
def NameSurvives (fullname : Str) : Prop :=
  fullname = [] ∨ ∃ title_part first_part last_part,
    NamePieces fullname title_part first_part last_part ∧
      ∀ part ∈ [strip title_part, strip first_part, strip last_part], part ≠ [] ∧ '\r' ∉ part

theorem NamePieces.unique {fullname a b c a' b' c' : Str} (h : NamePieces fullname a b c)
    (h' : NamePieces fullname a' b' c') : a = a' ∧ b = b' ∧ c = c' := by
  obtain ⟨name_part, more, hsplit, hname⟩ := h
  obtain ⟨name_part', more', hsplit', hname'⟩ := h'
  rw [hsplit] at hsplit'
  simp only [List.cons.injEq, and_true] at hsplit'
  obtain ⟨rfl, rfl⟩ := hsplit'
  rw [hname] at hname'
  simp only [List.cons.injEq] at hname'
  exact ⟨hname'.1, hname'.2.1, rfl⟩

theorem not_namePieces_nil (a b c : Str) : ¬ NamePieces [] a b c := by
  intro h
  obtain ⟨name_part, more, hsplit, -⟩ := h
  have hnil : Text.split ['#', '#'] ([] : Str) = [[]] := rfl
  rw [hnil] at hsplit
  simp at hsplit

/-- What `parse_name` makes of a name, with and without the layout. -/
theorem parse_name_cases (fullname : Str) :
    (∃ title_part first_part last_part, NamePieces fullname title_part first_part last_part ∧
      parse_name fullname =
        { title := strip title_part, firstname := strip first_part, lastname := strip last_part,
          fullname := strip title_part ++ ' ' :: (strip first_part ++ ' ' :: strip last_part) }) ∨
    ((¬ ∃ a b c, NamePieces fullname a b c) ∧ parse_name fullname = unparsedName fullname) := by
  unfold parse_name
  split
  · next name_part last_part hsplit =>
    split
    · next title_part first_part more hname =>
      exact .inl ⟨title_part, first_part, last_part, ⟨name_part, more, hsplit, hname⟩, rfl⟩
    · next hname =>
      refine .inr ⟨?_, rfl⟩
      intro h
      obtain ⟨a, b, c, name_part', more, hsplit', hname'⟩ := h
      rw [hsplit] at hsplit'
      simp only [List.cons.injEq, and_true] at hsplit'
      exact hname _ _ _ (hsplit'.1 ▸ hname')
  · next hsplit =>
    refine .inr ⟨?_, rfl⟩
    intro h
    obtain ⟨a, b, c, name_part, more, hsplit', -⟩ := h
    exact hsplit _ _ hsplit'

/-- Three parts joined again give the text with two spaces exactly if none of
    them is empty. -/
theorem joinNonEmpty_three {a b c : Str} :
    Text.joinNonEmpty [' '] [a, b, c] = a ++ ' ' :: (b ++ ' ' :: c) ↔
      a ≠ [] ∧ b ≠ [] ∧ c ≠ [] := by
  simp only [Text.joinNonEmpty_cons, Text.joinNonEmpty_nil]
  constructor
  · intro h
    -- an empty part leaves out its space
    have hlen := congrArg List.length h
    cases a <;> cases b <;> cases c <;> simp at hlen ⊢
  · intro h
    obtain ⟨ha, hb, hc⟩ := h
    simp [ha, hb, hc]

theorem hashToSpace_eq_nil_iff {s : Str} : hashToSpace s = [] ↔ s = [] := by
  simp [hashToSpace, Text.replace_singleton]

namespace GuiReader

theorem joinParts_readBack (parts : List Str) :
    joinParts (parts.map fun part => some (readBackText (some part)))
      = Text.joinNonEmpty [' '] (parts.map Csv.universalNewlines) := by
  simp [joinParts, readBackText, cell, Function.comp_def]

/-- Parts without carriage returns come back as they are. -/
theorem map_universalNewlines {parts : List Str} (h : ∀ part ∈ parts, '\r' ∉ part) :
    parts.map Csv.universalNewlines = parts := by
  rw [List.map_congr_left fun part hpart => Csv.universalNewlines_of_not_mem (h part hpart)]
  exact List.map_id' parts

/-- What is joined from parts that came back holds no carriage return. -/
theorem cr_not_mem_joinNonEmpty (parts : List Str) :
    '\r' ∉ Text.joinNonEmpty [' '] (parts.map Csv.universalNewlines) := by
  intro hmem
  rcases Text.mem_joinNonEmpty hmem with hsep | ⟨part, hpart, hcr⟩
  · simp at hsep
  · obtain ⟨part', -, rfl⟩ := List.mem_map.mp hpart
    exact Csv.cr_not_mem_universalNewlines _ hcr

/-- The full name the import rebuilds from the exported parts. -/
def rebuiltName (name : ParsedName) : Str :=
  joinParts ([name.title, name.firstname, name.lastname].map fun part =>
    some (readBackText (some part)))

/-- **When a full name is rebuilt as it was.** -/
theorem rebuiltName_iff (fullname : Str) :
    rebuiltName (parse_name fullname) = (parse_name fullname).fullname ↔
      NameSurvives fullname := by
  unfold rebuiltName
  rw [joinParts_readBack]
  rcases parse_name_cases fullname with ⟨a, b, c, hpieces, hparse⟩ | ⟨hnot, hparse⟩
  · rw [hparse]
    dsimp only
    have hne : fullname ≠ [] := by
      rintro rfl
      exact not_namePieces_nil a b c hpieces
    have hsurvives : NameSurvives fullname ↔
        ∀ part ∈ [strip a, strip b, strip c], part ≠ [] ∧ '\r' ∉ part := by
      constructor
      · intro h
        rcases h with hnil | ⟨a', b', c', hpieces', hall⟩
        · exact absurd hnil hne
        · obtain ⟨rfl, rfl, rfl⟩ := hpieces.unique hpieces'
          exact hall
      · intro hall
        exact .inr ⟨a, b, c, hpieces, hall⟩
    rw [hsurvives]
    constructor
    · intro heq
      -- what is rebuilt has no carriage return, so none of the parts had one
      have hcr : ∀ part ∈ [strip a, strip b, strip c], '\r' ∉ part := by
        have hjoined := heq ▸ cr_not_mem_joinNonEmpty [strip a, strip b, strip c]
        intro part hpart hmem
        apply hjoined
        simp only [List.mem_cons, List.not_mem_nil, or_false] at hpart
        rcases hpart with rfl | rfl | rfl <;> simp [hmem]
      rw [map_universalNewlines hcr, joinNonEmpty_three] at heq
      intro part hpart
      refine ⟨?_, hcr part hpart⟩
      simp only [List.mem_cons, List.not_mem_nil, or_false] at hpart
      rcases hpart with rfl | rfl | rfl
      · exact heq.1
      · exact heq.2.1
      · exact heq.2.2
    · intro hall
      rw [map_universalNewlines fun part hpart => (hall part hpart).2, joinNonEmpty_three]
      exact ⟨(hall _ (by simp)).1, (hall _ (by simp)).1, (hall _ (by simp)).1⟩
  · rw [hparse]
    have hsurvives : NameSurvives fullname ↔ fullname = [] := by
      constructor
      · intro h
        rcases h with hnil | ⟨a, b, c, hpieces, -⟩
        · exact hnil
        · exact absurd ⟨a, b, c, hpieces⟩ hnot
      · exact .inl
    rw [hsurvives]
    -- the parts are empty, so nothing is rebuilt
    have hblank : Text.joinNonEmpty [' '] (List.map Csv.universalNewlines [[], [], []])
        = ([] : Str) := rfl
    rw [unparsedName, hblank, eq_comm]
    exact hashToSpace_eq_nil_iff

/-! ### Addresses -/

/-- The address comes through: behind the year it has no `#` or a `##`
    somewhere, and its pieces hold no carriage return. -/
def AddressSurvives (address : Str) : Prop :=
  ('#' ∈ dropYear address → ['#', '#'] <:+: dropYear address) ∧
    ∀ house moo rest, ReadAs (dropYear address) house moo rest → PlainPieces house moo rest

/-- It is the fields that hold none. -/
theorem addressSurvives_iff (address : Str) :
    AddressSurvives address ↔
      ('#' ∈ dropYear address → ['#', '#'] <:+: dropYear address) ∧
        ∀ part ∈ addressFields (parse_address address), '\r' ∉ part := by
  apply and_congr_right
  intro hlayout
  rcases readAs_or_onlySingleHashes (dropYear address) with ⟨house, moo, rest, hread⟩ | ⟨hsingle, -⟩
  · constructor
    · intro hplain
      exact hread.plain_iff.mpr (hplain house moo rest hread)
    · intro hfields house' moo' rest' hread'
      exact hread'.plain_iff.mp hfields
  · exact absurd (hlayout hsingle.1) hsingle.2

/-- What `parse_address` makes of an address: the fields joined, or only the
    full text. -/
theorem parse_address_cases (address : Str) :
    (('#' ∈ dropYear address → ['#', '#'] <:+: dropYear address) ∧
      (parse_address address).fulladdress
        = Text.joinNonEmpty [' '] (addressFields (parse_address address))) ∨
    ('#' ∈ dropYear address ∧ ¬ ['#', '#'] <:+: dropYear address ∧
      parse_address address = unparsedAddress (dropYear address)) := by
  unfold parse_address
  dsimp only
  cases hrest : (splitAddress (dropYear address)).rest with
  | none =>
    obtain ⟨hmem, hno⟩ := (splitAddress_rest_eq_none_iff _).mp hrest
    exact .inr ⟨hmem, hno, rfl⟩
  | some rest =>
    refine .inl ⟨fun hmem => ?_, rfl⟩
    by_contra hno
    rw [(splitAddress_rest_eq_none_iff _).mpr ⟨hmem, hno⟩] at hrest
    cases hrest

/-- The address the import rebuilds from the exported parts. -/
def rebuiltAddress (address : ParsedAddress) : Str :=
  joinParts ((addressFields address).map fun part => some (readBackText (some part)))

/-- **When an address is rebuilt as it was.** -/
theorem rebuiltAddress_iff (address : Str) :
    rebuiltAddress (parse_address address) = (parse_address address).fulladdress ↔
      AddressSurvives address := by
  rw [rebuiltAddress, joinParts_readBack, addressSurvives_iff]
  rcases parse_address_cases address with ⟨hlayout, hfull⟩ | ⟨hmem, hno, hparse⟩
  · rw [hfull]
    constructor
    · intro heq
      refine ⟨hlayout, fun part hpart hcr => ?_⟩
      have hjoined := cr_not_mem_joinNonEmpty (addressFields (parse_address address))
      rw [heq] at hjoined
      exact hjoined (Text.mem_joinNonEmpty_of_mem [' '] hpart hcr)
    · intro h
      obtain ⟨-, hall⟩ := h
      rw [map_universalNewlines hall]
  · refine iff_of_false ?_ fun h => hno (h.1 hmem)
    rw [hparse]
    have hblank : Text.joinNonEmpty [' '] ((addressFields
        (unparsedAddress (dropYear address))).map Csv.universalNewlines) = [] := rfl
    rw [hblank, unparsedAddress]
    intro heq
    rw [hashToSpace_eq_nil_iff.mp heq.symm] at hmem
    simp at hmem

/-! ### A record from a card -/

/-- The derived texts of a record that comes back are the rebuilt ones. -/
theorem readBack_cardInfo (t : CardTexts) (cid now : Str) :
    (readBack (t.cardInfo cid now)).th_fullname = rebuiltName (parse_name t.th_name) ∧
      (readBack (t.cardInfo cid now)).en_fullname = rebuiltName (parse_name t.en_name) ∧
      (readBack (t.cardInfo cid now)).address = rebuiltAddress (parse_address t.address) :=
  ⟨rfl, rfl, rfl⟩

/-- **When the derived texts survive export and import.** A record read from a
    card and exported in a list whose rows are told apart by their cids comes
    back in its place exactly if the reader refuses no row up to its own, and
    with its three derived texts exactly if, besides, the two names and the
    address on the card come through. -/
theorem derived_texts_survive_iff (g : Gui)
    (hgood : ∀ data ∈ g.card_data_list, data.cid ≠ [] ∧ strip data.cid = data.cid)
    (hnodup : (g.card_data_list.map fun data =>
      strip (Csv.universalNewlines data.cid)).Nodup) (now : Nat → Str)
    (connection : Connection) (req : Apdu) (cid readAt : Str) (ses : Session)
    (data : CardInfo) (hread : (read_card_data connection req cid readAt ses).1 = some data)
    (k : Nat) (hk : g.card_data_list[k]? = some data) :
    ((∃ data', (freshImportFile (export_to_csv g) now).1.card_data_list[k]? = some data') ↔
        RowsFit g k) ∧
      ((∃ data', (freshImportFile (export_to_csv g) now).1.card_data_list[k]? = some data' ∧
          data'.th_fullname = data.th_fullname ∧ data'.en_fullname = data.en_fullname ∧
          data'.address = data.address) ↔
        RowsFit g k ∧ NameSurvives (readTexts connection req ses).1.th_name ∧
          NameSurvives (readTexts connection req ses).1.en_name ∧
          AddressSurvives (readTexts connection req ses).1.address) := by
  rw [read_card_data_eq] at hread
  obtain rfl := Option.some.inj hread
  obtain ⟨hth, hen, haddress⟩ := readBack_cardInfo (readTexts connection req ses).1 cid readAt
  have hkept := and_congr (rebuiltName_iff (readTexts connection req ses).1.th_name)
    (and_congr (rebuiltName_iff (readTexts connection req ses).1.en_name)
      (rebuiltAddress_iff (readTexts connection req ses).1.address))
  rw [freshImportFile_record hgood hnodup, hk, ← hkept]
  by_cases hfit : RowsFit g k
  · rw [if_pos hfit, Option.map_some]
    simp only [Option.some.injEq, exists_eq_left', hth, hen, haddress, hfit, true_and, iff_true]
    exact ⟨⟨_, rfl⟩, Iff.rfl⟩
  · simp [hfit]

/-- A card whose every text is the one given. -/
def textCard (text : List UInt8) : Connection := .ofCard fun _ _ => ⟨text, 0x90, 0x00⟩

/-- The record of such a card. -/
def textRecord (text : List UInt8) : CardInfo :=
  (readTexts (textCard text) [0x00, 0xc0, 0x00, 0x00] []).1.cardInfo ['1'] []

/-- A window that holds this record alone. -/
def textWindow (text : List UInt8) : Gui := { Gui.start with card_data_list := [textRecord text] }

/-- "A#B##C". -/
def layoutText : List UInt8 := [0x41, 0x23, 0x42, 0x23, 0x23, 0x43]

theorem derived_texts_survive_layoutText :
    ∃ data', (freshImportFile (export_to_csv (textWindow layoutText)) fun _ =>
        []).1.card_data_list[0]? = some data' ∧
      data'.th_fullname = "A B C".toList ∧ data'.en_fullname = "A B C".toList ∧
      data'.address = "A B C".toList := by
  obtain ⟨-, hiff⟩ := derived_texts_survive_iff (textWindow layoutText)
    (by decide +kernel) (by decide +kernel) (fun _ => []) (textCard layoutText)
    [0x00, 0xc0, 0x00, 0x00] ['1'] [] [] (textRecord layoutText) rfl 0 rfl
  have hname : NameSurvives "A#B##C".toList :=
    .inr ⟨['A'], ['B'], ['C'], ⟨"A#B".toList, [], by decide +kernel, by decide +kernel⟩,
      by decide +kernel⟩
  have haddress : AddressSurvives "A#B##C".toList :=
    (addressSurvives_iff _).mpr
      ⟨fun _ => ⟨"A#B".toList, ['C'], by decide +kernel⟩, by decide +kernel⟩
  have htexts : (readTexts (textCard layoutText) [0x00, 0xc0, 0x00, 0x00] []).1
      = ⟨"A#B##C".toList, "A#B##C".toList, "A#B##C".toList, "A#B##C".toList, "A#B##C".toList,
        "A#B##C".toList, "A#B##C".toList, "A#B##C".toList⟩ := by decide +kernel
  rw [htexts] at hiff
  obtain ⟨data', hdata', hth, hen, hwhole⟩ :=
    hiff.mpr ⟨by decide +kernel, hname, hname, haddress⟩
  refine ⟨data', hdata', hth.trans ?_, hen.trans ?_, hwhole.trans ?_⟩ <;> decide +kernel

/-- A name and an address "1#2" do not have the layout: the full texts are all
    there is, and they are not exported. -/
theorem derived_texts_lost :
    (read_card_data (textCard [0x31, 0x23, 0x32]) [0x00, 0xc0, 0x00, 0x00] ['1'] [] []).1
        = some (textRecord [0x31, 0x23, 0x32]) ∧
      (textRecord [0x31, 0x23, 0x32]).th_fullname = "1 2".toList ∧
      (textRecord [0x31, 0x23, 0x32]).en_fullname = "1 2".toList ∧
      (textRecord [0x31, 0x23, 0x32]).address = "1 2".toList ∧
      (freshImportFile (export_to_csv (textWindow [0x31, 0x23, 0x32])) fun _ =>
          []).1.card_data_list.map (fun data => (data.th_fullname, data.en_fullname, data.address))
        = [([], [], [])] := by
  refine ⟨rfl, ?_, ?_, ?_, ?_⟩ <;> decide +kernel

end GuiReader

end IdScan
