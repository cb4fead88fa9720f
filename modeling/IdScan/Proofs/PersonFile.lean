import IdScan.Proofs.CardImage
import IdScan.Proofs.DerivedTexts
import IdScan.Proofs.Stations

/-! # People in a file

  From the card into the window, from the window into a file, and from the file
  into another window: the people who arrive there are those on the cards, but
  for a name without a title or without a last name. When the card is read its
  spaces stand between empty parts too, and when the file is read they do not.
-/

namespace IdScan

/-- A name none of whose parts is empty. -/
def PersonName.Full (name : PersonName) : Prop := name.title ≠ [] ∧ name.lastname ≠ []

namespace GuiReader

/-! ### One person -/

/-- The full name is rebuilt from its three parts exactly if none is empty. -/
theorem rebuiltName_eq_iff (name : PersonName)
    (hcr : ∀ part ∈ [name.title, name.firstname, name.lastname], '\r' ∉ part) :
    rebuiltName (parse_name name.text) = name.fullname ↔ name.Full := by
  rw [name.parse_text, rebuiltName, joinParts_readBack]
  dsimp only
  rw [map_universalNewlines hcr, PersonName.fullname, joinNonEmpty_three, PersonName.Full]
  simp [name.firstname_ne]

/-- The address always is. -/
theorem rebuiltAddress_eq (a : PersonAddress)
    (hcr : ∀ part ∈ addressFields (parse_address a.text), '\r' ∉ part) :
    rebuiltAddress (parse_address a.text) = (parse_address a.text).fulladdress := by
  rw [rebuiltAddress, joinParts_readBack, map_universalNewlines hcr, a.parse_text]
  rfl

/-- A file keeps the record of this person. -/
def Carried (p : Person) (now : Str) : Prop :=
  (∀ v ∈ values (p.cardInfo now), Keepable v) ∧ p.th.Full ∧ p.en.Full

/-- A record comes back as it was if its values and its three derived texts do. -/
theorem readBack_eq_self_iff (data : CardInfo) :
    readBack data = data ↔ values (readBack data) = values data ∧
      (readBack data).th_fullname = data.th_fullname ∧
      (readBack data).en_fullname = data.en_fullname ∧ (readBack data).address = data.address := by
  constructor
  · intro h
    rw [h]
    exact ⟨rfl, rfl, rfl, rfl⟩
  · intro h
    obtain ⟨hvalues, hth, hen, haddress⟩ := h
    generalize readBack data = data' at hvalues hth hen haddress
    cases data
    cases data'
    simp only [values, List.cons.injEq, Option.some.injEq, and_true] at hvalues
    dsimp only at hth hen haddress
    simp only [hvalues, hth, hen, haddress]

/-- **When a person comes back.** -/
theorem readBack_cardInfo_iff (p : Person) (now : Str) :
    readBack (p.cardInfo now) = p.cardInfo now ↔ Carried p now := by
  have hgood : GoodCid (p.cardInfo now).cid := ⟨p.cid_ne, p.trimmed.1⟩
  have hvalues : values (readBack (p.cardInfo now)) = values (p.cardInfo now) ↔
      ∀ v ∈ values (p.cardInfo now), Keepable v := by
    constructor
    · intro h
      rw [← h]
      exact keepable_readBack_values _
    · exact values_readBack hgood
  rw [readBack_eq_self_iff, hvalues]
  apply and_congr_right
  intro hkeep
  have hcr : ∀ part, some part ∈ values (p.cardInfo now) → '\r' ∉ part := by
    intro part hpart
    obtain ⟨text, htext, hcr⟩ := hkeep _ hpart
    rwa [Option.some.inj htext]
  obtain ⟨hth, hen, haddress⟩ := readBack_cardInfo p.cardTexts p.cid now
  rw [p.cardInfo_cardTexts] at hth hen haddress
  rw [hth, hen, haddress]
  have hthCr : ∀ part ∈ [p.th.title, p.th.firstname, p.th.lastname], '\r' ∉ part := by
    simp only [List.forall_mem_cons, List.not_mem_nil, false_implies, implies_true, and_true]
    exact ⟨hcr _ (by simp [values, Person.cardInfo]), hcr _ (by simp [values, Person.cardInfo]),
      hcr _ (by simp [values, Person.cardInfo])⟩
  have henCr : ∀ part ∈ [p.en.title, p.en.firstname, p.en.lastname], '\r' ∉ part := by
    simp only [List.forall_mem_cons, List.not_mem_nil, false_implies, implies_true, and_true]
    exact ⟨hcr _ (by simp [values, Person.cardInfo]), hcr _ (by simp [values, Person.cardInfo]),
      hcr _ (by simp [values, Person.cardInfo])⟩
  have haddressCr : ∀ part ∈ addressFields (parse_address p.address.text), '\r' ∉ part := by
    rw [p.address.parse_text]
    intro part hpart
    apply hcr
    simp only [addressFields, layoutAddress, List.mem_cons, List.not_mem_nil, or_false] at hpart
    rcases hpart with rfl | rfl | rfl | rfl | rfl <;> simp [values, Person.cardInfo]
  have hfull : (parse_address p.address.text).fulladdress = (p.cardInfo now).address := by
    rw [p.address.parse_text]
    rfl
  have haddressEq : rebuiltAddress (parse_address p.cardTexts.address) = (p.cardInfo now).address :=
    (rebuiltAddress_eq p.address haddressCr).trans hfull
  rw [and_iff_left haddressEq]
  exact and_congr (rebuiltName_eq_iff p.th hthCr) (rebuiltName_eq_iff p.en henCr)

/-! ### A list of people -/

/-- **When the people on the cards arrive**: the list of a fresh window that
    imports their file is the list that was exported exactly if every record
    holds no carriage return and every name has a title and a last name. -/
theorem people_carried_iff (g : Gui) (file : List Char) (hfile : exportedFile g = some file)
    (hfit : CellsFit g) (people : List (Person × Str))
    (hlist : g.card_data_list = people.map fun q => q.1.cardInfo q.2)
    (hcids : (people.map fun q => q.1.cid).Nodup) (now : Nat → Str) :
    (freshImportFile file now).1.card_data_list = g.card_data_list ↔
      ∀ q ∈ people, Carried q.1 q.2 := by
  obtain ⟨-, rfl⟩ := exportedFile_eq_some_iff.mp hfile
  rw [freshImportFile_export hfit]
  have hgood : ∀ data ∈ g.card_data_list, GoodCid data.cid := by
    intro data hdata
    rw [hlist] at hdata
    obtain ⟨q, -, rfl⟩ := List.mem_map.mp hdata
    exact ⟨q.1.cid_ne, q.1.trimmed.1⟩
  by_cases hcr : ∀ data ∈ g.card_data_list, '\r' ∉ data.cid
  · have hcid : ∀ data ∈ g.card_data_list, (readBack data).cid = data.cid := fun data hdata =>
      readBack_cid (hgood data hdata) (hcr data hdata)
    have hnodup : (g.card_data_list.map fun data => (readBack data).cid).Nodup := by
      rw [List.map_congr_left hcid, hlist, List.map_map]
      exact hcids
    rw [(freshImport_records hgood hnodup now).1]
    constructor
    · intro hsame q hq
      rw [← readBack_cardInfo_iff]
      apply List.map_inj_left.mp (hsame.trans (List.map_id _).symm)
      rw [hlist]
      exact List.mem_map_of_mem hq
    · intro hall
      have hself : ∀ data ∈ g.card_data_list, readBack data = data := by
        intro data hdata
        rw [hlist] at hdata
        obtain ⟨q, hq, rfl⟩ := List.mem_map.mp hdata
        exact (readBack_cardInfo_iff q.1 q.2).mpr (hall q hq)
      rw [List.map_congr_left hself, List.map_id']
  · -- what a file gives holds no carriage return, in the cids as elsewhere
    simp only [not_forall, not_not] at hcr
    obtain ⟨data, hdata, hmem⟩ := hcr
    constructor
    · intro hsame
      have hplain := plainCells_freshImport hgood (List.ne_nil_of_mem hdata) now
      exact absurd hmem
        (hplain.2 data (by rw [hsame]; exact hdata) (some data.cid) (by simp [values]))
    · intro hall
      rw [hlist] at hdata
      obtain ⟨q, hq, rfl⟩ := List.mem_map.mp hdata
      obtain ⟨text, htext, hcr⟩ := (hall q hq).1 (some q.1.cid) (by simp [values, Person.cardInfo])
      obtain rfl := Option.some.inj htext
      exact absurd hmem hcr

instance (p : Person) (now : Str) : Decidable (Carried p now) :=
  inferInstanceAs (Decidable (_ ∧ (_ ≠ _ ∧ _ ≠ _) ∧ _ ≠ _ ∧ _ ≠ _))

/-- A person with all three parts of both names. -/
theorem people_carried_somchai :
    ∃ file, exportedFile { Gui.start with card_data_list := [somchai.cardInfo []] } = some file ∧
      (freshImportFile file fun _ => []).1.card_data_list = [somchai.cardInfo []] := by
  have hfile : exportedFile { Gui.start with card_data_list := [somchai.cardInfo []] } = some _ :=
    exportedFile_eq_some_iff.mpr ⟨List.cons_ne_nil _ _, rfl⟩
  exact ⟨_, hfile, (people_carried_iff _ _ hfile (by decide +kernel) [(somchai, [])] rfl
    (by simp) fun _ => []).mpr (by decide +kernel)⟩

end GuiReader

end IdScan
