import IdScan.Proofs.AddressAdmin
import IdScan.Proofs.AddressText
import IdScan.Proofs.NameText

/-! # The order of the text

  Both parsers may lose text, and it is known where. They never make any up, and
  never put what they keep in another order or in two places: what the parts
  hold, one after the other, is a sublist of the text that was on the card.
-/

namespace IdScan

/-- The parts of a name, in their order. -/
def ParsedName.parts (name : ParsedName) : List Str := [name.title, name.firstname, name.lastname]

/-- The parts of an address, in their order. -/
def ParsedAddress.parts (address : ParsedAddress) : List Str :=
  [address.house_no, address.moo_soi, address.subdistrict, address.district, address.province]

/-- Nothing of the text is made up, put elsewhere, or kept twice. -/
def KeepsOrder (parts : List Str) (whole text : Str) : Prop :=
  (parts.flatMap content).Sublist (content text) ∧ (content whole).Sublist (content text)

theorem content_append (s s' : Str) : content (s ++ s') = content s ++ content s' :=
  List.filter_append _ _

theorem content_withoutSpace (s : Str) : content (withoutSpace s) = content s := by
  rw [content, withoutSpace, List.filter_filter]
  apply List.filter_congr
  intro c _
  simp [isText]

/-- Where the text without white space is the content of another, so is its
    content. -/
theorem content_of_withoutSpace {s s' : Str} (h : withoutSpace s = content s') :
    content s = content s' := by
  have htwice : content (content s') = content s' := by
    rw [content, content, List.filter_filter]
    simp only [Bool.and_self]
  rw [← content_withoutSpace, h, htwice]

/-! ### Names -/

/-- The pieces of a name with the layout. -/
theorem layout_keepsOrder {fullname name_part last_part title_part first_part : Str}
    {more : List Str} (hsplit : Text.split ['#', '#'] fullname = [name_part, last_part])
    (hname : Text.split ['#'] name_part = title_part :: first_part :: more) :
    (content title_part ++ content first_part ++ content last_part).Sublist (content fullname) := by
  have hwhole : content fullname = content name_part ++ content last_part := by
    have h := content_split (by simp) (by decide : content ['#', '#'] = []) fullname
    rw [hsplit] at h
    simpa using h.symm
  have hpieces := content_split (by simp) (by decide : content ['#'] = []) name_part
  rw [hname, List.flatMap_cons, List.flatMap_cons, ← List.append_assoc] at hpieces
  rw [hwhole, ← hpieces]
  exact (List.sublist_append_left _ _).append (List.Sublist.refl _)

theorem parse_name_keepsOrder (fullname : Str) :
    KeepsOrder (parse_name fullname).parts (parse_name fullname).fullname fullname := by
  have hunparsed : KeepsOrder (unparsedName fullname).parts (unparsedName fullname).fullname
      fullname := by
    refine ⟨List.nil_sublist _, ?_⟩
    rw [show (unparsedName fullname).fullname = hashToSpace fullname from rfl,
      content_of_withoutSpace (withoutSpace_hashToSpace fullname)]
  unfold parse_name
  split
  · next name_part last_part hsplit =>
    split
    · next title_part first_part more hname =>
      have hpieces := layout_keepsOrder hsplit hname
      have hspace : content [' '] = [] := by decide
      have hfullname : content (strip title_part ++ ' ' :: (strip first_part ++ ' ' :: strip last_part))
          = content title_part ++ content first_part ++ content last_part := by
        rw [← List.singleton_append, ← List.singleton_append (l := strip last_part), content_append,
          content_append, content_append, content_append, hspace]
        simp
      constructor
      · simpa [ParsedName.parts] using hpieces
      · dsimp only
        rw [hfullname]
        exact hpieces
    · exact hunparsed
  · exact hunparsed

/-! ### Addresses -/

/-- The second correction keeps the order, and drops at most the text behind the
    `#` of the house number. -/
theorem heldText_splitHouseNo_sublist (vars : AddressVars) :
    (splitHouseNo vars).heldText.Sublist vars.heldText := by
  unfold splitHouseNo
  cases hcut : Text.cut ['#'] vars.house_no with
  | none => exact List.Sublist.refl _
  | some p =>
    obtain ⟨before, after⟩ := p
    have hhouse := content_of_cut (by decide) hcut
    by_cases hmoo : vars.moo_soi = []
    · -- the text moves on into the next field
      have hsame : (content (strip before) ++ content (strip after)) = content vars.house_no := by
        rw [content_strip, content_strip, hhouse]
      simp only [AddressVars.heldText, hmoo, if_true, hsame, content_nil, List.append_nil]
      exact List.Sublist.refl _
    · have hfront : (content (strip before)).Sublist (content vars.house_no) := by
        rw [content_strip, hhouse]
        exact List.sublist_append_left _ _
      simp only [AddressVars.heldText, if_neg hmoo, List.append_assoc]
      exact hfront.append (List.Sublist.refl _)

/-- What the fields of an address that is read as three texts hold. -/
theorem ReadAs.heldText_sublist {address house moo rest : Str} (h : ReadAs address house moo rest) :
    (splitHouseNo (splitMooSoi (readVars house moo rest))).heldText.Sublist (content address) := by
  have hgap : (readVars house moo rest).subdistrict = [] →
      (readVars house moo rest).district = [] := by
    intro hsub
    have hparts := (subdistrict_readVars_eq_nil_iff house moo rest).mp hsub
    simp [readVars, hparts]
  have hheld : (readVars house moo rest).heldText.Sublist (content address) := by
    rw [h.content_eq, ← heldText_readVars]
    exact List.sublist_append_left _ _
  exact (heldText_splitHouseNo_sublist _).trans (heldText_splitMooSoi hgap ▸ hheld)

theorem content_parts_finishAddress (vars : AddressVars) :
    (finishAddress vars).parts.flatMap content = vars.heldText := by
  have hfield : ∀ field, content (dropHashes field) = content field := fun field =>
    content_of_withoutSpace (withoutSpace_dropHashes field)
  simp [finishAddress, ParsedAddress.parts, AddressVars.heldText, hfield]

theorem content_fulladdress (vars : AddressVars) :
    content (finishAddress vars).fulladdress = vars.heldText := by
  rw [← content_parts_finishAddress]
  exact Text.filter_joinNonEmpty (by decide) _

theorem parse_address_keepsOrder (address : Str) :
    KeepsOrder (parse_address address).parts (parse_address address).fulladdress
      (dropYear address) := by
  rcases readAs_or_onlySingleHashes (dropYear address) with
    ⟨house, moo, rest, hread⟩ | ⟨-, hnone⟩
  · rw [hread.parse_address_eq, KeepsOrder, content_parts_finishAddress, content_fulladdress]
    exact ⟨hread.heldText_sublist, hread.heldText_sublist⟩
  · -- the handler keeps the whole text, and fills no part
    rw [parse_address_of_rest_eq_none hnone]
    refine ⟨List.nil_sublist _, ?_⟩
    rw [show (unparsedAddress (dropYear address)).fulladdress = hashToSpace (dropYear address)
      from rfl, content_of_withoutSpace (withoutSpace_hashToSpace _)]

/-- **The parsers make nothing up and keep the order**, whatever the text on the
    card: neither the parts, one after the other, nor the full texts hold
    anything but a sublist of it. -/
theorem parsed_texts_in_order (name address : Str) :
    KeepsOrder (parse_name name).parts (parse_name name).fullname name ∧
      KeepsOrder (parse_address address).parts (parse_address address).fulladdress address := by
  have hdrop : (content (dropYear address)).Sublist (content address) :=
    (dropYear_suffix address).sublist.filter _
  obtain ⟨hparts, hfull⟩ := parse_address_keepsOrder address
  exact ⟨parse_name_keepsOrder name, hparts.trans hdrop, hfull.trans hdrop⟩

end IdScan
