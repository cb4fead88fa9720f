import IdScan.Proofs.CardSession

/-! # The two readers on one card

  The window and the command-line reader carry separate copies of the commands,
  the decoding and the field formats. On a card that answers every transmit
  they differ in three ways only: which answers to SELECT they accept, that the
  window wants a cid, and how they read a date of eight characters.
-/

namespace IdScan

open GuiReader (PollEnv CardTexts accepted readTexts)

/-! ### The attempts at SELECT -/

/-- The command both programs begin with. -/
def selectCommand : Apdu := GuiReader.SELECT ++ GuiReader.THAI_CARD

/-- The session after `k` answered SELECTs. -/
def selectLog (card : Session → Apdu → Response) : Nat → Session
  | 0 => []
  | k + 1 => selectLog card k ++ [⟨selectCommand, .ok (card (selectLog card k) selectCommand)⟩]

/-- The answer to the SELECT after `k` others. -/
def selectAnswer (card : Session → Apdu → Response) (k : Nat) : Response :=
  card (selectLog card k) selectCommand

/-- Attempt `k` is the first whose answer is accepted. -/
def FirstAccepted (card : Session → Apdu → Response) (k : Nat) : Prop :=
  accepted (selectAnswer card k).sw1 = true ∧ ∀ j < k, accepted (selectAnswer card j).sw1 = false

theorem FirstAccepted.unique {card : Session → Apdu → Response} {k k' : Nat}
    (h : FirstAccepted card k) (h' : FirstAccepted card k') : k = k' := by
  rcases Nat.lt_trichotomy k k' with hlt | heq | hlt
  · have := h'.2 k hlt
    simp [h.1] at this
  · exact heq
  · have := h.2 k' hlt
    simp [h'.1] at this

/-- The SELECT loop stops at the first accepted answer, or ends unaccepted. -/
theorem select_applet_ofCard (card : Session → Apdu → Response) (n k : Nat) (sw1 : UInt8)
    (hsw1 : accepted sw1 = false) (hbefore : ∀ j < k, accepted (selectAnswer card j).sw1 = false) :
    (∃ m, k ≤ m ∧ m < k + n ∧ FirstAccepted card m ∧
      GuiReader.select_applet (.ofCard card) n sw1 (selectLog card k)
        = ((selectAnswer card m).sw1, selectLog card (m + 1))) ∨
    ((∀ m < k + n, ¬ FirstAccepted card m) ∧
      accepted (GuiReader.select_applet (.ofCard card) n sw1 (selectLog card k)).1 = false) := by
  induction n generalizing k sw1 with
  | zero =>
    refine .inr ⟨fun m hm hfirst => ?_, hsw1⟩
    have := hbefore m hm
    simp [hfirst.1] at this
  | succ n ih =>
    have hunfold : GuiReader.select_applet (.ofCard card) (n + 1) sw1 (selectLog card k)
        = if accepted (selectAnswer card k).sw1 = true
          then ((selectAnswer card k).sw1, selectLog card (k + 1))
          else GuiReader.select_applet (.ofCard card) n (selectAnswer card k).sw1
            (selectLog card (k + 1)) := by
      show (if accepted (selectAnswer card k).sw1 = true
        then (pure (selectAnswer card k).sw1 : StateM Session UInt8)
        else GuiReader.select_applet (.ofCard card) n (selectAnswer card k).sw1)
          (selectLog card (k + 1)) = _
      split <;> rfl
    rw [hunfold]
    -- the loop ends with this answer, or goes on behind it
    by_cases hacc : accepted (selectAnswer card k).sw1 = true
    · rw [if_pos hacc]
      exact .inl ⟨k, le_rfl, by omega, ⟨hacc, hbefore⟩, rfl⟩
    · rw [if_neg hacc]
      rw [Bool.not_eq_true] at hacc
      have hbefore' : ∀ j < k + 1, accepted (selectAnswer card j).sw1 = false := by
        intro j hj
        rcases Nat.lt_succ_iff_lt_or_eq.mp hj with hlt | rfl
        · exact hbefore j hlt
        · exact hacc
      rcases ih (k + 1) _ hacc hbefore' with ⟨m, hkm, hm, hfirst, heq⟩ | ⟨hnone, hend⟩
      · exact .inl ⟨m, by omega, by omega, hfirst, heq⟩
      · exact .inr ⟨fun m hm => hnone m (by omega), hend⟩

/-! ### A round of the window -/

/-- What is read after the SELECT: the cid, and the texts of the fields. -/
def readAfter (connection : Connection) (req : Apdu) (ses : Session) : Str × CardTexts :=
  let data := connection.getData GuiReader.CMD_CID req ses
  (stripDecoded data.1.data, (readTexts connection req data.2).1)

/-- **The record a round posts** on a card that answers everything. -/
theorem mem_round_ofCard {card : Session → Apdu → Response} {atr : List UInt8} {req : Apdu}
    (hreq : GuiReader.requestCode atr = some req) {now : Str} {card_info : CardInfo} :
    .add_card_to_table card_info ∈
        (GuiReader.monitor_card_round (.connected atr (.ofCard card)) now ⟨none, []⟩).pending ↔
      ∃ k < GuiReader.max_retries, FirstAccepted card k ∧
        (readAfter (.ofCard card) req (selectLog card (k + 1))).1 ≠ [] ∧
        card_info = (readAfter (.ofCard card) req (selectLog card (k + 1))).2.cardInfo
          (readAfter (.ofCard card) req (selectLog card (k + 1))).1 now := by
  rw [GuiReader.mem_monitor_card_round]
  -- the loop starts from `sw1 = 0x00`, which is not accepted
  rcases select_applet_ofCard card GuiReader.max_retries 0 0x00 (by decide) (by simp) with
    ⟨m, -, hm, hfirst, heq⟩ | ⟨hnone, hend⟩
  · have hpoll : GuiReader.pollCard (.connected atr (.ofCard card)) = .card
        { connection := .ofCard card, req,
          cid := (readAfter (.ofCard card) req (selectLog card (m + 1))).1,
          session := ((Connection.ofCard card).getData GuiReader.CMD_CID req
            (selectLog card (m + 1))).2 } := by
      simp only [GuiReader.pollCard, hreq, show ([] : Session) = selectLog card 0 from rfl, heq,
        hfirst.1, if_true]
      rfl
    constructor
    · intro h
      obtain ⟨read, hread, hne, -, rfl⟩ := h
      cases hpoll.symm.trans hread
      exact ⟨m, by omega, hfirst, hne, rfl⟩
    · intro h
      obtain ⟨k, -, hfirst', hne, rfl⟩ := h
      obtain rfl := hfirst.unique hfirst'
      exact ⟨_, hpoll, hne, by simp, rfl⟩
  · have hpoll : GuiReader.pollCard (.connected atr (.ofCard card)) = .nothing := by
      simp only [GuiReader.pollCard, hreq, show ([] : Session) = selectLog card 0 from rfl, hend]
      rfl
    constructor
    · intro h
      obtain ⟨read, hread, -⟩ := h
      cases hpoll.symm.trans hread
    · intro h
      obtain ⟨k, hk, hfirst, -⟩ := h
      exact absurd hfirst (hnone k (by omega))

/-! ### The command-line reader -/

/-- A host whose saving of photos succeeds. -/
def savingHost (now : Str) : ReadImproved.Host := ⟨now, fun _ _ => .ok ()⟩

/-- **The record the command-line reader returns** on a card that answers
    everything, up to the path of its photo. -/
theorem read_thai_id_card_ofCard {card : Session → Apdu → Response} {atr : List UInt8} {req : Apdu}
    (hreq : GuiReader.requestCode atr = some req) {now : Str} {save_photo : Bool}
    {output_dir : Str} {card_data : ReadImproved.CardData} :
    ((ReadImproved.read_thai_id_card (savingHost now) (.ofCard card) atr save_photo
        output_dir).run []).1 = .ok (some card_data) ↔
      (selectAnswer card 0).sw1 = 0x90 ∧ (selectAnswer card 0).sw2 = 0x00 ∧
        ∃ photo_path, card_data =
          { ReadImproved.cardData (readAfter (.ofCard card) req (selectLog card 1)).2
              (readAfter (.ofCard card) req (selectLog card 1)).1 now with photo_path } ∧
          photo_path = if save_photo then some (output_dir ++ '/' ::
            ((readAfter (.ofCard card) req (selectLog card 1)).1 ++ ".jpg".toList)) else none := by
  have hreq' : ReadImproved.requestCode atr = some req := hreq
  have hselect : (Connection.ofCard card).respond [] (ReadImproved.SELECT ++ ReadImproved.THAI_CARD)
      = .ok (selectAnswer card 0) := rfl
  rw [ReadImproved.read_thai_id_card_run, hreq']
  simp only [hselect]
  by_cases hok : (selectAnswer card 0).sw1 = 0x90 ∧ (selectAnswer card 0).sw2 = 0x00
  · rw [if_neg (by simp [hok.1, hok.2])]
    simp only [hok.1, hok.2, true_and]
    cases save_photo with
    | false =>
      constructor
      · intro h
        exact ⟨none, (Option.some.inj (Except.ok.inj h)).symm, rfl⟩
      · intro h
        obtain ⟨path, rfl, rfl⟩ := h
        rfl
    | true =>
      constructor
      · intro h
        exact ⟨_, (Option.some.inj (Except.ok.inj h)).symm, rfl⟩
      · intro h
        obtain ⟨path, rfl, rfl⟩ := h
        rfl
  · rw [if_pos (by tauto)]
    constructor
    · intro h
      cases h
    · intro h
      obtain ⟨h1, h2, -⟩ := h
      exact absurd ⟨h1, h2⟩ hok

/-! ### Agreement -/

/-- The command-line reader returns this record for the card. -/
def CliReturns (card : Session → Apdu → Response) (atr : List UInt8) (now : Str)
    (save_photo : Bool) (output_dir : Str) (card_data : ReadImproved.CardData) : Prop :=
  ((ReadImproved.read_thai_id_card (savingHost now) (.ofCard card) atr save_photo
    output_dir).run []).1 = .ok (some card_data)

/-- A round of the monitor with no card marked posts this record for the card. -/
def PollPosts (card : Session → Apdu → Response) (atr : List UInt8) (now : Str)
    (card_info : CardInfo) : Prop :=
  .add_card_to_table card_info ∈
    (GuiReader.monitor_card_round (.connected atr (.ofCard card)) now ⟨none, []⟩).pending

/-- The two formats of a date agree but on eight characters. -/
theorem format_date_agree {text : Str} (h : text.length ≠ 8) :
    GuiReader.format_date text = ReadImproved.format_date text := by
  rw [GuiReader.format_date, ReadImproved.format_date, if_neg h, if_neg h]

/-- An answer 90 00 is accepted by both. -/
theorem firstAccepted_zero {card : Session → Apdu → Response}
    (h : (selectAnswer card 0).sw1 = 0x90) : FirstAccepted card 0 :=
  ⟨by simp [accepted, h], by simp⟩

/-- **The two readers on one card.** Which cards each of them takes, and, where
    the command-line reader takes one, that the window takes it as soon as it
    has a cid, with the same cid, gender and issuer, and the same dates where
    the text on the card has not eight characters. -/
theorem readers_agree (card : Session → Apdu → Response) (a0 a1 : UInt8) (rest : List UInt8)
    (now cliNow : Str) (save_photo : Bool) (output_dir : Str) :
    ∃ req, GuiReader.requestCode (a0 :: a1 :: rest) = some req ∧
      ((∃ card_data, CliReturns card (a0 :: a1 :: rest) cliNow save_photo output_dir card_data) ↔
        (selectAnswer card 0).sw1 = 0x90 ∧ (selectAnswer card 0).sw2 = 0x00) ∧
      ((∃ card_info, PollPosts card (a0 :: a1 :: rest) now card_info) ↔
        ∃ k < GuiReader.max_retries, FirstAccepted card k ∧
          (readAfter (.ofCard card) req (selectLog card (k + 1))).1 ≠ []) ∧
      ∀ card_data, CliReturns card (a0 :: a1 :: rest) cliNow save_photo output_dir card_data →
        ((∃ card_info, PollPosts card (a0 :: a1 :: rest) now card_info) ↔ card_data.cid ≠ []) ∧
        ∀ card_info, PollPosts card (a0 :: a1 :: rest) now card_info →
          card_info.cid = card_data.cid ∧
          card_info.gender = some card_data.gender ∧
          card_info.issuer = some card_data.issuer ∧
          ((readAfter (.ofCard card) req (selectLog card 1)).2.birth.length ≠ 8 →
            card_info.birth_date = some card_data.birth_date) ∧
          ((readAfter (.ofCard card) req (selectLog card 1)).2.issue.length ≠ 8 →
            card_info.issue_date = some card_data.issue_date) ∧
          ((readAfter (.ofCard card) req (selectLog card 1)).2.expire.length ≠ 8 →
            card_info.expire_date = some card_data.expire_date) := by
  obtain ⟨req, hreq⟩ : ∃ req, GuiReader.requestCode (a0 :: a1 :: rest) = some req := by
    unfold GuiReader.requestCode
    dsimp only
    split
    · split <;> exact ⟨_, rfl⟩
    · exact ⟨_, rfl⟩
  have hposts : ∀ card_info, PollPosts card (a0 :: a1 :: rest) now card_info ↔ _ :=
    fun _ => mem_round_ofCard hreq
  have hreturns : ∀ card_data,
      CliReturns card (a0 :: a1 :: rest) cliNow save_photo output_dir card_data ↔ _ :=
    fun _ => read_thai_id_card_ofCard hreq
  refine ⟨req, hreq, ?_, ?_, ?_⟩
  · constructor
    · intro h
      obtain ⟨card_data, hdata⟩ := h
      obtain ⟨h1, h2, -⟩ := (hreturns card_data).mp hdata
      exact ⟨h1, h2⟩
    · intro h
      obtain ⟨h1, h2⟩ := h
      exact ⟨_, (hreturns _).mpr ⟨h1, h2, _, rfl, rfl⟩⟩
  · constructor
    · intro h
      obtain ⟨card_info, hinfo⟩ := h
      obtain ⟨k, hk, hfirst, hne, -⟩ := (hposts card_info).mp hinfo
      exact ⟨k, hk, hfirst, hne⟩
    · intro h
      obtain ⟨k, hk, hfirst, hne⟩ := h
      exact ⟨_, (hposts _).mpr ⟨k, hk, hfirst, hne, rfl⟩⟩
  · intro card_data hdata
    obtain ⟨h1, -, path, rfl, -⟩ := (hreturns card_data).mp hdata
    -- the window stops at the same SELECT, so both sessions go on alike
    have hzero := firstAccepted_zero h1
    refine ⟨⟨?_, ?_⟩, ?_⟩
    · intro h
      obtain ⟨card_info, hinfo⟩ := h
      obtain ⟨k, -, hfirst, hne, -⟩ := (hposts card_info).mp hinfo
      obtain rfl := hfirst.unique hzero
      exact hne
    · intro hne
      exact ⟨_, (hposts _).mpr ⟨0, by decide, hzero, hne, rfl⟩⟩
    · intro card_info hinfo
      obtain ⟨k, -, hfirst, -, rfl⟩ := (hposts card_info).mp hinfo
      obtain rfl := hfirst.unique hzero
      exact ⟨rfl, rfl, rfl, fun h => congrArg some (format_date_agree h),
        fun h => congrArg some (format_date_agree h), fun h => congrArg some (format_date_agree h)⟩

/-- A card that answers the SELECT by 61 08 and everything else by 90 00. -/
def moreDataCard : Session → Apdu → Response := fun _ cmd =>
  if cmd = selectCommand then ⟨[], 0x61, 0x08⟩ else ⟨[0x31], 0x90, 0x00⟩

/-- A card without a cid. -/
def blankCard : Session → Apdu → Response := fun _ _ => ⟨[], 0x90, 0x00⟩

/-- A card whose every text is "19901225". -/
def datedCard : Session → Apdu → Response := fun _ _ =>
  ⟨[0x31, 0x39, 0x39, 0x30, 0x31, 0x32, 0x32, 0x35], 0x90, 0x00⟩

/-- One card for the window alone, one for the command line alone, and one with
    two birthdays. -/
theorem readers_disagree :
    ((∃ card_info, PollPosts moreDataCard [0x3B, 0x68] [] card_info) ∧
      ∀ card_data, ¬ CliReturns moreDataCard [0x3B, 0x68] [] false [] card_data) ∧
    ((∃ card_data, CliReturns blankCard [0x3B, 0x68] [] false [] card_data) ∧
      ∀ card_info, ¬ PollPosts blankCard [0x3B, 0x68] [] card_info) ∧
    ∃ card_info card_data, PollPosts datedCard [0x3B, 0x68] [] card_info ∧
      CliReturns datedCard [0x3B, 0x68] [] false [] card_data ∧
      card_info.birth_date = some "25/12/1990".toList ∧
      card_data.birth_date = "19/90/1225".toList := by
  refine ⟨⟨?_, ?_⟩, ⟨⟨_, rfl⟩, ?_⟩, ?_⟩
  · exact ⟨_, GuiReader.mem_monitor_card_round.mpr ⟨_, rfl, by decide +kernel, by simp, rfl⟩⟩
  · intro card_data h
    cases h
  · intro card_info h
    obtain ⟨read, hfound, hne, -⟩ := GuiReader.mem_monitor_card_round.mp h
    cases hfound
    exact hne (by decide +kernel)
  · refine ⟨_, _, GuiReader.mem_monitor_card_round.mpr ⟨_, rfl, by decide +kernel, by simp, rfl⟩,
      rfl, ?_, ?_⟩
    · decide +kernel
    · decide +kernel

end IdScan
