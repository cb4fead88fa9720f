import IdScan.Proofs.App
import IdScan.Proofs.CardSession
import IdScan.Proofs.Marking

/-! # What the status line says

  The labels are written by callbacks that the event loop runs later. They are
  timers of the same delay, which run in the order in which they were set; so a
  label comes to show what was posted last.

  Two facts, over every interleaving in which the timers keep that order:

  * the card label asks for a card only where no card is marked, and never stays
    at "reading" (`card_label_right`, `card_label_iff`);
  * the reader label shows a reader exactly where there is one, if the two
    threads are never in `find_reader` at the same time
    (`reader_label_right`).
-/

namespace IdScan

namespace GuiReader

open LTS

/-! ### Timers in order -/

/-- A callback that is run is the first one in its queue. -/
def AppAct.inOrder : AppAct → Bool
  | .window (.deliver i _) => i == 0
  | .deliverColour i => i == 0
  | _ => true

/-- The steps that run the posted callbacks in the order of their posting. -/
abbrev InOrder (_ : App) (a : AppAct) (_ : App) : Prop := a.inOrder = true

/-- The label a callback writes. -/
def Callback.label? : Callback → Option Label
  | .card_status status => some status.label
  | .add_card_to_table _ => none

/-- What the card label comes to show once these callbacks have run. -/
def settled (pending : List Callback) (shown : Label) : Label :=
  (pending.filterMap Callback.label?).getLastD shown

theorem settled_post_status (pending : List Callback) (status : CardStatus) (shown : Label) :
    settled (pending ++ [.card_status status]) shown = status.label := by
  unfold settled
  rw [List.filterMap_append]
  show (_ ++ [status.label]).getLastD shown = _
  rw [List.getLastD_concat]

theorem settled_post_card (pending : List Callback) (card_info : CardInfo) (shown : Label) :
    settled (pending ++ [.add_card_to_table card_info]) shown = settled pending shown := by
  unfold settled
  rw [List.filterMap_append]
  show (_ ++ []).getLastD shown = _
  rw [List.append_nil]

theorem settled_status_cons (status : CardStatus) (pending : List Callback) (shown : Label) :
    settled (.card_status status :: pending) shown = settled pending status.label := by
  show List.getLastD (status.label :: pending.filterMap Callback.label?) shown = _
  rw [List.getLastD_cons]
  rfl

/-- What the card label comes to show. -/
def App.cardLabel (s : App) : Label := settled s.sys.pending s.card_status

/-- The label asks for a card. -/
def Label.AsksForCard (label : Label) : Prop :=
  label = cardLabelStart ∨ label = CardStatus.removed.label

/-- The labels that ask for a card are the gray ones. -/
theorem Label.AsksForCard.gray {label : Label} (h : label.AsksForCard) :
    label.foreground = .gray := by
  rcases h with rfl | rfl <;> rfl

theorem not_asksForCard {status : CardStatus} (h : status ≠ .removed) :
    ¬ status.label.AsksForCard := by
  intro hasks
  have hgray := hasks.gray
  cases status with
  | removed => exact h rfl
  | reading => cases hgray
  | readDone => cases hgray
  | sameCard => cases hgray

/-- The label "reading" is the orange one of the card. -/
theorem label_ne_reading {status : CardStatus} (h : status ≠ .reading) :
    status.label ≠ CardStatus.reading.label := by
  intro heq
  have horange : status.label.foreground = .orange := by rw [heq]; rfl
  cases status with
  | reading => exact h rfl
  | readDone => cases horange
  | sameCard => cases horange
  | removed => cases horange

/-! ### The card label -/

theorem shown_of_ne_deliver {s : App} {a : Act} (h : ∀ i insertOk, a ≠ .deliver i insertOk) :
    s.shown a = s.card_status := by
  cases a with
  | deliver i insertOk => exact absurd rfl (h i insertOk)
  | _ => rfl

/-- The main thread leaves alone what the card label comes to show. -/
theorem cardLabel_window {s : App} {a : Act} {sys : Sys} (hmain : a.ofMonitor = false)
    (hstep : program.step s.sys a sys) (horder : ∀ i insertOk, a = .deliver i insertOk → i = 0) :
    settled sys.pending (s.shown a) = s.cardLabel := by
  -- a callback that is run is the first one
  have hfirst : ∀ i callback, i = 0 → s.sys.pending[i]? = some callback →
      s.sys.pending = callback :: s.sys.pending.eraseIdx i := by
    rintro i callback rfl hi
    cases hpending : s.sys.pending with
    | nil => simp [hpending] at hi
    | cons head rest =>
      simp only [hpending, List.getElem?_cons_zero, Option.some.injEq] at hi
      rw [hi, List.eraseIdx_cons_zero]
  have hcard : ∀ i insertOk card_info, a = .deliver i insertOk →
      s.sys.pending[i]? = some (.add_card_to_table card_info) →
      settled (s.sys.pending.eraseIdx i) (s.shown a) = s.cardLabel := by
    rintro i insertOk card_info rfl hi
    have hshown : s.shown (.deliver i insertOk) = s.card_status := by simp [App.shown, hi]
    have hqueue := hfirst i _ (horder i insertOk rfl) hi
    rw [hshown, App.cardLabel]
    nth_rewrite 2 [hqueue]
    rfl
  cases effect_of_step hstep with
  | poll _ _ => simp [Act.ofMonitor] at hmain
  | monitor _ => simp [Act.ofMonitor] at hmain
  | status i insertOk status _ hi =>
    have hshown : s.shown (.deliver i insertOk) = status.label := by simp [App.shown, hi]
    have hqueue := hfirst i _ (horder i insertOk rfl) hi
    rw [hshown, App.cardLabel]
    nth_rewrite 2 [hqueue]
    rw [settled_status_cons]
  | duplicate i insertOk card_info _ hi _ => exact hcard i insertOk card_info rfl hi
  | added i insertOk card_info _ hi _ => exact hcard i insertOk card_info rfl hi
  | quiet _ _ _ _ _ hact _ =>
    rw [shown_of_ne_deliver hact]
    rfl
  | importRow _ _ _ _ _ _ _ _ hmain => rw [shown_of_ne_deliver (by simp)]; rfl
  | importEnd _ _ _ _ _ _ _ => rw [shown_of_ne_deliver (by simp)]; rfl
  | clear _ _ _ => rw [shown_of_ne_deliver (by simp)]; rfl

/-- The main thread writes the mark only to drop it, in a clearing. -/
theorem current_cid_window {s s' : Sys} {a : Act} (hmain : a.ofMonitor = false)
    (hstep : program.step s a s') :
    s'.gui.current_cid = s.gui.current_cid ∨ s'.gui.current_cid = none ∧ a = .clearNext := by
  cases effect_of_step hstep with
  | poll _ _ => simp [Act.ofMonitor] at hmain
  | monitor _ => simp [Act.ofMonitor] at hmain
  | status _ _ _ _ _ => exact .inl rfl
  | duplicate _ _ _ _ _ _ => exact .inl rfl
  | added _ insertOk card_info _ _ _ => exact .inl (add_new_card_current_cid _ card_info insertOk)
  | quiet _ _ _ _ _ _ _ => exact .inl rfl
  | importRow env counts first_row names cells rows ending below hmain =>
    refine .inl ?_
    rcases importRow_gui ⟨s.gui, counts, first_row⟩ ⟨names, cells⟩ env with ⟨hsame, -⟩ | ⟨_, -, -, happ⟩
    · simp [hsame]
    · simp [happ]
  | importEnd _ counts first_row _ ending _ _ =>
    exact .inl (finishImport_current_cid ⟨s.gui, counts, first_row⟩ ending)
  | clear at_ _ _ =>
    cases at_ with
    | resetCid => exact .inr ⟨rfl, rfl⟩
    | _ => exact .inl rfl

/-- The monitor has announced a card and is not done with it. -/
def Monitor.readsFields : Monitor → Bool
  | .readFields _ => true
  | .post _ => true
  | .announceDone => true
  | _ => false

/-- Before the announcement of a card that is marked already. -/
def Monitor.isAnnouncing : Monitor → Bool
  | .announce _ => true
  | _ => false

/-- The invariant of the card label, of what it comes to show, where the monitor
    is, and the mark. The mark is set one statement before the label follows, and
    dropped one statement before. -/
structure CardLabelOk (label : Label) (monitor : Monitor) (current_cid : Option Str) : Prop where
  asks : label.AsksForCard → monitor.isAnnouncing = false → current_cid = none
  removed : monitor = .announceRemoved → current_cid = none
  reading : label = CardStatus.reading.label → monitor.readsFields = true
  post : monitor ≠ .post none

/-- One statement of the card part keeps the invariant. -/
theorem cardLabelOk_next {sh : Shared} {monitor : Monitor} {shown : Label} (now : Str)
    (h : CardLabelOk (settled sh.pending shown) monitor sh.current_cid) :
    CardLabelOk (settled (monitor.next now sh).2.pending shown) (monitor.next now sh).1
      (monitor.next now sh).2.current_cid := by
  -- where nothing is announced and the label is as it was
  have hstay : ∀ monitor' : Monitor, monitor.isAnnouncing = false → monitor.readsFields = false →
      monitor' ≠ .announceRemoved → monitor' ≠ .post none →
      CardLabelOk (settled sh.pending shown) monitor' sh.current_cid := by
    intro monitor' hquiet hnot hremoved hpost
    refine ⟨fun hasks _ => h.asks hasks hquiet, fun heq => absurd heq hremoved, ?_, hpost⟩
    intro hlabel
    rw [h.reading hlabel] at hnot
    cases hnot
  -- where the status just posted neither asks for a card nor says "reading"
  have hposted : ∀ status : CardStatus, status ≠ .removed → status ≠ .reading →
      CardLabelOk (settled (sh.post (.card_status status)).pending shown) .idle sh.current_cid := by
    intro status hremoved hreading
    rw [Shared.post, settled_post_status]
    exact ⟨fun hasks => absurd hasks (not_asksForCard hremoved), by simp,
      fun heq => absurd heq (label_ne_reading hreading), by simp⟩
  cases monitor with
  | idle => exact hstay .idle rfl rfl (by simp) (by simp)
  | compare read =>
    simp only [Monitor.next]
    split
    · exact hstay _ rfl rfl (by simp) (by simp)
    · split
      · exact hstay _ rfl rfl (by simp) (by simp)
      · exact hstay _ rfl rfl (by simp) (by simp)
  | mark read =>
    refine ⟨by simp [Monitor.next, Monitor.isAnnouncing], by simp [Monitor.next], ?_, by simp [Monitor.next]⟩
    intro hlabel
    exact absurd (h.reading hlabel) (by simp [Monitor.readsFields])
  | announce read =>
    show CardLabelOk (settled (sh.post (.card_status .reading)).pending shown) (.readFields read)
      sh.current_cid
    rw [Shared.post, settled_post_status]
    exact ⟨fun hasks => absurd hasks (not_asksForCard (by simp)), by simp, fun _ => rfl, by simp⟩
  | readFields read =>
    refine ⟨fun hasks _ => h.asks hasks rfl, by simp [Monitor.next], fun _ => rfl, ?_⟩
    show Monitor.post (read_card_data read.connection read.req read.cid now read.session).1 ≠ _
    rw [read_card_data_eq]
    simp
  | post card_info =>
    cases card_info with
    | none => exact absurd rfl h.post
    | some card_info =>
      show CardLabelOk (settled (sh.post (.add_card_to_table card_info)).pending shown)
        .announceDone sh.current_cid
      rw [Shared.post, settled_post_card]
      exact ⟨fun hasks _ => h.asks hasks rfl, by simp, fun _ => rfl, by simp⟩
  | announceDone => exact hposted .readDone (by simp) (by simp)
  | announceSame => exact hposted .sameCard (by simp) (by simp)
  | noCard =>
    simp only [Monitor.next]
    split
    · exact hstay _ rfl rfl (by simp) (by simp)
    · exact hstay _ rfl rfl (by simp) (by simp)
  | reset =>
    refine ⟨fun _ _ => rfl, fun _ => rfl, ?_, by simp [Monitor.next]⟩
    intro hlabel
    exact absurd (h.reading hlabel) (by simp [Monitor.readsFields])
  | announceRemoved =>
    show CardLabelOk (settled (sh.post (.card_status .removed)).pending shown) .idle sh.current_cid
    rw [Shared.post, settled_post_status]
    exact ⟨fun _ _ => h.removed rfl, by simp, fun heq => absurd heq (label_ne_reading (by simp)),
      by simp⟩

/-- A round begins with the label as it is. -/
theorem cardLabelOk_begin {label : Label} {current_cid : Option Str}
    (h : CardLabelOk label .idle current_cid) (found : PollFound) :
    CardLabelOk label (.begin found) current_cid := by
  have hnot : label ≠ CardStatus.reading.label := by
    intro hlabel
    have hbusy := h.reading hlabel
    cases hbusy
  have hquiet : (Monitor.begin found).isAnnouncing = false := by cases found <;> rfl
  refine ⟨fun hasks _ => h.asks hasks rfl, ?_, fun hlabel => absurd hlabel hnot, ?_⟩
  · cases found <;> simp [Monitor.begin]
  · cases found <;> simp [Monitor.begin]

/-- The main thread may drop the mark at any time. -/
theorem CardLabelOk.drop {label : Label} {monitor : Monitor} {current_cid : Option Str}
    (h : CardLabelOk label monitor current_cid) : CardLabelOk label monitor none :=
  ⟨fun _ _ => rfl, fun _ => rfl, h.reading, h.post⟩

/-- The invariant of the application, as long as there is a window. -/
structure Labelled (s : App) : Prop where
  ok : AppOk s
  card : s.life ≠ .closed → CardLabelOk s.cardLabel s.sys.monitor s.sys.gui.current_cid

theorem labelled_step {s s' : App} {a : AppAct} (hs : Labelled s) (h : AppEffect s a s')
    (horder : InOrder s a s') : Labelled s' := by
  refine ⟨appOk_step hs.ok h, ?_⟩
  have hcard := hs.card
  cases h with
  | connect _ link hround _ =>
    intro hlife
    have hidle : s.sys.monitor = .idle := hs.ok.idle (by simp [hround])
    have hlabel := hcard hlife
    rw [hidle] at hlabel
    exact cardLabelOk_begin hlabel _
  | cardRaises _ _ hclosed => exact fun hlife => absurd hclosed hlife
  | card now _ _ _ => exact fun hlife => cardLabelOk_next now (hcard hlife)
  | window a sys _ hmain hstep =>
    intro hlife
    have hlabel : settled sys.pending (s.shown a) = s.cardLabel := by
      refine cardLabel_window hmain hstep ?_
      rintro i insertOk rfl
      have hzero : (i == 0) = true := horder
      simpa using hzero
    show CardLabelOk (settled sys.pending (s.shown a)) sys.monitor sys.gui.current_cid
    rw [hlabel, step_monitor hstep hmain]
    rcases current_cid_window hmain hstep with hsame | ⟨hnone, -⟩
    · rw [hsame]
      exact hcard hlife
    · rw [hnone]
      exact (hcard hlife).drop
  | destroy hlife => exact fun hgone => absurd rfl hgone
  | pressClose htakes =>
    have hlife := (App.opened_of_takesEvents htakes).1
    exact fun _ => hcard (by simp [hlife])
  | _ => exact hcard

theorem labelled_reachable {s : App} (h : Reachable (application.restrict InOrder) s) :
    Labelled s := by
  refine h.invariant ?_ ?_
  · intro s hs
    obtain rfl := hs
    refine ⟨appOk_reachable (.init rfl), fun _ => ⟨fun _ _ => rfl, fun _ => rfl, ?_, ?_⟩⟩
    · intro hlabel
      have horange : cardLabelStart.foreground = .orange := by
        rw [show cardLabelStart = CardStatus.reading.label from hlabel]
        rfl
      cases horange
    · show Monitor.idle ≠ _
      simp
  · intro s a s' hs hstep
    exact labelled_step hs (appEffect_of_step hstep.1) hstep.2

/-- With no status on its way, the card label shows what it comes to show. -/
theorem cardLabel_of_settled {s : App} (h : ∀ status, .card_status status ∉ s.sys.pending) :
    s.cardLabel = s.card_status := by
  have hnone : s.sys.pending.filterMap Callback.label? = [] := by
    rw [List.filterMap_eq_nil_iff]
    intro callback hmem
    cases callback with
    | card_status status => exact absurd hmem (h status)
    | add_card_to_table _ => rfl
  rw [App.cardLabel, settled, hnone]
  rfl

/-- **The card label is right** between two rounds, once its callbacks have run:
    it never says that a card is being read, and where it asks for a card none
    is marked as read. -/
theorem card_label_right (s : App) (h : Reachable (application.restrict InOrder) s)
    (hlife : s.life ≠ .closed) (hidle : s.sys.monitor = .idle)
    (hsettled : ∀ status, .card_status status ∉ s.sys.pending) :
    s.card_status ≠ CardStatus.reading.label ∧
      (s.card_status.AsksForCard → s.sys.gui.current_cid = none) := by
  have hlabel := (labelled_reachable h).card hlife
  rw [cardLabel_of_settled hsettled, hidle] at hlabel
  refine ⟨?_, fun hasks => hlabel.asks hasks rfl⟩
  intro hreading
  have hbusy := hlabel.reading hreading
  cases hbusy

/-- A reader is found, a card is read, and it is pulled out. -/
def readAndPulled : List AppAct :=
  List.replicate 9 (.round (.ok ["R".toList]) (.connected [0x3B, 0x68] sampleCard))
    ++ List.replicate 7 (.card []) ++ List.replicate 3 (.window (.deliver 0 true))
    ++ List.replicate 3 (.round (.ok []) (.raises .NoCardException))
    ++ List.replicate 4 (.card []) ++ [.window (.deliver 0 true)]

theorem card_label_right_readAndPulled :
    ∃ s, Reachable (application.restrict InOrder) s ∧ s.sys.gui.card_data_list.length = 1 ∧
      s.card_status = CardStatus.removed.label ∧ s.sys.gui.current_cid = none := by
  have hrun : (runApp InOrder .start readAndPulled).map (fun s =>
      (s.life, s.sys.monitor.isIdle, s.sys.pending, s.sys.gui.card_data_list.length, s.card_status))
      = some (.opened, true, [], 1, CardStatus.removed.label) := by decide +kernel
  obtain ⟨s, hs, hend⟩ := Option.map_eq_some_iff.mp hrun
  simp only [Prod.mk.injEq] at hend
  obtain ⟨hlife, hidle, hpending, hlen, hlabel⟩ := hend
  have hreach := reachable_of_runApp (.init rfl) hs
  have hright := card_label_right s hreach (by simp [hlife]) (Monitor.isIdle_iff.mp hidle)
    (by simp [hpending])
  exact ⟨s, hreach, hlen, hlabel, hright.2 (.inr hlabel)⟩

/-! ### The card label without a clearing -/

/-- No confirmed clearing goes on. -/
def AppAct.noClearing : AppAct → Bool
  | .window .clearNext => false
  | _ => true

/-- The monitor has marked a card and is not done with it. -/
def Monitor.hasMarked : Monitor → Bool
  | .announce _ => true
  | .readFields _ => true
  | .post _ => true
  | .announceDone => true
  | .announceSame => true
  | _ => false

/-- The invariant of the label where nothing but the monitor drops the mark. -/
structure MarkShown (label : Label) (monitor : Monitor) (current_cid : Option Str) : Prop where
  free : current_cid = none → monitor ≠ .announceRemoved → label.AsksForCard
  busy : monitor.hasMarked = true → current_cid ≠ none

theorem markShown_next {sh : Shared} {monitor : Monitor} {shown : Label} (now : Str)
    (h : MarkShown (settled sh.pending shown) monitor sh.current_cid) :
    MarkShown (settled (monitor.next now sh).2.pending shown) (monitor.next now sh).1
      (monitor.next now sh).2.current_cid := by
  -- from a card that is marked on, whatever is posted
  have hmarked : ∀ (monitor' : Monitor) (sh' : Shared), monitor.hasMarked = true →
      sh'.current_cid = sh.current_cid →
      MarkShown (settled sh'.pending shown) monitor' sh'.current_cid := by
    intro monitor' sh' hbusy hsame
    rw [hsame]
    exact ⟨fun hnone => absurd hnone (h.busy hbusy), fun _ => h.busy hbusy⟩
  have hstay : ∀ monitor' : Monitor, monitor ≠ .announceRemoved → monitor'.hasMarked = false →
      MarkShown (settled sh.pending shown) monitor' sh.current_cid := by
    intro monitor' hremoved hquiet
    refine ⟨fun hnone _ => h.free hnone hremoved, ?_⟩
    intro hbusy
    rw [hquiet] at hbusy
    cases hbusy
  cases monitor with
  | idle => exact hstay .idle (by simp) rfl
  | compare read =>
    simp only [Monitor.next]
    split
    · exact hstay _ (by simp) rfl
    · next hold =>
      split
      · next hcid =>
        -- the card in the reader is the marked one
        have hsome : sh.current_cid = some read.cid := by simpa [hcid] using hold
        exact ⟨fun hnone => by simp [hsome] at hnone, fun _ => by simp [hsome]⟩
      · exact hstay _ (by simp) rfl
  | mark read => exact ⟨fun hnone => by simp [Monitor.next] at hnone, fun _ => by simp [Monitor.next]⟩
  | announce read => exact hmarked _ _ rfl rfl
  | readFields read => exact hmarked _ _ rfl rfl
  | post card_info =>
    cases card_info with
    | none => exact hmarked _ _ rfl rfl
    | some card_info => exact hmarked _ _ rfl rfl
  | announceDone => exact hmarked _ _ rfl rfl
  | announceSame => exact hmarked _ _ rfl rfl
  | noCard =>
    simp only [Monitor.next]
    split
    · exact hstay _ (by simp) rfl
    · exact hstay _ (by simp) rfl
  | reset => exact ⟨fun _ hne => absurd rfl hne, fun hbusy => by simp [Monitor.next, Monitor.hasMarked] at hbusy⟩
  | announceRemoved =>
    show MarkShown (settled (sh.post (.card_status .removed)).pending shown) .idle sh.current_cid
    rw [Shared.post, settled_post_status]
    refine ⟨fun _ _ => .inr rfl, ?_⟩
    intro hbusy
    cases hbusy

theorem markShown_begin {label : Label} {current_cid : Option Str}
    (h : MarkShown label .idle current_cid) (found : PollFound) :
    MarkShown label (.begin found) current_cid := by
  have hquiet : (Monitor.begin found).hasMarked = false := by cases found <;> rfl
  refine ⟨fun hnone _ => h.free hnone (by simp), ?_⟩
  intro hbusy
  rw [hquiet] at hbusy
  cases hbusy

/-- The steps in order, without a clearing. -/
abbrev InOrderNoClearing (_ : App) (a : AppAct) (_ : App) : Prop :=
  a.inOrder = true ∧ a.noClearing = true

structure LabelledNoClearing (s : App) : Prop where
  ok : AppOk s
  mark : s.life ≠ .closed → MarkShown s.cardLabel s.sys.monitor s.sys.gui.current_cid

theorem labelledNoClearing_step {s s' : App} {a : AppAct} (hs : LabelledNoClearing s)
    (h : AppEffect s a s') (hsafe : InOrderNoClearing s a s') : LabelledNoClearing s' := by
  refine ⟨appOk_step hs.ok h, ?_⟩
  have hmark := hs.mark
  cases h with
  | connect _ link hround _ =>
    intro hlife
    have hidle : s.sys.monitor = .idle := hs.ok.idle (by simp [hround])
    have hshown := hmark hlife
    rw [hidle] at hshown
    exact markShown_begin hshown _
  | cardRaises _ _ hclosed => exact fun hlife => absurd hclosed hlife
  | card now _ _ _ => exact fun hlife => markShown_next now (hmark hlife)
  | window a sys _ hmain hstep =>
    intro hlife
    have hlabel : settled sys.pending (s.shown a) = s.cardLabel := by
      refine cardLabel_window hmain hstep ?_
      rintro i insertOk rfl
      have hzero : (i == 0) = true := hsafe.1
      simpa using hzero
    show MarkShown (settled sys.pending (s.shown a)) sys.monitor sys.gui.current_cid
    rw [hlabel, step_monitor hstep hmain]
    rcases current_cid_window hmain hstep with hsame | ⟨-, rfl⟩
    · rw [hsame]
      exact hmark hlife
    · exact absurd hsafe.2 (by simp [AppAct.noClearing])
  | destroy hlife => exact fun hgone => absurd rfl hgone
  | pressClose htakes =>
    have hlife := (App.opened_of_takesEvents htakes).1
    exact fun _ => hmark (by simp [hlife])
  | _ => exact hmark

theorem labelledNoClearing_reachable {s : App}
    (h : Reachable (application.restrict InOrderNoClearing) s) : LabelledNoClearing s := by
  refine h.invariant ?_ ?_
  · intro s hs
    obtain rfl := hs
    refine ⟨appOk_reachable (.init rfl), fun _ => ⟨fun _ _ => .inl rfl, ?_⟩⟩
    intro hbusy
    cases hbusy
  · intro s a s' hs hstep
    exact labelledNoClearing_step hs (appEffect_of_step hstep.1) hstep.2

/-- **Without a clearing the card label tells the mark**: between two rounds and
    once its callbacks have run, it asks for a card exactly where none is marked
    as read. -/
theorem card_label_iff (s : App) (h : Reachable (application.restrict InOrderNoClearing) s)
    (hlife : s.life ≠ .closed) (hidle : s.sys.monitor = .idle)
    (hsettled : ∀ status, .card_status status ∉ s.sys.pending) :
    s.card_status.AsksForCard ↔ s.sys.gui.current_cid = none := by
  have hmark := (labelledNoClearing_reachable h).mark hlife
  rw [cardLabel_of_settled hsettled, hidle] at hmark
  -- the other direction needs no restriction on the clearings
  have hmono : ∀ {t : App}, Reachable (application.restrict InOrderNoClearing) t →
      Reachable (application.restrict InOrder) t := by
    intro t ht
    induction ht with
    | init h => exact .init h
    | step a _ hstep ih => exact .step a ih ⟨hstep.1, hstep.2.1⟩
  have hlabel := (labelled_reachable (hmono h)).card hlife
  rw [cardLabel_of_settled hsettled, hidle] at hlabel
  constructor
  · intro hasks
    exact hlabel.asks hasks rfl
  · intro hnone
    exact hmark.free hnone (by simp)

theorem card_label_iff_readAndPulled :
    ∃ s, Reachable (application.restrict InOrderNoClearing) s ∧
      s.sys.gui.card_data_list.length = 1 ∧ s.sys.gui.current_cid = none ∧
      s.card_status.AsksForCard := by
  have hrun : (runApp InOrderNoClearing .start readAndPulled).map (fun s =>
      (s.life, s.sys.monitor.isIdle, s.sys.pending.isEmpty, s.sys.gui.card_data_list.length,
        s.sys.gui.current_cid.isNone))
      = some (.opened, true, true, 1, true) := by decide +kernel
  obtain ⟨s, hs, hend⟩ := Option.map_eq_some_iff.mp hrun
  simp only [Prod.mk.injEq] at hend
  obtain ⟨hlife, hidle, hpending, hlen, hnone⟩ := hend
  have hcid : s.sys.gui.current_cid = none := Option.isNone_iff_eq_none.mp hnone
  have hreach := reachable_of_runApp (.init rfl) hs
  have hright := card_label_iff s hreach (by simp [hlife]) (Monitor.isIdle_iff.mp hidle)
    (by simp [List.isEmpty_iff.mp hpending])
  exact ⟨s, hreach, hlen, hcid, hright.mpr hcid⟩

/-! ### The reader label -/

/-- Where `find_reader` is, if a thread is in it. -/
def App.finder (s : App) : Option FindReader :=
  match s.refresh, s.round with
  | some at_, _ => some at_
  | none, .find at_ => some at_
  | none, _ => none

/-- Both threads are in `find_reader`. -/
def App.overlaps (s : App) : Bool :=
  match s.refresh, s.round with
  | some _, .find _ => true
  | _, _ => false

/-- The steps in order that never bring both threads into `find_reader`. -/
abbrev InOrderApart (_ : App) (a : AppAct) (s' : App) : Prop :=
  a.inOrder = true ∧ s'.overlaps = false

/-- The text of the reader label tells whether there is a reader. -/
def TextFits (reader : Option Str) (text : Str) : Prop :=
  match reader with
  | some name => text = foundText (some name)
  | none => text = readerLabelStart.text ∨ text = missingText ∨ ∃ e, text = errorText e

/-- So does its colour. -/
def ColourFits (reader : Option Str) (colour : Colour) : Prop :=
  match reader with
  | some _ => colour = .green
  | none => colour = .orange ∨ colour = .red

/-- The invariant of the reader label, by where the one thread in `find_reader`
    is. -/
def ReaderLabelOk (part : ReaderPart) : Option FindReader → Prop
  | none => TextFits part.reader part.label.text ∧
      ColourFits part.reader (part.posted.getLastD part.label.foreground)
  | some .call => part.reader = none
  | some (.assign _) => part.reader = none
  | some .showFound => part.reader.isSome = true
  | some .postFound => part.reader.isSome = true ∧ TextFits part.reader part.label.text
  | some (.showMissing text) => part.reader = none ∧ (text = missingText ∨ ∃ e, text = errorText e)
  | some .postMissing => part.reader = none ∧ TextFits part.reader part.label.text

/-- One statement of `find_reader` keeps the invariant. -/
theorem readerLabelOk_next {part : ReaderPart} {at_ : FindReader} (answer : ReaderList)
    (h : ReaderLabelOk part (some at_)) :
    ReaderLabelOk (at_.next answer part).2 (at_.next answer part).1 := by
  cases at_ with
  | call =>
    have hnone : part.reader = none := h
    rcases answer with e | _ | ⟨first, others⟩
    · exact ⟨hnone, .inr ⟨e, rfl⟩⟩
    · exact ⟨hnone, .inl rfl⟩
    · exact hnone
  | assign first => exact rfl
  | showFound =>
    obtain ⟨name, hname⟩ := Option.isSome_iff_exists.mp h
    refine ⟨h, ?_⟩
    show TextFits part.reader (foundText part.reader)
    rw [hname]
    rfl
  | postFound =>
    obtain ⟨hsome, htext⟩ := h
    obtain ⟨name, hname⟩ := Option.isSome_iff_exists.mp hsome
    refine ⟨htext, ?_⟩
    show ColourFits part.reader ((part.posted ++ [Colour.green]).getLastD _)
    rw [List.getLastD_concat, hname]
    rfl
  | showMissing text =>
    obtain ⟨hnone, htext⟩ := h
    refine ⟨hnone, ?_⟩
    show TextFits part.reader text
    rw [hnone]
    exact .inr htext
  | postMissing =>
    obtain ⟨hnone, htext⟩ := h
    refine ⟨htext, ?_⟩
    show ColourFits part.reader ((part.posted ++ [Colour.red]).getLastD _)
    rw [List.getLastD_concat, hnone]
    exact .inr rfl

/-- Running the first `config` leaves what the label comes to show. -/
theorem readerLabelOk_deliver {part : ReaderPart} {foreground : Colour} {at_ : Option FindReader}
    (h : ReaderLabelOk part at_) (hi : part.posted[0]? = some foreground) :
    ReaderLabelOk { part with
      label := { part.label with foreground }, posted := part.posted.eraseIdx 0 } at_ := by
  obtain ⟨rest, hposted⟩ : ∃ rest, part.posted = foreground :: rest := by
    cases hposted : part.posted with
    | nil => simp [hposted] at hi
    | cons head rest =>
      simp only [hposted, List.getElem?_cons_zero, Option.some.injEq] at hi
      exact ⟨rest, by rw [hi]⟩
  cases at_ with
  | none =>
    obtain ⟨htext, hcolour⟩ := h
    refine ⟨htext, ?_⟩
    rw [hposted, List.getLastD_cons] at hcolour
    show ColourFits part.reader ((part.posted.eraseIdx 0).getLastD foreground)
    rw [hposted]
    exact hcolour
  | some at_ => cases at_ <;> exact h

theorem App.finder_of_not_find {s : App} (h : ∀ at_, s.round ≠ .find at_) :
    s.finder = s.refresh := by
  unfold App.finder
  split
  · next hrefresh => exact hrefresh.symm
  · next at_ _ hround => exact absurd hround (h at_)
  · next hrefresh _ => exact hrefresh.symm

/-- With one thread in `find_reader`, the other is not. -/
theorem App.not_overlaps {s : App} (h : s.overlaps = false) {at_ : FindReader}
    (hround : s.round = .find at_) : s.refresh = none := by
  cases hrefresh : s.refresh with
  | none => rfl
  | some _ => simp [App.overlaps, hround, hrefresh] at h

structure ReaderLabelled (s : App) : Prop where
  ok : AppOk s
  apart : s.overlaps = false
  reader : s.life ≠ .closed → ReaderLabelOk s.readerPart s.finder

theorem readerLabelled_step {s s' : App} {a : AppAct} (hs : ReaderLabelled s)
    (h : AppEffect s a s') (hsafe : InOrderApart s a s') : ReaderLabelled s' := by
  refine ⟨appOk_step hs.ok h, hsafe.2, ?_⟩
  have hreader := hs.reader
  -- neither the reader nor the thread in `find_reader` changes
  have hstay : ∀ t : App, (∀ at_, s.round ≠ .find at_) → (∀ at_, t.round ≠ .find at_) →
      t.refresh = s.refresh → t.readerPart = s.readerPart → t.life = s.life →
      (t.life ≠ .closed → ReaderLabelOk t.readerPart t.finder) := by
    intro t hround hround' hrefresh hpart hlife hopen
    rw [App.finder_of_not_find hround', hrefresh, hpart, ← App.finder_of_not_find hround]
    exact hreader (hlife ▸ hopen)
  cases h with
  | loop _ _ hround =>
    refine hstay _ (by simp [hround]) ?_ rfl rfl rfl
    intro at_
    show (if s.monitoring then Round.testReader else .ended) ≠ _
    split <;> simp
  | test _ _ hround =>
    by_cases hsome : s.readerPart.reader.isSome = true
    · refine hstay _ (by simp [hround]) ?_ rfl rfl rfl
      intro at_
      show (if s.readerPart.reader.isSome then Round.connect else .find .call) ≠ _
      simp [hsome]
    · intro _
      have hnone : s.readerPart.reader = none := by simpa using hsome
      have hapart := hsafe.2
      have hround' : (if s.readerPart.reader.isSome then Round.connect else .find .call)
          = .find .call := by simp [hsome]
      rw [hround'] at hapart
      have hrefresh : s.refresh = none :=
        App.not_overlaps (s := { s with round := .find .call }) hapart rfl
      show ReaderLabelOk s.readerPart (App.finder { s with round := _ })
      rw [hround']
      simp only [App.finder, hrefresh]
      exact hnone
  | findRaises _ _ _ _ hclosed => exact fun hlife => absurd hclosed hlife
  | find answer _ at_ hround _ =>
    intro hlife
    have hrefresh : s.refresh = none := App.not_overlaps hs.apart hround
    have hfinder : s.finder = some at_ := by simp [App.finder, hrefresh, hround]
    have hbefore := hreader hlife
    rw [hfinder] at hbefore
    have hafter : App.finder { s with
        readerPart := (at_.next answer s.readerPart).2
        round := (at_.next answer s.readerPart).1.elim .loop .find }
        = (at_.next answer s.readerPart).1 := by
      cases hnext : (at_.next answer s.readerPart).1 <;> simp [App.finder, hrefresh]
    rw [hafter]
    exact readerLabelOk_next answer hbefore
  | dropped _ _ hround _ => exact hstay _ (by simp [hround]) (by simp) rfl rfl rfl
  | connect _ _ hround _ => exact hstay _ (by simp [hround]) (by simp) rfl rfl rfl
  | cardEnd _ hround _ => exact hstay _ (by simp [hround]) (by simp) rfl rfl rfl
  | cardRaises _ hround _ => exact hstay _ (by simp [hround]) (by simp) rfl rfl rfl
  | card _ hround _ _ => exact hstay _ (by simp [hround]) (by simp [hround]) rfl rfl rfl
  | window _ _ _ _ _ => exact hreader
  | pressRefresh _ => exact fun _ => rfl
  | refreshNext answer at_ hrefresh =>
    intro hlife
    have hround : ∀ at', s.round ≠ .find at' := by
      intro at' hround
      rw [App.not_overlaps hs.apart hround] at hrefresh
      cases hrefresh
    have hbefore := hreader hlife
    rw [App.finder_of_not_find hround, hrefresh] at hbefore
    have hafter : App.finder { s with
        readerPart := (at_.next answer s.readerPart).2
        refresh := (at_.next answer s.readerPart).1 }
        = (at_.next answer s.readerPart).1 := App.finder_of_not_find hround
    rw [hafter]
    exact readerLabelOk_next answer hbefore
  | deliverColour i foreground _ hi =>
    intro hlife
    have hzero : (i == 0) = true := hsafe.1
    obtain rfl : i = 0 := by simpa using hzero
    exact readerLabelOk_deliver (hreader hlife) hi
  | pressClose htakes =>
    have hlife := (App.opened_of_takesEvents htakes).1
    exact fun _ => hreader (by simp [hlife])
  | destroy _ => exact fun hgone => absurd rfl hgone

theorem readerLabelled_reachable {s : App} (h : Reachable (application.restrict InOrderApart) s) :
    ReaderLabelled s := by
  refine h.invariant ?_ ?_
  · intro s hs
    obtain rfl := hs
    exact ⟨appOk_reachable (.init rfl), rfl, fun _ => ⟨.inl rfl, .inl rfl⟩⟩
  · intro s a s' hs hstep
    exact readerLabelled_step hs (appEffect_of_step hstep.1) hstep.2

/-- **The reader label is right** wherever no thread is in `find_reader` and its
    colours have been set: it names the reader in green, or says in orange or red
    that there is none. -/
theorem reader_label_right (s : App) (h : Reachable (application.restrict InOrderApart) s)
    (hlife : s.life ≠ .closed) (hdone : s.finder = none) (hsettled : s.readerPart.posted = []) :
    TextFits s.readerPart.reader s.readerPart.label.text ∧
      ColourFits s.readerPart.reader s.readerPart.label.foreground := by
  have hlabel := (readerLabelled_reachable h).reader hlife
  rw [hdone] at hlabel
  obtain ⟨htext, hcolour⟩ := hlabel
  rw [hsettled] at hcolour
  exact ⟨htext, hcolour⟩

theorem reader_label_right_readAndPulled :
    ∃ s, Reachable (application.restrict InOrderApart) s ∧
      s.readerPart.reader = some "R".toList ∧
      s.readerPart.label.text = "✓ R".toList ∧ s.readerPart.label.foreground = .green := by
  have hrun : (runApp InOrderApart .start (readAndPulled ++ [.deliverColour 0])).map
      (fun s => (s.life, s.finder, s.readerPart.posted, s.readerPart.reader))
      = some (.opened, none, [], some "R".toList) := by decide +kernel
  obtain ⟨s, hs, hend⟩ := Option.map_eq_some_iff.mp hrun
  simp only [Prod.mk.injEq] at hend
  obtain ⟨hlife, hdone, hposted, hreader⟩ := hend
  have hreach := reachable_of_runApp (.init rfl) hs
  have hright := reader_label_right s hreach (by simp [hlife]) hdone hposted
  rw [hreader] at hright
  exact ⟨s, hreach, hreader, hright.1, hright.2⟩

/-- The monitor finds a reader while the refresh button finds none. -/
def refreshedMeanwhile : List AppAct :=
  List.replicate 4 (.round (.ok ["R".toList]) (.raises .other))
    ++ .pressRefresh :: List.replicate 3 (.refreshNext (.ok []))
    ++ List.replicate 2 (.round (.ok []) (.raises .other)) ++ List.replicate 2 (.deliverColour 0)

/-- Where the two threads overlap in `find_reader`, the label may show a reader
    in green, if only `None`, with none there. -/
theorem reader_label_wrong :
    ∃ s, Reachable (application.restrict InOrder) s ∧ s.life = .opened ∧ s.finder = none ∧
      s.readerPart = ⟨none, ⟨"✓ None".toList, .green⟩, []⟩ := by
  have hrun : (runApp InOrder .start refreshedMeanwhile).map
      (fun s => (s.life, s.finder, s.readerPart))
      = some (.opened, none, ⟨none, ⟨"✓ None".toList, .green⟩, []⟩) := by decide +kernel
  obtain ⟨s, hs, hend⟩ := Option.map_eq_some_iff.mp hrun
  simp only [Prod.mk.injEq] at hend
  obtain ⟨hlife, hdone, hpart⟩ := hend
  exact ⟨s, reachable_of_runApp (.init rfl) hs, hlife, hdone, hpart⟩

end GuiReader

end IdScan
