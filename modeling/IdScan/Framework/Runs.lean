import IdScan.Framework.LTS

/-! # Rules about whole runs

  The invariant rules of `LTS` speak of states. The rules here speak of runs:
  what lies between the two ends of a run, how often its steps are of some kind,
  and what its past allows. An audited system carries a history variable, which
  is written and never read. A refinement up to an end compares two systems
  until the concrete one is over.
-/

namespace LTS

universe u v w x

variable {State : Type u} {Label : Type v} {sys : System State Label}

/-! ### Runs of a restricted system -/

theorem Run.of_restrict {P : State → Label → State → Prop} {s s' : State} {ls : List Label}
    (h : Run (sys.restrict P) s ls s') : Run sys s ls s' := by
  induction h with
  | nil s => exact .nil s
  | cons l ls hl _ ih => exact .cons l ls hl.1 ih

theorem Reachable.of_restrict {P : State → Label → State → Prop} {s : State}
    (h : Reachable (sys.restrict P) s) : Reachable sys s := by
  induction h with
  | init h => exact .init h
  | step l _ hl ih => exact .step l ih hl.1

/-! ### Two ends of a run -/

/-- A preorder that every step follows relates the two ends of every run. -/
theorem Run.related {R : State → State → Prop} (hrefl : ∀ s, R s s)
    (htrans : ∀ {s s' s''}, R s s' → R s' s'' → R s s'')
    {s s' : State} {ls : List Label} (h : Run sys s ls s')
    (hstep : ∀ l ∈ ls, ∀ t t', sys.step t l t' → R t t') : R s s' := by
  induction h with
  | nil s => exact hrefl s
  | cons l ls hl _ ih =>
    have hfirst := hstep l (by simp) _ _ hl
    exact htrans hfirst (ih fun l' hl' => hstep l' (by simp [hl']))

/-- **Rank rule**: where a rank never rises and each step of a kind lowers it, a
    run has no more steps of that kind than the rank it starts from. -/
theorem Run.countP_le_rank {Inv : State → Prop} {rank : State → Nat} {kind : Label → Bool}
    (hinv : ∀ s l s', Inv s → sys.step s l s' → Inv s')
    (hrank : ∀ s l s', Inv s → sys.step s l s' → rank s' + (if kind l then 1 else 0) ≤ rank s)
    {s s' : State} {ls : List Label} (h : Run sys s ls s') (hs : Inv s) :
    ls.countP kind + rank s' ≤ rank s := by
  induction h with
  | nil s => simp
  | cons l ls hl _ ih =>
    have hfirst := hrank _ l _ hs hl
    have hrest := ih (hinv _ l _ hs hl)
    rw [List.countP_cons]
    omega

/-- **Response rule**: `Open n` says that something is due within `n` steps of a
    kind. Where such a step leaves one less, where the others leave it as it is,
    and where what is met stays met, a run with that many steps of the kind ends
    with it met. -/
theorem Run.meets {Inv Met : State → Prop} {Open : Nat → State → Prop} {kind : Label → Bool}
    (hinv : ∀ s l s', Inv s → sys.step s l s' → Inv s')
    (hstays : ∀ s l s', Inv s → sys.step s l s' → Met s → Met s')
    (hzero : ∀ s, Open 0 s → Met s)
    (hkind : ∀ n s l s', Inv s → sys.step s l s' → kind l = true → Open (n + 1) s →
      Met s' ∨ Open n s')
    (hother : ∀ n s l s', Inv s → sys.step s l s' → kind l = false → Open n s →
      Met s' ∨ Open n s')
    {s s' : State} {ls : List Label} (h : Run sys s ls s') (hs : Inv s) {n : Nat}
    (hopen : Met s ∨ Open n s) (hcount : n ≤ ls.countP kind) : Met s' := by
  induction h generalizing n with
  | nil s =>
    obtain rfl : n = 0 := Nat.le_zero.mp hcount
    exact hopen.elim id (hzero s)
  | @cons s s₁ s' l ls hl _ ih =>
    rw [List.countP_cons] at hcount
    have hnext := hinv _ l _ hs hl
    rcases hopen with hmet | hopen
    · exact ih hnext (.inl (hstays _ l _ hs hl hmet)) (Nat.zero_le _)
    · cases hl' : kind l with
      | false =>
        rw [hl', if_neg Bool.false_ne_true, Nat.add_zero] at hcount
        exact ih hnext (hother n _ l _ hs hl hl' hopen) hcount
      | true =>
        rw [hl', if_pos rfl] at hcount
        cases n with
        | zero => exact ih hnext (.inl (hstays _ l _ hs hl (hzero _ hopen))) (Nat.zero_le _)
        | succ n => exact ih hnext (hkind n _ l _ hs hl hl' hopen) (by omega)

/-! ### The past of a run -/

/-- **History rule**: what may speak of the labels so far, and is kept by every
    step, holds at the end of a run with all its labels. -/
theorem Run.history {Inv : List Label → State → Prop}
    (hstep : ∀ past s l s', Inv past s → sys.step s l s' → Inv (past ++ [l]) s')
    {past : List Label} {s s' : State} {ls : List Label} (h : Run sys s ls s')
    (hs : Inv past s) : Inv (past ++ ls) s' := by
  induction h generalizing past with
  | nil s => simpa using hs
  | cons l ls hl _ ih =>
    have hnext := ih (hstep past _ l _ hs hl)
    simpa using hnext

/-- The system with a history variable, which starts as `start` and is written
    at every step from the two states of the step. -/
def System.audit {History : Type w} (sys : System State Label) (start : History)
    (write : State → Label → State → History → History) : System (State × History) Label where
  init := fun p => sys.init p.1 ∧ p.2 = start
  step := fun p l p' => sys.step p.1 l p'.1 ∧ p'.2 = write p.1 l p'.1 p.2

/-- A history variable restrains nothing. -/
theorem Reachable.audit {History : Type w} {start : History}
    {write : State → Label → State → History → History} {s : State} (h : Reachable sys s) :
    ∃ past, Reachable (sys.audit start write) (s, past) := by
  induction h with
  | init h => exact ⟨start, .init ⟨h, rfl⟩⟩
  | @step s s' l _ hl ih =>
    obtain ⟨past, hpast⟩ := ih
    exact ⟨write s l s' past, .step l hpast ⟨hl, rfl⟩⟩

/-! ### Refinement up to an end -/

/-- `abstract` simulates `concrete` along `f` as long as the concrete system is
    not over. Once over, it stays so, and nothing more is asked of it. -/
structure RefinesUntil {Abs : Type w} {AbsLabel : Type x} (concrete : System State Label)
    (abstract : System Abs AbsLabel) (f : State → Abs) (Inv Over : State → Prop) : Prop where
  init : ∀ s, concrete.init s → abstract.init (f s)
  step : ∀ s l s', Inv s → ¬ Over s' → concrete.step s l s' →
    (∃ l', abstract.step (f s) l' (f s')) ∨ f s' = f s
  stays : ∀ s l s', Over s → concrete.step s l s' → Over s'

/-- Up to the end, every reachable concrete state maps to a reachable abstract
    state. -/
theorem RefinesUntil.reachable {Abs : Type w} {AbsLabel : Type x} {concrete : System State Label}
    {abstract : System Abs AbsLabel} {f : State → Abs} {Inv Over : State → Prop}
    (href : RefinesUntil concrete abstract f Inv Over)
    (hinv : ∀ s, Reachable concrete s → Inv s)
    {s : State} (h : Reachable concrete s) (hover : ¬ Over s) : Reachable abstract (f s) := by
  induction h with
  | init h => exact .init (href.init _ h)
  | @step s s' l hs hl ih =>
    -- before the step it was not over either
    have hbefore : Reachable abstract (f s) := ih fun h => hover (href.stays _ l _ h hl)
    rcases href.step _ l _ (hinv _ hs) hover hl with ⟨l', hl'⟩ | heq
    · exact .step l' hbefore hl'
    · rw [heq]
      exact hbefore

end LTS
