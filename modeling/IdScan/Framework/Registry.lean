import IdScan.Framework.LTS
import Mathlib.Data.List.Nodup
import Mathlib.Data.Nat.Count

/-! # A registry of records with one entry per key

  What a collecting program is for: records are enrolled one at a time, a
  record whose key is already there is turned away, and now and then everything
  is removed. The order of the records is the order of enrolment.

  `system` is this as a labelled transition system. Its reachable states have
  pairwise distinct keys and hold admissible records only, whatever the order of
  the events.
-/

namespace Registry

open LTS

universe u v

variable {ρ : Type u} {κ : Type v}

/-- Is there a record under `k`? -/
def Holds (key : ρ → κ) (records : List ρ) (k : κ) : Prop := ∃ r ∈ records, key r = k

instance [DecidableEq κ] (key : ρ → κ) (records : List ρ) (k : κ) :
    Decidable (Holds key records k) :=
  inferInstanceAs (Decidable (∃ r ∈ records, key r = k))

/-- Enrol one record: at the end, unless its key is taken. -/
def enroll [DecidableEq κ] (key : ρ → κ) (records : List ρ) (r : ρ) : List ρ :=
  if Holds key records (key r) then records else records ++ [r]

/-- The invariant: distinct keys, admissible records. -/
structure WellFormed (key : ρ → κ) (Admissible : ρ → Prop) (records : List ρ) : Prop where
  nodup : (records.map key).Nodup
  admissible : ∀ r ∈ records, Admissible r

theorem WellFormed.nil (key : ρ → κ) (Admissible : ρ → Prop) :
    WellFormed key Admissible [] :=
  ⟨List.nodup_nil, by simp⟩

theorem holds_iff_mem {key : ρ → κ} {records : List ρ} {k : κ} :
    Holds key records k ↔ k ∈ records.map key := by
  simp [Holds]

/-- Appending a record with a new key keeps the invariant. -/
theorem WellFormed.append {key : ρ → κ} {Admissible : ρ → Prop} {records : List ρ} {r : ρ}
    (h : WellFormed key Admissible records) (hr : Admissible r)
    (hnew : ¬ Holds key records (key r)) : WellFormed key Admissible (records ++ [r]) := by
  refine ⟨?_, ?_⟩
  · rw [List.map_append, List.map_singleton, List.nodup_append]
    refine ⟨h.nodup, List.nodup_singleton _, ?_⟩
    intro k hk k' hk' heq
    rw [List.mem_singleton] at hk'
    exact hnew (holds_iff_mem.mpr (hk' ▸ heq ▸ hk))
  · intro x hx
    simp only [List.mem_append, List.mem_singleton] at hx
    rcases hx with hx | rfl
    · exact h.admissible x hx
    · exact hr

section enrolling
variable [DecidableEq κ]

/-- Enrolling keeps the invariant. -/
theorem WellFormed.enroll {key : ρ → κ} {Admissible : ρ → Prop} {records : List ρ} {r : ρ}
    (h : WellFormed key Admissible records) (hr : Admissible r) :
    WellFormed key Admissible (enroll key records r) := by
  unfold Registry.enroll
  split
  · exact h
  · next hnew => exact h.append hr hnew

/-- What can happen to a registry. -/
inductive Event (ρ : Type u) where
  | enroll (r : ρ)
  | clear

/-- The registry as a transition system. -/
def system (key : ρ → κ) (Admissible : ρ → Prop) : System (List ρ) (Event ρ) where
  init := fun records => records = []
  step := fun records e records' =>
    match e with
    | .enroll r => Admissible r ∧ records' = enroll key records r
    | .clear => records' = []

/-- **Registry invariant**: whatever the order of enrolments and removals, the
    keys are distinct and every record is admissible. -/
theorem reachable_wellFormed {key : ρ → κ} {Admissible : ρ → Prop} {records : List ρ}
    (h : Reachable (system key Admissible) records) : WellFormed key Admissible records := by
  refine h.invariant ?_ ?_
  · intro s hs
    obtain rfl := hs
    exact WellFormed.nil key Admissible
  · intro s e s' hs hstep
    cases e with
    | enroll r =>
      obtain ⟨hr, rfl⟩ := hstep
      exact hs.enroll hr
    | clear =>
      obtain rfl : s' = [] := hstep
      exact WellFormed.nil key Admissible

end enrolling

/-! ### Merging a list of offers

  Each offer is a record, or nothing usable. `merge` enrols them one after the
  other; which of them it takes is told from their keys alone.
-/

section keys

/-- `k` is taken, or an offer before offer `i` has it. -/
def SeenBefore (taken : List κ) (keys : List (Option κ)) (i : Nat) (k : κ) : Prop :=
  k ∈ taken ∨ some k ∈ keys.take i

/-- Offer `i` has a key that was not seen before. -/
def IsNew (taken : List κ) (keys : List (Option κ)) (i : Nat) : Prop :=
  ∃ k, keys[i]? = some (some k) ∧ ¬ SeenBefore taken keys i k

/-- Offer `i` has a key that was seen before. -/
def IsSeen (taken : List κ) (keys : List (Option κ)) (i : Nat) : Prop :=
  ∃ k, keys[i]? = some (some k) ∧ SeenBefore taken keys i k

/-- Offer `i` has no key. -/
def IsUnusable (keys : List (Option κ)) (i : Nat) : Prop := keys[i]? = some none

variable {taken taken' : List κ} {key : Option κ} {keys : List (Option κ)} {i : Nat}

theorem mem_toList_append (taken : List κ) (key : Option κ) (k : κ) :
    k ∈ key.toList ++ taken ↔ k ∈ taken ∨ key = some k := by
  rw [List.mem_append, Option.mem_toList, or_comm]

/-- Behind an offer its key is among those seen. -/
theorem seenBefore_succ (h : ∀ k, k ∈ taken' ↔ k ∈ taken ∨ key = some k) (k : κ) :
    SeenBefore taken (key :: keys) (i + 1) k ↔ SeenBefore taken' keys i k := by
  unfold SeenBefore
  rw [List.take_succ_cons, List.mem_cons, h, eq_comm (a := some k), or_assoc]

@[simp] theorem isNew_zero : IsNew taken (key :: keys) 0 ↔ ∃ k, key = some k ∧ k ∉ taken := by
  simp [IsNew, SeenBefore]

@[simp] theorem isSeen_zero : IsSeen taken (key :: keys) 0 ↔ ∃ k, key = some k ∧ k ∈ taken := by
  simp [IsSeen, SeenBefore]

@[simp] theorem isUnusable_zero : IsUnusable (key :: keys) 0 ↔ key = none := by
  simp [IsUnusable]

theorem isNew_succ (h : ∀ k, k ∈ taken' ↔ k ∈ taken ∨ key = some k) :
    IsNew taken (key :: keys) (i + 1) ↔ IsNew taken' keys i :=
  exists_congr fun k => and_congr_right fun _ => not_congr (seenBefore_succ h k)

theorem isSeen_succ (h : ∀ k, k ∈ taken' ↔ k ∈ taken ∨ key = some k) :
    IsSeen taken (key :: keys) (i + 1) ↔ IsSeen taken' keys i :=
  exists_congr fun k => and_congr_right fun _ => seenBefore_succ h k

@[simp] theorem isUnusable_succ : IsUnusable (key :: keys) (i + 1) ↔ IsUnusable keys i := by
  simp [IsUnusable]

end keys

section merging
variable [DecidableEq κ]

instance (taken : List κ) (keys : List (Option κ)) (i : Nat) (k : κ) :
    Decidable (SeenBefore taken keys i k) :=
  inferInstanceAs (Decidable (k ∈ taken ∨ some k ∈ keys.take i))

instance (taken : List κ) (keys : List (Option κ)) : DecidablePred (IsNew taken keys) := fun i =>
  decidable_of_iff (∃ k ∈ keys[i]?.join, ¬ SeenBefore taken keys i k)
    (by simp [IsNew, Option.join_eq_some_iff])

instance (taken : List κ) (keys : List (Option κ)) : DecidablePred (IsSeen taken keys) := fun i =>
  decidable_of_iff (∃ k ∈ keys[i]?.join, SeenBefore taken keys i k)
    (by simp [IsSeen, Option.join_eq_some_iff])

instance (keys : List (Option κ)) : DecidablePred (IsUnusable keys) := fun i =>
  inferInstanceAs (Decidable (keys[i]? = some none))

/-- Counting from the second offer on. -/
theorem count_succ_of_iff {p p' : Nat → Prop} [DecidablePred p] [DecidablePred p']
    (h : ∀ i, p (i + 1) ↔ p' i) (n : Nat) :
    Nat.count p (n + 1) = (if p 0 then 1 else 0) + Nat.count p' n := by
  rw [Nat.count_succ', Nat.add_comm]
  simp only [h]

theorem count_isNew_succ {taken taken' : List κ} {key : Option κ} {keys : List (Option κ)}
    (h : ∀ k, k ∈ taken' ↔ k ∈ taken ∨ key = some k) (n : Nat) :
    Nat.count (IsNew taken (key :: keys)) (n + 1)
      = (if IsNew taken (key :: keys) 0 then 1 else 0) + Nat.count (IsNew taken' keys) n :=
  count_succ_of_iff (fun _ => isNew_succ h) n

theorem count_isSeen_succ {taken taken' : List κ} {key : Option κ} {keys : List (Option κ)}
    (h : ∀ k, k ∈ taken' ↔ k ∈ taken ∨ key = some k) (n : Nat) :
    Nat.count (IsSeen taken (key :: keys)) (n + 1)
      = (if IsSeen taken (key :: keys) 0 then 1 else 0) + Nat.count (IsSeen taken' keys) n :=
  count_succ_of_iff (fun _ => isSeen_succ h) n

theorem count_isUnusable_succ (key : Option κ) (keys : List (Option κ)) (n : Nat) :
    Nat.count (IsUnusable (key :: keys)) (n + 1)
      = (if IsUnusable (key :: keys) 0 then 1 else 0) + Nat.count (IsUnusable keys) n :=
  count_succ_of_iff (fun _ => isUnusable_succ) n

/-- Enrol the offers one after the other. -/
def merge (key : ρ → κ) : List ρ → List (Option ρ) → List ρ
  | records, [] => records
  | records, none :: offers => merge key records offers
  | records, some r :: offers => merge key (enroll key records r) offers

/-- The offers that are new, in their order. -/
def newOffers (taken : List κ) (key : ρ → κ) (offers : List (Option ρ)) : List ρ :=
  (List.range offers.length).filterMap fun i =>
    if IsNew taken (offers.map (Option.map key)) i then offers[i]?.join else none

/-- The keys behind one enrolment. -/
theorem mem_keys_enroll (key : ρ → κ) (records : List ρ) (r : ρ) (k : κ) :
    k ∈ (enroll key records r).map key ↔ k ∈ records.map key ∨ some (key r) = some k := by
  unfold enroll
  split
  · next hholds =>
    have hmem := holds_iff_mem.mp hholds
    constructor
    · exact Or.inl
    · rintro (hk | heq)
      · exact hk
      · exact Option.some.inj heq ▸ hmem
  · rw [List.map_append, List.mem_append, List.map_singleton, List.mem_singleton,
      Option.some.injEq, eq_comm (a := k)]

theorem newOffers_cons {taken taken' : List κ} {key : ρ → κ} {offer : Option ρ}
    {offers : List (Option ρ)} (h : ∀ k, k ∈ taken' ↔ k ∈ taken ∨ offer.map key = some k) :
    newOffers taken key (offer :: offers)
      = (offer.filter fun r => decide (key r ∉ taken)).toList ++ newOffers taken' key offers := by
  have hhead : (if IsNew taken ((offer :: offers).map (Option.map key)) 0
      then (offer :: offers)[0]?.join else none) = offer.filter fun r => decide (key r ∉ taken) := by
    cases offer with
    | none => simp
    | some r => by_cases hr : key r ∈ taken <;> simp [hr, Option.filter]
  unfold newOffers
  rw [List.length_cons, List.range_succ_eq_map, List.filterMap_cons, hhead, List.filterMap_map]
  have htail : (fun i => if IsNew taken ((offer :: offers).map (Option.map key)) i
      then (offer :: offers)[i]?.join else none) ∘ Nat.succ
      = fun i => if IsNew taken' (offers.map (Option.map key)) i then offers[i]?.join else none := by
    funext i
    simp only [Function.comp_apply, List.map_cons, Nat.succ_eq_add_one, isNew_succ h,
      List.getElem?_cons_succ]
  rw [htail]
  cases hoffer : offer.filter fun r => decide (key r ∉ taken) <;> rfl

/-- **Merging appends the new offers**, in their order, and changes nothing else. -/
theorem merge_eq (key : ρ → κ) (records : List ρ) (offers : List (Option ρ)) :
    merge key records offers = records ++ newOffers (records.map key) key offers := by
  induction offers generalizing records with
  | nil => simp [merge, newOffers]
  | cons offer offers ih =>
    cases offer with
    | none =>
      have hkeys : ∀ k, k ∈ records.map key ↔
          k ∈ records.map key ∨ (none : Option ρ).map key = some k := by simp
      rw [merge, ih, newOffers_cons hkeys]
      rfl
    | some r =>
      rw [merge, ih, newOffers_cons (mem_keys_enroll key records r)]
      unfold enroll
      by_cases hr : Holds key records (key r)
      · have hmem := holds_iff_mem.mp hr
        simp [hr, hmem, Option.filter]
      · have hmem : key r ∉ records.map key := fun h => hr (holds_iff_mem.mpr h)
        simp [hr, hmem, Option.filter]

/-- The first offer is new where its key is not taken. -/
theorem length_filter_offer (taken : List κ) (key : ρ → κ) (offer : Option ρ)
    (offers : List (Option ρ)) :
    (offer.filter fun r => decide (key r ∉ taken)).toList.length
      = if IsNew taken ((offer :: offers).map (Option.map key)) 0 then 1 else 0 := by
  cases offer with
  | none => simp
  | some r => by_cases hr : key r ∈ taken <;> simp [hr, Option.filter]

/-- How many offers are new, from the second one on. -/
theorem count_isNew_cons {taken taken' : List κ} {key : ρ → κ} {offer : Option ρ}
    {offers : List (Option ρ)} (h : ∀ k, k ∈ taken' ↔ k ∈ taken ∨ offer.map key = some k)
    (i : Nat) :
    Nat.count (IsNew taken ((offer :: offers).map (Option.map key))) (i + 1)
      = (offer.filter fun r => decide (key r ∉ taken)).toList.length
        + Nat.count (IsNew taken' (offers.map (Option.map key))) i := by
  rw [length_filter_offer taken key offer offers]
  exact count_isNew_succ h i

/-- Where a new offer stands among the new offers. -/
theorem newOffers_getElem? {taken : List κ} {key : ρ → κ} {offers : List (Option ρ)} {i : Nat}
    (hnew : IsNew taken (offers.map (Option.map key)) i) :
    (newOffers taken key offers)[Nat.count (IsNew taken (offers.map (Option.map key))) i]?
      = offers[i]?.join := by
  induction offers generalizing taken i with
  | nil => simp [IsNew] at hnew
  | cons offer offers ih =>
    have htaken := mem_toList_append taken (offer.map key)
    rw [newOffers_cons htaken]
    cases i with
    | zero =>
      obtain ⟨k, hk, hfresh⟩ := isNew_zero.mp hnew
      obtain ⟨r, rfl, rfl⟩ := Option.map_eq_some_iff.mp hk
      simp [hfresh, Option.filter]
    | succ i =>
      rw [count_isNew_cons htaken, List.getElem?_append_right (Nat.le_add_right _ _),
        Nat.add_sub_cancel_left, List.getElem?_cons_succ]
      exact ih ((isNew_succ htaken).mp hnew)

end merging

end Registry
