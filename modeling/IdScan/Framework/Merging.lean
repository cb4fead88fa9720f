import IdScan.Framework.Registry
import Mathlib.Data.List.ReduceOption
import Mathlib.Data.List.Perm.Lattice

/-! # Laws of merging

  A merge enrols one offer after the other, so that merging the offers of two
  lists is merging twice. A record once enrolled is never replaced: under a key
  one finds the record that was there, or else the first that was offered
  (`find_merge`). So which keys there are does not depend on the order of the
  offers, and offers with distinct keys are taken unless their key was there
  before.
-/

namespace Registry

universe u v

variable {ρ : Type u} {κ : Type v} [DecidableEq κ] {key : ρ → κ}

theorem merge_append (records : List ρ) (offers offers' : List (Option ρ)) :
    merge key records (offers ++ offers') = merge key (merge key records offers) offers' := by
  induction offers generalizing records with
  | nil => rfl
  | cons offer offers ih =>
    cases offer with
    | none => exact ih records
    | some r => exact ih (enroll key records r)

/-! ### What is found under a key -/

/-- The record under a key. -/
def under (key : ρ → κ) (records : List ρ) (k : κ) : Option ρ :=
  records.find? fun r => decide (key r = k)

theorem under_isSome_iff {records : List ρ} {k : κ} :
    (under key records k).isSome = true ↔ k ∈ records.map key := by
  simp [under]

theorem under_enroll (records : List ρ) (r : ρ) (k : κ) :
    under key (enroll key records r) k
      = (under key records k).or (if key r = k then some r else none) := by
  unfold enroll
  by_cases hholds : Holds key records (key r)
  · rw [if_pos hholds]
    by_cases hk : key r = k
    · -- the record that is there stays
      have hsome : (under key records k).isSome = true := by
        rw [under_isSome_iff, ← hk]
        exact holds_iff_mem.mp hholds
      obtain ⟨there, hthere⟩ := Option.isSome_iff_exists.mp hsome
      rw [hthere, Option.some_or]
    · rw [if_neg hk, Option.or_none]
  · rw [if_neg hholds, under, List.find?_append, List.find?_singleton]
    by_cases hk : key r = k
    · simp [under, hk]
    · simp [under, hk]

/-- **The first one stays**: under a key there is the record that was there, or
    else the first that was offered. -/
theorem find_merge (records : List ρ) (offers : List (Option ρ)) (k : κ) :
    under key (merge key records offers) k
      = (under key records k).or (under key offers.reduceOption k) := by
  induction offers generalizing records with
  | nil => exact (Option.or_none).symm
  | cons offer offers ih =>
    cases offer with
    | none =>
      rw [merge, ih, List.reduceOption_cons_of_none]
    | some r =>
      rw [merge, ih, under_enroll, List.reduceOption_cons_of_some, Option.or_assoc]
      have hcons : under key (r :: offers.reduceOption) k
          = (if key r = k then some r else none).or (under key offers.reduceOption k) := by
        by_cases hk : key r = k
        · simp [under, hk]
        · simp [under, hk]
      rw [hcons]

/-! ### The keys -/

theorem mem_keys_merge {records : List ρ} {offers : List (Option ρ)} {k : κ} :
    k ∈ (merge key records offers).map key ↔
      k ∈ records.map key ∨ k ∈ offers.reduceOption.map key := by
  rw [← under_isSome_iff, ← under_isSome_iff, ← under_isSome_iff, find_merge, Option.isSome_or,
    Bool.or_eq_true]

theorem nodup_keys_merge {records : List ρ} (h : (records.map key).Nodup)
    (offers : List (Option ρ)) : ((merge key records offers).map key).Nodup := by
  induction offers generalizing records with
  | nil => exact h
  | cons offer offers ih =>
    cases offer with
    | none => exact ih h
    | some r =>
      have hwf : WellFormed key (fun _ => True) records := ⟨h, fun _ _ => trivial⟩
      exact ih (hwf.enroll trivial).nodup

/-- **The order does not matter to the keys.** -/
theorem perm_keys_merge {records : List ρ} (h : (records.map key).Nodup)
    {offers offers' : List (Option ρ)}
    (hsame : ∀ k, k ∈ offers.reduceOption.map key ↔ k ∈ offers'.reduceOption.map key) :
    ((merge key records offers).map key).Perm ((merge key records offers').map key) := by
  rw [List.perm_ext_iff_of_nodup (nodup_keys_merge h offers) (nodup_keys_merge h offers')]
  intro k
  rw [mem_keys_merge, mem_keys_merge, hsame]

/-! ### Offers that are distinct -/

/-- Offers with distinct keys are taken unless their key was there before. -/
theorem merge_of_nodup (records : List ρ) {offers : List ρ} (h : (offers.map key).Nodup) :
    merge key records (offers.map some)
      = records ++ offers.filter fun r => decide (¬ Holds key records (key r)) := by
  induction offers generalizing records with
  | nil => exact (List.append_nil _).symm
  | cons r offers ih =>
    rw [List.map_cons, List.nodup_cons] at h
    obtain ⟨hr, hrest⟩ := h
    rw [List.map_cons, merge, ih _ hrest]
    unfold enroll
    by_cases hholds : Holds key records (key r)
    · rw [if_pos hholds, List.filter_cons_of_neg (by simpa using hholds)]
    · rw [if_neg hholds, List.filter_cons_of_pos (by simpa using hholds), List.append_assoc]
      -- the key of this offer is none of those behind it
      have hfilter : (offers.filter fun x => decide (¬ Holds key (records ++ [r]) (key x)))
          = offers.filter fun x => decide (¬ Holds key records (key x)) := by
        apply List.filter_congr
        intro x hx
        have hne : key r ≠ key x := fun heq => hr (heq ▸ List.mem_map_of_mem hx)
        have hsame : Holds key (records ++ [r]) (key x) ↔ Holds key records (key x) := by
          rw [holds_iff_mem, holds_iff_mem, List.map_append, List.mem_append, List.map_singleton,
            List.mem_singleton]
          exact or_iff_left (Ne.symm hne)
        simp only [hsame]
      rw [hfilter]
      rfl

end Registry
