import IdScan.Framework.Pieces

/-! # Texts stored in a memory

  A text is stored symbol by symbol, in a slot of a fixed length that is filled
  up behind it. What is written to a slot is read from it again (`read_write`),
  as long as what is written later lies apart (`read_write_apart`). A slot
  decodes to the text and its filling (`Code.decode_slot`), so that the text
  comes back once the filling is trimmed away (`Code.trim_decode_slot`).
-/

namespace Image

universe u v

/-! ### Symbols and their codes -/

/-- A partial code: what a symbol is encoded to decodes to it. -/
structure Code (α : Type u) (β : Type v) where
  enc : α → Option β
  dec : β → Option α
  dec_of_enc : ∀ {a b}, enc a = some b → dec b = some a

namespace Code

variable {α : Type u} {β : Type v} (code : Code α β)

/-- A text that can be encoded decodes to itself. -/
theorem decode_encode {s : List α} {d : List β} (h : s.mapM code.enc = some d) :
    d.mapM code.dec = some s := by
  induction s generalizing d with
  | nil =>
    obtain rfl : [] = d := by simpa using h
    rfl
  | cons a s ih =>
    rw [List.mapM_cons, Option.bind_eq_bind, Option.bind_eq_some_iff] at h
    obtain ⟨b, hb, h⟩ := h
    rw [Option.bind_eq_bind, Option.bind_eq_some_iff] at h
    obtain ⟨rest, hrest, h⟩ := h
    obtain rfl : b :: rest = d := by simpa using h
    rw [List.mapM_cons, code.dec_of_enc hb, ih hrest]
    rfl

/-- A text in a slot of `n`, filled up behind it. `none` if it does not fit, or
    has no code. -/
def slot (fill : β) (n : Nat) (s : List α) : Option (List β) :=
  (s.mapM code.enc).bind fun d =>
    if d.length ≤ n then some (d ++ List.replicate (n - d.length) fill) else none

theorem length_of_slot {fill : β} {n : Nat} {s : List α} {bytes : List β}
    (h : code.slot fill n s = some bytes) : bytes.length = n := by
  unfold slot at h
  rw [Option.bind_eq_some_iff] at h
  obtain ⟨d, -, h⟩ := h
  split at h
  · next hlen =>
    obtain rfl := Option.some.inj h
    rw [List.length_append, List.length_replicate]
    omega
  · cases h

/-- A slot decodes to the text, with the filling behind it. -/
theorem decode_slot {fill : β} {blank : α} (hfill : code.dec fill = some blank) {n : Nat}
    {s : List α} {bytes : List β} (h : code.slot fill n s = some bytes) :
    ∃ k, bytes.mapM code.dec = some (s ++ List.replicate k blank) := by
  unfold slot at h
  rw [Option.bind_eq_some_iff] at h
  obtain ⟨d, hd, h⟩ := h
  split at h
  · obtain rfl := Option.some.inj h
    have hblank : ∀ k, (List.replicate k fill).mapM code.dec = some (List.replicate k blank) := by
      intro k
      induction k with
      | zero => rfl
      | succ k ih =>
        rw [List.replicate_succ, List.mapM_cons, hfill, ih]
        rfl
    refine ⟨n - d.length, ?_⟩
    rw [List.mapM_append, code.decode_encode hd, hblank]
    rfl
  · cases h

/-- **What is stored comes back**, once the filling is trimmed away. -/
theorem trim_decode_slot {fill : β} {blank : α} (hfill : code.dec fill = some blank)
    {p : α → Bool} (hblank : p blank = true) {n : Nat} {s : List α} (hs : Text.trim p s = s)
    {bytes : List β} (h : code.slot fill n s = some bytes) :
    ∃ decoded, bytes.mapM code.dec = some decoded ∧ Text.trim p decoded = s := by
  obtain ⟨k, hk⟩ := code.decode_slot hfill h
  refine ⟨_, hk, ?_⟩
  rw [Text.trim_append_right, hs]
  intro x hx
  rw [(List.mem_replicate.mp hx).2]
  exact hblank

end Code

/-! ### Slots of a memory -/

variable {β : Type v}

/-- The `length` bytes at `offset`. -/
def read (mem : Nat → β) (offset length : Nat) : List β :=
  (List.range' offset length).map mem

/-- The memory with these bytes at `offset`. -/
def write (mem : Nat → β) (offset : Nat) (bytes : List β) : Nat → β := fun i =>
  if offset ≤ i then (bytes[i - offset]?).getD (mem i) else mem i

theorem read_write (mem : Nat → β) (offset : Nat) (bytes : List β) :
    read (write mem offset bytes) offset bytes.length = bytes := by
  apply List.ext_getElem
  · simp [read]
  · intro i hi hi'
    simp [read, write, hi']

/-- What lies apart is as it was. -/
theorem read_write_apart (mem : Nat → β) {offset at_ length : Nat} {bytes : List β}
    (h : at_ + length ≤ offset ∨ offset + bytes.length ≤ at_) :
    read (write mem offset bytes) at_ length = read mem at_ length := by
  unfold read
  apply List.map_congr_left
  intro i hi
  rw [List.mem_range'_1] at hi
  unfold write
  split
  · next hle =>
    rw [List.getElem?_eq_none (by omega)]
    rfl
  · rfl

end Image
