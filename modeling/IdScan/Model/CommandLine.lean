import IdScan.Model.Output

/-! # The command line

  `main` of `read_improved.py` from `readers()` on: the choice of a reader, and
  the connection to the card in it. What is behind the connection is `main` of
  the module on the output.
-/

namespace IdScan

namespace ReadImproved

/-- `xs[i]`, with the negative indices from the end; `none` where it raises. -/
def pyGet {α : Type} (xs : List α) (i : Int) : Option α :=
  if 0 ≤ i then xs[i.toNat]?
  else if -(xs.length : Int) ≤ i then xs[(xs.length + i).toNat]?
  else none

example : pyGet [10, 20, 30] (-1) = some 30 ∧ pyGet [10, 20, 30] (-4) = none := by decide

/-- A reader of the list: what comes of `createConnection`, `connect` and
    `getATR`. -/
structure CardReader where
  connect : Except PyExc (List UInt8 × Connection)

/-- The arguments of `main`. -/
structure Options extends Args where
  reader : Int

/-- `main` down to the ATR. `none` stands for its two returns of 1, which are
    no exceptions. -/
def connectReader (readers : Except PyExc (List CardReader)) (index : Int) :
    Except PyExc (Option (List UInt8 × Connection)) := do
  let reader_list ← readers
  if reader_list.isEmpty then
    return none
  -- only this side is guarded; an index too far below 0 raises
  if index ≥ reader_list.length then
    return none
  match pyGet reader_list index with
  | none => throw .other
  | some reader =>
    let connected ← reader.connect
    return some connected

/-- `main`, from `readers()` on: the exit code. -/
def main_of_readers (fs : FileSystem) (binString : List UInt8 → Contents) (now : Str)
    (readers : Except PyExc (List CardReader)) (args : Options) : StateM RunLog Nat :=
  match connectReader readers args.reader with
  | .error _ => return 1
  | .ok none => return 1
  | .ok (some (atr, connection)) => main fs binString now connection atr args.toArgs

end ReadImproved

/-! ### What a run leaves in the files -/

/-- The call did not raise. -/
def FileCall.succeeded : FileCall → Bool
  | .exists_ _ _ => true
  | .makedirs _ outcome => outcome.isOk
  | .open_ _ outcome => outcome.isOk
  | .write _ outcome => outcome.isOk

/-- The file that is open, and the files that have been written so far. -/
structure Writing where
  opened : Option Str
  written : List (Str × Contents)

def Writing.call (w : Writing) : FileCall → Writing
  | .open_ path (.ok _) => { w with opened := some path }
  | .write contents (.ok _) =>
    { opened := none, written := w.written ++ w.opened.toList.map fun path => (path, contents) }
  | _ => w

/-- The files that were written, with their contents. One whose writing raised
    is not among them. -/
def writtenFiles (log : FileLog) : List (Str × Contents) :=
  (log.foldl Writing.call ⟨none, []⟩).written

end IdScan
