import IdScan.Model.CommandLine
import IdScan.Proofs.JsonFile
import IdScan.Proofs.OutputFiles

/-! # The command line, from the readers to the files

  A run of `read_improved.py` ends with the exit code 0 exactly if the reader is
  there and connects, the card accepts the SELECT, and no call to the file
  system raises. What fails at the card behind the SELECT is not seen.

  The calls to the file system stop at the first that raises, so that the files
  a run has written are always those it should write, from the first on. From a
  card that serves its memory they are what `HexListToBinString` makes of the
  photo, where a binary file takes it, and a record that reads back.
-/

namespace IdScan

/-! ### Stages of calls -/

/-- A file to be saved. -/
structure FileJob where
  path : Str
  mode : FileMode
  contents : Contents

/-- The file that comes of it. -/
def FileJob.file (job : FileJob) : Str × Contents := (job.path, job.contents)

/-- The file takes its contents. -/
def FileJob.Fits (job : FileJob) : Prop := job.contents.fits job.mode = true

/-- A stage of a run, by its calls to the file system: it goes well exactly if
    none of them raises, it stops at the first that does, and it writes the
    named files from the first on, each of which takes its contents. -/
structure Stage (named : List FileJob) (calls : FileLog) (done : Prop) : Prop where
  done_iff : done ↔ ∀ call ∈ calls, call.succeeded = true
  stops : ∀ call ∈ calls.dropLast, call.succeeded = true
  writes : ∃ written, written <+: named ∧ (∀ job ∈ written, job.Fits) ∧ (done → written = named) ∧
    ∀ w : Writing, (calls.foldl Writing.call w).written
      = w.written ++ written.map FileJob.file

section stages
variable {named named' : List FileJob} {calls calls' : FileLog} {done done' : Prop}

/-- Nothing was to be written. -/
theorem Stage.nil (hdone : done) : Stage [] [] done where
  done_iff := ⟨by simp, fun _ => hdone⟩
  stops := by simp
  writes := ⟨[], List.prefix_rfl, by simp, fun _ => rfl, fun w => (List.append_nil _).symm⟩

/-- One stage after the other. -/
theorem Stage.trans (h : Stage named calls done) (hdone : done) (h' : Stage named' calls' done') :
    Stage (named ++ named') (calls ++ calls') done' := by
  obtain ⟨written, -, hfits, hall, hfold⟩ := h.writes
  obtain ⟨written', hpre', hfits', hall', hfold'⟩ := h'.writes
  have hwritten : written = named := hall hdone
  have hgood : ∀ call ∈ calls, call.succeeded = true := h.done_iff.mp hdone
  refine ⟨?_, ?_, written ++ written', ?_, ?_, ?_, ?_⟩
  · rw [h'.done_iff]
    constructor
    · intro hgood' call hmem
      rcases List.mem_append.mp hmem with hmem | hmem
      · exact hgood call hmem
      · exact hgood' call hmem
    · intro hboth call hmem
      exact hboth call (List.mem_append_right _ hmem)
  · intro call hmem
    by_cases hnil : calls' = []
    · rw [hnil, List.append_nil] at hmem
      exact h.stops call hmem
    · rw [List.dropLast_append_of_ne_nil hnil] at hmem
      rcases List.mem_append.mp hmem with hmem | hmem
      · exact hgood call hmem
      · exact h'.stops call hmem
  · rw [hwritten, List.prefix_append_right_inj]
    exact hpre'
  · intro job hjob
    rcases List.mem_append.mp hjob with hjob | hjob
    · exact hfits job hjob
    · exact hfits' job hjob
  · intro hdone'
    rw [hwritten, hall' hdone']
  · intro w
    rw [List.foldl_append, hfold', hfold, List.map_append, List.append_assoc]

/-- The run stopped in this stage. -/
theorem Stage.stop (h : Stage named calls done) (hstop : ¬ done) (hstop' : ¬ done') :
    Stage (named ++ named') calls done' where
  done_iff := by
    rw [← h.done_iff]
    exact iff_of_false hstop' hstop
  stops := h.stops
  writes := by
    obtain ⟨written, hpre, hfits, -, hfold⟩ := h.writes
    exact ⟨written, hpre.trans (List.prefix_append _ _), hfits, fun hdone => absurd hdone hstop',
      hfold⟩

/-- What counts as going well may be said in another way. -/
theorem Stage.congr (h : Stage named calls done) (hiff : done ↔ done') :
    Stage named calls done' := by
  have heq : done = done' := propext hiff
  rwa [heq] at h

/-- A stage has written the named files behind those before it, from the first
    on. -/
theorem Stage.writtenFiles (h : Stage named calls done) (log : FileLog) :
    ∃ written, writtenFiles (log ++ calls) = writtenFiles log ++ written.map FileJob.file ∧
      written <+: named ∧ (∀ job ∈ written, job.Fits) ∧ (done → written = named) := by
  obtain ⟨written, hpre, hfits, hall, hfold⟩ := h.writes
  refine ⟨written, ?_, hpre, hfits, hall⟩
  show ((log ++ calls).foldl Writing.call ⟨none, []⟩).written = _
  rw [List.foldl_append, hfold]
  rfl

end stages

namespace FileSystem

open ReadImproved (run_bind run_bind_lift run_bind_mk)

variable (fs : FileSystem)

/-- The calls of `makeDirectory`. -/
theorem makeDirectory_calls (output_dir : Str) (log : FileLog) :
    (fs.makeDirectory output_dir).run log =
      (let log₁ := log ++ [.exists_ output_dir (fs.exists_ log output_dir)]
       if fs.exists_ log output_dir then (.ok (), log₁)
       else (fs.makedirs log₁ output_dir,
         log₁ ++ [.makedirs output_dir (fs.makedirs log₁ output_dir)])) := by
  unfold makeDirectory
  rw [run_bind_lift]
  unfold callExists
  dsimp only
  cases fs.exists_ log output_dir <;> rfl

/-- The calls of `writeFile`. -/
theorem writeFile_calls (filename : Str) (mode : FileMode) (contents : Contents) (log : FileLog) :
    (fs.writeFile filename mode contents).run log =
      match fs.open_ log filename with
      | .error e => (.error e, log ++ [.open_ filename (.error e)])
      | .ok _ =>
        let log₁ := log ++ [.open_ filename (.ok ())]
        let outcome := if contents.fits mode then fs.write log₁ contents else .error .other
        (outcome, log₁ ++ [.write contents outcome]) := by
  unfold writeFile
  rw [run_bind_mk]
  unfold callOpen
  dsimp only
  cases fs.open_ log filename <;> rfl

/-- Making the directory writes nothing. -/
theorem stage_makeDirectory (output_dir : Str) (log : FileLog) :
    ∃ calls, ((fs.makeDirectory output_dir).run log).2 = log ++ calls ∧
      Stage [] calls (((fs.makeDirectory output_dir).run log).1.isOk = true) := by
  rw [makeDirectory_calls]
  dsimp only
  by_cases hfound : fs.exists_ log output_dir = true
  · rw [if_pos hfound]
    refine ⟨[.exists_ output_dir (fs.exists_ log output_dir)], rfl, ?_, by simp, ?_⟩
    · simp [FileCall.succeeded, Except.isOk, Except.toBool]
    · exact ⟨[], List.prefix_rfl, by simp, fun _ => rfl, fun w => (List.append_nil _).symm⟩
  · rw [if_neg hfound]
    generalize fs.makedirs _ output_dir = outcome
    refine ⟨[.exists_ output_dir (fs.exists_ log output_dir), .makedirs output_dir outcome],
      List.append_assoc _ _ _, ?_, ?_, ?_⟩
    · simp [FileCall.succeeded]
    · simp [FileCall.succeeded]
    · exact ⟨[], List.prefix_rfl, by simp, fun _ => rfl, fun w => (List.append_nil _).symm⟩

/-- Writing a file: where it goes well, the file takes the contents and has
    them. -/
theorem stage_writeFile (job : FileJob) (log : FileLog) :
    ∃ calls, ((fs.writeFile job.path job.mode job.contents).run log).2 = log ++ calls ∧
      Stage [job] calls
        (((fs.writeFile job.path job.mode job.contents).run log).1.isOk = true) := by
  rw [writeFile_calls]
  cases fs.open_ log job.path with
  | error e =>
    refine ⟨[.open_ job.path (.error e)], rfl, ?_, by simp, ?_⟩
    · simp [FileCall.succeeded, Except.isOk, Except.toBool]
    · refine ⟨[], List.nil_prefix, by simp, ?_, fun w => (List.append_nil _).symm⟩
      intro hdone
      exact absurd hdone (by simp [Except.isOk, Except.toBool])
  | ok _ =>
    dsimp only
    generalize hwrite : (if job.contents.fits job.mode = true then
      fs.write (log ++ [.open_ job.path (.ok ())]) job.contents else .error .other) = outcome
    refine ⟨[.open_ job.path (.ok ()), .write job.contents outcome], ?_, ?_, ?_, ?_⟩
    · rw [List.append_assoc]
      rfl
    · simp [FileCall.succeeded, Except.isOk, Except.toBool]
    · simp [FileCall.succeeded, Except.isOk, Except.toBool]
    · cases outcome with
      | error e =>
        refine ⟨[], List.nil_prefix, by simp, ?_, fun w => (List.append_nil _).symm⟩
        intro hdone
        exact absurd hdone (by simp [Except.isOk, Except.toBool])
      | ok _ =>
        -- what does not fit is never written
        have hfits : job.contents.fits job.mode = true := by
          by_contra hnot
          rw [if_neg hnot] at hwrite
          cases hwrite
        exact ⟨[job], List.prefix_rfl, by simpa [FileJob.Fits] using hfits, fun _ => rfl,
          fun w => rfl⟩

/-- **Saving a file**: the directory, and then the file. -/
theorem stage_save (output_dir : Str) (job : FileJob) (log : FileLog) :
    ∃ calls, ((fs.save output_dir job.path job.mode job.contents).run log).2 = log ++ calls ∧
      Stage [job] calls
        (((fs.save output_dir job.path job.mode job.contents).run log).1.isOk = true) := by
  rw [save_run]
  dsimp only
  obtain ⟨made, hmade, hstage⟩ := fs.stage_makeDirectory output_dir log
  cases hresult : ((fs.makeDirectory output_dir).run log).1 with
  | error e =>
    rw [hresult] at hstage
    refine ⟨made, hmade, ?_⟩
    exact hstage.stop (by simp [Except.isOk, Except.toBool]) (by simp [Except.isOk, Except.toBool])
  | ok _ =>
    rw [hresult] at hstage
    obtain ⟨calls, hcalls, hwrite⟩ :=
      fs.stage_writeFile job ((fs.makeDirectory output_dir).run log).2
    refine ⟨made ++ calls, ?_, ?_⟩
    · rw [← List.append_assoc, ← hmade]
      exact hcalls
    · refine hstage.trans rfl (hwrite.congr ?_)
      generalize ((fs.writeFile job.path job.mode job.contents).run _).1 = outcome
      cases outcome <;> simp [Except.map, Except.isOk, Except.toBool]

end FileSystem

namespace ReadImproved

/-- **A record that was saved reads back**: where `save_to_json` returns, it has
    written one more file, and that file is named after the record and reads back
    to it, whatever characters the fields hold. -/
theorem saved_json_reads_back (fs : FileSystem) (data : CardData) (output_dir path linesep : Str)
    (log : FileLog) (hsaved : ((save_to_json fs data output_dir).run log).1 = .ok path)
    (hsep : ∀ c ∈ linesep, Json.isBlank c = true) :
    path = outputFile output_dir data.cid ".json".toList ∧
      ∃ text, writtenFiles ((save_to_json fs data output_dir).run log).2
          = writtenFiles log ++ [(path, .text text)] ∧
        loadRecord (textMode linesep text) = some data := by
  have hpath : path = outputFile output_dir data.cid ".json".toList := fs.save_eq_ok hsaved
  obtain ⟨calls, hcalls, hstage⟩ := fs.stage_save output_dir
    ⟨outputFile output_dir data.cid ".json".toList, .text, .text (jsonDump data)⟩ log
  obtain ⟨written, hwritten, -, -, hall⟩ := hstage.writtenFiles log
  have hok : ((save_to_json fs data output_dir).run log).1.isOk = true := by
    rw [hsaved]
    rfl
  have hlog : ((save_to_json fs data output_dir).run log).2 = log ++ calls := hcalls
  refine ⟨hpath, jsonDump data, ?_, load_jsonDump data hsep⟩
  rw [hlog, hwritten, hall hok, hpath]
  rfl

/-- A record whose fields hold quotes, backslashes and line breaks. -/
def oddRecord : CardData :=
  ⟨"1".toList, "\"".toList, "\\".toList, "\r\n".toList, [], [], [], [], "\x01\x1f".toList, none, []⟩

theorem saved_json_reads_back_oddRecord :
    ∃ text, writtenFiles ((save_to_json plainDisk oddRecord "output".toList).run []).2
        = [("output/1.json".toList, .text text)] ∧
      loadRecord (textMode "\r\n".toList text) = some oddRecord :=
  (saved_json_reads_back plainDisk oddRecord "output".toList "output/1.json".toList "\r\n".toList
    [] rfl (List.all_eq_true.mp (by decide))).2

/-! ### From the accepted SELECT to the files -/

/-- The card accepts the SELECT, and `req` is the response code for its ATR. -/
def Accepts (connection : Connection) (atr : List UInt8) (req : Apdu) (r : Response) : Prop :=
  requestCode atr = some req ∧ connection.respond [] (SELECT ++ THAI_CARD) = .ok r ∧
    r.sw1 = 0x90 ∧ r.sw2 = 0x00

/-- The session behind the SELECT. -/
def selected (r : Response) : Session := [⟨SELECT ++ THAI_CARD, .ok r⟩]

section saving
variable (binString : List UInt8 → Contents) (now : Str) (connection : Connection) (req : Apdu)
  (args : Args) (ses : Session)

/-- The record a run saves. -/
def savedRecord : CardData :=
  let card_data := (readRecord now connection req ses).1
  if args.photo then
    { card_data with
      photo_path := some (outputFile args.output_dir card_data.cid ".jpg".toList) }
  else card_data

/-- The photo a run saves, if one is asked for. -/
def savedPhoto : List FileJob :=
  let read := readRecord now connection req ses
  if args.photo then
    [⟨outputFile args.output_dir read.1.cid ".jpg".toList, .binary,
      binString (read_photo connection req CMD_PHOTO [] read.2).1⟩]
  else []

/-- The text a run saves, if one is asked for. -/
def savedJson : List FileJob :=
  let card_data := savedRecord now connection req args ses
  if args.json then
    [⟨outputFile args.output_dir card_data.cid ".json".toList, .text, .text (jsonDump card_data)⟩]
  else []

/-- The photo part, on a record that was just read. -/
theorem stage_photoPart (fs : FileSystem) (hphoto : args.photo = true) :
    let read := readRecord now connection req ses
    let run := (photoPart fs binString connection req args.output_dir read.1).run ⟨read.2, []⟩
    Stage (savedPhoto binString now connection req args ses) run.2.files (run.1.isOk = true) ∧
      ∀ card_data, run.1 = .ok card_data → card_data = savedRecord now connection req args ses := by
  dsimp only
  rw [photoPart_run]
  unfold savedPhoto savedRecord
  dsimp only
  rw [if_pos hphoto, if_pos hphoto]
  generalize readRecord now connection req ses = read
  generalize read_photo connection req CMD_PHOTO [] read.2 = photo
  obtain ⟨calls, hcalls, hstage⟩ := fs.stage_save args.output_dir
    ⟨outputFile args.output_dir read.1.cid ".jpg".toList, .binary, binString photo.1⟩ []
  have hfiles :
      ((save_photo_file fs binString args.output_dir read.1.cid photo.1).run []).2 = calls :=
    hcalls
  rw [hfiles]
  refine ⟨hstage.congr ?_, ?_⟩
  · show ((save_photo_file fs binString args.output_dir read.1.cid photo.1).run []).1.isOk = true ↔ _
    generalize ((save_photo_file fs binString args.output_dir read.1.cid photo.1).run []).1 = outcome
    cases outcome <;> simp [Except.map, Except.isOk, Except.toBool]
  · intro card_data h
    generalize ((save_photo_file fs binString args.output_dir read.1.cid photo.1).run []).1 = outcome at h
    cases outcome with
    | error e => simp [Except.map] at h
    | ok path => exact (Except.ok.inj h).symm

/-- `read_thai_id_card` on a card that accepts the SELECT: the photo is all it
    saves, and the record is there if that goes well. -/
theorem stage_read (fs : FileSystem) {atr : List UInt8} {r : Response}
    (h : Accepts connection atr req r) :
    let run := (read_thai_id_card_saving fs binString now connection atr args.photo args.output_dir).run
      ⟨[], []⟩
    Stage (savedPhoto binString now connection req args (selected r)) run.2.files (run.1.isOk = true) ∧
      ∀ found, run.1 = .ok found →
        found = some (savedRecord now connection req args (selected r)) := by
  obtain ⟨hreq, hselect, hsw1, hsw2⟩ := h
  have haccepted : ¬ (r.sw1 ≠ 0x90 ∨ r.sw2 ≠ 0x00) := by simp [hsw1, hsw2]
  dsimp only
  rw [read_thai_id_card_saving_run, hreq]
  dsimp only
  rw [hselect]
  dsimp only
  rw [if_neg haccepted]
  have hses : ([] : Session) ++ [⟨SELECT ++ THAI_CARD, .ok r⟩] = selected r := rfl
  rw [hses]
  by_cases hphoto : args.photo = true
  · rw [if_pos hphoto]
    obtain ⟨hstage, hrecord⟩ := stage_photoPart binString now connection req args (selected r) fs hphoto
    generalize (photoPart fs binString connection req args.output_dir _).run _ = saved at hstage hrecord ⊢
    refine ⟨hstage.congr ?_, ?_⟩
    · cases saved.1 <;> simp [Except.map, Except.isOk, Except.toBool]
    · intro found hfound
      cases hsaved : saved.1 with
      | error e => simp [hsaved, Except.map] at hfound
      | ok card_data =>
        rw [hsaved] at hfound
        rw [← hrecord card_data hsaved]
        exact (Except.ok.inj hfound).symm
  · rw [if_neg hphoto]
    unfold savedPhoto savedRecord
    dsimp only
    rw [if_neg hphoto, if_neg hphoto]
    refine ⟨.nil rfl, ?_⟩
    intro found hfound
    exact (Except.ok.inj hfound).symm

/-- The text is saved behind the photo. -/
theorem stage_mainBody (fs : FileSystem) {atr : List UInt8} {r : Response}
    (h : Accepts connection atr req r) :
    let run := (mainBody fs binString now connection atr args).run ⟨[], []⟩
    Stage (savedPhoto binString now connection req args (selected r)
        ++ savedJson now connection req args (selected r)) run.2.files (run.1 = .ok 0) ∧
      ∀ code, run.1 = .ok code → code = 0 := by
  obtain ⟨hstage, hrecord⟩ := stage_read binString now connection req args fs h
  dsimp only at hstage hrecord ⊢
  unfold mainBody
  rw [run_bind]
  generalize (read_thai_id_card_saving fs binString now connection atr args.photo args.output_dir).run
    ⟨[], []⟩ = read at hstage hrecord
  obtain ⟨outcome, log⟩ := read
  cases outcome with
  | error e =>
    refine ⟨hstage.stop ?_ ?_, ?_⟩
    · simp [Except.isOk, Except.toBool]
    · simp
    · simp
  | ok found =>
    have hfound : found = some (savedRecord now connection req args (selected r)) :=
      hrecord found rfl
    rw [hfound]
    dsimp only at hstage ⊢
    unfold savedJson
    dsimp only
    by_cases hjson : args.json = true
    · rw [if_pos hjson, if_pos hjson, run_bind_mk, onFiles_apply]
      generalize savedRecord now connection req args (selected r) = card_data
      obtain ⟨calls, hcalls, hsave⟩ := fs.stage_save args.output_dir
        ⟨outputFile args.output_dir card_data.cid ".json".toList, .text,
          .text (jsonDump card_data)⟩ log.files
      have hfiles : ((save_to_json fs card_data args.output_dir).run log.files).2
          = log.files ++ calls := hcalls
      have hsaved : Stage _ calls
          (((save_to_json fs card_data args.output_dir).run log.files).1.isOk = true) := hsave
      generalize (save_to_json fs card_data args.output_dir).run log.files = saved at hfiles hsaved ⊢
      obtain ⟨outcome, files⟩ := saved
      dsimp only at hfiles hsaved ⊢
      have hboth := hstage.trans rfl hsaved
      rw [← hfiles] at hboth
      cases outcome with
      | error e =>
        refine ⟨hboth.congr ?_, by simp⟩
        simp [Except.isOk, Except.toBool]
      | ok path =>
        refine ⟨hboth.congr ?_, ?_⟩
        · simp [Except.isOk, Except.toBool, run_pure]
        · intro code hcode
          exact (Except.ok.inj hcode).symm
    · rw [if_neg hjson, if_neg hjson, List.append_nil]
      refine ⟨hstage.congr ?_, ?_⟩
      · simp [Except.isOk, Except.toBool, run_pure]
      · intro code hcode
        exact (Except.ok.inj hcode).symm

/-- A run on a card that accepts the SELECT. -/
theorem stage_main (fs : FileSystem) {atr : List UInt8} {r : Response}
    (h : Accepts connection atr req r) :
    Stage (savedPhoto binString now connection req args (selected r)
        ++ savedJson now connection req args (selected r))
      (main fs binString now connection atr args ⟨[], []⟩).2.files
      ((main fs binString now connection atr args ⟨[], []⟩).1 = 0) ∧
    ((main fs binString now connection atr args ⟨[], []⟩).1 = 0 ∨
      (main fs binString now connection atr args ⟨[], []⟩).1 = 1) := by
  obtain ⟨hstage, hcode⟩ := stage_mainBody binString now connection req args fs h
  rw [main_apply]
  generalize (mainBody fs binString now connection atr args).run ⟨[], []⟩ = body at hstage hcode ⊢
  obtain ⟨outcome, log⟩ := body
  cases outcome with
  | error e => exact ⟨hstage.congr (by simp), .inr rfl⟩
  | ok code => exact ⟨hstage.congr (by simp), .inl (hcode code rfl)⟩

end saving

/-- A run on any other card ends with 1 and has touched no file. -/
theorem main_of_not_accepts (fs : FileSystem) (binString : List UInt8 → Contents) (now : Str)
    {connection : Connection} {atr : List UInt8} (h : ¬ ∃ req r, Accepts connection atr req r)
    (args : Args) :
    (main fs binString now connection atr args ⟨[], []⟩).1 = 1 ∧
      (main fs binString now connection atr args ⟨[], []⟩).2.files = [] := by
  have hnot : ∀ req r, requestCode atr = some req →
      connection.respond [] (SELECT ++ THAI_CARD) = .ok r → r.sw1 ≠ 0x90 ∨ r.sw2 ≠ 0x00 := by
    intro req r hreq hselect
    by_contra haccepted
    rw [not_or, not_not, not_not] at haccepted
    exact h ⟨req, r, hreq, hselect, haccepted⟩
  rw [main_apply]
  unfold mainBody
  rw [run_bind, read_thai_id_card_saving_run]
  cases hreq : requestCode atr with
  | none => exact ⟨rfl, rfl⟩
  | some req =>
    dsimp only
    cases hselect : connection.respond [] (SELECT ++ THAI_CARD) with
    | error e => exact ⟨rfl, rfl⟩
    | ok r =>
      dsimp only
      rw [if_pos (hnot req r hreq hselect)]
      exact ⟨rfl, rfl⟩

/-! ### From the readers on -/

/-- The reader of this number is there, and connects to a card. -/
def Connects (readers : Except PyExc (List CardReader)) (index : Int) (atr : List UInt8)
    (connection : Connection) : Prop :=
  ∃ reader_list reader, readers = .ok reader_list ∧ pyGet reader_list index = some reader ∧
    reader.connect = .ok (atr, connection)

theorem Connects.unique {readers : Except PyExc (List CardReader)} {index : Int}
    {atr atr' : List UInt8} {connection connection' : Connection}
    (h : Connects readers index atr connection) (h' : Connects readers index atr' connection') :
    atr = atr' ∧ connection = connection' := by
  obtain ⟨reader_list, reader, hlist, hget, hconnect⟩ := h
  obtain ⟨reader_list', reader', hlist', hget', hconnect'⟩ := h'
  rw [hlist, Except.ok.injEq] at hlist'
  rw [hlist', hget', Option.some.injEq] at hget
  rw [hget, hconnect, Except.ok.injEq, Prod.mk.injEq] at hconnect'
  exact hconnect'

/-- A number that is found is in front of the end of the list. -/
theorem lt_length_of_pyGet {α : Type} {xs : List α} {i : Int} {x : α} (h : pyGet xs i = some x) :
    i < xs.length := by
  unfold pyGet at h
  by_cases hneg : 0 ≤ i
  · rw [if_pos hneg] at h
    obtain ⟨hlt, -⟩ := List.getElem?_eq_some_iff.mp h
    omega
  · omega

/-- The guards in front of the choice of a reader refuse nothing else. -/
theorem connectReader_eq_iff {readers : Except PyExc (List CardReader)} {index : Int}
    {atr : List UInt8} {connection : Connection} :
    connectReader readers index = .ok (some (atr, connection)) ↔
      Connects readers index atr connection := by
  unfold connectReader Connects
  cases readers with
  | error e => simp [bind, Except.bind]
  | ok reader_list =>
    show (if reader_list.isEmpty = true then _ else (_ : Except PyExc _)) = _ ↔ _
    cases hget : pyGet reader_list index with
    | none =>
      have hnone : ¬ ∃ reader_list' reader, Except.ok (ε := PyExc) reader_list = .ok reader_list' ∧
          pyGet reader_list' index = some reader ∧ reader.connect = .ok (atr, connection) := by
        intro h
        obtain ⟨reader_list', reader, heq, hsome, -⟩ := h
        cases heq
        rw [hget] at hsome
        cases hsome
      refine iff_of_false ?_ hnone
      intro h
      split at h
      · cases h
      · split at h <;> cases h
    | some reader =>
      have hlt : index < reader_list.length := lt_length_of_pyGet hget
      have hne : ¬ reader_list.isEmpty = true := by
        intro hempty
        rw [List.isEmpty_iff.mp hempty] at hget
        simp [pyGet] at hget
      rw [if_neg hne, if_neg (by omega)]
      show (reader.connect >>= fun connected => _) = _ ↔ _
      constructor
      · intro h
        cases hconnect : reader.connect with
        | error e =>
          rw [hconnect] at h
          cases h
        | ok connected =>
          rw [hconnect] at h
          refine ⟨reader_list, reader, rfl, hget, ?_⟩
          rw [hconnect, Option.some.inj (Except.ok.inj h)]
      · intro h
        obtain ⟨reader_list', reader', heq, hsome, hconnect⟩ := h
        cases heq
        rw [hget] at hsome
        cases hsome
        rw [hconnect]
        rfl

section program
variable (fs : FileSystem) (binString : List UInt8 → Contents) (now : Str)
  {readers : Except PyExc (List CardReader)} {args : Options}

/-- Behind a reader that connects, the run is that of `main`. -/
theorem main_of_connects {atr : List UInt8} {connection : Connection}
    (h : Connects readers args.reader atr connection) :
    main_of_readers fs binString now readers args = main fs binString now connection atr args.toArgs := by
  unfold main_of_readers
  rw [connectReader_eq_iff.mpr h]

/-- Without one it ends with 1 and has touched no file. -/
theorem main_of_not_connects (h : ¬ ∃ atr connection, Connects readers args.reader atr connection) :
    (main_of_readers fs binString now readers args ⟨[], []⟩).1 = 1 ∧
      (main_of_readers fs binString now readers args ⟨[], []⟩).2.files = [] := by
  unfold main_of_readers
  cases hconnect : connectReader readers args.reader with
  | error e => exact ⟨rfl, rfl⟩
  | ok found =>
    cases found with
    | none => exact ⟨rfl, rfl⟩
    | some connected =>
      exact absurd ⟨connected.1, connected.2, connectReader_eq_iff.mp hconnect⟩ h

end program

/-- **When the program reports success**: exactly if the reader is there and
    connects, the card accepts the SELECT, and no call to the file system
    raises. Otherwise it reports 1, and a call that raises is its last. -/
theorem exit_code_zero_iff (fs : FileSystem) (binString : List UInt8 → Contents) (now : Str)
    (readers : Except PyExc (List CardReader)) (args : Options) :
    let run := main_of_readers fs binString now readers args ⟨[], []⟩
    (run.1 = 0 ↔
      (∃ atr connection req r, Connects readers args.reader atr connection ∧
        Accepts connection atr req r) ∧ ∀ call ∈ run.2.files, call.succeeded = true) ∧
    (run.1 = 0 ∨ run.1 = 1) ∧ ∀ call ∈ run.2.files.dropLast, call.succeeded = true := by
  dsimp only
  by_cases hconnects : ∃ atr connection, Connects readers args.reader atr connection
  · obtain ⟨atr, connection, hconnects⟩ := hconnects
    rw [main_of_connects fs binString now hconnects]
    by_cases haccepts : ∃ req r, Accepts connection atr req r
    · obtain ⟨req, r, haccepts⟩ := haccepts
      obtain ⟨hstage, hcode⟩ := stage_main binString now connection req args.toArgs fs haccepts
      refine ⟨?_, hcode, hstage.stops⟩
      rw [hstage.done_iff]
      constructor
      · intro hgood
        exact ⟨⟨atr, connection, req, r, hconnects, haccepts⟩, hgood⟩
      · intro h
        exact h.2
    · obtain ⟨hcode, hfiles⟩ := main_of_not_accepts fs binString now haccepts args.toArgs
      rw [hcode, hfiles]
      refine ⟨iff_of_false (by decide) ?_, .inr rfl, by simp⟩
      intro h
      obtain ⟨⟨atr', connection', req, r, hconnects', haccepts'⟩, -⟩ := h
      obtain ⟨rfl, rfl⟩ := hconnects.unique hconnects'
      exact haccepts ⟨req, r, haccepts'⟩
  · obtain ⟨hcode, hfiles⟩ := main_of_not_connects fs binString now hconnects
    rw [hcode, hfiles]
    refine ⟨iff_of_false (by decide) ?_, .inr rfl, by simp⟩
    intro h
    obtain ⟨⟨atr, connection, req, r, hconnects', -⟩, -⟩ := h
    exact hconnects ⟨atr, connection, hconnects'⟩

/-! ### From the memory of a card to the files -/

/-- The text of some bytes of the memory. -/
def memoryText (mem : Nat → UInt8) (offset length : Nat) : Str :=
  thai2unicode (slice mem offset length)

/-- The record in the memory of a card. -/
def memoryRecord (mem : Nat → UInt8) (now : Str) (args : Args) : CardData where
  cid := memoryText mem 0x04 13
  th_fullname := memoryText mem 0x11 100
  en_fullname := memoryText mem 0x75 100
  birth_date := format_date (memoryText mem 0xD9 8)
  gender := genderText (memoryText mem 0xE1 1)
  issuer := memoryText mem 0xF6 100
  issue_date := format_date (memoryText mem 0x167 8)
  expire_date := format_date (memoryText mem 0x16F 8)
  address := memoryText mem 0x1579 100
  photo_path :=
    if args.photo then some (outputFile args.output_dir (memoryText mem 0x04 13) ".jpg".toList)
    else none
  read_timestamp := now

/-- The files a run is to write for the memory of a card. -/
def memoryFiles (binString : List UInt8 → Contents) (mem : Nat → UInt8) (now : Str) (args : Args) :
    List FileJob :=
  let cid := memoryText mem 0x04 13
  (if args.photo then
    [⟨outputFile args.output_dir cid ".jpg".toList, .binary, binString (slice mem 0x17B 5100)⟩]
    else [])
  ++ if args.json then
    [⟨outputFile args.output_dir cid ".json".toList, .text,
      .text (jsonDump (memoryRecord mem now args))⟩]
    else []

section memory
variable {connection : Connection} {req : Apdu} {mem : Nat → UInt8}

/-- One text of the memory. -/
theorem ServesMemory.text (h : ServesMemory connection req mem) {cmd : Apdu}
    (hcmd : cmd ∈ textCommands) (ses : Session) :
    thai2unicode (connection.getData cmd req ses).1.data
      = memoryText mem (readOffset cmd) (readLength cmd) := by
  rw [memoryText, h.getData (isRead_textCommands cmd hcmd)]

/-- The record that is read is the one in the memory. -/
theorem ServesMemory.readRecord (h : ServesMemory connection req mem) (now : Str) (ses : Session) :
    (readRecord now connection req ses).1 = memoryRecord mem now ⟨false, false, []⟩ := by
  -- each text is read at its own point of the session
  let field := fun (cmd : Apdu) (n : Nat) =>
    thai2unicode (connection.getData cmd req
      (afterReads connection req (textCommands.take n) ses)).1.data
  have hread : (ReadImproved.readRecord now connection req ses).1 =
      { cid := field CMD_CID 0
        th_fullname := field CMD_THFULLNAME 1
        en_fullname := field CMD_ENFULLNAME 2
        birth_date := format_date (field CMD_BIRTH 3)
        gender := genderText (field CMD_GENDER 4)
        issuer := field CMD_ISSUER 5
        issue_date := format_date (field CMD_ISSUE 6)
        expire_date := format_date (field CMD_EXPIRE 7)
        address := field CMD_ADDRESS 8
        photo_path := none
        read_timestamp := now } := rfl
  have hfield : ∀ cmd ∈ textCommands, ∀ n,
      field cmd n = memoryText mem (readOffset cmd) (readLength cmd) := by
    intro cmd hcmd n
    exact h.text hcmd _
  rw [hread]
  rw [hfield CMD_CID (by decide), hfield CMD_THFULLNAME (by decide),
    hfield CMD_ENFULLNAME (by decide), hfield CMD_BIRTH (by decide),
    hfield CMD_GENDER (by decide), hfield CMD_ISSUER (by decide), hfield CMD_ISSUE (by decide),
    hfield CMD_EXPIRE (by decide), hfield CMD_ADDRESS (by decide)]
  rfl

/-- The files of a run are those of the memory. -/
theorem ServesMemory.savedFiles (h : ServesMemory connection req mem)
    (binString : List UInt8 → Contents) (now : Str) (args : Args) (ses : Session) :
    savedPhoto binString now connection req args ses ++ savedJson now connection req args ses
      = memoryFiles binString mem now args := by
  have hphoto := h.read_photo isRead_CMD_PHOTO consecutive_CMD_PHOTO []
    (ReadImproved.readRecord now connection req ses).2
  rw [totalLength_CMD_PHOTO, List.nil_append] at hphoto
  have hrecord : savedRecord now connection req args ses = memoryRecord mem now args := by
    unfold savedRecord
    rw [h.readRecord]
    unfold memoryRecord
    dsimp only
    split <;> rfl
  unfold savedPhoto savedJson memoryFiles
  rw [hrecord]
  dsimp only
  rw [h.readRecord, hphoto]
  rfl

end memory

/-- Bytes as a `str` of characters with these codes. -/
def latin1 (data : List UInt8) : Contents := .text (data.map fun b => Char.ofNat b.toNat)

end ReadImproved

end IdScan
