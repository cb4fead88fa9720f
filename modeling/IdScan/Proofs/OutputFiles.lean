import IdScan.Framework.PathText
import IdScan.Model.Output
import IdScan.Proofs.Photo

/-! # Where the files go

  The photo and the JSON text are saved under the CID of the card, put behind
  the output directory as it was decoded. Nothing checks it. A file then lies in
  the output directory exactly if what stands in front of the last separator of
  the CID leads back there; a forged card can lead elsewhere.
-/

namespace IdScan

/-! ### The files a call opens -/

theorem openedFiles_append (log log' : FileLog) :
    openedFiles (log ++ log') = openedFiles log ++ openedFiles log' :=
  List.filterMap_append

/-- Between two logs some of the named files were opened, from the first on, and
    all of them if the run went well. None is opened under the empty path. -/
def Opens (output_dir : Str) (named : List Str) (before after : FileLog) (done : Prop) : Prop :=
  ∃ opened, openedFiles after = openedFiles before ++ opened ∧ opened <+: named ∧
    (opened ≠ [] → output_dir ≠ []) ∧ (done → opened = named)

section opening
variable {output_dir : Str} {named named' : List Str} {before mid after : FileLog}
  {done done' : Prop}

/-- Nothing was to be opened. -/
theorem Opens.nil : Opens output_dir [] before before done :=
  ⟨[], by simp, List.prefix_rfl, by simp, fun _ => rfl⟩

/-- The run stopped before it opened anything. -/
theorem Opens.not_started (hstop : ¬ done) : Opens output_dir named before before done :=
  ⟨[], by simp, List.nil_prefix, by simp, fun hdone => absurd hdone hstop⟩

/-- The run stopped on the way. -/
theorem Opens.stop (h : Opens output_dir named before after done) (hstop : ¬ done') :
    Opens output_dir (named ++ named') before after done' := by
  obtain ⟨opened, heq, hpre, hdir, -⟩ := h
  refine ⟨opened, heq, ?_, hdir, fun hdone => absurd hdone hstop⟩
  exact hpre.trans (List.prefix_append _ _)

/-- One stage after the other. -/
theorem Opens.trans (h : Opens output_dir named before mid done) (hdone : done)
    (h' : Opens output_dir named' mid after done') :
    Opens output_dir (named ++ named') before after done' := by
  obtain ⟨opened, heq, -, hdir, hall⟩ := h
  obtain ⟨opened', heq', hpre', hdir', hall'⟩ := h'
  have hopened : opened = named := hall hdone
  refine ⟨opened ++ opened', ?_, ?_, ?_, ?_⟩
  · rw [heq', heq, List.append_assoc]
  · rw [hopened, List.prefix_append_right_inj]
    exact hpre'
  · intro hne
    by_cases hnil : opened = []
    · apply hdir'
      rwa [hnil, List.nil_append] at hne
    · exact hdir hnil
  · intro hdone'
    rw [hopened, hall' hdone']

/-- What counts as going well may be said in another way. -/
theorem Opens.congr (h : Opens output_dir named before after done) (hiff : done' → done) :
    Opens output_dir named before after done' := by
  obtain ⟨opened, heq, hpre, hdir, hall⟩ := h
  exact ⟨opened, heq, hpre, hdir, fun hdone => hall (hiff hdone)⟩

end opening

namespace FileSystem

open ReadImproved (run_bind run_bind_lift run_bind_mk)

variable (fs : FileSystem)

/-- Making the directory opens nothing, and does not go well for the empty path. -/
theorem makeDirectory_run (output_dir : Str) (log : FileLog) :
    openedFiles ((fs.makeDirectory output_dir).run log).2 = openedFiles log ∧
      (((fs.makeDirectory output_dir).run log).1 = .ok () → output_dir ≠ []) := by
  have hexists : openedFiles (fs.callExists output_dir log).2 = openedFiles log := by
    show openedFiles (log ++ [_]) = _
    rw [openedFiles_append]
    exact List.append_nil _
  unfold makeDirectory
  rw [run_bind_lift]
  by_cases hfound : (fs.callExists output_dir log).1 = true
  · rw [hfound]
    refine ⟨hexists, ?_⟩
    intro _ hnil
    rw [hnil] at hfound
    exact absurd hfound (by simp [callExists, fs.exists_nil])
  · rw [Bool.not_eq_true] at hfound
    rw [hfound]
    refine ⟨?_, ?_⟩
    · show openedFiles ((fs.callExists output_dir log).2 ++ [_]) = _
      rw [openedFiles_append, hexists]
      exact List.append_nil _
    · intro hmade hnil
      rw [hnil] at hmade
      exact fs.makedirs_nil _ hmade

/-- Writing a file opens it or nothing. -/
theorem opens_writeFile {output_dir : Str} (hdir : output_dir ≠ []) (filename : Str)
    (mode : FileMode) (contents : Contents) (log : FileLog) :
    Opens output_dir [filename] log ((fs.writeFile filename mode contents).run log).2
      (((fs.writeFile filename mode contents).run log).1 = .ok ()) := by
  unfold writeFile
  rw [run_bind_mk]
  cases hopen : (fs.callOpen filename log).1 with
  | error e =>
    refine ⟨[], ?_, List.nil_prefix, by simp, by simp⟩
    show openedFiles (log ++ [.open_ filename (fs.callOpen filename log).1]) = _
    rw [openedFiles_append, hopen]
    rfl
  | ok _ =>
    refine ⟨[filename], ?_, List.prefix_rfl, fun _ => hdir, fun _ => rfl⟩
    show openedFiles (log ++ [.open_ filename (fs.callOpen filename log).1] ++ [_]) = _
    rw [openedFiles_append, openedFiles_append, hopen]
    exact List.append_nil _

/-- A saving ends where one of its two parts does, or returns the name. -/
theorem save_run (output_dir filename : Str) (mode : FileMode) (contents : Contents)
    (log : FileLog) :
    (fs.save output_dir filename mode contents).run log =
      (let made := (fs.makeDirectory output_dir).run log
       match made.1 with
       | .error e => (.error e, made.2)
       | .ok _ =>
         (((fs.writeFile filename mode contents).run made.2).1.map fun _ => filename,
           ((fs.writeFile filename mode contents).run made.2).2)) := by
  unfold save
  rw [run_bind]
  dsimp only
  cases ((fs.makeDirectory output_dir).run log).1 with
  | error e => rfl
  | ok _ =>
    dsimp only
    rw [run_bind]
    generalize (fs.writeFile filename mode contents).run _ = written
    obtain ⟨outcome, log'⟩ := written
    cases outcome <;> rfl

theorem save_eq_ok {output_dir filename path : Str} {mode : FileMode} {contents : Contents}
    {log : FileLog} (h : ((fs.save output_dir filename mode contents).run log).1 = .ok path) :
    path = filename := by
  rw [save_run] at h
  dsimp only at h
  split at h
  · simp at h
  · generalize ((fs.writeFile filename mode contents).run _).1 = outcome at h
    cases outcome with
    | error e => simp [Except.map] at h
    | ok _ => exact (Except.ok.inj h).symm

/-- Saving opens the file or nothing. -/
theorem opens_save (output_dir filename : Str) (mode : FileMode) (contents : Contents)
    (log : FileLog) :
    Opens output_dir [filename] log ((fs.save output_dir filename mode contents).run log).2
      (∃ path, ((fs.save output_dir filename mode contents).run log).1 = .ok path) := by
  obtain ⟨hmade, hdir⟩ := fs.makeDirectory_run output_dir log
  rw [save_run]
  dsimp only
  cases hresult : ((fs.makeDirectory output_dir).run log).1 with
  | error e => exact ⟨[], by simpa using hmade, List.nil_prefix, by simp, by simp⟩
  | ok _ =>
    obtain ⟨opened, heq, hpre, hne, hall⟩ :=
      fs.opens_writeFile (hdir hresult) filename mode contents ((fs.makeDirectory output_dir).run log).2
    refine ⟨opened, by rw [← hmade]; exact heq, hpre, hne, ?_⟩
    intro hdone
    apply hall
    obtain ⟨path, hpath⟩ := hdone
    dsimp only at hpath
    generalize ((fs.writeFile filename mode contents).run _).1 = outcome at hpath ⊢
    cases outcome with
    | error e => simp [Except.map] at hpath
    | ok _ => rfl

end FileSystem

/-! ### The files of a run -/

namespace ReadImproved

theorem onCard_apply {α : Type} (x : StateM Session α) (log : RunLog) :
    onCard x log = ((x log.session).1, { log with session := (x log.session).2 }) := rfl

theorem onFiles_apply {α : Type} (x : StateM FileLog α) (log : RunLog) :
    onFiles x log = ((x log.files).1, { log with files := (x log.files).2 }) := rfl

/-- The path of a file for a CID. -/
def outputFile (output_dir cid ext : Str) : Str := output_dir ++ '/' :: (cid ++ ext)

/-- The run of the photo part. -/
theorem photoPart_run (fs : FileSystem) (binString : List UInt8 → Contents)
    (connection : Connection) (req : Apdu) (output_dir : Str) (card_data : CardData)
    (log : RunLog) :
    (photoPart fs binString connection req output_dir card_data).run log =
      (let photo := read_photo connection req CMD_PHOTO [] log.session
       let saved := (save_photo_file fs binString output_dir card_data.cid photo.1).run log.files
       (saved.1.map fun _ =>
          { card_data with photo_path := some (outputFile output_dir card_data.cid ".jpg".toList) },
         ⟨photo.2, saved.2⟩)) := by
  unfold photoPart
  rw [run_bind_lift, run_bind_mk, onCard_apply, onFiles_apply]
  dsimp only
  generalize read_photo connection req CMD_PHOTO [] log.session = photo
  cases hsaved : ((save_photo_file fs binString output_dir card_data.cid photo.1).run log.files).1 with
  | error e => rfl
  | ok path =>
    have hpath : path = outputFile output_dir card_data.cid ".jpg".toList := fs.save_eq_ok hsaved
    rw [hpath]
    rfl

/-- The run of `read_thai_id_card_saving`, down to the photo part. -/
theorem read_thai_id_card_saving_run (fs : FileSystem) (binString : List UInt8 → Contents)
    (now : Str) (connection : Connection) (atr : List UInt8) (save_photo : Bool)
    (output_dir : Str) (log : RunLog) :
    (read_thai_id_card_saving fs binString now connection atr save_photo output_dir).run log =
      match requestCode atr with
      | none => (.error .other, log)
      | some req =>
        match connection.respond log.session (SELECT ++ THAI_CARD) with
        | .error e => (.error e, ⟨log.session ++ [⟨SELECT ++ THAI_CARD, .error e⟩], log.files⟩)
        | .ok r =>
          let ses := log.session ++ [⟨SELECT ++ THAI_CARD, .ok r⟩]
          if r.sw1 ≠ 0x90 ∨ r.sw2 ≠ 0x00 then (.ok none, ⟨ses, log.files⟩)
          else
            let read := readRecord now connection req ses
            if save_photo then
              let saved :=
                (photoPart fs binString connection req output_dir read.1).run ⟨read.2, log.files⟩
              (saved.1.map some, saved.2)
            else (.ok (some read.1), ⟨read.2, log.files⟩) := by
  unfold read_thai_id_card_saving
  rw [run_bind_mk, onCard_apply, read_thai_id_card_run]
  cases requestCode atr with
  | none => rfl
  | some req =>
    dsimp only
    cases connection.respond log.session (SELECT ++ THAI_CARD) with
    | error e => rfl
    | ok r =>
      dsimp only
      by_cases hrefused : r.sw1 ≠ 0x90 ∨ r.sw2 ≠ 0x00
      · rw [if_pos hrefused, if_pos hrefused]
        rfl
      · rw [if_neg hrefused, if_neg hrefused, readSelected_false]
        dsimp only
        cases save_photo with
        | false => rfl
        | true =>
          rw [if_pos rfl, if_pos rfl, run_bind]
          split
          · next hsaved =>
            rw [hsaved]
            rfl
          · next hsaved =>
            rw [hsaved]
            rfl

/-- The host of `read_thai_id_card` with this file system behind it. -/
def savingHost (fs : FileSystem) (binString : List UInt8 → Contents) (now output_dir : Str)
    (log : FileLog) : Host where
  now := now
  savePhoto path photo_data :=
    ((fs.save output_dir path .binary (binString photo_data)).run log).1.map fun _ => ()

/-- **The two readings of `read_thai_id_card` agree**: without the files the run
    is that of the host. -/
theorem read_thai_id_card_saving_eq (fs : FileSystem) (binString : List UInt8 → Contents)
    (now : Str) (connection : Connection) (atr : List UInt8) (save_photo : Bool)
    (output_dir : Str) (log : RunLog) :
    let saving :=
      (read_thai_id_card_saving fs binString now connection atr save_photo output_dir).run log
    (read_thai_id_card (savingHost fs binString now output_dir log.files) connection atr save_photo
        output_dir).run log.session = (saving.1, saving.2.session) := by
  dsimp only
  rw [read_thai_id_card_run, read_thai_id_card_saving_run]
  cases requestCode atr with
  | none => rfl
  | some req =>
    dsimp only
    cases connection.respond log.session (SELECT ++ THAI_CARD) with
    | error e => rfl
    | ok r =>
      dsimp only
      by_cases hrefused : r.sw1 ≠ 0x90 ∨ r.sw2 ≠ 0x00
      · rw [if_pos hrefused, if_pos hrefused]
      · rw [if_neg hrefused, if_neg hrefused]
        cases save_photo with
        | false => rfl
        | true =>
          rw [if_pos rfl, photoPart_run]
          have hnow : (savingHost fs binString now output_dir log.files).now = now := rfl
          have hsave : ∀ cid photo_data, (savingHost fs binString now output_dir log.files).savePhoto
                (output_dir ++ '/' :: (cid ++ ".jpg".toList)) photo_data
              = ((save_photo_file fs binString output_dir cid photo_data).run log.files).1.map fun _ => () :=
            fun _ _ => rfl
          rw [readSelected_true, hnow]
          generalize readRecord now connection req _ = read
          dsimp only
          generalize read_photo connection req CMD_PHOTO [] read.2 = photo
          rw [outputFile, hsave]
          cases ((save_photo_file fs binString output_dir read.1.cid photo.1).run log.files).1 with
          | error e => rfl
          | ok path => rfl

/-! ### The files that are opened -/

/-- The CID a card gives: what its bytes behind the SELECT decode to. -/
def cardCid (connection : Connection) (atr : List UInt8) : Str :=
  match requestCode atr with
  | none => []
  | some req =>
    sessionCid connection req
      [⟨SELECT ++ THAI_CARD, connection.respond [] (SELECT ++ THAI_CARD)⟩]

/-- The photo part opens the file named after the record, and keeps the CID. -/
theorem opens_photoPart (fs : FileSystem) (binString : List UInt8 → Contents)
    (connection : Connection) (req : Apdu) (output_dir : Str) (card_data : CardData)
    (log : RunLog) :
    let run := (photoPart fs binString connection req output_dir card_data).run log
    Opens output_dir [outputFile output_dir card_data.cid ".jpg".toList] log.files run.2.files
        (∃ card_data', run.1 = .ok card_data') ∧
      ∀ card_data', run.1 = .ok card_data' → card_data'.cid = card_data.cid := by
  dsimp only
  rw [photoPart_run]
  dsimp only
  generalize read_photo connection req CMD_PHOTO [] log.session = photo
  have hopens := fs.opens_save output_dir
    (output_dir ++ '/' :: (card_data.cid ++ ".jpg".toList)) .binary (binString photo.1) log.files
  cases hsaved : ((save_photo_file fs binString output_dir card_data.cid photo.1).run log.files).1 with
  | error e => exact ⟨hopens.congr (by simp [Except.map]), by simp [Except.map]⟩
  | ok path =>
    refine ⟨hopens.congr fun _ => ⟨path, hsaved⟩, ?_⟩
    intro card_data' h
    cases h
    rfl

/-- The photo file, if a photo is asked for. -/
def photoFiles (save_photo : Bool) (output_dir cid : Str) : List Str :=
  if save_photo then [outputFile output_dir cid ".jpg".toList] else []

/-- What `read_thai_id_card_saving` opens, and whose record it returns. -/
theorem opens_read_thai_id_card_saving (fs : FileSystem) (binString : List UInt8 → Contents)
    (now : Str) (connection : Connection) (atr : List UInt8) (save_photo : Bool)
    (output_dir : Str) (files : FileLog) :
    let run := (read_thai_id_card_saving fs binString now connection atr save_photo
      output_dir).run ⟨[], files⟩
    Opens output_dir (photoFiles save_photo output_dir (cardCid connection atr)) files run.2.files
        (∃ card_data, run.1 = .ok (some card_data)) ∧
      ∀ card_data, run.1 = .ok (some card_data) → card_data.cid = cardCid connection atr := by
  dsimp only
  rw [read_thai_id_card_saving_run]
  unfold cardCid
  cases requestCode atr with
  | none => exact ⟨.not_started (by simp), by simp⟩
  | some req =>
    dsimp only
    cases connection.respond [] (SELECT ++ THAI_CARD) with
    | error e => exact ⟨.not_started (by simp), by simp⟩
    | ok r =>
      dsimp only
      by_cases hrefused : r.sw1 ≠ 0x90 ∨ r.sw2 ≠ 0x00
      · rw [if_pos hrefused]
        exact ⟨.not_started (by simp), by simp⟩
      · rw [if_neg hrefused]
        cases save_photo with
        | false =>
          refine ⟨.nil, ?_⟩
          intro card_data h
          cases h
          rfl
        | true =>
          rw [if_pos rfl]
          generalize hread : readRecord now connection req ([] ++ [⟨SELECT ++ THAI_CARD, .ok r⟩])
            = read
          have hrecord : read.1.cid
              = sessionCid connection req [⟨SELECT ++ THAI_CARD, .ok r⟩] := by rw [← hread]; rfl
          obtain ⟨hopens, hcid⟩ :=
            opens_photoPart fs binString connection req output_dir read.1 ⟨read.2, files⟩
          rw [hrecord] at hopens hcid
          generalize (photoPart fs binString connection req output_dir read.1).run ⟨read.2, files⟩ = saved
            at hopens hcid
          obtain ⟨outcome, log⟩ := saved
          cases outcome with
          | error e => exact ⟨hopens.congr (by simp [Except.map]), by simp [Except.map]⟩
          | ok card_data' =>
            refine ⟨hopens.congr fun _ => ⟨card_data', rfl⟩, ?_⟩
            intro card_data h
            cases h
            exact hcid card_data' rfl

/-! ### The whole run -/

section run
variable (fs : FileSystem) (binString : List UInt8 → Contents) (now : Str)
  (connection : Connection) (atr : List UInt8) (args : Args)

/-- The files a run is to write. -/
def namedFiles (args : Args) (cid : Str) : List Str :=
  photoFiles args.photo args.output_dir cid ++
    if args.json then [outputFile args.output_dir cid ".json".toList] else []

theorem opens_mainBody (files : FileLog) :
    let run := (mainBody fs binString now connection atr args).run ⟨[], files⟩
    Opens args.output_dir (namedFiles args (cardCid connection atr)) files run.2.files
      (run.1 = .ok 0) := by
  obtain ⟨hopens, hcid⟩ :=
    opens_read_thai_id_card_saving fs binString now connection atr args.photo args.output_dir files
  dsimp only at hopens hcid ⊢
  unfold mainBody namedFiles
  rw [run_bind]
  generalize (read_thai_id_card_saving fs binString now connection atr args.photo args.output_dir).run
    ⟨[], files⟩ = read at hopens hcid
  obtain ⟨outcome, log⟩ := read
  cases outcome with
  | error e => exact hopens.stop (by simp)
  | ok found =>
    cases found with
    | none => exact hopens.stop (by simp [run_pure])
    | some card_data =>
      dsimp only at hopens hcid ⊢
      have hnamed : card_data.cid = cardCid connection atr := hcid card_data rfl
      cases hjson : args.json with
      | false => exact hopens.trans ⟨card_data, rfl⟩ .nil
      | true =>
        have hsave : Opens args.output_dir
            [outputFile args.output_dir (cardCid connection atr) ".json".toList] log.files
            ((save_to_json fs card_data args.output_dir).run log.files).2
            (∃ path, ((save_to_json fs card_data args.output_dir).run log.files).1 = .ok path) := by
          rw [← hnamed]
          exact fs.opens_save _ _ _ _ _
        refine hopens.trans ⟨card_data, rfl⟩ ?_
        rw [if_pos rfl, if_pos rfl, run_bind_mk, onFiles_apply]
        dsimp only
        generalize (save_to_json fs card_data args.output_dir).run log.files = saved at hsave
        obtain ⟨outcome, files'⟩ := saved
        cases outcome with
        | error e => exact hsave.congr (by simp)
        | ok path => exact hsave.congr fun _ => ⟨path, rfl⟩

/-- The exit code is that of the body, or 1 where it raises. -/
theorem main_apply (log : RunLog) :
    main fs binString now connection atr args log =
      (match ((mainBody fs binString now connection atr args).run log).1 with
        | .ok code => code
        | .error _ => 1,
        ((mainBody fs binString now connection atr args).run log).2) := by
  show (match ((mainBody fs binString now connection atr args).run log).1 with
    | .ok code => (return code : StateM RunLog Nat)
    | .error _ => return 1) ((mainBody fs binString now connection atr args).run log).2 = _
  cases ((mainBody fs binString now connection atr args).run log).1 <;> rfl

/-- What a run opens, and that it opens all of it where it ends well. -/
theorem opens_main (files : FileLog) :
    Opens args.output_dir (namedFiles args (cardCid connection atr)) files
      (main fs binString now connection atr args ⟨[], files⟩).2.files
      ((main fs binString now connection atr args ⟨[], files⟩).1 = 0) := by
  have hbody := opens_mainBody fs binString now connection atr args files
  dsimp only at hbody
  rw [main_apply]
  generalize (mainBody fs binString now connection atr args).run ⟨[], files⟩ = body at hbody
  obtain ⟨outcome, log⟩ := body
  cases outcome with
  | error e => exact hbody.congr (by simp)
  | ok code => exact hbody.congr fun hcode => congrArg Except.ok hcode

/-- A file that is written is named after the card, in a directory that is. -/
theorem mem_filesWritten {path : Str} (h : path ∈ filesWritten fs binString now connection atr args) :
    args.output_dir ≠ [] ∧ ∃ ext ∈ [".jpg".toList, ".json".toList],
      path = outputFile args.output_dir (cardCid connection atr) ext := by
  obtain ⟨opened, heq, hpre, hdir, -⟩ := opens_main fs binString now connection atr args []
  have hwritten : filesWritten fs binString now connection atr args = opened := heq
  rw [hwritten] at h
  have hnamed : path ∈ namedFiles args (cardCid connection atr) := hpre.subset h
  refine ⟨hdir (List.ne_nil_of_mem h), ?_⟩
  unfold namedFiles photoFiles at hnamed
  rw [List.mem_append] at hnamed
  rcases hnamed with hphoto | hjson
  · refine ⟨".jpg".toList, by simp, ?_⟩
    split at hphoto
    · exact List.mem_singleton.mp hphoto
    · exact absurd hphoto List.not_mem_nil
  · refine ⟨".json".toList, by simp, ?_⟩
    split at hjson
    · exact List.mem_singleton.mp hjson
    · exact absurd hjson List.not_mem_nil

end run

/-! ### Inside the output directory -/

/-- The separators of a platform. The slash is one, and the characters of the
    two extensions are none. -/
structure Separators where
  isSep : Char → Bool
  slash : isSep '/' = true
  extension : ∀ c ∈ ".jpg.json".toList, isSep c = false

def posix : Separators where
  isSep c := c == '/'
  slash := rfl
  extension := @of_decide_eq_true _ (List.decidableBAll _ _) rfl

/-- There the backslash separates as well. -/
def windows : Separators where
  isSep c := c == '/' || c == '\\'
  slash := rfl
  extension := @of_decide_eq_true _ (List.decidableBAll _ _) rfl

/-- The path, once resolved, is that of a file directly in the directory. -/
abbrev InDirectory (sep : Separators) (cwd : List Str) (output_dir path : Str) : Prop :=
  PathText.DirectChild sep.isSep '.' cwd output_dir path

/-- The pieces of the CID in front of its last separator lead from the directory
    back to it. -/
abbrev CidLeadsBack (sep : Separators) (cwd : List Str) (output_dir cid : Str) : Prop :=
  PathText.LeadsBack sep.isSep '.' cwd output_dir cid

/-- A file for a CID lies in the directory exactly if the CID leads back. -/
theorem inDirectory_outputFile_iff (sep : Separators) {output_dir : Str} (hdir : output_dir ≠ [])
    {ext : Str} (hext : ext ∈ [".jpg".toList, ".json".toList]) (cwd : List Str) (cid : Str) :
    InDirectory sep cwd output_dir (outputFile output_dir cid ext) ↔
      CidLeadsBack sep cwd output_dir cid := by
  have hplain : ∀ ext ∈ [".jpg".toList, ".json".toList],
      ext ⊆ ".jpg.json".toList ∧ 2 < ext.length := by decide
  obtain ⟨hsub, hlen⟩ := hplain ext hext
  apply PathText.directChild_join_iff hdir sep.slash _ hlen
  intro c hc
  exact sep.extension c (hsub hc)

/-- **When a file lies in the output directory**: whatever separates the pieces
    of a path, exactly if the CID the card gives leads back to it. -/
theorem written_in_directory_iff (sep : Separators) (fs : FileSystem)
    (binString : List UInt8 → Contents) (cwd : List Str) (now : Str) (connection : Connection)
    (atr : List UInt8) (args : Args) (path : Str)
    (h : path ∈ filesWritten fs binString now connection atr args) :
    InDirectory sep cwd args.output_dir path ↔
      CidLeadsBack sep cwd args.output_dir (cardCid connection atr) := by
  obtain ⟨hdir, ext, hext, hpath⟩ := mem_filesWritten fs binString now connection atr args h
  rw [hpath]
  exact inDirectory_outputFile_iff sep hdir hext cwd _

/-- A file system on which everything goes well. -/
def plainDisk : FileSystem where
  exists_ _ path := !path.isEmpty
  makedirs _ path := if path = [] then .error .other else .ok ()
  open_ _ _ := .ok ()
  write _ _ := .ok ()
  exists_nil _ := rfl
  makedirs_nil _ := by simp

theorem written_in_directory_iff_digitCard :
    InDirectory windows ["home".toList] "output".toList "output/1.json".toList ↔
      CidLeadsBack windows ["home".toList] "output".toList
        (cardCid (.ofCard digitCard) [0x3B, 0x68]) :=
  written_in_directory_iff windows plainDisk .bytes ["home".toList] [] (.ofCard digitCard)
    [0x3B, 0x68] ⟨true, true, "output".toList⟩ "output/1.json".toList (by decide +kernel)

/-- A path that leads as deep as the directory names no file in it. -/
theorem not_inDirectory_of_length {sep : Separators} {cwd : List Str} {output_dir path : Str}
    (h : (PathText.resolve sep.isSep '.' cwd path).length
      = (PathText.resolve sep.isSep '.' cwd output_dir).length) :
    ¬ InDirectory sep cwd output_dir path := by
  intro hin
  obtain ⟨name, heq⟩ := hin
  have hlen := congrArg List.length heq
  rw [h, List.length_append, List.length_singleton] at hlen
  omega

/-- A card whose thirteen bytes for the CID are `..`, this byte and ten digits. -/
def forgedCard (sep : UInt8) : Connection := .ofCard fun _ _ =>
  ⟨[0x2E, 0x2E, sep, 0x31, 0x32, 0x33, 0x34, 0x35, 0x36, 0x37, 0x38, 0x39, 0x30], 0x90, 0x00⟩

/-- The files of such a card, with a slash or with a backslash. -/
def forgedFiles (sep : UInt8) : List Str :=
  filesWritten plainDisk .bytes [] (forgedCard sep) [0x3B, 0x68] ⟨true, true, "output".toList⟩

/-- Both its files lie next to the output directory: with a slash on every
    platform, with a backslash on the one that separates by it. -/
theorem forged_cid_leaves :
    (forgedFiles 0x2F = ["output/../1234567890.jpg".toList, "output/../1234567890.json".toList] ∧
      ∀ path ∈ forgedFiles 0x2F, ¬ InDirectory posix ["home".toList] "output".toList path ∧
        ¬ InDirectory windows ["home".toList] "output".toList path) ∧
    forgedFiles 0x5C
        = ["output/..\\1234567890.jpg".toList, "output/..\\1234567890.json".toList] ∧
      ∀ path ∈ forgedFiles 0x5C, ¬ InDirectory windows ["home".toList] "output".toList path := by
  have hslash : forgedFiles 0x2F
      = ["output/../1234567890.jpg".toList, "output/../1234567890.json".toList] := by
    decide +kernel
  have hbackslash : forgedFiles 0x5C
      = ["output/..\\1234567890.jpg".toList, "output/..\\1234567890.json".toList] := by
    decide +kernel
  -- one step down to the directory, one up, and one down to the file
  have hdepth : ∀ path ∈ ["output/../1234567890.jpg".toList, "output/../1234567890.json".toList],
      (PathText.resolve posix.isSep '.' ["home".toList] path).length
          = (PathText.resolve posix.isSep '.' ["home".toList] "output".toList).length ∧
        (PathText.resolve windows.isSep '.' ["home".toList] path).length
          = (PathText.resolve windows.isSep '.' ["home".toList] "output".toList).length := by
    decide +kernel
  have hdepth' : ∀ path ∈ ["output/..\\1234567890.jpg".toList,
        "output/..\\1234567890.json".toList],
      (PathText.resolve windows.isSep '.' ["home".toList] path).length
        = (PathText.resolve windows.isSep '.' ["home".toList] "output".toList).length := by
    decide +kernel
  refine ⟨⟨hslash, ?_⟩, hbackslash, ?_⟩
  · intro path hpath
    rw [hslash] at hpath
    obtain ⟨hposix, hwindows⟩ := hdepth path hpath
    exact ⟨not_inDirectory_of_length hposix, not_inDirectory_of_length hwindows⟩
  · intro path hpath
    rw [hbackslash] at hpath
    exact not_inDirectory_of_length (hdepth' path hpath)

end ReadImproved

end IdScan
