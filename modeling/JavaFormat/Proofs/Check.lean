import JavaFormat.Proofs.Effect

/-!
# What `check` tells and does

A run of `check` is done if every step up to reading the sources succeeds and a layout leaves each
of them alone (`IsFormatted`), and it changes nothing then.  Otherwise it fails: either with the
error of one of these steps, in which case nothing is changed either, or with a violation, in which
case the report, and nothing else, says which sources are to be changed and how (`Reported`).

* `Report.write_cases`: what writing a report does, also over an old one.
* `map_block_pending`: the blocks of a report, in the order of the sources.
* `check_verdict`: what a run tells and what it leaves, for every disk.
-/

set_option autoImplicit false

namespace JavaFormat

open CommandLine Disk

/-! ## Written reports -/

/-- **A report holds a text**, and nothing else has changed: whatever else is new is a directory
above the report. -/
structure Reported (disk after : Disk) (report : Path) (text : String) : Prop where
  /-- The working directory is the same. -/
  home : after.home = disk.home
  /-- The report is read as the text, in UTF-8. -/
  holds : after.readBytes report = .ok text.toUTF8.data.toList
  /-- Elsewhere nothing is new but directories above the report. -/
  others : ∃ l, after.IsFileAt report l ∧ ∀ k, k ≠ l → after.get? k = disk.get? k ∨
    disk.get? k = none ∧ after.get? k = some .dir ∧ k <+: l

namespace Report

variable {disk mid later : Disk} {report : Path} {edits : List Edit} {error : Error}

theorem render_congr (h : mid.home = disk.home) (edits : List Edit) :
    render mid edits = render disk edits := by
  have hblock : block mid = block disk := by
    funext edit
    rw [block, block, Edit.absolutePath, Edit.absolutePath, h]
  rw [render, render, hblock]

theorem put_unwritable {text : String} (h : put report text mid = (.error error, later)) :
    ∃ cause, error = .unwritable report cause := by
  unfold put at h
  cases hwrite : mid.writeBytes report text.toUTF8.data.toList with
  | mk result after =>
    rw [hwrite] at h
    cases result with
    | ok u => cases h
    | error cause =>
      cases h
      exact ⟨cause, rfl⟩

theorem ensureParent_unwritable (h : ensureParent report disk = (.error error, later)) :
    ∃ path cause, error = .unwritable path cause := by
  unfold ensureParent at h
  split at h
  · cases h
  · rename_i parent hparent
    split at h
    · cases h
    · cases hdirs : disk.makeDirs parent with
      | mk result after =>
        rw [hdirs] at h
        cases result with
        | ok u => cases h
        | error cause =>
          cases h
          exact ⟨parent, cause, rfl⟩

theorem ensure_unwritable (h : ensure report disk = (.error error, later)) :
    ∃ path cause, error = .unwritable path cause := by
  unfold ensure at h
  split at h
  · cases h
  · split at h
    · obtain ⟨cause, hcause⟩ := put_unwritable h
      exact ⟨report, cause, hcause⟩
    · exact ensureParent_unwritable h

/-- Where there is a file, a text is put into it, whatever it held before, unless that is denied. -/
theorem put_of_isFileAt {l : Location} (h : mid.IsFileAt report l) (text : String)
    (hdenial : mid.denial? l = none) :
    put report text mid = (.ok (), mid.setBytes l text.toUTF8.data.toList) := by
  rw [put, h.writeBytes, unlessDenied_of_none hdenial]
  rfl

theorem reported_setBytes {l : Location} (hwf : mid.WellFormed) (hhome : mid.home = disk.home)
    (hfile : mid.IsFileAt report l) (text : String)
    (hothers : ∀ k, k ≠ l → mid.get? k = disk.get? k ∨
      disk.get? k = none ∧ mid.get? k = some .dir ∧ k <+: l) :
    Reported disk (mid.setBytes l text.toUTF8.data.toList) report text := by
  obtain ⟨old, hres⟩ := hfile
  have hl : (mid.setBytes l text.toUTF8.data.toList).get? l =
      some (.file text.toUTF8.data.toList) := by
    rw [get?_setBytes, if_pos rfl, resolve_entry hwf hres]
    rfl
  have hlater := resolve_entry_later (setBytes_extends mid l text.toUTF8.data.toList) hwf hres hl
  refine ⟨hhome, readBytes_eq_ok_iff.2 ⟨l, hlater⟩, l, ⟨_, hlater⟩, fun k hk => ?_⟩
  rw [get?_setBytes, if_neg hk]
  exact hothers k hk

/-- Where there is a report, or it was just created, the edits are put into it. -/
theorem put_cases (hwf : disk.WellFormed) (hup : Path.Component.parent ∉ report.components)
    (h : ensure report disk = (.ok (), mid)) (text : String) :
    (∃ after, put report text mid = (.ok (), after) ∧ Reported disk after report text) ∨
      mid = disk ∧ ∃ cause, put report text disk = (.error (.unwritable report cause), disk) := by
  rcases ensure_created hwf hup h with ⟨hexists, rfl⟩ | ⟨-, hgrows, l, hfile, hcreated⟩
  · obtain ⟨l, e, slash, hres, -⟩ := exists?_iff.1 hexists
    cases hput : put report text mid with
    | mk result after =>
      cases result with
      | error error =>
        obtain ⟨cause, rfl⟩ := put_unwritable hput
        obtain rfl := put_error hput
        exact Or.inr ⟨rfl, cause, rfl⟩
      | ok u =>
        rcases put_eq_ok hput with ⟨l', hfile, -, rfl⟩ | ⟨l', name, hvacant, -⟩
        · exact Or.inl ⟨_, rfl, reported_setBytes hwf rfl hfile text fun k _ => Or.inl rfl⟩
        · rw [hres] at hvacant
          cases hvacant
  · -- what is denied about the new report would have been denied about nothing
    have hdenial := (hgrows.denial l).trans (denial?_eq_none hcreated.missing)
    exact Or.inl ⟨_, put_of_isFileAt hfile text hdenial,
      reported_setBytes (hgrows.wellFormed hwf) hgrows.home hfile text hcreated.others⟩

/-- **What writing a report does**: it holds the edits then, and nothing else is changed, or it
could not be written, and nothing that there was is changed. -/
theorem write_cases (hwf : disk.WellFormed) (hup : Path.Component.parent ∉ report.components)
    (edits : List Edit) :
    (∃ after, write report edits disk = (.ok (), after) ∧
        Reported disk after report (render disk edits)) ∨
      ∃ path cause after, write report edits disk = (.error (.unwritable path cause), after) ∧
        AddsDirs disk after := by
  cases hensure : ensure report disk with
  | mk result mid =>
    cases result with
    | error error =>
      obtain ⟨path, cause, rfl⟩ := ensure_unwritable hensure
      refine Or.inr ⟨path, cause, mid, ?_, ensure_error hwf hensure⟩
      rw [write, hensure]
    | ok u =>
      have hhome := (ensure_grows hwf hup hensure).1.home
      have hwrite : write report edits disk = put report (render disk edits) mid := by
        rw [write, hensure]
        exact congrArg (put report · mid) (render_congr hhome edits)
      rw [hwrite]
      rcases put_cases hwf hup hensure (render disk edits) with hdone | ⟨rfl, cause, hfailed⟩
      · exact Or.inl hdone
      · exact Or.inr ⟨report, cause, mid, hfailed, .refl mid⟩

end Report

/-! ## Blocks -/

/-- The block of a report for the source at a path, if a layout changes its text. -/
def blockAt? (disk : Disk) (style : Style) (charset : Charset) (path : Path) : Option String :=
  match disk.readBytes path with
  | .error _ => none
  | .ok bytes =>
    match charset.decode? bytes with
    | none => none
    | some text =>
      if Source.format style text = text then none
      else some (Path.absolute disk.home path ++ ":\n" ++ Source.format style text)

section Blocks

variable {disk : Disk} {style : Style} {charset : Charset} {files : List Path}

theorem blockAt?_of_ofFile {path : Path} {edit : Edit}
    (h : Edit.ofFile disk style charset path = .ok edit) :
    blockAt? disk style charset path =
      if edit.hasEdits then some (Report.block disk edit) else none := by
  obtain ⟨bytes, text, hread, hdecode, rfl⟩ := Edit.ofFile_eq_ok_iff.1 h
  simp only [blockAt?, hread, hdecode, Edit.hasEdits, bne_iff_ne, ne_eq]
  by_cases hsame : Source.format style text = text
  · rw [if_pos hsame, if_neg (not_not_intro hsame.symm)]
  · rw [if_neg hsame, if_pos fun heq => hsame heq.symm]
    rfl

/-- **A report has one block for each source that a layout changes**, in the order of the
sources. -/
theorem map_block_pending {edits : List Edit}
    (h : Edit.pending disk style charset files = .ok edits) :
    edits.map (Report.block disk) = files.filterMap (blockAt? disk style charset) := by
  obtain ⟨all, hall, rfl⟩ := Edit.pending_eq_ok_iff.1 h
  clear h
  induction files generalizing all with
  | nil =>
    obtain rfl := mapM_nil_eq_ok.1 hall
    rfl
  | cons path files ih =>
    obtain ⟨edit, rest, hedit, hrest, rfl⟩ := mapM_cons_eq_ok.1 hall
    have hblock := blockAt?_of_ofFile hedit
    cases hpend : edit.hasEdits with
    | true =>
      rw [hpend, if_pos rfl] at hblock
      rw [List.filter_cons_of_pos hpend, List.map_cons, ih rest hrest,
        List.filterMap_cons_some hblock]
    | false =>
      rw [hpend, if_neg Bool.false_ne_true] at hblock
      rw [List.filter_cons_of_neg (by simp [hpend]), ih rest hrest,
        List.filterMap_cons_none hblock]

end Blocks

/-! ## The verdict -/

variable {disk : Disk} {args : TaskArgs}

/-- **Whether all sources are formatted**: the config file and the settings can be used, the sources
can be found, read and decoded, and a layout in the style of the settings leaves each text alone. -/
def IsFormatted (disk : Disk) (args : TaskArgs) : Prop :=
  ∃ config settings charset roots excludes files,
    Project.findConfig disk args.projectDir args.config = .ok config ∧
    config.merge args.choices = .ok settings ∧
    Charset.ofLabel settings.encoding = .ok charset ∧
    Project.findSources disk args.projectDir args.sources = .ok roots ∧
    (config.exclude ++ args.exclude).mapM Project.readPattern = .ok excludes ∧
    Sources.collect disk.walk excludes roots = .ok files ∧
    ∀ path ∈ files, ∃ bytes text, disk.readBytes path = .ok bytes ∧
      charset.decode? bytes = some text ∧ Source.format settings.style text = text

/-- All sources are formatted if there is nothing to be edited. -/
theorem isFormatted_iff : IsFormatted disk args ↔ (pendingEdits disk args).2 = .ok [] := by
  rw [pendingEdits_eq_ok_iff]
  constructor
  · rintro ⟨config, settings, charset, roots, excludes, files, hconfig, hmerge, hcharset, hroots,
      hexcludes, hfiles, hall⟩
    refine ⟨⟨settings, charset, roots, files⟩, Plan.ofArgs_eq_ok_iff.2
      ⟨config, excludes, hconfig, hmerge, hcharset, hroots, hexcludes, hfiles⟩, ?_⟩
    refine Edit.pending_eq_nil fun path hpath => ?_
    obtain ⟨bytes, text, hread, hdecode, hsame⟩ := hall path hpath
    exact ⟨_, Edit.ofFile_eq_ok_iff.2 ⟨bytes, text, hread, hdecode, rfl⟩,
      by simp [Edit.hasEdits, hsame]⟩
  · rintro ⟨plan, hplan, hedits⟩
    obtain ⟨config, excludes, hconfig, hmerge, hcharset, hroots, hexcludes, hfiles⟩ :=
      Plan.ofArgs_eq_ok_iff.1 hplan
    refine ⟨config, plan.settings, plan.charset, plan.roots, excludes, plan.files, hconfig, hmerge,
      hcharset, hroots, hexcludes, hfiles, fun path hpath => ?_⟩
    obtain ⟨all, hall, hnone⟩ := Edit.pending_eq_ok_iff.1 hedits
    obtain ⟨edit, hedit, hof⟩ := exists_mem_of_mapM hall hpath
    obtain ⟨bytes, text, hread, hdecode, rfl⟩ := Edit.ofFile_eq_ok_iff.1 hof
    have hsame : text = Source.format plan.settings.style text := by
      simpa [Edit.hasEdits] using List.filter_eq_nil_iff.1 hnone _ hedit
    exact ⟨bytes, text, hread, hdecode, hsame.symm⟩

/-- What `check` does about edits, if there are any. -/
theorem checkEdits_cases (hwf : disk.WellFormed) {report : Path}
    (hup : Path.Component.parent ∉ report.components) {edits : List Edit} (hne : edits ≠ []) :
    let outcome := checkEdits report edits disk
    (∃ path cause, outcome.result = .error (.unwritable path cause) ∧
        AddsDirs disk outcome.disk) ∨
      outcome.result = .error (.violation (Path.absolute disk.home report)) ∧
        Reported disk outcome.disk report (Report.render disk edits) := by
  intro outcome
  have hsome : edits.isEmpty = false := by simpa using hne
  have houtcome : outcome = Outcome.andThen (Report.write report edits disk) fun disk =>
      ⟨disk, [.notice .warning (toString edits.length ++ " file(s) need formatting:"),
        editTable edits], .error (.violation (Report.location disk report))⟩ := by
    simp only [outcome, checkEdits, hsome]
    rfl
  rcases Report.write_cases hwf hup edits with
    ⟨after, hwrite, hreported⟩ | ⟨path, cause, after, hwrite, hadds⟩
  · rw [hwrite] at houtcome
    have hviolation : outcome.result = .error (.violation (Path.absolute after.home report)) :=
      congrArg Outcome.result houtcome
    rw [hreported.home] at hviolation
    refine Or.inr ⟨hviolation, ?_⟩
    rw [show outcome.disk = after from congrArg Outcome.disk houtcome]
    exact hreported
  · rw [hwrite] at houtcome
    refine Or.inl ⟨path, cause, congrArg Outcome.result houtcome, ?_⟩
    rw [show outcome.disk = after from congrArg Outcome.disk houtcome]
    exact hadds

theorem run_check (disk : Disk) (args : TaskArgs) :
    let outcome := (⟨.check, args⟩ : Invocation).run disk
    match (pendingEdits disk args).2 with
    | .error error => outcome.disk = disk ∧ outcome.result = .error error
    | .ok edits =>
      outcome.disk = (checkEdits args.report edits disk).disk ∧
        outcome.result = (checkEdits args.report edits disk).result :=
  run_settle .check disk args

/-- **The verdict of `check` is right**, and it touches nothing but the report.  It is done if and
only if all sources are formatted, and then, as well as where the edits cannot be computed, the disk
is as it was.  Otherwise the report, whatever it held before, has the blocks of the sources that a
layout changes, in the order of the sources, and a violation names it, unless it cannot be
written. -/
theorem check_verdict (hwf : disk.WellFormed)
    (hreport : Path.Component.parent ∉ args.report.components) :
    let outcome := (⟨.check, args⟩ : Invocation).run disk
    (outcome.result = .ok () ↔ IsFormatted disk args) ∧
      (outcome.result = .ok () → outcome.disk = disk) ∧
      (∀ error, (pendingEdits disk args).2 = .error error →
        outcome.result = .error error ∧ outcome.disk = disk) ∧
      ∀ plan edits, Plan.ofArgs disk args = .ok plan → plan.edits disk = .ok edits →
        ¬IsFormatted disk args →
        (∃ path cause, outcome.result = .error (.unwritable path cause) ∧
            AddsDirs disk outcome.disk) ∨
          outcome.result = .error (.violation (Path.absolute disk.home args.report)) ∧
            Reported disk outcome.disk args.report ("\n".intercalate
              (plan.files.filterMap (blockAt? disk plan.settings.style plan.charset))) := by
  intro outcome
  have hrun := run_check disk args
  cases hpending : (pendingEdits disk args).2 with
  | error error =>
    rw [hpending] at hrun
    obtain ⟨hdisk, hresult⟩ := hrun
    have hnot : ¬outcome.result = .ok () := by
      rw [show outcome.result = .error error from hresult]
      exact nofun
    refine ⟨⟨fun h => absurd h hnot, fun h => ?_⟩, fun h => absurd h hnot, fun error' h => ?_,
      fun plan edits hplan hedits _ => ?_⟩
    · rw [isFormatted_iff, hpending] at h
      cases h
    · cases h
      exact ⟨hresult, hdisk⟩
    · have hok := pendingEdits_eq_ok_iff.2 ⟨plan, hplan, hedits⟩
      rw [hpending] at hok
      cases hok
  | ok found =>
    rw [hpending] at hrun
    obtain ⟨hdisk, hresult⟩ := hrun
    rw [isFormatted_iff, hpending]
    cases found with
    | nil =>
      exact ⟨⟨fun _ => rfl, fun _ => hresult⟩, fun _ => hdisk, fun _ => nofun,
        fun _ _ _ _ h => absurd rfl h⟩
    | cons edit others =>
      have hcases := checkEdits_cases hwf hreport (List.cons_ne_nil edit others)
      have hnot : ¬outcome.result = .ok () := by
        rw [show outcome.result = _ from hresult]
        rcases hcases with ⟨path, cause, herror, -⟩ | ⟨hviolation, -⟩
        · rw [herror]
          exact nofun
        · rw [hviolation]
          exact nofun
      refine ⟨⟨fun h => absurd h hnot, fun h => absurd (Except.ok.inj h) (List.cons_ne_nil _ _)⟩,
        fun h => absurd h hnot, fun _ => nofun, fun plan edits hplan hedits _ => ?_⟩
      have hok := pendingEdits_eq_ok_iff.2 ⟨plan, hplan, hedits⟩
      rw [hpending] at hok
      obtain rfl := Except.ok.inj hok
      rw [show outcome.result = _ from hresult, show outcome.disk = _ from hdisk,
        ← map_block_pending hedits]
      exact hcases

/-- The source of the small project is indented by a tab: the report says so, and a violation names
the report. -/
theorem check_verdict_tabProject :
    let outcome := (⟨.check, plainArgs "src" "r"⟩ : Invocation).run tabProject
    outcome.result = .error (.violation "/r") ∧
      Reported tabProject outcome.disk "r" "/src/A.java:\n    x\n" := by
  intro outcome
  have hup : Path.Component.parent ∉ (plainArgs "src" "r").report.components := by decide
  have hplan : Plan.ofArgs tabProject (plainArgs "src" "r") =
      .ok (plainPlan "src" ["src/A.java"]) :=
    ofArgs_plain (configInUse_plain rfl (by decide)) collect_tabProject
  have hpending := pendingEdits_eq_ok_iff.2 ⟨_, hplan, edits_tabProject⟩
  have hnot : ¬IsFormatted tabProject (plainArgs "src" "r") := by
    rw [isFormatted_iff, hpending]
    exact nofun
  have hrun := run_check tabProject (plainArgs "src" "r")
  rw [hpending] at hrun
  -- the report can be written, since it is created as a file
  have hwritten : ∃ after, Report.write "r" [tabEdit] tabProject = (.ok (), after) := by
    have hensure := ensure_plain rfl hasNoLink_tabProject (by decide : tabProject.get? ["r"] = none) rfl
    have hfile : (tabProject.add [] "r" (.file [])).IsFileAt "r" ["r"] :=
      ⟨[], resolve_of_names [] [] "r" (by decide) (by decide) rfl (by decide) (by decide)
        (hasNoLink_tabProject.add [] "r" (by simp) _)⟩
    rw [Report.write, hensure]
    exact ⟨_, Report.put_of_isFileAt hfile _ rfl⟩
  obtain ⟨after, hafter⟩ := hwritten
  have hresult : outcome.result = .error (.violation (Report.location after "r")) := by
    rw [show outcome.result = _ from hrun.2, checkEdits]
    simp only [plainArgs, hafter, Outcome.andThen]
    rfl
  have hverdict := (check_verdict tabProject_wellFormed hup).2.2.2 _ _ hplan edits_tabProject hnot
  rcases hverdict with ⟨path, cause, herror, -⟩ | ⟨hviolation, hreported⟩
  · rw [show outcome.result = _ from herror] at hresult
    cases hresult
  · have hblocks := map_block_pending edits_tabProject
    have htext : "\n".intercalate ([tabEdit].map (Report.block tabProject)) =
        "/src/A.java:\n    x\n" := by decide
    refine ⟨hviolation, ?_⟩
    rw [← htext, hblocks]
    exact hreported

end JavaFormat
