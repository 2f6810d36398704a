import JavaFormat.Proofs.Charset.RoundTrip
import JavaFormat.Proofs.Disk.Created
import JavaFormat.Proofs.Edits
import JavaFormat.Proofs.Project
import JavaFormat.Proofs.Source.Layout
import JavaFormat.Run

/-!
# Format leaves nothing to do

After a run of `format` that is done, both tasks with the same arguments find nothing to do
(`format_settles`).  What the run leaves is described by `Formatted`: old entries stay, new ones are
directories or empty files, and a source holds the formatted text of what it held before.  The
plan is then found again with the old sources and new ones, which are empty (`ofArgs_formatted`).
-/

set_option autoImplicit false

namespace JavaFormat

open CommandLine Disk

/-- **What a run of `format` leaves** of a disk, if it saved some edits of its sources. -/
structure Formatted (disk after : Disk) (edits : List Edit) : Prop where
  /-- Old entries stay. -/
  later : Extends disk after
  /-- The disk is as well formed as before. -/
  wellFormed : after.WellFormed
  /-- New files are empty. -/
  new : ∀ l bytes, disk.get? l = none → after.get? l = some (.file bytes) → bytes = []
  /-- An old entry is as it was, or a file that holds the text of an edit of it. -/
  old : ∀ l e, disk.get? l = some e →
    (after.get? l = some e ∧ ∀ edit ∈ edits, ¬disk.IsFileAt edit.path l) ∨
      ∃ edit ∈ edits, disk.IsFileAt edit.path l ∧ ∃ bytes,
        edit.charset.encode? edit.formatted = some bytes ∧ after.get? l = some (.file bytes)

/-- `format` makes sure of the report and then saves the edits; the first failure is the last thing
that happens. -/
theorem formatEdits_steps (report : Path) (edits : List Edit) (disk : Disk) :
    let outcome := formatEdits report edits disk
    (∃ error, outcome.result = .error error ∧
        Report.ensure report disk = (.error error, outcome.disk)) ∨
      ∃ mid, Report.ensure report disk = (.ok (), mid) ∧
        Edit.saveAll edits mid = (outcome.result, outcome.disk) := by
  unfold formatEdits Outcome.andThen
  cases hensure : Report.ensure report disk with
  | mk result mid =>
    cases result with
    | error e => exact Or.inl ⟨e, rfl, rfl⟩
    | ok u =>
      refine Or.inr ⟨mid, rfl, ?_⟩
      simp only
      cases hsave : Edit.saveAll edits mid with
      | mk result after => cases result <;> rfl

theorem formatEdits_done {disk : Disk} {report : Path} {edits : List Edit}
    (h : (formatEdits report edits disk).result = .ok ()) :
    ∃ mid, Report.ensure report disk = (.ok (), mid) ∧
      Edit.saveAll edits mid = (.ok (), (formatEdits report edits disk).disk) := by
  rcases formatEdits_steps report edits disk with ⟨error, herror, -⟩ | ⟨mid, hensure, hsave⟩
  · rw [h] at herror
    cases herror
  · rw [h] at hsave
    exact ⟨mid, hensure, hsave⟩

/-- **What `format` leaves**, if it is done; there is a report then. -/
theorem formatted_of_done {disk mid after : Disk} {report : Path} {edits : List Edit}
    (hwf : disk.WellFormed) (hreport : Path.Component.parent ∉ report.components)
    (hedits : ∀ edit ∈ edits, ∃ l, disk.IsFileAt edit.path l)
    (hensure : Report.ensure report disk = (.ok (), mid))
    (hsave : Edit.saveAll edits mid = (.ok (), after)) :
    Formatted disk after edits ∧ after.exists? report = true := by
  obtain ⟨hgrows, hexists⟩ := Report.ensure_grows hwf hreport hensure
  have hext := hgrows.toExtends
  have hwfm := hgrows.wellFormed hwf
  obtain ⟨hafter, hspec⟩ := Edit.saveAll_spec hwf hext hedits hsave
  refine ⟨⟨hext.trans hafter, Edit.saveAll_wellFormed hwf hext hwfm hedits hsave, ?_, ?_⟩,
    exists?_persists hafter hwfm hexists⟩
  · intro l bytes hold hl
    rcases hspec l with ⟨hsame, -⟩ | ⟨edit, -, hfile, -⟩
    · rw [hsame] at hl
      rcases hgrows.fresh l _ hold hl with hdir | hempty
      · cases hdir
      · exact Entry.file.inj hempty
    · obtain ⟨bytes', hbytes'⟩ := hfile.get? hwf
      rw [hold] at hbytes'
      cases hbytes'
  · intro l e hold
    rcases hspec l with ⟨hsame, hnone⟩ | hedit
    · exact Or.inl ⟨hsame.trans (hgrows.keep l e hold), hnone⟩
    · exact Or.inr hedit

/-! ## Sources that are settled -/

section Settled

variable {disk after : Disk} {style : Style} {charset : Charset} {files : List Path}
  {edits : List Edit}

/-- **A source is settled** once its edit was saved, whatever other paths lead to its file. -/
theorem ofFile_settled (hwf : disk.WellFormed) (hcharset : charset.IsSimple)
    (hpending : Edit.pending disk style charset files = .ok edits)
    (hpaired : ∀ p ∈ files, ∀ bytes text, disk.readBytes p = .ok bytes →
      charset.decode? bytes = some text → Text.ReturnsPaired text.toList)
    (hafter : Formatted disk after edits) {p : Path} (hp : p ∈ files) :
    ∃ edit, Edit.ofFile after style charset p = .ok edit ∧ edit.hasEdits = false := by
  obtain ⟨all, hall, rfl⟩ := Edit.pending_eq_ok_iff.1 hpending
  obtain ⟨edit, hedit, hof⟩ := exists_mem_of_mapM hall hp
  obtain ⟨bytes, text, hread, hdecode, rfl⟩ := Edit.ofFile_eq_ok_iff.1 hof
  obtain ⟨l, hres⟩ := readBytes_eq_ok_iff.1 hread
  have hfile : disk.IsFileAt p l := ⟨bytes, hres⟩
  have hl := resolve_entry hwf hres
  have hfile' := hfile.persists hafter.later hwf
  rcases hafter.old l _ hl with ⟨hsame, hnone⟩ | ⟨other, hother, hotherFile, bytes', henc, hnow⟩
  · -- the file was not written, so that its text is that of its edit, which is not pending
    refine ⟨_, Edit.ofFile_eq_ok_iff.2 ⟨bytes, text,
      hfile'.readBytes hafter.wellFormed hsame, hdecode, rfl⟩, ?_⟩
    refine Bool.eq_false_iff.2 fun hpend => ?_
    exact hnone _ (List.mem_filter.2 ⟨hedit, hpend⟩) hfile
  · -- the file was written by an edit of its own text, perhaps under another path
    obtain ⟨q, hq, hofq⟩ := exists_of_mem_mapM hall (List.mem_filter.1 hother).1
    obtain ⟨bytesq, textq, hreadq, hdecodeq, rfl⟩ := Edit.ofFile_eq_ok_iff.1 hofq
    have hsame : disk.readBytes q = .ok bytes := hotherFile.readBytes hwf hl
    rw [hreadq] at hsame
    obtain rfl := Except.ok.inj hsame
    rw [hdecode] at hdecodeq
    obtain rfl := Option.some.inj hdecodeq
    have hdecode' := Charset.decode?_of_encode? hcharset henc
    refine ⟨_, Edit.ofFile_eq_ok_iff.2 ⟨bytes', _,
      hfile'.readBytes hafter.wellFormed hnow, hdecode', rfl⟩, ?_⟩
    have hidem := Source.format_idem style (hpaired p hp _ _ hread hdecode)
    simp [Edit.hasEdits, hidem]

/-- A new source is empty, and nothing is to be done about it. -/
theorem ofFile_new (hcharset : charset.IsSimple) (hafter : Formatted disk after edits) {p : Path}
    {l : Location} (hold : disk.get? l = none) (hfile : after.IsFileAt p l) :
    ∃ edit, Edit.ofFile after style charset p = .ok edit ∧ edit.hasEdits = false := by
  obtain ⟨bytes, hbytes⟩ := hfile.get? hafter.wellFormed
  obtain rfl := hafter.new l bytes hold hbytes
  have hread := hfile.readBytes hafter.wellFormed hbytes
  have hencode : charset.encode? "" = some [] := by
    cases charset with
    | utf8 => rfl
    | singleByte charset => rfl
    | _ => exact hcharset.elim
  have hdecode := Charset.decode?_of_encode? hcharset hencode
  exact ⟨_, Edit.ofFile_eq_ok_iff.2 ⟨[], "", hread, hdecode, rfl⟩, rfl⟩

end Settled

/-! ## A second run -/

theorem Plan.ofArgs_eq_ok_iff {disk : Disk} {args : TaskArgs} {plan : Plan} :
    Plan.ofArgs disk args = .ok plan ↔ ∃ config excludes,
      Project.findConfig disk args.projectDir args.config = .ok config ∧
      config.merge args.choices = .ok plan.settings ∧
      Charset.ofLabel plan.settings.encoding = .ok plan.charset ∧
      Project.findSources disk args.projectDir args.sources = .ok plan.roots ∧
      (config.exclude ++ args.exclude).mapM Project.readPattern = .ok excludes ∧
      Sources.collect disk.walk excludes plan.roots = .ok plan.files := by
  unfold Plan.ofArgs Project.sources
  simp only [bind, except_bind_eq_ok, except_mapError_eq_ok, pure, Except.pure, Except.ok.injEq]
  constructor
  · rintro ⟨config, hconfig, settings, hmerge, charset, hcharset, roots, hroots, excludes,
      hexcludes, files, hfiles, rfl⟩
    exact ⟨config, excludes, hconfig, hmerge, hcharset, hroots, hexcludes, hfiles⟩
  · rintro ⟨config, excludes, hconfig, hmerge, hcharset, hroots, hexcludes, hfiles⟩
    exact ⟨config, hconfig, _, hmerge, _, hcharset, _, hroots, excludes, hexcludes, _, hfiles, rfl⟩

/-- Whether no pending edit is of the config file in use, through any path. -/
def Plan.SparesConfig (plan : Plan) (disk : Disk) (args : TaskArgs) : Prop :=
  ∀ config, Project.configInUse disk args.projectDir args.config = some config →
    ∀ edits, plan.edits disk = .ok edits → ∀ edit ∈ edits, ∀ l,
      disk.IsFileAt config l → ¬disk.IsFileAt edit.path l

/-- Whether every carriage return in a source belongs to a terminator. -/
def Plan.ReturnsPaired (plan : Plan) (disk : Disk) : Prop :=
  ∀ p ∈ plan.files, ∀ bytes text, disk.readBytes p = .ok bytes →
    plan.charset.decode? bytes = some text → Text.ReturnsPaired text.toList

/-- Whether what is new below the source directories can be opened under its path. -/
def NewPathsFit (disk after : Disk) (args : TaskArgs) : Prop :=
  ∀ roots, Project.findSources after args.projectDir args.sources = .ok roots →
    ∀ root ∈ roots, ∀ l, after.IsDirAt root l → Fits disk after root l

/-- **The plan is found again** after a run of `format`, with the old sources and new ones. -/
theorem ofArgs_formatted {disk after : Disk} {args : TaskArgs} {plan : Plan} {edits : List Edit}
    (hwf : disk.WellFormed) (hlinks : LinksResolve disk)
    (hdirectory : Path.Component.parent ∉ args.projectDir.components)
    (hplan : Plan.ofArgs disk args = .ok plan) (hedits : plan.edits disk = .ok edits)
    (hspares : plan.SparesConfig disk args) (hfit : NewPathsFit disk after args)
    (hafter : Formatted disk after edits) :
    ∃ roots files, Plan.ofArgs after args = .ok { plan with roots := roots, files := files } ∧
      files.filter disk.reaches = plan.files ∧
      ∀ p ∈ files, disk.reaches p = false → ∃ l, disk.get? l = none ∧ after.IsFileAt p l := by
  obtain ⟨config, excludes, hconfig, hmerge, hcharset, hroots, hexcludes, hfiles⟩ :=
    Plan.ofArgs_eq_ok_iff.1 hplan
  have hext := hafter.later
  have hwfa := hafter.wellFormed
  have hup := up_not_mem_stepsOf hdirectory
  have hconfig' := Project.findConfig_later hext hwf hwfa hlinks hup hafter.new
    (fun path hpath l hl => by
      obtain ⟨bytes, hbytes⟩ := hl.get? hwf
      rcases hafter.old l _ hbytes with ⟨hsame, -⟩ | ⟨edit, hedit, hfile, -⟩
      · rw [hsame, hbytes]
      · exact absurd hfile (hspares path hpath edits hedits edit hedit l hl)) hconfig
  obtain ⟨roots, hroots', hold, hnew⟩ := Project.findSources_later hext hwf hlinks hup hroots
    fun root hroot => Sources.isDir_of_collect hfiles hroot
  obtain ⟨files, hfiles', hfilter, hnewFiles⟩ := Sources.collect_later hext hwf hwfa hlinks hold
    hnew (fun root hroot l hl => hfit roots hroots' root hroot l hl) hfiles
  exact ⟨roots, files, Plan.ofArgs_eq_ok_iff.2 ⟨config, excludes, hconfig', hmerge, hcharset,
    hroots', hexcludes, hfiles'⟩, hfilter, hnewFiles⟩

/-- A task that finds nothing to do is done and changes nothing, once there is a report. -/
theorem run_of_pendingEdits_nil {disk : Disk} {args : TaskArgs}
    (h : (pendingEdits disk args).2 = .ok []) (hreport : disk.exists? args.report = true)
    (task : Task) :
    ((⟨task, args⟩ : Invocation).run disk).result = .ok () ∧
      ((⟨task, args⟩ : Invocation).run disk).disk = disk := by
  have hpending : pendingEdits disk args = ((pendingEdits disk args).1, .ok []) := Prod.ext rfl h
  have hensure : Report.ensure args.report disk = (.ok (), disk) := if_pos hreport
  rw [Invocation.run, hpending]
  cases task with
  | check => exact ⟨rfl, rfl⟩
  | format =>
    simp only [Task.settle, formatEdits, hensure]
    exact ⟨rfl, rfl⟩

/-- **`format` leaves nothing to do.** -/
theorem format_settles {disk after : Disk} {args : TaskArgs} {plan : Plan}
    {messages : List Message} (hwf : disk.WellFormed) (hlinks : LinksResolve disk)
    (hreport : Path.Component.parent ∉ args.report.components)
    (hdirectory : Path.Component.parent ∉ args.projectDir.components)
    (hplan : Plan.ofArgs disk args = .ok plan) (hcharset : plan.charset.IsSimple)
    (hpaired : plan.ReturnsPaired disk) (hspares : plan.SparesConfig disk args)
    (hfit : NewPathsFit disk after args)
    (h : (⟨.format, args⟩ : Invocation).run disk = ⟨after, messages, .ok ()⟩) :
    (pendingEdits after args).2 = .ok [] ∧
      ∀ task, ((⟨task, args⟩ : Invocation).run after).result = .ok () ∧
        ((⟨task, args⟩ : Invocation).run after).disk = after := by
  have hpending : pendingEdits disk args = ([plan.summary], plan.edits disk) := by
    rw [pendingEdits, hplan]
  rw [Invocation.run, hpending] at h
  cases hedits : plan.edits disk with
  | error e =>
    rw [hedits] at h
    cases congrArg Outcome.result h
  | ok edits =>
    rw [hedits] at h
    have hdone : (formatEdits args.report edits disk).result = .ok () := congrArg Outcome.result h
    have hdisk : (formatEdits args.report edits disk).disk = after := congrArg Outcome.disk h
    obtain ⟨mid, hensure, hsave⟩ := formatEdits_done hdone
    rw [hdisk] at hsave
    obtain ⟨hafter, hexists⟩ := formatted_of_done hwf hreport
      (fun edit hedit => Edit.isFileAt_of_mem_pending hedits hedit) hensure hsave
    obtain ⟨roots, files, hplan', hold, hnew⟩ :=
      ofArgs_formatted hwf hlinks hdirectory hplan hedits hspares hfit hafter
    have hnil : (pendingEdits after args).2 = .ok [] := by
      rw [pendingEdits, hplan']
      refine Edit.pending_eq_nil fun p hp => ?_
      cases hreaches : disk.reaches p with
      | true =>
        have hmem : p ∈ plan.files := hold ▸ List.mem_filter.2 ⟨hp, hreaches⟩
        exact ofFile_settled hwf hcharset hedits hpaired hafter hmem
      | false =>
        obtain ⟨l, hl, hfile⟩ := hnew p hp hreaches
        exact ofFile_new hcharset hafter hl hfile
    exact ⟨hnil, run_of_pendingEdits_nil hnil hexists⟩

/-! ## Small projects -/

/-- A directory with an empty source directory `src`. -/
def emptyProject : Disk := Disk.empty.add [] "src" .dir

/-- The same with a source that is indented by a tab and lacks a line feed. -/
def tabProject : Disk := emptyProject.add ["src"] "A.java" (.file [9, 120])

/-- The arguments that name one source directory and a report. -/
def plainArgs (root report : Path) : TaskArgs :=
  ⟨[root], ⟨none, none, none⟩, report, [], none, "."⟩

/-- The plan with one source directory, nothing else being asked for. -/
def plainPlan (root : Path) (files : List Path) : Plan :=
  ⟨Choices.settings ⟨none, none, none⟩, .utf8, [root], files⟩

theorem ofLabel_utf8 : Charset.ofLabel "UTF-8" = .ok .utf8 := by
  have hlabel : Charset.normalLabel "UTF-8" = "utf-8" := by decide +kernel
  unfold Charset.ofLabel
  rw [hlabel]
  rfl

theorem configInUse_plain {disk : Disk} (hhome : disk.home = [])
    (hnone : disk.get? ["javafmt.toml"] = none) : Project.configInUse disk "." none = none := by
  have hres : disk.resolve .followed "./javafmt.toml" = .ok ⟨.vacant [] "javafmt.toml", false⟩ := by
    rw [resolve_of_names [.stay] [] "javafmt.toml" (by decide) (by decide) rfl (by decide), hhome,
      Place.seen, Place.location, List.nil_append, List.nil_append, hnone]
    · rfl
    · rw [hhome]
      exact get?_nil disk
    · rw [hhome]
      exact fun target => by simp [hnone]
  have hjoin : Path.join "." Project.configName = "./javafmt.toml" := by decide
  rw [Project.configInUse, hjoin]
  simp only [isFile, entryAt, hres]
  rfl

theorem ofArgs_plain {disk : Disk} {root report : Path} {files : List Path}
    (hconfig : Project.configInUse disk "." none = none)
    (hfiles : Sources.collect disk.walk [] [root] = .ok files) :
    Plan.ofArgs disk (plainArgs root report) = .ok (plainPlan root files) := by
  refine Plan.ofArgs_eq_ok_iff.2 ⟨Config.empty, [], ?_, rfl, ofLabel_utf8, rfl, rfl, hfiles⟩
  rw [Project.findConfig_eq, plainArgs, hconfig]

theorem emptyProject_wellFormed : emptyProject.WellFormed :=
  wellFormed_empty.add (by decide) (by decide) (by decide) nofun

theorem tabProject_wellFormed : tabProject.WellFormed :=
  emptyProject_wellFormed.add (by decide) (by decide) (by decide) nofun

theorem hasNoLink_emptyProject : HasNoLink emptyProject :=
  hasNoLink_empty.add [] "src" (by simp)

theorem hasNoLink_tabProject : HasNoLink tabProject :=
  hasNoLink_emptyProject.add ["src"] "A.java" (by simp)

theorem isFileAt_tabProject : tabProject.IsFileAt "src/A.java" ["src", "A.java"] :=
  ⟨[9, 120], resolve_of_names [.down "src"] ["src"] "A.java" (by decide) (by decide) rfl
    (by decide) (by decide) (hasNoLink_tabProject _)⟩

/-- The source is listed under any path of the source directory. -/
theorem walk_tabProject_of {root : Path} (hroot : tabProject.IsDirAt root ["src"]) :
    tabProject.walk root = .ok [root.join "A.java"] := by
  have hnames : tabProject.names ["src"] = ["A.java"] := by
    rw [names, show tabProject.entries = [(["src", "A.java"], .file [9, 120]), (["src"], .dir)] by
      decide]
    simp
  rw [walk_of_files hroot (by rw [hnames]; exact List.forall_mem_singleton.2 ⟨_, rfl⟩),
    hnames]
  rfl

theorem walk_tabProject : tabProject.walk "src" = .ok ["src/A.java"] := by
  have hroot : tabProject.IsDirAt "src" ["src"] := isDirAt_dotted rfl (by decide) 0 (by decide)
  rw [walk_tabProject_of hroot, show Path.join "src" "A.java" = "src/A.java" by decide]

theorem collect_tabProject :
    Sources.collect tabProject.walk [] ["src"] = .ok ["src/A.java"] := by
  refine Sources.collect_eq_ok_iff.2 ⟨[["src/A.java"]], ?_, rfl⟩
  refine mapM_cons_eq_ok.2 ⟨["src/A.java"], [], ?_, rfl, rfl⟩
  rw [walk_tabProject]
  decide

/-- The edit of the source. -/
def tabEdit : Edit := ⟨"src/A.java", "\tx", "    x\n", .utf8⟩

theorem readBytes_tabProject : tabProject.readBytes "src/A.java" = .ok [9, 120] :=
  isFileAt_tabProject.readBytes tabProject_wellFormed (by decide)

theorem decode?_tab : Charset.utf8.decode? [9, 120] = some "\tx" :=
  Charset.decode?_of_encode? (show Charset.utf8.IsSimple from trivial) (by decide +kernel)

/-- A source that is indented by a tab and lacks a line feed has this edit, wherever it lies. -/
theorem ofFile_tab {disk : Disk} {path : Path} (hread : disk.readBytes path = .ok [9, 120]) :
    Edit.ofFile disk (Choices.settings ⟨none, none, none⟩).style .utf8 path =
      .ok { tabEdit with path := path } := by
  have hformat : Source.format (Choices.settings ⟨none, none, none⟩).style "\tx" = "    x\n" := by
    decide +kernel
  exact Edit.ofFile_eq_ok_iff.2 ⟨[9, 120], "\tx", hread, decode?_tab,
    congrArg (Edit.mk _ _ · _) hformat.symm⟩

theorem edits_tabProject :
    (plainPlan "src" ["src/A.java"]).edits tabProject = .ok [tabEdit] :=
  Edit.pending_eq_ok_iff.2 ⟨[tabEdit], mapM_cons_eq_ok.2
    ⟨tabEdit, [], ofFile_tab readBytes_tabProject, rfl, rfl⟩, rfl⟩

/-- The disk after `format`: the source is indented by spaces, and there is an empty report. -/
def spaceProject : Disk :=
  (tabProject.add [] "r" (.file [])).setBytes ["src", "A.java"] [32, 32, 32, 32, 120, 10]

theorem ensure_plain {disk : Disk} (hhome : disk.home = []) (hlinks : HasNoLink disk)
    (hnone : disk.get? ["r"] = none) (hdenial : disk.denial? [] = none) :
    Report.ensure "r" disk = (.ok (), disk.add [] "r" (.file [])) := by
  have hdir : disk.get? (disk.home ++ []) = some .dir := by
    rw [hhome]
    exact get?_nil disk
  have hres : ∀ last, disk.resolve last "r" = .ok ⟨.vacant [] "r", false⟩ := fun last => by
    rw [resolve_of_names [] [] "r" (by decide) (by decide) rfl (by decide) hdir (hlinks _),
      Place.seen, Place.location, hhome, List.nil_append, List.nil_append, hnone]
    rfl
  have hmissing : disk.exists? "r" = false := by
    simp only [exists?, entryAt, hres]
  have hparent : Report.ensureParent "r" disk = (.ok (), disk) := by
    rw [Report.ensureParent, show Path.parent? "r" = some "" by decide]
    rfl
  have hempty : "".toUTF8.data.toList = [] := by decide
  have hput : Report.put "r" "" disk = (.ok (), disk.add [] "r" (.file [])) := by
    rw [Report.put, writeBytes_of_vacant (hres _) hdenial, hempty]
    rfl
  rw [Report.ensure, hmissing, hparent]
  exact hput

theorem saveAll_tabProject :
    Edit.saveAll [tabEdit] (tabProject.add [] "r" (.file [])) = (.ok (), spaceProject) := by
  have hfile : (tabProject.add [] "r" (.file [])).IsFileAt "src/A.java" ["src", "A.java"] :=
    ⟨[9, 120], resolve_of_names [.down "src"] ["src"] "A.java" (by decide) (by decide) rfl
      (by decide) (by decide) (hasNoLink_tabProject.add [] "r" (by simp) _)⟩
  have hencode : tabEdit.charset.encode? tabEdit.formatted = some [32, 32, 32, 32, 120, 10] := by
    decide +kernel
  exact Edit.saveAll_cons (Edit.save_eq_ok hfile hencode rfl)

theorem fits_tabProject : NewPathsFit tabProject spaceProject (plainArgs "src" "r") := by
  intro roots hroots root hroot l hl names e hold hnew
  obtain rfl : ["src"] = roots := Except.ok.inj hroots
  obtain rfl := List.mem_singleton.1 hroot
  have hsrc : spaceProject.get? ["src"] = some .dir := by decide
  obtain rfl := hl.unique (isDirAt_dotted rfl hsrc 0 (by decide))
  -- the only new entry is the report, which is not below the source directory
  have hne : ["src"] ++ names ≠ [] ++ ["r"] := by simp
  rw [spaceProject, get?_setBytes, get?_add _ (by decide) (by decide), if_neg hne, hold] at hnew
  split at hnew <;> cases hnew

/-- A run of `format` from what its steps do. -/
theorem run_format_of_steps {disk mid after : Disk} {args : TaskArgs} {plan : Plan}
    {edits : List Edit} {result : Except Error Unit} (hplan : Plan.ofArgs disk args = .ok plan)
    (hedits : plan.edits disk = .ok edits)
    (hensure : Report.ensure args.report disk = (.ok (), mid))
    (hsave : Edit.saveAll edits mid = (result, after)) :
    ∃ messages, (⟨.format, args⟩ : Invocation).run disk = ⟨after, messages, result⟩ := by
  have hpending : pendingEdits disk args = ([plan.summary], .ok edits) := by
    rw [pendingEdits, hplan]
    simp only [hedits]
  rw [Invocation.run, hpending]
  simp only [Task.settle, formatEdits, Outcome.andThen, hensure, hsave]
  cases result <;> exact ⟨_, rfl⟩

theorem run_tabProject : ∃ messages, (⟨.format, plainArgs "src" "r"⟩ : Invocation).run tabProject =
    ⟨spaceProject, messages, .ok ()⟩ :=
  run_format_of_steps (ofArgs_plain (configInUse_plain rfl (by decide)) collect_tabProject)
    edits_tabProject (ensure_plain rfl hasNoLink_tabProject (by decide) rfl) saveAll_tabProject

theorem format_settles_tabProject :
    (pendingEdits spaceProject (plainArgs "src" "r")).2 = .ok [] ∧
      ∀ task, ((⟨task, plainArgs "src" "r"⟩ : Invocation).run spaceProject).result = .ok () ∧
        ((⟨task, plainArgs "src" "r"⟩ : Invocation).run spaceProject).disk = spaceProject := by
  have hconfig : Project.configInUse tabProject "." none = none := configInUse_plain rfl (by decide)
  obtain ⟨messages, hrun⟩ := run_tabProject
  refine format_settles tabProject_wellFormed hasNoLink_tabProject.linksResolve (by decide)
    (by decide) (ofArgs_plain hconfig collect_tabProject) trivial ?_ ?_ fits_tabProject hrun
  · intro p hp bytes text hread hdecode
    obtain rfl := List.mem_singleton.1 hp
    obtain rfl := Except.ok.inj (readBytes_tabProject.symm.trans hread)
    obtain rfl := Option.some.inj (decode?_tab.symm.trans hdecode)
    exact .of_not_mem (by decide)
  · intro config hinUse
    rw [plainArgs, hconfig] at hinUse
    cases hinUse

/-! ## Source directories under long paths -/

/-- The disk after `format`: below the source directory there is a directory with the report. -/
def reportProject : Disk := (emptyProject.add ["src"] "b" .dir).add ["src", "b"] "r" (.file [])

theorem collect_emptyProject : Sources.collect emptyProject.walk [] [longRoot] = .ok [] := by
  have hwalk : emptyProject.walk longRoot = .ok [] := by
    refine walk_eq_ok_iff.2 ⟨["src"], isDirAt_dotted rfl (by decide) 2046 (by decide), ?_⟩
    refine walkBelow_succ_eq_ok.2 ⟨by rw [utf8ByteSize_longRoot]; decide, [], ?_, rfl⟩
    have hnames : emptyProject.names ["src"] = [] := by
      rw [names, show emptyProject.entries = [(["src"], .dir)] by decide]
      simp
    rw [hnames]
    rfl
  refine Sources.collect_eq_ok_iff.2 ⟨[[]], mapM_cons_eq_ok.2 ⟨[], [], ?_, rfl, rfl⟩, rfl⟩
  rw [hwalk]
  rfl

theorem ensure_emptyProject : Report.ensure "src/b/r" emptyProject = (.ok (), reportProject) := by
  have hmissing : emptyProject.exists? "src/b/r" = false := by
    have hres : emptyProject.resolve .followed "src/b/r" = .error .notFound := by
      have hsteps : stepsOf "src/b/r" = ["src"].map .down ++ [.down "b", .down "r"] := by decide
      have hnone : emptyProject.get? (emptyProject.home ++ ["src"] ++ ["b"]) = none := by decide
      rw [IsOpenable.resolve (by decide), hsteps,
        walkSteps_names emptyProject .followed linkLimit _ _ (by decide) (by decide),
        walkSteps_down_none (by decide) hnone]
      rfl
    simp only [exists?, entryAt, hres]
  have hcreate : emptyProject.create "src/b" .dir =
      (.ok (), emptyProject.add ["src"] "b" .dir) := by
    have hres : emptyProject.resolve .kept "src/b" = .ok ⟨.vacant ["src"] "b", false⟩ :=
      resolve_of_names [.down "src"] ["src"] "b" (by decide) (by decide) rfl (by decide)
        (by decide) (hasNoLink_emptyProject _)
    exact create_of_vacant hres rfl
  have hparent : Report.ensureParent "src/b/r" emptyProject =
      (.ok (), emptyProject.add ["src"] "b" .dir) := by
    rw [Report.ensureParent, show Path.parent? "src/b/r" = some "src/b" by decide]
    simp only [makeDirs, makeDirsWithin, hcreate]
    rfl
  have hput : Report.put "src/b/r" "" (emptyProject.add ["src"] "b" .dir) =
      (.ok (), reportProject) := by
    have hres : (emptyProject.add ["src"] "b" .dir).resolve .followedUnlessSlash "src/b/r" =
        .ok ⟨.vacant ["src", "b"] "r", false⟩ :=
      resolve_of_names [.down "src", .down "b"] ["src", "b"] "r" (by decide) (by decide) rfl
        (by decide) (by decide) (hasNoLink_emptyProject.add ["src"] "b" (by simp) _)
    have hempty : "".toUTF8.data.toList = [] := by decide
    rw [Report.put, writeBytes_of_vacant hres rfl, hempty]
    rfl
  rw [Report.ensure, hmissing, hparent]
  exact hput

/-- A directory under the long path has a path that is too long to be opened. -/
theorem not_walk_reportProject (files : List Path) : reportProject.walk longRoot ≠ .ok files := by
  intro h
  obtain ⟨l, hl, h⟩ := walk_eq_ok_iff.1 h
  obtain rfl := hl.unique (isDirAt_dotted rfl (by decide) 2046 (by decide))
  obtain ⟨-, parts, hparts, -⟩ := walkBelow_succ_eq_ok.1 h
  obtain ⟨part, -, hpart⟩ := exists_mem_of_mapM hparts (x := "b") (mem_names.2 (by decide))
  rw [listEntry, show reportProject.get? (["src"] ++ ["b"]) = some .dir by decide] at hpart
  rw [show reportProject.depth = 2 + 1 by decide] at hpart
  obtain ⟨hshort, -⟩ := walkBelow_succ_eq_ok.1 hpart
  have hsize := le_utf8ByteSize_join longRoot "b" (by decide)
  rw [utf8ByteSize_longRoot, show ("b" : String).utf8ByteSize = 1 by decide] at hsize
  exact absurd hshort (Nat.not_lt.2 hsize)

/-- **Without short paths** `format` may leave something to do: below a source directory under the
longest path that can be opened, the directory that it creates for the report cannot be listed. -/
theorem not_format_settles :
    emptyProject.WellFormed ∧ LinksResolve emptyProject ∧
      Path.Component.parent ∉ (plainArgs longRoot "src/b/r").report.components ∧
      Path.Component.parent ∉ (plainArgs longRoot "src/b/r").projectDir.components ∧
      Plan.ofArgs emptyProject (plainArgs longRoot "src/b/r") = .ok (plainPlan longRoot []) ∧
      (plainPlan longRoot []).charset.IsSimple ∧
      (plainPlan longRoot []).ReturnsPaired emptyProject ∧
      (plainPlan longRoot []).SparesConfig emptyProject (plainArgs longRoot "src/b/r") ∧
      ∃ messages, (⟨.format, plainArgs longRoot "src/b/r"⟩ : Invocation).run emptyProject =
          ⟨reportProject, messages, .ok ()⟩ ∧
        (pendingEdits reportProject (plainArgs longRoot "src/b/r")).2 ≠ .ok [] := by
  have hconfig : Project.configInUse emptyProject "." none = none :=
    configInUse_plain rfl (by decide)
  have hplan : Plan.ofArgs emptyProject (plainArgs longRoot "src/b/r") =
      .ok (plainPlan longRoot []) := ofArgs_plain hconfig collect_emptyProject
  have hrun : ∃ messages, (⟨.format, plainArgs longRoot "src/b/r"⟩ : Invocation).run emptyProject =
      ⟨reportProject, messages, .ok ()⟩ := by
    have hpending : pendingEdits emptyProject (plainArgs longRoot "src/b/r") =
        ([(plainPlan longRoot []).summary], .ok []) := by
      rw [pendingEdits, hplan]
      rfl
    rw [Invocation.run, hpending]
    simp only [Task.settle, plainArgs, formatEdits, Outcome.andThen, ensure_emptyProject,
      Edit.saveAll]
    exact ⟨_, rfl⟩
  obtain ⟨messages, hrun⟩ := hrun
  refine ⟨emptyProject_wellFormed, hasNoLink_emptyProject.linksResolve, by decide, by decide,
    hplan, trivial, fun p hp => absurd hp List.not_mem_nil, fun config hinUse => ?_, messages, hrun,
    fun hnil => ?_⟩
  · rw [plainArgs, hconfig] at hinUse
    cases hinUse
  · cases hagain : Plan.ofArgs reportProject (plainArgs longRoot "src/b/r") with
    | error e =>
      rw [pendingEdits, hagain] at hnil
      cases hnil
    | ok plan =>
      obtain ⟨config, excludes, -, -, -, hroots, -, hcollect⟩ := Plan.ofArgs_eq_ok_iff.1 hagain
      have hroot : longRoot ∈ plan.roots := by
        rw [← show [longRoot] = plan.roots from Except.ok.inj hroots]
        exact List.mem_cons_self
      obtain ⟨listed, hlisted⟩ := Sources.exists_walk_of_collect hcollect hroot
      exact not_walk_reportProject listed hlisted

end JavaFormat
