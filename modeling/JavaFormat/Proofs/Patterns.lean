import JavaFormat.Proofs.Disk.Listed
import JavaFormat.Proofs.Disk.SetBytes
import JavaFormat.Proofs.Effect

/-!
# Other patterns

More patterns leave more sources out, and the others keep their edits (`edits_of_patterns`): what is
done about a source does not depend on the sources around it.  Only its spelling may change, if the
first path under which it was listed is left out and a later one is not.  What counts is the set of
patterns, wherever they are given and in whatever order.

Two things may go wrong, since a pattern may let another spelling through and a change to the config
file is a change to the disk: the other spelling may be too long to be opened, and the config file
may be one of the sources (`not_edits_of_patterns`).
-/

set_option autoImplicit false

namespace JavaFormat

open CommandLine Disk JavaFormat.Path

/-- **The same task with other patterns**, which are given on the command line or in the config file
in use; nothing else changes. -/
structure Repatterned (disk disk' : Disk) (args args' : TaskArgs)
    (patterns patterns' : List String) : Prop where
  /-- The command lines differ in nothing but patterns. -/
  sameArgs : args' = { args with exclude := args'.exclude }
  /-- The disks differ in nothing but the config file in use. -/
  sameDisk : disk' = disk ∨ ∃ path l bytes,
    Project.configInUse disk args.projectDir args.config = some path ∧ disk.IsFileAt path l ∧
      disk' = disk.setBytes l bytes
  /-- The config files differ in nothing but patterns, and there are no other patterns than theirs
  and those on the command lines. -/
  sameConfig : ∃ config exclude,
    Project.findConfig disk args.projectDir args.config = .ok config ∧
    Project.findConfig disk' args.projectDir args.config = .ok { config with exclude := exclude } ∧
    patterns = config.exclude ++ args.exclude ∧ patterns' = exclude ++ args'.exclude

/-- Whether no source is the config file in use, through any path. -/
def Plan.AvoidsConfig (plan : Plan) (disk : Disk) (args : TaskArgs) : Prop :=
  ∀ path, Project.configInUse disk args.projectDir args.config = some path →
    ∀ l, disk.IsFileAt path l → ∀ p ∈ plan.files, ¬disk.IsFileAt p l

variable {disk disk' : Disk} {args args' : TaskArgs} {patterns patterns' : List String}
  {plan : Plan}

/-! ## Plans -/

theorem exists_excludes {texts : List String}
    (h : ∀ text ∈ texts, ∃ pattern, Project.readPattern text = .ok pattern) :
    ∃ excludes, texts.mapM Project.readPattern = .ok excludes := by
  have hall : ∀ text ∈ texts, ∃ pattern, Project.readPattern text = .ok pattern ∧ True :=
    fun text htext => (h text htext).imp fun _ hpattern => ⟨hpattern, trivial⟩
  obtain ⟨excludes, hexcludes, -⟩ := exists_mapM_eq_ok hall
  exact ⟨excludes, hexcludes⟩

namespace Repatterned

theorem walk_eq (h : Repatterned disk disk' args args' patterns patterns') :
    disk'.walk = disk.walk := by
  rcases h.sameDisk with rfl | ⟨path, l, bytes, -, -, rfl⟩
  · rfl
  · exact walk_setBytes disk l bytes

theorem isDir_eq (h : Repatterned disk disk' args args' patterns patterns') :
    disk'.isDir = disk.isDir := by
  rcases h.sameDisk with rfl | ⟨path, l, bytes, -, -, rfl⟩
  · rfl
  · exact funext (isDir_setBytes disk l bytes)

theorem findSources_eq (h : Repatterned disk disk' args args' patterns patterns')
    (directory : Path) (given : List Path) :
    Project.findSources disk' directory given = Project.findSources disk directory given := by
  rw [Project.findSources, Project.findSources, h.isDir_eq]

/-- Sources that are not the config file in use are read as before. -/
theorem readBytes_eq (h : Repatterned disk disk' args args' patterns patterns')
    (havoids : disk' = disk ∨ plan.AvoidsConfig disk args) {p : Path} (hp : p ∈ plan.files) :
    disk'.readBytes p = disk.readBytes p := by
  rcases havoids with rfl | havoids
  · rfl
  rcases h.sameDisk with rfl | ⟨path, l, bytes, hpath, hl, rfl⟩
  · rfl
  · exact readBytes_setBytes (havoids path hpath l hl p hp)

/-- **With more patterns the plan is the same** but for sources that are left out or spelled
otherwise. -/
theorem ofArgs_of_subset (h : Repatterned disk disk' args args' patterns patterns')
    (hvalid : ∀ text ∈ patterns', ∃ pattern, Project.readPattern text = .ok pattern)
    (hsub : patterns ⊆ patterns') (hplan : Plan.ofArgs disk args = .ok plan) :
    ∃ files, Plan.ofArgs disk' args' = .ok { plan with files := files } ∧
      ∀ p ∈ files, ∃ q ∈ plan.files, same q p = true := by
  obtain ⟨config, exclude, hconfig, hconfig', rfl, rfl⟩ := h.sameConfig
  obtain ⟨found, excludes, hfound, hmerge, hcharset, hroots, hexcludes, hfiles⟩ :=
    Plan.ofArgs_eq_ok_iff.1 hplan
  obtain rfl := Except.ok.inj (hconfig.symm.trans hfound)
  obtain ⟨excludes', hexcludes'⟩ := exists_excludes hvalid
  obtain ⟨files, hfiles', hsame⟩ :=
    Sources.collect_of_subset (subset_of_mapM hsub hexcludes hexcludes') hfiles
  refine ⟨files, Plan.ofArgs_eq_ok_iff.2 ⟨{ config with exclude := exclude }, excludes', ?_, ?_,
    hcharset, ?_, hexcludes', ?_⟩, hsame⟩
  · rw [h.sameArgs]
    exact hconfig'
  · rw [h.sameArgs]
    exact hmerge
  · rw [h.sameArgs]
    exact (h.findSources_eq _ _).trans hroots
  · rw [h.walk_eq]
    exact hfiles'

/-- **With the same patterns the plan is the same**, or fails for the same reason. -/
theorem ofArgs_eq (h : Repatterned disk disk' args args' patterns patterns')
    (hvalid : ∀ text ∈ patterns', ∃ pattern, Project.readPattern text = .ok pattern)
    (hsame : ∀ text, text ∈ patterns ↔ text ∈ patterns') :
    Plan.ofArgs disk' args' = Plan.ofArgs disk args := by
  obtain ⟨config, exclude, hconfig, hconfig', rfl, rfl⟩ := h.sameConfig
  obtain ⟨excludes', hexcludes'⟩ := exists_excludes hvalid
  obtain ⟨excludes, hexcludes⟩ := exists_excludes fun text htext =>
    hvalid text ((hsame text).1 htext)
  have hpatterns : ∀ pattern, pattern ∈ excludes' ↔ pattern ∈ excludes := fun pattern =>
    ⟨fun hp => subset_of_mapM (fun text => (hsame text).2) hexcludes' hexcludes hp,
      fun hp => subset_of_mapM (fun text => (hsame text).1) hexcludes hexcludes' hp⟩
  have hsources : ∀ roots,
      Project.sources disk' excludes' roots = Project.sources disk excludes roots := fun roots => by
    rw [Project.sources, Project.sources, h.walk_eq, Sources.collect_congr hpatterns]
  obtain ⟨given, rfl⟩ : ∃ given, args' = { args with exclude := given } := ⟨_, h.sameArgs⟩
  rw [Plan.ofArgs, Plan.ofArgs, hconfig, hconfig']
  simp only [bind, Except.bind, h.findSources_eq, hexcludes, hexcludes', hsources]
  rfl

end Repatterned

/-! ## Edits -/

theorem isSpelledOut_of_collect (hwf : disk.WellFormed) {excludes : List Glob.Pattern}
    {roots files : List Path} (h : Sources.collect disk.walk excludes roots = .ok files) {p : Path}
    (hp : p ∈ files) : IsSpelledOut p := by
  obtain ⟨root, -, listed, hwalk, hlisted, -⟩ := Sources.exists_listed_of_collect h hp
  exact isSpelledOut_of_walk hwf hwalk hlisted

/-- A source that is spelled otherwise holds what it held, if it can be opened. -/
theorem readBytes_eq_of_same (hwf : disk.WellFormed) {excludes excludes' : List Glob.Pattern}
    {roots files files' : List Path} (h : Sources.collect disk.walk excludes roots = .ok files)
    (h' : Sources.collect disk.walk excludes' roots = .ok files') {p q : Path} (hq : q ∈ files)
    (hp : p ∈ files') (hshort : p.utf8ByteSize < pathLimit) {bytes : List UInt8}
    (hread : disk.readBytes q = .ok bytes) (hsame : same q p = true) :
    disk.readBytes p = disk.readBytes q := by
  obtain ⟨l, hres⟩ := readBytes_eq_ok_iff.1 hread
  have hopened : q.utf8ByteSize < pathLimit := (resolve_eq_ok_iff.1 hres).1.2.2
  have hresolve : disk.resolve .followed q = disk.resolve .followed p :=
    (isSpelledOut_of_collect hwf h hq).resolve_eq_of_same (isSpelledOut_of_collect hwf h' hp)
      hopened hshort hsame
  rw [readBytes, readBytes, entryAt, entryAt, hresolve]

/-- **Edits of sources that are spelled otherwise**: where every file of a second list is the same
path as one of the first and holds the same, its edits are those of the first. -/
theorem pending_respelled {style : Style} {charset : Charset} {files files' : List Path}
    {edits : List Edit} (h : Edit.pending disk style charset files = .ok edits)
    (hsame : ∀ p ∈ files', ∃ q ∈ files, same q p = true)
    (hread : ∀ q ∈ files, ∀ p ∈ files', same q p = true → disk'.readBytes p = disk.readBytes q) :
    ∃ edits', Edit.pending disk' style charset files' = .ok edits' ∧
      (∀ edit' ∈ edits', ∃ edit ∈ edits, same edit.path edit'.path = true ∧
        edit' = { edit with path := edit'.path }) ∧
      ∀ edit ∈ edits, ∀ p ∈ files', same edit.path p = true → { edit with path := p } ∈ edits' := by
  obtain ⟨all, hall, rfl⟩ := Edit.pending_eq_ok_iff.1 h
  -- no file of the second list fails, since one of the first that is the same path does not
  have hof : ∀ p ∈ files', ∃ edit', Edit.ofFile disk' style charset p = .ok edit' ∧
      ∃ edit ∈ all, same edit.path edit'.path = true ∧
        edit' = { edit with path := edit'.path } := by
    intro p hp
    obtain ⟨q, hq, hqp⟩ := hsame p hp
    obtain ⟨edit, hedit, hofq⟩ := exists_mem_of_mapM hall hq
    have hpath : edit.path = q := by
      obtain ⟨bytes, text, -, -, rfl⟩ := Edit.ofFile_eq_ok_iff.1 hofq
      rfl
    exact ⟨_, Edit.ofFile_of_readBytes_eq (hread q hq p hp hqp) hofq, edit, hedit,
      by rw [hpath]; exact hqp, rfl⟩
  obtain ⟨all', hall', hold⟩ := exists_mapM_eq_ok hof
  refine ⟨_, Edit.pending_eq_ok_iff.2 ⟨all', hall', rfl⟩, fun edit' hedit' => ?_,
    fun edit hedit p hp hqp => ?_⟩
  · obtain ⟨hedit', hdiffers⟩ := List.mem_filter.1 hedit'
    obtain ⟨edit, hedit, hpath, heq⟩ := hold edit' hedit'
    rw [heq] at hdiffers
    exact ⟨edit, List.mem_filter.2 ⟨hedit, hdiffers⟩, hpath, heq⟩
  · have hofp := Edit.ofFile_of_readBytes_eq
      (hread _ (Edit.path_mem_of_mem_pending h hedit) p hp hqp) (Edit.ofFile_of_mem_pending h hedit)
    exact List.mem_filter.2 ⟨mem_of_mapM hall' hp hofp, (List.mem_filter.1 hedit).2⟩

/-- **Other patterns**: if there are more of them and all sources can be opened as they are spelled
now, the edits are those from before of the sources that are not left out, under the paths that
these have now.  If they are the same patterns, everything is the same. -/
theorem edits_of_patterns (hwf : disk.WellFormed)
    (h : Repatterned disk disk' args args' patterns patterns')
    (hvalid : ∀ text ∈ patterns', ∃ pattern, Project.readPattern text = .ok pattern)
    (havoids : disk' = disk ∨
      ∀ plan', Plan.ofArgs disk' args' = .ok plan' → plan'.AvoidsConfig disk args) :
    (∀ edits, (pendingEdits disk args).2 = .ok edits → patterns ⊆ patterns' →
      (∀ plan', Plan.ofArgs disk' args' = .ok plan' →
        ∀ p ∈ plan'.files, p.utf8ByteSize < pathLimit) →
      ∃ plan' edits', Plan.ofArgs disk' args' = .ok plan' ∧
        (pendingEdits disk' args').2 = .ok edits' ∧
        (∀ edit' ∈ edits', ∃ edit ∈ edits, same edit.path edit'.path = true ∧
          edit' = { edit with path := edit'.path }) ∧
        ∀ edit ∈ edits, ∀ p ∈ plan'.files, same edit.path p = true →
          { edit with path := p } ∈ edits') ∧
    ((∀ text, text ∈ patterns ↔ text ∈ patterns') →
      pendingEdits disk' args' = pendingEdits disk args) := by
  refine ⟨fun edits hedits hsub hshort => ?_, fun hsame => ?_⟩
  · obtain ⟨plan, hplan, hedits⟩ := pendingEdits_eq_ok hedits
    obtain ⟨files, hplan', hsame⟩ := h.ofArgs_of_subset hvalid hsub hplan
    obtain ⟨-, excludes, -, -, -, -, -, hfiles⟩ := Plan.ofArgs_eq_ok_iff.1 hplan
    obtain ⟨-, excludes', -, -, -, -, -, hfiles'⟩ := Plan.ofArgs_eq_ok_iff.1 hplan'
    rw [h.walk_eq] at hfiles'
    -- the other disk holds the same in the source, and the other spelling leads to it
    have hread : ∀ q ∈ plan.files, ∀ p ∈ files, same q p = true →
        disk'.readBytes p = disk.readBytes q := by
      intro q hq p hp hqp
      obtain ⟨all, hall, -⟩ := Edit.pending_eq_ok_iff.1 hedits
      obtain ⟨edit, -, hof⟩ := exists_mem_of_mapM hall hq
      obtain ⟨bytes, text, hbytes, -, -⟩ := Edit.ofFile_eq_ok_iff.1 hof
      have havoids' : disk' = disk ∨ Plan.AvoidsConfig { plan with files := files } disk args :=
        havoids.imp_right fun havoids => havoids _ hplan'
      rw [← readBytes_eq_of_same hwf hfiles hfiles' hq hp (hshort _ hplan' p hp) hbytes hqp]
      exact h.readBytes_eq havoids' hp
    obtain ⟨edits', hedits', hold, hkept⟩ := pending_respelled hedits hsame hread
    exact ⟨_, edits', hplan', pendingEdits_eq_ok_iff.2 ⟨_, hplan', hedits'⟩, hold, hkept⟩
  · have hplan := h.ofArgs_eq hvalid hsame
    rw [pendingEdits, pendingEdits, hplan]
    cases hofArgs : Plan.ofArgs disk args with
    | error error => rfl
    | ok plan =>
      refine congrArg (Prod.mk [plan.summary]) (Edit.pending_congr fun p hp => ?_)
      exact h.readBytes_eq (havoids.imp_right fun havoids => havoids _ (hplan.trans hofArgs)) hp

/-! ## Projects with a config file -/

section Projects

variable {path : Path} {text : String} {exclude : List String} {excludes : List Glob.Pattern}

/-- The arguments that name one source directory, a report and a config file. -/
def configArgs (path : Path) : TaskArgs := { plainArgs "src" "r" with config := some path }

/-- The bytes of a text. -/
def bytesOf (text : String) : List UInt8 := text.toUTF8.data.toList

/-- What a config file says that holds nothing but patterns. -/
theorem findConfig_configArgs {l : Location} (hwf : disk.WellFormed) (hfile : disk.IsFileAt path l)
    (hbytes : disk.get? l = some (.file (bytesOf text)))
    (hconfig : (Config.ofText text).toOption = some { Config.empty with exclude := exclude }) :
    Project.findConfig disk "." (some path) = .ok { Config.empty with exclude := exclude } := by
  have htext : disk.readText path = .ok text := by
    rw [readText, hfile.readBytes hwf hbytes]
    simp only [bytesOf, Charset.fromUTF8?_toUTF8]
  have hofText : Config.ofText text = .ok { Config.empty with exclude := exclude } := by
    cases h : Config.ofText text with
    | error problem =>
      rw [h] at hconfig
      cases hconfig
    | ok config =>
      rw [h] at hconfig
      exact congrArg Except.ok (Option.some.inj hconfig)
  rw [Project.findConfig, Project.readConfig, htext]
  exact except_mapError_eq_ok.2 hofText

theorem collect_of_walk {root p : Path} (hwalk : disk.walk root = .ok [p])
    (hadmits : Sources.admits excludes root p = true) :
    Sources.collect disk.walk excludes [root] = .ok [p] := by
  refine Sources.collect_eq_ok_iff.2 ⟨[[p]], mapM_cons_eq_ok.2 ⟨[p], [], ?_, rfl, rfl⟩, rfl⟩
  rw [hwalk, Except.map, List.filter_cons_of_pos hadmits, List.filter_nil]

/-- A source with a config file has one edit, if there is something to be changed in it. -/
theorem pendingEdits_configArgs {source : Path} {current formatted : String} {l : Location}
    (hwf : disk.WellFormed)
    (hconfig : Project.findConfig disk "." (some path) =
      .ok { Config.empty with exclude := exclude })
    (hexcludes : exclude.mapM Project.readPattern = .ok excludes)
    (hwalk : disk.walk "src" = .ok [source]) (hadmits : Sources.admits excludes "src" source = true)
    (hfile : disk.IsFileAt source l) (hbytes : disk.get? l = some (.file (bytesOf current)))
    (hformat : Source.format (Choices.settings ⟨none, none, none⟩).style current = formatted)
    (hdiffers : current ≠ formatted) :
    (pendingEdits disk (configArgs path)).2 = .ok [⟨source, current, formatted, .utf8⟩] := by
  refine pendingEdits_eq_ok_iff.2 ⟨plainPlan "src" [source], Plan.ofArgs_eq_ok_iff.2
    ⟨{ Config.empty with exclude := exclude }, excludes, hconfig, rfl, ofLabel_utf8, rfl, ?_,
      collect_of_walk hwalk hadmits⟩, ?_⟩
  · rw [configArgs, plainArgs, List.append_nil]
    exact hexcludes
  · have hof : Edit.ofFile disk (Choices.settings ⟨none, none, none⟩).style .utf8 source =
        .ok ⟨source, current, formatted, .utf8⟩ :=
      Edit.ofFile_eq_ok_iff.2 ⟨bytesOf current, current, hfile.readBytes hwf hbytes,
        Charset.fromUTF8?_toUTF8 current, by rw [hformat]⟩
    refine Edit.pending_eq_ok_iff.2 ⟨_, mapM_cons_eq_ok.2 ⟨_, [], hof, rfl, rfl⟩, ?_⟩
    simp [Edit.hasEdits, hdiffers]

end Projects

/-- A config file with one pattern. -/
def onePattern : String := "exclude=['x'] "

/-- The same with two patterns. -/
def twoPatterns : String := "exclude=['x','y'] "

theorem ofText_onePattern :
    (Config.ofText onePattern).toOption = some { Config.empty with exclude := ["x"] } := by
  decide +kernel

theorem ofText_twoPatterns :
    (Config.ofText twoPatterns).toOption = some { Config.empty with exclude := ["x", "y"] } := by
  decide +kernel

/-- The small project with a config file `c` beside the source directory. -/
def configProject (text : String) : Disk := tabProject.add [] "c" (.file (bytesOf text))

section ConfigProject

variable (text : String)

theorem configProject_wellFormed : (configProject text).WellFormed :=
  tabProject_wellFormed.add (by decide) (by decide) (by decide) nofun

theorem hasNoLink_configProject : HasNoLink (configProject text) :=
  hasNoLink_tabProject.add [] "c" (by simp)

theorem isFileAt_configProject : (configProject text).IsFileAt "c" ["c"] :=
  ⟨bytesOf text, resolve_of_names [] [] "c" (by decide) (by decide) rfl (by decide) rfl
    (hasNoLink_configProject text _)⟩

theorem isFileAt_configProject_source :
    (configProject text).IsFileAt "src/A.java" ["src", "A.java"] :=
  ⟨[9, 120], resolve_of_names [.down "src"] ["src"] "A.java" (by decide) (by decide) rfl
    (by decide) rfl (hasNoLink_configProject text _)⟩

theorem walk_configProject : (configProject text).walk "src" = .ok ["src/A.java"] := by
  have hnames : (configProject text).names ["src"] = ["A.java"] := by
    rw [names, show (configProject text).entries = [(["c"], .file (bytesOf text)),
      (["src", "A.java"], .file [9, 120]), (["src"], .dir)] from rfl]
    simp
  have hroot : (configProject text).IsDirAt "src" ["src"] :=
    isDirAt_dotted rfl rfl 0 (by decide)
  have hjoin : Path.join "src" "A.java" = "src/A.java" := by decide
  rw [walk_of_files hroot (by rw [hnames]; exact List.forall_mem_singleton.2 ⟨_, rfl⟩),
    hnames, List.map_cons, List.map_nil, hjoin]

end ConfigProject

/-- The small project with other patterns in its config file and on the command line. -/
theorem repatterned_configProject {text text' : String}
    {inFile inFile' given given' : List String}
    (hconfig : (Config.ofText text).toOption = some { Config.empty with exclude := inFile })
    (hconfig' : (Config.ofText text').toOption = some { Config.empty with exclude := inFile' }) :
    Repatterned (configProject text) (configProject text') { configArgs "c" with exclude := given }
      { configArgs "c" with exclude := given' } (inFile ++ given) (inFile' ++ given') :=
  ⟨rfl, Or.inr ⟨"c", ["c"], bytesOf text', rfl, isFileAt_configProject text, rfl⟩,
    { Config.empty with exclude := inFile }, inFile',
    findConfig_configArgs (configProject_wellFormed text) (isFileAt_configProject text) rfl hconfig,
    findConfig_configArgs (configProject_wellFormed text') (isFileAt_configProject text') rfl
      hconfig', rfl, rfl⟩

/-- Whatever is excluded, no other file than the source of the small project is a source. -/
theorem eq_of_mem_configProject {text : String} {given : List String}
    (hplan : Plan.ofArgs (configProject text) { configArgs "c" with exclude := given } = .ok plan)
    {p : Path} (hp : p ∈ plan.files) : p = "src/A.java" := by
  obtain ⟨-, excludes, -, -, -, hroots, -, hfiles⟩ := Plan.ofArgs_eq_ok_iff.1 hplan
  obtain ⟨root, hroot, listed, hwalk, hlisted, -⟩ := Sources.exists_listed_of_collect hfiles hp
  rw [← show ["src"] = plan.roots from Except.ok.inj hroots] at hroot
  obtain rfl := List.mem_singleton.1 hroot
  obtain rfl := Except.ok.inj ((walk_configProject text).symm.trans hwalk)
  exact List.mem_singleton.1 hlisted

theorem avoidsConfig_configProject {text text' : String} {given given' : List String}
    (hplan : Plan.ofArgs (configProject text') { configArgs "c" with exclude := given' } =
      .ok plan) :
    plan.AvoidsConfig (configProject text) { configArgs "c" with exclude := given } := by
  intro path hpath l hl p hp hlp
  obtain rfl := Option.some.inj hpath
  obtain rfl := hl.unique (isFileAt_configProject text)
  rw [eq_of_mem_configProject hplan hp] at hlp
  exact absurd (hlp.unique (isFileAt_configProject_source text)) (by decide)

/-- The small project keeps its edit with another pattern in the config file, and has the same edits
if this pattern is given on the command line, in whatever order. -/
theorem edits_of_patterns_configProject :
    (∃ plan' edits', Plan.ofArgs (configProject twoPatterns) (configArgs "c") = .ok plan' ∧
      (pendingEdits (configProject twoPatterns) (configArgs "c")).2 = .ok edits' ∧
      (∀ edit' ∈ edits', ∃ edit ∈ [tabEdit], same edit.path edit'.path = true ∧
        edit' = { edit with path := edit'.path }) ∧
      ∀ edit ∈ [tabEdit], ∀ p ∈ plan'.files, same edit.path p = true →
        { edit with path := p } ∈ edits') ∧
    pendingEdits (configProject onePattern) { configArgs "c" with exclude := ["y", "x"] } =
      pendingEdits (configProject twoPatterns) (configArgs "c") := by
  have hvalid : ∀ text ∈ ["x", "y"], ∃ pattern, Project.readPattern text = .ok pattern :=
    List.forall_mem_cons.2 ⟨⟨⟨[.char 'x']⟩, rfl⟩,
      List.forall_mem_singleton.2 ⟨⟨[.char 'y']⟩, rfl⟩⟩
  have hbytes : (configProject onePattern).get? ["src", "A.java"] =
      some (.file (bytesOf "\tx")) := by
    rw [show bytesOf "\tx" = [9, 120] by decide]
    rfl
  have hexcludes : ["x"].mapM Project.readPattern = .ok [⟨[.char 'x']⟩] := rfl
  have hedits : (pendingEdits (configProject onePattern) (configArgs "c")).2 = .ok [tabEdit] :=
    pendingEdits_configArgs (configProject_wellFormed _)
      (findConfig_configArgs (configProject_wellFormed _) (isFileAt_configProject _) rfl
        ofText_onePattern) hexcludes (walk_configProject _) (by decide)
      (isFileAt_configProject_source _) hbytes (by decide +kernel) (by decide)
  refine ⟨?_, ?_⟩
  · refine (edits_of_patterns (configProject_wellFormed onePattern)
      (repatterned_configProject ofText_onePattern ofText_twoPatterns) hvalid
      (Or.inr fun plan' hplan' => avoidsConfig_configProject hplan')).1 [tabEdit] hedits (by decide)
      fun plan' hplan' p hp => ?_
    rw [eq_of_mem_configProject hplan' hp]
    decide
  · refine (edits_of_patterns (configProject_wellFormed twoPatterns)
      (repatterned_configProject ofText_twoPatterns ofText_onePattern) (fun text htext => ?_)
      (Or.inr fun plan' hplan' => avoidsConfig_configProject hplan')).2 fun text => ?_
    · exact hvalid text (by revert text; decide)
    · simp only [plainArgs, List.mem_append, List.mem_cons, List.not_mem_nil, or_false]
      tauto

/-! ## A spelling that is too long -/

/-- A source in a directory `a` below the source directory. -/
def nestedProject : Disk :=
  (emptyProject.add ["src"] "a" .dir).add ["src", "a"] "A.java" (.file [9, 120])

/-- The directory `a` under a path of 4095 bytes, the longest that can be opened. -/
def longDirectory : Path := dotted 2045 "src/a"

/-- The arguments that name the source directory and, under its long path, the directory `a`. -/
def nestedArgs (exclude : List String) : TaskArgs :=
  ⟨["./src", longDirectory], ⟨none, none, none⟩, "r", exclude, none, "."⟩

/-- The edit of the source, under the path that is listed first. -/
def nestedEdit : Edit := { tabEdit with path := "./src/a/A.java" }

theorem isName_source : IsName "A.java" := by
  refine ⟨?_, ?_, ?_, ?_, ?_⟩ <;> decide

theorem nestedProject_wellFormed : nestedProject.WellFormed :=
  (emptyProject_wellFormed.add (by decide) (by decide) (by decide) (by nofun)).add (by decide)
    (by decide) (by decide) nofun

theorem hasNoLink_nestedProject : HasNoLink nestedProject :=
  (hasNoLink_emptyProject.add ["src"] "a" (by simp)).add ["src", "a"] "A.java" (by simp)

theorem names_nestedProject : nestedProject.names ["src"] = ["a"] ∧
    nestedProject.names ["src", "a"] = ["A.java"] := by
  have hentries : nestedProject.entries = [(["src", "a", "A.java"], .file [9, 120]),
    (["src", "a"], .dir), (["src"], .dir)] := by decide
  rw [names, names, hentries]
  constructor <;> simp

/-- Below the directory `a` the source is listed. -/
theorem walkBelow_nestedProject {root path : Path} {fuel : Nat}
    (hshort : path.utf8ByteSize < pathLimit) :
    nestedProject.walkBelow root (fuel + 1) ["src", "a"] path = .ok [path.join "A.java"] := by
  have hfiles : ∀ name ∈ nestedProject.names ["src", "a"],
      ∃ bytes, nestedProject.get? (["src", "a"] ++ [name]) = some (.file bytes) := by
    rw [names_nestedProject.2]
    exact List.forall_mem_singleton.2 ⟨[9, 120], by decide⟩
  rw [walkBelow_of_files hshort hfiles, names_nestedProject.2, List.map_cons, List.map_nil]

theorem walk_nestedProject : nestedProject.walk "./src" = .ok ["./src/a/A.java"] := by
  have hroot : nestedProject.IsDirAt "./src" ["src"] := isDirAt_dotted rfl (by decide) 1 (by decide)
  have hdirectory : Path.join "./src" "a" = "./src/a" := by decide
  have hsource : Path.join "./src/a" "A.java" = "./src/a/A.java" := by decide
  have hentry : listEntry nestedProject "./src" nestedProject.depth ["src"] "./src" "a" =
      .ok ["./src/a/A.java"] := by
    rw [listEntry, show nestedProject.get? (["src"] ++ ["a"]) = some .dir by decide, hdirectory,
      show nestedProject.depth = 2 + 1 by decide, ← hsource]
    exact walkBelow_nestedProject (by decide)
  refine walk_eq_ok_iff.2 ⟨["src"], hroot,
    walkBelow_succ_eq_ok.2 ⟨by decide, [["./src/a/A.java"]], ?_, rfl⟩⟩
  rw [names_nestedProject.1]
  exact mapM_cons_eq_ok.2 ⟨_, [], hentry, rfl, rfl⟩

theorem utf8ByteSize_longDirectory : longDirectory.utf8ByteSize = 4095 :=
  utf8ByteSize_dotted 2045 "src/a"

theorem walk_longDirectory :
    nestedProject.walk longDirectory = .ok [longDirectory.join "A.java"] := by
  have hroot : nestedProject.IsDirAt longDirectory ["src", "a"] :=
    isDirAt_dotted_of ["src"] "a" rfl (by decide) (by decide) (by decide) (by decide) (by decide)
      (by decide) 2045 (by decide) (by decide)
  refine walk_eq_ok_iff.2 ⟨["src", "a"], hroot, walkBelow_nestedProject ?_⟩
  rw [utf8ByteSize_longDirectory]
  decide

theorem components_longDirectory :
    longDirectory.components = [.current, .name "src", .name "a"] := by
  rw [longDirectory, components_dotted 2044 "src/a"]
  decide

theorem longDirectory_ne : longDirectory ≠ "" := fun hempty => by
  have hsize := utf8ByteSize_longDirectory
  rw [hempty] at hsize
  cases hsize

/-- The long path of the source is the same path as the one that is listed first. -/
theorem same_longDirectory : same "./src/a/A.java" (longDirectory.join "A.java") = true := by
  rw [same, components_join longDirectory_ne isName_source, components_longDirectory]
  decide

theorem admits_longDirectory {excludes : List Glob.Pattern}
    (h : (excludes.any fun pattern => pattern.matches "A.java") = false) :
    Sources.admits excludes longDirectory (longDirectory.join "A.java") = true := by
  have hbelow : (longDirectory.join "A.java").relativeTo? longDirectory = some "A.java" :=
    relativeTo?_join (by rw [components_longDirectory]; exact List.cons_ne_nil _ _) isName_source
  have hextension : (longDirectory.join "A.java").extension? = some Sources.extension := by
    rw [extension?, fileName?_join longDirectory_ne isName_source]
    decide
  rw [Sources.admits, hbelow, hextension, Option.getD_some, h]
  rfl

/-- The plan of the project, whose files are the spellings that the patterns admit. -/
theorem ofArgs_nestedProject {exclude : List String} {excludes : List Glob.Pattern}
    {first : List Path} (hexcludes : exclude.mapM Project.readPattern = .ok excludes)
    (hfirst : ["./src/a/A.java"].filter (Sources.admits excludes "./src") = first)
    (hsecond : (excludes.any fun pattern => pattern.matches "A.java") = false) :
    Plan.ofArgs nestedProject (nestedArgs exclude) =
      .ok ⟨Choices.settings ⟨none, none, none⟩, .utf8, ["./src", longDirectory],
        Sources.firstSpellings (first ++ [longDirectory.join "A.java"])⟩ := by
  have hconfig : Project.configInUse nestedProject "." none = none :=
    configInUse_plain rfl (by decide)
  have hfound : (["./src", longDirectory].mapM fun root =>
      (nestedProject.walk root).map (·.filter (Sources.admits excludes root))) =
        .ok [first, [longDirectory.join "A.java"]] := by
    refine mapM_cons_eq_ok.2 ⟨_, _, ?_, mapM_cons_eq_ok.2 ⟨_, [], ?_, rfl, rfl⟩, rfl⟩
    · rw [walk_nestedProject, Except.map, hfirst]
    · rw [walk_longDirectory, Except.map, List.filter_cons_of_pos (admits_longDirectory hsecond),
        List.filter_nil]
  refine Plan.ofArgs_eq_ok_iff.2 ⟨Config.empty, excludes, ?_, rfl, ofLabel_utf8, rfl, hexcludes,
    Sources.collect_eq_ok_iff.2 ⟨_, hfound, ?_⟩⟩
  · rw [Project.findConfig_eq, nestedArgs, hconfig]
  · rw [List.flatten_cons, List.flatten_cons, List.flatten_nil, List.append_nil]

/-- Without patterns the source has an edit under the path that is listed first. -/
theorem edits_nestedProject :
    (pendingEdits nestedProject (nestedArgs [])).2 = .ok [nestedEdit] := by
  have hfiles : Sources.firstSpellings (["./src/a/A.java"] ++ [longDirectory.join "A.java"]) =
      ["./src/a/A.java"] := by
    rw [List.singleton_append, Sources.firstSpellings, Sources.firstSpellings,
      Sources.firstSpellings, List.filter_nil,
      List.filter_cons_of_neg (by rw [same_longDirectory]; exact Bool.false_ne_true),
      List.filter_nil]
  have hexcludes : [].mapM Project.readPattern = .ok [] := rfl
  have hplan := ofArgs_nestedProject hexcludes
    (show ["./src/a/A.java"].filter (Sources.admits [] "./src") = ["./src/a/A.java"] by decide) rfl
  rw [hfiles] at hplan
  have hfile : nestedProject.IsFileAt "./src/a/A.java" ["src", "a", "A.java"] :=
    ⟨[9, 120], resolve_of_names [.stay, .down "src", .down "a"] ["src", "a"] "A.java" (by decide)
      (by decide) rfl (by decide) (by decide) (hasNoLink_nestedProject _)⟩
  have hread : nestedProject.readBytes "./src/a/A.java" = .ok [9, 120] :=
    hfile.readBytes nestedProject_wellFormed (by decide)
  exact pendingEdits_eq_ok_iff.2 ⟨_, hplan, Edit.pending_eq_ok_iff.2 ⟨[nestedEdit],
    mapM_cons_eq_ok.2 ⟨nestedEdit, [], ofFile_tab hread, rfl, rfl⟩, rfl⟩⟩

/-- **A pattern may let a path through that is too long**: the source cannot be read then. -/
theorem edits_nestedProject_excluded :
    (pendingEdits nestedProject (nestedArgs ["a/*"])).2 =
      .error (.unreadable (longDirectory.join "A.java") .nameTooLong) := by
  have hexcludes : ["a/*"].mapM Project.readPattern =
      .ok [⟨[.char 'a', .char '/', .anyText false]⟩] := rfl
  have hplan := ofArgs_nestedProject hexcludes
    (show ["./src/a/A.java"].filter (Sources.admits _ "./src") = [] by decide) (by decide)
  have hnull : '\x00' ∉ (longDirectory.join "A.java").toList :=
    isName_source.null_not_mem_join (null_not_mem_dotted 2045 (by decide))
  have hlong : pathLimit ≤ (longDirectory.join "A.java").utf8ByteSize := by
    have hsize := le_utf8ByteSize_join longDirectory "A.java" (by decide)
    rw [utf8ByteSize_longDirectory] at hsize
    exact Nat.le_trans (by decide) hsize
  have hres : nestedProject.resolve .followed (longDirectory.join "A.java") =
      .error .nameTooLong := by
    rw [resolve, if_neg (by simpa using hnull), if_neg (by simp [isName_source.join_ne_empty]),
      if_pos hlong]
  have hread : nestedProject.readBytes (longDirectory.join "A.java") = .error .nameTooLong := by
    rw [readBytes, entryAt, hres]
  have hof : Edit.ofFile nestedProject (Choices.settings ⟨none, none, none⟩).style .utf8
      (longDirectory.join "A.java") =
        .error (.unreadable (longDirectory.join "A.java") .nameTooLong) := by
    rw [Edit.ofFile, hread]
    rfl
  -- the path itself, which is long, plays no part in what follows
  generalize longDirectory.join "A.java" = long at hplan hof ⊢
  rw [pendingEdits, hplan]
  change Edit.pending _ _ _ [long] = _
  rw [Edit.pending, List.mapM_cons, hof]
  rfl

/-! ## A config file that is a source -/

/-- The small project with another text in its source. -/
def sourceProject (text : String) : Disk := tabProject.setBytes ["src", "A.java"] (bytesOf text)

/-- What is done about the source if it is the config file, too. -/
theorem edits_sourceProject {text formatted : String} {exclude : List String}
    {excludes : List Glob.Pattern}
    (hconfig : (Config.ofText text).toOption = some { Config.empty with exclude := exclude })
    (hexcludes : exclude.mapM Project.readPattern = .ok excludes)
    (hadmits : Sources.admits excludes "src" "src/A.java" = true)
    (hformat : Source.format (Choices.settings ⟨none, none, none⟩).style text = formatted)
    (hdiffers : text ≠ formatted) :
    Project.findConfig (sourceProject text) "." (some "src/A.java") =
        .ok { Config.empty with exclude := exclude } ∧
      (pendingEdits (sourceProject text) (configArgs "src/A.java")).2 =
        .ok [⟨"src/A.java", text, formatted, .utf8⟩] := by
  have hwf : (sourceProject text).WellFormed := tabProject_wellFormed.setBytes _ _
  have hfile : (sourceProject text).IsFileAt "src/A.java" ["src", "A.java"] :=
    isFileAt_tabProject.persists (setBytes_extends _ _ _) tabProject_wellFormed
  have hbytes : (sourceProject text).get? ["src", "A.java"] = some (.file (bytesOf text)) := by
    rw [sourceProject, get?_setBytes, if_pos rfl]
    rfl
  have hwalk : (sourceProject text).walk "src" = .ok ["src/A.java"] := by
    rw [sourceProject, walk_setBytes, walk_tabProject]
  have hfound := findConfig_configArgs hwf hfile hbytes hconfig
  exact ⟨hfound, pendingEdits_configArgs hwf hfound hexcludes hwalk hadmits hfile hbytes hformat
    hdiffers⟩

/-- **More patterns may change more than that**: without them the source in the directory `a` has an
edit, but its other path, which a pattern lets through, is too long to be opened.  And a source that
is the config file is not the same with more patterns in it. -/
theorem not_edits_of_patterns :
    (nestedProject.WellFormed ∧
      Repatterned nestedProject nestedProject (nestedArgs []) (nestedArgs ["a/*"]) [] ["a/*"] ∧
      (∃ pattern, Project.readPattern "a/*" = .ok pattern) ∧
      (pendingEdits nestedProject (nestedArgs [])).2 = .ok [nestedEdit] ∧
      (pendingEdits nestedProject (nestedArgs ["a/*"])).2 =
        .error (.unreadable (longDirectory.join "A.java") .nameTooLong)) ∧
    (sourceProject onePattern).WellFormed ∧
      Repatterned (sourceProject onePattern) (sourceProject twoPatterns) (configArgs "src/A.java")
        (configArgs "src/A.java") ["x"] ["x", "y"] ∧
      (∀ text ∈ ["x", "y"], ∃ pattern, Project.readPattern text = .ok pattern) ∧
      (pendingEdits (sourceProject onePattern) (configArgs "src/A.java")).2 =
        .ok [⟨"src/A.java", onePattern, "exclude=['x']\n", .utf8⟩] ∧
      (pendingEdits (sourceProject twoPatterns) (configArgs "src/A.java")).2 =
        .ok [⟨"src/A.java", twoPatterns, "exclude=['x','y']\n", .utf8⟩] := by
  have hnested : Project.findConfig nestedProject "." none = .ok Config.empty := by
    rw [Project.findConfig_eq, configInUse_plain rfl (by decide)]
  have hx : ["x"].mapM Project.readPattern = .ok [⟨[.char 'x']⟩] := rfl
  have hxy : ["x", "y"].mapM Project.readPattern = .ok [⟨[.char 'x']⟩, ⟨[.char 'y']⟩] := rfl
  have hformat : Source.format (Choices.settings ⟨none, none, none⟩).style onePattern =
      "exclude=['x']\n" := by decide +kernel
  have hformat' : Source.format (Choices.settings ⟨none, none, none⟩).style twoPatterns =
      "exclude=['x','y']\n" := by decide +kernel
  obtain ⟨hone, hedits⟩ :=
    edits_sourceProject ofText_onePattern hx (by decide) hformat (by decide)
  obtain ⟨htwo, hedits'⟩ :=
    edits_sourceProject ofText_twoPatterns hxy (by decide) hformat' (by decide)
  have hfile : (sourceProject onePattern).IsFileAt "src/A.java" ["src", "A.java"] :=
    isFileAt_tabProject.persists (setBytes_extends _ _ _) tabProject_wellFormed
  refine ⟨⟨nestedProject_wellFormed,
    ⟨rfl, Or.inl rfl, Config.empty, [], hnested, hnested, rfl, rfl⟩, ⟨_, rfl⟩,
    edits_nestedProject, edits_nestedProject_excluded⟩, tabProject_wellFormed.setBytes _ _,
    ⟨rfl, Or.inr ⟨"src/A.java", ["src", "A.java"], bytesOf twoPatterns, rfl, hfile, rfl⟩,
      _, _, hone, htwo, rfl, rfl⟩, fun text htext => ?_, hedits, hedits'⟩
  obtain ⟨pattern, -, hpattern⟩ := exists_mem_of_mapM hxy htext
  exact ⟨pattern, hpattern⟩

end JavaFormat
