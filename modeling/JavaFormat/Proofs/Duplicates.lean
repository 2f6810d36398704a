import JavaFormat.Proofs.Disk.Listed
import JavaFormat.Proofs.Effect

/-!
# No file twice

A source that is listed below several roots counts once, by its components.  What a user sees are
absolute paths, and these tell less: `./src` and `src` are different paths with one absolute form.
Where roots that overlap start alike (`StartAlike`), sources have different absolute forms, so that
a report has one block for each file (`edits_once`); otherwise a file may be reported twice
(`edits_twice`).
-/

set_option autoImplicit false

namespace JavaFormat

open CommandLine Disk JavaFormat.Path

/-- **Whether roots that overlap start alike**: where the absolute form of one lies above that of
another, both start at the root, or both with the component `.`, or neither does. -/
def StartAlike (home : List String) (roots : List Path) : Prop :=
  ∀ root ∈ roots, ∀ other ∈ roots,
    (absolute home root).components <+: (absolute home other).components →
      root.start? = other.start?

variable {disk : Disk} {args : TaskArgs} {plan : Plan} {roots files : List Path}
  {excludes : List Glob.Pattern} {edits : List Edit} {p q : Path}

/-! ## Collected paths -/

/-- A source starts as a root, and names what that names and more. -/
theorem exists_root_of_collect (hwf : disk.WellFormed)
    (h : Sources.collect disk.walk excludes roots = .ok files) (hp : p ∈ files) :
    ∃ root ∈ roots, ∃ names : List String, root ≠ "" ∧ p ≠ "" ∧ p.start? = root.start? ∧
      p.named = root.named ++ names.map .name := by
  obtain ⟨root, hroot, listed, hwalk, hlisted, -⟩ := Sources.exists_listed_of_collect h hp
  obtain ⟨hne, names, -, hnames, rfl⟩ := exists_names_of_walk hwf hwalk hlisted
  obtain ⟨hstart, hnamed⟩ := foldl_join hne hnames
  exact ⟨root, hroot, names, hne, foldl_join_ne_empty hne hnames, hstart, hnamed⟩

theorem above_eq_of_start? {home : List String} (h : p.start? = q.start?) :
    p.above home = q.above home := by
  have habs : p.isAbsolute = q.isAbsolute := by
    rw [Bool.eq_iff_iff, ← start?_eq_root_iff, ← start?_eq_root_iff, h]
  rw [above, above, habs]

/-- **Sources with one absolute form are the same**, if roots that overlap start alike. -/
theorem same_of_collect (hwf : disk.WellFormed) (halike : StartAlike disk.home roots)
    (h : Sources.collect disk.walk excludes roots = .ok files) (hp : p ∈ files) (hq : q ∈ files)
    (hsame : same (absolute disk.home p) (absolute disk.home q) = true) : same p q = true := by
  obtain ⟨root, hroot, names, hne, hpne, hpstart, hpnamed⟩ := exists_root_of_collect hwf h hp
  obtain ⟨root', hroot', names', hne', hqne, hqstart, hqnamed⟩ := exists_root_of_collect hwf h hq
  refine same_of_absolute hwf.isName_home hpne hqne ?_ hsame
  rw [hpstart, hqstart]
  -- both roots lie above the path that the two absolute forms are
  have hfront : ∀ {r s : Path} {names : List String}, r ≠ "" → s ≠ "" → s.start? = r.start? →
      s.named = r.named ++ names.map .name →
      (absolute disk.home r).components <+: (absolute disk.home s).components := by
    intro r s names hr hs hstart hnamed
    rw [components_absolute hwf.isName_home hr, components_absolute hwf.isName_home hs, hnamed,
      above_eq_of_start? hstart, ← List.append_assoc, ← List.cons_append]
    exact List.prefix_append _ _
  have hroots := hfront hne hpne hpstart hpnamed
  rw [eq_of_beq hsame] at hroots
  have hroots' := hfront hne' hqne hqstart hqnamed
  rcases List.prefix_or_prefix_of_prefix hroots hroots' with hover | hover
  · exact halike root hroot root' hroot' hover
  · exact (halike root' hroot' root hroot hover).symm

/-- A source never goes up if no root does. -/
theorem up_not_mem_of_collect (hwf : disk.WellFormed)
    (hup : ∀ root ∈ roots, Component.parent ∉ root.components)
    (h : Sources.collect disk.walk excludes roots = .ok files) (hp : p ∈ files) :
    Step.up ∉ stepsOf p := by
  obtain ⟨root, hroot, names, -, -, hstart, hnamed⟩ := exists_root_of_collect hwf h hp
  refine up_not_mem_stepsOf ?_
  have hroot := hup root hroot
  rw [components_eq] at hroot
  rw [components_eq, hstart, hnamed, ← List.append_assoc, List.mem_append, not_or]
  exact ⟨hroot, by simp⟩

/-- **Without links the absolute form of a source** names where its file lies. -/
theorem components_absolute_of_collect (hwf : disk.WellFormed) (hlinks : HasNoLink disk)
    (hup : ∀ root ∈ roots, Component.parent ∉ root.components)
    (h : Sources.collect disk.walk excludes roots = .ok files) (hp : p ∈ files) {l : Location}
    (hl : disk.IsFileAt p l) : (absolute disk.home p).components = .root :: l.map .name := by
  obtain ⟨-, -, -, -, hne, -⟩ := exists_root_of_collect hwf h hp
  rw [components_absolute hwf.isName_home hne,
    map_name_of_isFileAt hlinks (up_not_mem_of_collect hwf hup h hp) hl]

/-! ## Edits -/

theorem same_comm (p q : Path) : same p q = same q p := by
  rw [Bool.eq_iff_iff, same, same, beq_iff_eq, beq_iff_eq, eq_comm]

/-- The absolute paths of edits are different paths, if roots that overlap start alike. -/
theorem pairwise_absolutePath (hwf : disk.WellFormed)
    (hfiles : Sources.collect disk.walk excludes plan.roots = .ok plan.files)
    (hedits : plan.edits disk = .ok edits) (halike : StartAlike disk.home plan.roots) :
    edits.Pairwise fun edit other =>
      same (edit.absolutePath disk) (other.absolutePath disk) = false := by
  obtain ⟨all, hall, rfl⟩ := Edit.pending_eq_ok_iff.1 hedits
  have hapart : (all.map Edit.path).Pairwise fun p q => same p q = false := by
    obtain ⟨found, -, heq⟩ := Sources.collect_eq_ok_iff.1 hfiles
    rw [Edit.map_path_of_mapM hall, heq]
    exact Sources.pairwise_firstSpellings _
  have hmem : ∀ edit ∈ all, edit.path ∈ plan.files := fun edit hedit =>
    Edit.map_path_of_mapM hall ▸ List.mem_map_of_mem hedit
  refine ((List.pairwise_map.1 hapart).imp_of_mem fun hedit hother hne => ?_).filter _
  refine Bool.eq_false_iff.2 fun hsame => ?_
  rw [same_of_collect hwf halike hfiles (hmem _ hedit) (hmem _ hother) hsame] at hne
  cases hne

/-- **No file is edited or reported twice**, if roots that overlap start alike.  The absolute paths
of the edits are different paths, and without links and components `..` each file that a layout
changes has exactly one edit. -/
theorem edits_once (hwf : disk.WellFormed) (hlinks : HasNoLink disk)
    (hplan : Plan.ofArgs disk args = .ok plan) (hedits : plan.edits disk = .ok edits)
    (hup : ∀ root ∈ plan.roots, Component.parent ∉ root.components)
    (halike : StartAlike disk.home plan.roots) :
    edits.Pairwise (fun edit other =>
        same (edit.absolutePath disk) (other.absolutePath disk) = false) ∧
      ∀ p ∈ plan.files, ∀ l bytes text, disk.IsFileAt p l → disk.get? l = some (.file bytes) →
        plan.charset.decode? bytes = some text → Source.format plan.settings.style text ≠ text →
        ∃ front edit back, edits = front ++ edit :: back ∧ disk.IsFileAt edit.path l ∧
          ∀ other ∈ front ++ back, ¬disk.IsFileAt other.path l := by
  obtain ⟨config, excludes, -, -, -, -, -, hfiles⟩ := Plan.ofArgs_eq_ok_iff.1 hplan
  have hpairwise := pairwise_absolutePath hwf hfiles hedits halike
  refine ⟨hpairwise, fun p hp l bytes text hl hbytes hdecode hdiffers => ?_⟩
  have hpending : Edit.mk p text (Source.format plan.settings.style text) plan.charset ∈ edits := by
    obtain ⟨all, hall, rfl⟩ := Edit.pending_eq_ok_iff.1 hedits
    obtain ⟨edit, hedit, hof⟩ := exists_mem_of_mapM hall hp
    obtain ⟨bytes', text', hread, hdecode', rfl⟩ := Edit.ofFile_eq_ok_iff.1 hof
    obtain rfl := Except.ok.inj ((hl.readBytes hwf hbytes).symm.trans hread)
    obtain rfl := Option.some.inj (hdecode.symm.trans hdecode')
    exact List.mem_filter.2 ⟨hedit, by simpa [Edit.hasEdits] using Ne.symm hdiffers⟩
  obtain ⟨front, back, rfl⟩ := List.append_of_mem hpending
  refine ⟨front, _, back, rfl, hl, fun other hother hat => ?_⟩
  -- another edit of the file would have the same absolute path
  rw [List.pairwise_middle fun {edit other} hne => by rwa [same_comm]] at hpairwise
  have hne := (List.pairwise_cons.1 hpairwise).1 other hother
  have hpath : other.path ∈ plan.files := by
    refine Edit.path_mem_of_mem_pending hedits ?_
    exact (List.mem_append.1 hother).elim (List.mem_append_left _) fun h =>
      List.mem_append_right _ (List.mem_cons_of_mem _ h)
  rw [same, Edit.absolutePath, Edit.absolutePath,
    components_absolute_of_collect hwf hlinks hup hfiles hp hl,
    components_absolute_of_collect hwf hlinks hup hfiles hpath hat, beq_self_eq_true] at hne
  cases hne

/-! ## Roots that start differently -/

/-- The arguments that name two source directories and a report. -/
def twoRoots (root other : Path) : TaskArgs :=
  ⟨[root, other], ⟨none, none, none⟩, "r", [], none, "."⟩

/-- The plan with two source directories, nothing else being asked for. -/
def twoRootsPlan (root other : Path) (files : List Path) : Plan :=
  { plainPlan root files with roots := [root, other] }

theorem ofArgs_twoRoots {root other : Path} {first second : List Path}
    (hfirst : (tabProject.walk root).map (·.filter (Sources.admits [] root)) = .ok first)
    (hsecond : (tabProject.walk other).map (·.filter (Sources.admits [] other)) = .ok second) :
    Plan.ofArgs tabProject (twoRoots root other) =
      .ok (twoRootsPlan root other (Sources.firstSpellings (first ++ second))) := by
  have hconfig : Project.configInUse tabProject "." none = none := configInUse_plain rfl (by decide)
  have hfound : ([root, other].mapM fun root =>
      (tabProject.walk root).map (·.filter (Sources.admits [] root))) = .ok [first, second] :=
    mapM_cons_eq_ok.2 ⟨first, [second], hfirst,
      mapM_cons_eq_ok.2 ⟨second, [], hsecond, rfl, rfl⟩, rfl⟩
  refine Plan.ofArgs_eq_ok_iff.2 ⟨Config.empty, [], ?_, rfl, ofLabel_utf8, rfl, rfl,
    Sources.collect_eq_ok_iff.2 ⟨[first, second], hfound, ?_⟩⟩
  · rw [Project.findConfig_eq, twoRoots, hconfig]
  · rw [List.flatten_cons, List.flatten_cons, List.flatten_nil, List.append_nil]
    rfl

/-- The source directory under its name with slashes behind. -/
theorem isDirAt_slashes : tabProject.IsDirAt "src//" ["src"] := by
  refine ⟨true, ?_⟩
  rw [resolve_of_names [] [] "src" (by decide) (by decide) rfl (by decide) (by decide)
    (hasNoLink_tabProject _), Place.seen, Place.location,
    show tabProject.get? (tabProject.home ++ [] ++ ["src"]) = some .dir by decide]
  rfl

theorem ofArgs_slashes : Plan.ofArgs tabProject (twoRoots "src" "src//") =
    .ok (twoRootsPlan "src" "src//" ["src/A.java"]) := by
  have hfirst : (tabProject.walk "src").map (·.filter (Sources.admits [] "src")) =
      .ok ["src/A.java"] := by
    rw [walk_tabProject]
    decide
  have hsecond : (tabProject.walk "src//").map (·.filter (Sources.admits [] "src//")) =
      .ok ["src//A.java"] := by
    rw [walk_tabProject_of isDirAt_slashes]
    decide
  rw [ofArgs_twoRoots hfirst hsecond, show Sources.firstSpellings
    (["src/A.java"] ++ ["src//A.java"]) = ["src/A.java"] by decide]

/-- The source is listed under `src` and `src//`, and edited once. -/
theorem edits_once_slashes :
    [tabEdit].Pairwise (fun edit other =>
        same (edit.absolutePath tabProject) (other.absolutePath tabProject) = false) ∧
      ∀ p ∈ ["src/A.java"], ∀ l bytes text, tabProject.IsFileAt p l →
        tabProject.get? l = some (.file bytes) → Charset.utf8.decode? bytes = some text →
        Source.format (Choices.settings ⟨none, none, none⟩).style text ≠ text →
        ∃ front edit back, [tabEdit] = front ++ edit :: back ∧ tabProject.IsFileAt edit.path l ∧
          ∀ other ∈ front ++ back, ¬tabProject.IsFileAt other.path l := by
  have halike : StartAlike tabProject.home (twoRootsPlan "src" "src//" ["src/A.java"]).roots := by
    intro root hroot other hother _
    have hnone : ∀ r ∈ ["src", "src//"], start? r = none := by decide
    rw [hnone root hroot, hnone other hother]
  exact edits_once tabProject_wellFormed hasNoLink_tabProject ofArgs_slashes edits_tabProject
    (by decide) halike

theorem readBytes_dotted : tabProject.readBytes "./src/A.java" = .ok [9, 120] := by
  have hfile : tabProject.IsFileAt "./src/A.java" ["src", "A.java"] :=
    ⟨[9, 120], resolve_of_names [.stay, .down "src"] ["src"] "A.java" (by decide) (by decide) rfl
      (by decide) (by decide) (hasNoLink_tabProject _)⟩
  exact hfile.readBytes tabProject_wellFormed (by decide)

/-- **A file may be edited and reported twice** if one root starts with the component `.` and one
does not: the source below `src` and `./src` has two edits of one absolute path. -/
theorem edits_twice :
    tabProject.WellFormed ∧ HasNoLink tabProject ∧
      (∀ root ∈ (twoRoots "src" "./src").sources, Component.parent ∉ root.components) ∧
      (pendingEdits tabProject (twoRoots "src" "./src")).2 =
        .ok [tabEdit, { tabEdit with path := "./src/A.java" }] ∧
      tabEdit.absolutePath tabProject =
        Edit.absolutePath tabProject { tabEdit with path := "./src/A.java" } := by
  refine ⟨tabProject_wellFormed, hasNoLink_tabProject, by decide, ?_, by decide⟩
  have hfirst : (tabProject.walk "src").map (·.filter (Sources.admits [] "src")) =
      .ok ["src/A.java"] := by
    rw [walk_tabProject]
    decide
  have hsecond : (tabProject.walk "./src").map (·.filter (Sources.admits [] "./src")) =
      .ok ["./src/A.java"] := by
    have hroot : tabProject.IsDirAt "./src" ["src"] :=
      isDirAt_dotted rfl (by decide) 1 (by decide)
    rw [walk_tabProject_of hroot]
    decide
  have hplan := ofArgs_twoRoots hfirst hsecond
  rw [pendingEdits, hplan]
  refine Edit.pending_eq_ok_iff.2 ⟨[tabEdit, { tabEdit with path := "./src/A.java" }], ?_, rfl⟩
  rw [show (twoRootsPlan "src" "./src" (Sources.firstSpellings
    (["src/A.java"] ++ ["./src/A.java"]))).files = ["src/A.java", "./src/A.java"] by decide]
  exact mapM_cons_eq_ok.2 ⟨tabEdit, _, ofFile_tab readBytes_tabProject,
    mapM_cons_eq_ok.2 ⟨_, [], ofFile_tab readBytes_dotted, rfl, rfl⟩, rfl⟩

end JavaFormat
