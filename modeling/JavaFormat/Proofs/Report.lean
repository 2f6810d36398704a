import JavaFormat.Proofs.Check

/-!
# Making sure of a report

`Report.ensure` looks whether there is a report before it creates the directories that one lies in,
and puts an empty text into it afterwards.  In between a path may come to lead to a file that it did
not lead to before: over a component `..` behind a directory that was missing.  `ensure_keeps` says
what is kept in any case, and that nothing is lost where every such component stands behind what
leads to a directory (`Disk.LeadsUp`); `ensure_empties` shows a file that is lost.
-/

set_option autoImplicit false

namespace JavaFormat

open Disk JavaFormat.Path

namespace Report

variable {disk mid after : Disk} {report : Path}

/-- An empty text that is put somewhere is in the file that the path leads to then, and nowhere else
is anything changed. -/
theorem put_empty (hwf : mid.WellFormed) (h : put report "" mid = (.ok (), after)) :
    Reported mid after report "" := by
  rcases put_eq_ok h with ⟨l, hfile, -, rfl⟩ | ⟨l, name, hres, rfl⟩
  · exact reported_setBytes hwf rfl hfile "" fun k _ => Or.inl rfl
  · have hempty : "".toUTF8.data.toList = [] := by decide
    obtain ⟨hdir, hnone⟩ := resolve_vacant hwf hres
    have hgrows := grows_add (e := .file []) hwf (fun _ => rfl) (Or.inr rfl) hres
    have hlater := resolve_vacant_later hgrows.toExtends hwf hres (get?_add_self _ hwf hres)
    rw [hempty]
    refine ⟨hgrows.home, ?_, l ++ [name], ⟨[], hlater⟩, fun k hk => Or.inl ?_⟩
    · rw [hempty]
      exact readBytes_eq_ok_iff.2 ⟨_, hlater⟩
    · rw [get?_add _ (beq_iff_eq.2 hdir) hnone, if_neg hk]

/-- What making sure of a report does if it is done and there was none: the report is empty, and no
other file has changed. -/
theorem ensure_missing (hwf : disk.WellFormed) (hmissing : disk.exists? report = false)
    (h : ensure report disk = (.ok (), after)) :
    after.readBytes report = .ok [] ∧ ∃ l, after.IsFileAt report l ∧
      ∀ k bytes, k ≠ l → disk.get? k = some (.file bytes) → after.get? k = some (.file bytes) := by
  have hparent := ensureParent_addsDirs hwf report
  rw [ensure, if_neg (by simp [hmissing])] at h
  split at h
  · rename_i mid hmid
    rw [hmid] at hparent
    obtain ⟨-, hholds, l, hfile, hothers⟩ := put_empty (hparent.wellFormed hwf) h
    refine ⟨hholds, l, hfile, fun k bytes hk hold => ?_⟩
    have hkeep := hparent.keep k _ hold
    rcases hothers k hk with hsame | ⟨hnone, -, -⟩
    · rw [hsame, hkeep]
    · rw [hnone] at hkeep
      cases hkeep
  · rename_i hfailed
    exact absurd h (hfailed after)

/-- **Making sure of a report destroys nothing**, except that it may empty a file to which the path
of the report did not lead.  It destroys nothing at all where every component `..` of the path
stands behind what leads to a directory.  If it is done, there is a report: the one that there was,
on the disk as it was, or else an empty one. -/
theorem ensure_keeps {result : Except Error Unit} (hwf : disk.WellFormed)
    (h : ensure report disk = (result, after)) :
    (∀ l bytes, disk.get? l = some (.file bytes) → after.get? l = some (.file bytes) ∨
      result = .ok () ∧ disk.exists? report = false ∧ after.IsFileAt report l) ∧
    (disk.LeadsUp report → ∀ l bytes, disk.get? l = some (.file bytes) →
      after.get? l = some (.file bytes)) ∧
    (result = .ok () → after.exists? report = true ∧
      (disk.exists? report = true → after = disk) ∧
      (disk.exists? report = false → after.readBytes report = .ok [])) := by
  cases result with
  | error error =>
    have hkeep := (ensure_error hwf h).keep
    exact ⟨fun l bytes hl => Or.inl (hkeep l _ hl), fun _ l bytes hl => hkeep l _ hl,
      fun hok => by cases hok⟩
  | ok u =>
    by_cases hexists : disk.exists? report = true
    · rw [ensure, if_pos hexists] at h
      cases h
      exact ⟨fun l bytes hl => Or.inl hl, fun _ l bytes hl => hl,
        fun _ => ⟨hexists, fun _ => rfl, fun hmissing => absurd hexists (by simp [hmissing])⟩⟩
    · have hmissing := Bool.eq_false_iff.2 hexists
      obtain ⟨hempty, l, hfile, hothers⟩ := ensure_missing hwf hmissing h
      refine ⟨fun k bytes hk => ?_, fun hleads k bytes hk => ?_,
        fun _ => ⟨?_, fun hfound => absurd hfound hexists, fun _ => hempty⟩⟩
      · by_cases hl : k = l
        · exact Or.inr ⟨rfl, hmissing, hl ▸ hfile⟩
        · exact Or.inl (hothers k bytes hl hk)
      · rcases ensure_created_of_leadsUp hwf hleads h with ⟨-, rfl⟩ | ⟨-, hgrows, -⟩
        · exact hk
        · exact hgrows.keep k _ hk
      · obtain ⟨bytes, hres⟩ := hfile
        exact exists?_iff.2 ⟨l, _, _, hres, fun _ _ => rfl⟩

/-! ## A report beside an old file -/

/-- A directory with a file in it. -/
def oldDisk : Disk := Disk.empty.add [] "old" (.file [120])

/-- The same with a new directory. -/
def newDisk : Disk := oldDisk.add [] "m" .dir

theorem oldDisk_wellFormed : oldDisk.WellFormed :=
  wellFormed_empty.add (by decide) (by decide) (by decide) nofun

theorem newDisk_wellFormed : newDisk.WellFormed :=
  oldDisk_wellFormed.add (by decide) (by decide) (by decide) nofun

theorem get?_newDisk : newDisk.get? ([] ++ ["m"]) = some .dir ∧
    newDisk.get? ([] ++ ["old"]) = some (.file [120]) ∧ newDisk.get? ([] ++ ["r"]) = none := by
  decide

/-- A way over the new directory goes on beside it. -/
theorem walkSteps_newDisk (last : LastLink) (links : Nat) (slash : Bool) (rest : List Step) :
    walkSteps newDisk last links [] slash (.down "m" :: .up :: rest) =
      walkSteps newDisk last links [] slash rest := by
  rw [walkSteps_down_dir (not_long_of_le (by decide)) get?_newDisk.1, walkSteps]
  rfl

theorem resolve_kept_newDisk : newDisk.resolve .kept "m/.." = .ok ⟨.entry [] .dir, false⟩ := by
  rw [IsOpenable.resolve (by decide), show stepsOf "m/.." = [.down "m", .up] by decide,
    show newDisk.home = [] from rfl, walkSteps_newDisk, walkSteps]
  rfl

theorem create_newDisk : newDisk.create "m/.." .dir = (.error .alreadyExists, newDisk) := by
  rw [create, resolve_kept_newDisk]

/-- Above the report there is a directory then. -/
theorem orDir_newDisk : orDir (newDisk.create "m/.." .dir) "m/.." = (.ok (), newDisk) := by
  have hdir : newDisk.isDir "m/.." = true :=
    isDir_iff.2 ⟨[], false, resolve_of_kept (fun _ _ he => by cases he) resolve_kept_newDisk⟩
  rw [create_newDisk]
  simp only [orDir, hdir, if_true]

/-- The new directory is created as one above `m/..`. -/
theorem ensureParent_oldDisk : ensureParent "m/../old" oldDisk = (.ok (), newDisk) := by
  have hmissing : oldDisk.create "m/.." .dir = (.error .notFound, oldDisk) := by
    have hres : oldDisk.resolve .kept "m/.." = .error .notFound := by
      rw [IsOpenable.resolve (by decide), show stepsOf "m/.." = [.down "m", .up] by decide,
        walkSteps_down_none (not_long_of_le (by decide)) (by decide), if_neg (by simp)]
    rw [create, hres]
  have hnew : oldDisk.create "m" .dir = (.ok (), newDisk) := by
    have hres : oldDisk.resolve .kept "m" = .ok ⟨.vacant [] "m", false⟩ := by
      rw [IsOpenable.resolve (by decide), show stepsOf "m" = [.down "m"] by decide,
        walkSteps_down_none (not_long_of_le (by decide)) (by decide), if_pos rfl]
      rfl
    exact create_of_vacant hres rfl
  have hdirs : oldDisk.makeDirs "m/.." = (.ok (), newDisk) := by
    rw [makeDirs, show ("m/.." : Path).length + 1 = 3 + 1 + 1 from rfl, makeDirsWithin,
      if_neg (by decide), hmissing, show Path.parent? "m/.." = some "m" by decide]
    simp only [makeDirsWithin, hnew, orDir]
    exact orDir_newDisk
  rw [ensureParent, show Path.parent? "m/../old" = some "m/.." by decide]
  simp only [hdirs]
  rfl

theorem resolve_report_newDisk :
    newDisk.resolve .followed "m/../r" = .ok ⟨.vacant [] "r", false⟩ := by
  rw [IsOpenable.resolve (by decide),
    show stepsOf "m/../r" = [.down "m", .up, .down "r"] by decide,
    show newDisk.home = [] from rfl, walkSteps_newDisk,
    walkSteps_down_none (not_long_of_le (by decide)) get?_newDisk.2.2, if_pos rfl]
  rfl

theorem exists?_newDisk : newDisk.exists? "m/../r" = false := by
  simp only [exists?, entryAt, resolve_report_newDisk]

/-- Where the directory is there already, nothing but the report is new. -/
theorem ensure_newDisk :
    ensure "m/../r" newDisk = (.ok (), newDisk.add [] "r" (.file [])) := by
  have hparent : ensureParent "m/../r" newDisk = (.ok (), newDisk) := by
    have hdirs : newDisk.makeDirs "m/.." = (.ok (), newDisk) := by
      rw [makeDirs, makeDirsWithin, if_neg (by decide), create_newDisk]
      simp only [← create_newDisk]
      exact orDir_newDisk
    rw [ensureParent, show Path.parent? "m/../r" = some "m/.." by decide]
    simp only [hdirs]
    rfl
  have hempty : "".toUTF8.data.toList = [] := by decide
  have hput : put "m/../r" "" newDisk = (.ok (), newDisk.add [] "r" (.file [])) := by
    rw [put, writeBytes_of_vacant (resolve_unlessSlash_iff.2 resolve_report_newDisk) rfl, hempty]
    rfl
  rw [ensure, if_neg (by simp [exists?_newDisk]), hparent]
  exact hput

theorem leadsUp_newDisk : newDisk.LeadsUp "m/../r" := by
  intro front back h
  rw [show components "m/../r" = [.name "m", .parent, .name "r"] by decide] at h
  refine ⟨["m"], false, ?_⟩
  rcases front with _ | ⟨c, _ | ⟨d, _ | ⟨e, front⟩⟩⟩ <;> simp at h
  obtain ⟨rfl, -⟩ := h
  rw [show [Component.name "m"].filterMap Step.ofComponent? = [.down "m"] from rfl,
    show newDisk.home = [] from rfl,
    walkSteps_down_dir (not_long_of_le (by decide)) get?_newDisk.1, walkSteps]
  rfl

/-- A report that is reached over an old directory is created beside an old file. -/
theorem ensure_keeps_newDisk :
    ensure "m/../r" newDisk = (.ok (), newDisk.add [] "r" (.file [])) ∧
      newDisk.exists? "m/../r" = false ∧ newDisk.LeadsUp "m/../r" ∧
      (newDisk.add [] "r" (.file [])).get? ["old"] = some (.file [120]) ∧
      (newDisk.add [] "r" (.file [])).readBytes "m/../r" = .ok [] := by
  obtain ⟨-, hkeeps, hdone⟩ := ensure_keeps newDisk_wellFormed ensure_newDisk
  exact ⟨ensure_newDisk, exists?_newDisk, leadsUp_newDisk,
    hkeeps leadsUp_newDisk ["old"] [120] (by decide), (hdone rfl).2.2 exists?_newDisk⟩

/-! ## A file that is lost -/

/-- Over the new directory the path `m/../old` leads to the old file. -/
theorem resolve_newDisk :
    newDisk.resolve .followed "m/../old" = .ok ⟨.entry ["old"] (.file [120]), false⟩ := by
  rw [IsOpenable.resolve (by decide),
    show stepsOf "m/../old" = [.down "m", .up, .down "old"] by decide,
    show newDisk.home = [] from rfl, walkSteps_newDisk,
    walkSteps_down_file (not_long_of_le (by decide)) get?_newDisk.2.1]
  rfl

/-- Without the directory it leads nowhere. -/
theorem exists?_oldDisk : oldDisk.exists? "m/../old" = false := by
  have hres : oldDisk.resolve .followed "m/../old" = .error .notFound := by
    rw [IsOpenable.resolve (by decide),
      show stepsOf "m/../old" = [.down "m", .up, .down "old"] by decide,
      walkSteps_down_none (not_long_of_le (by decide)) (by decide), if_neg (by simp)]
  simp only [exists?, entryAt, hres]

/-- **A file is lost** to which the path of the report led over a directory that was missing. -/
theorem ensure_empties :
    oldDisk.WellFormed ∧ oldDisk.get? ["old"] = some (.file [120]) ∧
      ∃ after, ensure "m/../old" oldDisk = (.ok (), after) ∧
        after.get? ["old"] = some (.file []) := by
  have hput : put "m/../old" "" newDisk = (.ok (), newDisk.setBytes ["old"] []) :=
    put_of_isFileAt ⟨_, resolve_newDisk⟩ "" rfl
  refine ⟨oldDisk_wellFormed, by decide, newDisk.setBytes ["old"] [], ?_, by decide⟩
  rw [ensure, if_neg (by simp [exists?_oldDisk]), ensureParent_oldDisk]
  exact hput

end Report

end JavaFormat
