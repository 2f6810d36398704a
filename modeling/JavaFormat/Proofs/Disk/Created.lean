import JavaFormat.Proofs.Disk.Grows
import JavaFormat.Proofs.Disk.Parent

/-!
# What is created with a directory or a report

A directory or a report is created together with the missing directories above it, and with nothing
else (`Disk.Created`).

* `makeDirs_created`: creating a directory does nothing, or it creates that one.
* `ensure_created`: making sure of a report does nothing, or it creates an empty file where the path
  of the report leads then.
* `ensure_grows`, `ensure_error`: whether it is done or fails, whatever there is stays as it is.

The point is that a path cannot come back to an old file over a new directory unless it goes up from
there: below a new directory there is nothing, so that the path ends there (`Created.get?_below`).
So every component `..` has to come after what leads to a directory (`Disk.LeadsUp`), as it does on
every disk where there is no such component.  Symbolic links on the way, even those that lead
nowhere, do not matter.
-/

set_option autoImplicit false

namespace JavaFormat

namespace Disk

open JavaFormat.Path

variable {disk mid later : Disk} {path : Path} {l m : Location} {name : String} {e : Entry}

/-- **An entry is new**, and with it the directories above it that were missing; nothing else is,
and nothing is changed. -/
structure Created (disk later : Disk) (l : Location) (e : Entry) : Prop where
  /-- There was nothing. -/
  missing : disk.get? l = none
  /-- There is the entry. -/
  entry : later.get? l = some e
  /-- Elsewhere nothing is new but directories above it. -/
  others : ∀ k, k ≠ l → later.get? k = disk.get? k ∨
    disk.get? k = none ∧ later.get? k = some .dir ∧ k <+: l

namespace Created

/-- An entry in an old directory. -/
theorem of_add (e : Entry) (hdir : disk.get? l = some .dir)
    (hnone : disk.get? (l ++ [name]) = none) :
    Created disk (disk.add l name e) (l ++ [name]) e where
  missing := hnone
  entry := by rw [get?_add e (beq_iff_eq.2 hdir) hnone, if_pos rfl]
  others := fun k hk => Or.inl (by rw [get?_add e (beq_iff_eq.2 hdir) hnone, if_neg hk])

/-- There is nothing in a new directory. -/
theorem get?_below (h : Created disk mid m .dir) (name : String) :
    mid.get? (m ++ [name]) = none := by
  have hold : disk.get? (m ++ [name]) = none := get?_append_eq_none h.missing name
  rcases h.others (m ++ [name]) (by simp) with hsame | ⟨-, -, hfront⟩
  · rw [hsame, hold]
  · exact absurd hfront.length_le (by simp)

/-- An entry in a new directory. -/
theorem add (h : Created disk mid m .dir) (name : String) (e : Entry) :
    Created disk (mid.add m name e) (m ++ [name]) e := by
  have hstep := of_add e h.entry (h.get?_below name)
  refine ⟨get?_append_eq_none h.missing name, hstep.entry, fun k hk => ?_⟩
  have hsame : (mid.add m name e).get? k = mid.get? k := by
    rcases hstep.others k hk with hsame | ⟨hnone, hdir, hfront⟩
    · exact hsame
    · rw [get?_add e (beq_iff_eq.2 h.entry) (h.get?_below name), if_neg hk]
  rw [hsame]
  by_cases hm : k = m
  · exact Or.inr ⟨hm ▸ h.missing, hm ▸ h.entry, hm ▸ List.prefix_append m [name]⟩
  · exact (h.others k hm).imp_right fun ⟨hnone, hdir, hfront⟩ =>
      ⟨hnone, hdir, hfront.trans (List.prefix_append m [name])⟩

/-- What is new is the entry or a directory above it. -/
theorem get?_eq_some_iff (h : Created disk later l e) {k : Location} (hk : disk.get? k = none)
    {found : Entry} : later.get? k = some found ↔
      k = l ∧ found = e ∨ k ≠ l ∧ k <+: l ∧ found = .dir := by
  constructor
  · intro hfound
    by_cases hl : k = l
    · rw [hl, h.entry] at hfound
      exact Or.inl ⟨hl, (Option.some.inj hfound).symm⟩
    · rcases h.others k hl with hsame | ⟨-, hdir, hfront⟩
      · rw [hsame, hk] at hfound
        cases hfound
      · rw [hdir] at hfound
        exact Or.inr ⟨hl, hfront, (Option.some.inj hfound).symm⟩
  · rintro (⟨rfl, rfl⟩ | ⟨hl, ⟨rest, hrest⟩, rfl⟩)
    · exact h.entry
    · have hentry := h.entry
      rw [← hrest] at hentry
      refine get?_of_append hentry ?_
      rintro rfl
      exact hl (by rw [← hrest, List.append_nil])

end Created

/-! ## Creating directories -/

theorem create_error {cause : IoError} (h : disk.create path e = (.error cause, later)) :
    later = disk := by
  unfold create at h
  split at h
  · cases h
    rfl
  · exact (unlessDenied_eq_error h).1
  · cases h
    rfl

/-- A new directory is where its path leads then. -/
theorem create_dir_eq_ok (hwf : disk.WellFormed) (h : disk.create path .dir = (.ok (), later)) :
    ∃ l name, (∃ slash, disk.resolve .followed path = .ok ⟨.vacant l name, slash⟩) ∧
      later = disk.add l name .dir ∧ later.IsDirAt path (l ++ [name]) := by
  unfold create at h
  split at h
  · cases h
  · rename_i l name slash hres
    obtain ⟨-, rfl⟩ := unlessDenied_eq_ok_iff.1 h
    have hfollowed := resolve_of_kept (fun _ _ => Place.noConfusion) hres
    have hgrows := grows_add (e := .dir) hwf (fun _ => rfl) (Or.inl rfl) hfollowed
    exact ⟨l, name, ⟨slash, hfollowed⟩, rfl, slash,
      resolve_vacant_later hgrows.toExtends hwf hfollowed (get?_add_self _ hwf hfollowed)⟩
  · cases h

/-- A directory that is asked for was there, or it is created. -/
theorem orDir_create_eq_ok (hwf : disk.WellFormed)
    (h : orDir (disk.create path .dir) path = (.ok (), later)) :
    (later = disk ∧ disk.isDir path = true) ∨
      ∃ l name, (∃ slash, disk.resolve .followed path = .ok ⟨.vacant l name, slash⟩) ∧
        later = disk.add l name .dir ∧ later.IsDirAt path (l ++ [name]) := by
  cases hcreate : disk.create path .dir with
  | mk result after =>
    rw [hcreate] at h
    cases result with
    | ok u =>
      cases h
      exact Or.inr (create_dir_eq_ok hwf hcreate)
    | error cause =>
      obtain rfl := create_error hcreate
      rw [orDir] at h
      split at h
      · rename_i hdir
        cases h
        exact Or.inl ⟨rfl, hdir⟩
      · cases h

theorem orDir_create_created (hwf : disk.WellFormed)
    (h : orDir (disk.create path .dir) path = (.ok (), later)) :
    later = disk ∨ ∃ l, later.IsDirAt path l ∧ Created disk later l .dir := by
  rcases orDir_create_eq_ok hwf h with ⟨hsame, -⟩ | ⟨l, name, ⟨slash, hres⟩, rfl, hat⟩
  · exact Or.inl hsame
  · obtain ⟨hdir, hnone⟩ := resolve_vacant hwf hres
    exact Or.inr ⟨_, hat, .of_add .dir hdir hnone⟩

/-- Below a new directory, the one that is asked for is created. -/
theorem orDir_create_below (hwf : mid.WellFormed) {parent : Path}
    (hcomponents : path.components = parent.components ++ [.name name])
    (hparent : mid.IsDirAt parent m) (hcreated : Created disk mid m .dir)
    (h : orDir (mid.create path .dir) path = (.ok (), later)) :
    later.IsDirAt path (m ++ [name]) ∧ Created disk later (m ++ [name]) .dir := by
  have hplace := resolve_below hcomponents hparent (hcreated.get?_below name)
  rcases orDir_create_eq_ok hwf h with ⟨-, hdir⟩ | ⟨l, n, ⟨slash, hres⟩, rfl, hat⟩
  · obtain ⟨l, slash, hres⟩ := isDir_iff.1 hdir
    cases hplace _ hres
  · obtain ⟨rfl, rfl⟩ := Place.vacant.inj (hplace _ hres)
    exact ⟨hat, hcreated.add n .dir⟩

theorem create_ne_notFound {front : List Component} (hleads : disk.LeadsUp path)
    (hcomponents : path.components = front ++ [.parent]) :
    disk.create path e ≠ (.error .notFound, later) := by
  intro h
  unfold create at h
  split at h
  · rename_i cause hres
    cases h
    exact hleads.resolve_ne_notFound hcomponents hres
  · obtain ⟨-, denial, -, hcause⟩ := unlessDenied_eq_error h
    cases hcause
  · cases h

/-- Directories are created from the first missing one down.  The induction is on the directories
that are left to be created; either nothing was created above, or what was is the parent. -/
theorem makeDirsWithin_created (hwf : disk.WellFormed) (fuel : Nat) (hleads : disk.LeadsUp path)
    (h : disk.makeDirsWithin path fuel = (.ok (), later)) :
    later = disk ∨ ∃ l, later.IsDirAt path l ∧ Created disk later l .dir := by
  induction fuel generalizing path later with
  | zero => cases h
  | succ fuel ih =>
    rw [makeDirsWithin] at h
    split at h
    · cases h
      exact Or.inl rfl
    · split at h
      · rename_i same hcreate
        obtain rfl := create_error hcreate
        split at h
        · cases h
        · rename_i parent hparent
          split at h
          · rename_i mid hmid
            rcases components_of_parent? hparent with rfl | hdots | ⟨name, hcomponents⟩
            · have hleads' : same.LeadsUp "" := leadsUp_of_not_mem (by decide)
              rcases ih hleads' hmid with rfl | ⟨m, hat, -⟩
              · exact orDir_create_created hwf h
              · exact absurd rfl hat.ne_empty
            · exact absurd hcreate (create_ne_notFound hleads hdots)
            · rcases ih (hleads.of_append hcomponents) hmid with rfl | ⟨m, hat, hcreated⟩
              · exact orDir_create_created hwf h
              · have hgrows := makeDirsWithin_addsDirs hwf parent fuel
                rw [hmid] at hgrows
                exact Or.inr ⟨m ++ [name],
                  orDir_create_below (hgrows.wellFormed hwf) hcomponents hat hcreated h⟩
          · rename_i hfailed
            exact absurd h (hfailed later)
      · exact orDir_create_created hwf h

/-- **Creating a directory** does nothing, or it creates that one with the missing ones above it. -/
theorem makeDirs_created (hwf : disk.WellFormed) (hleads : disk.LeadsUp path)
    (h : disk.makeDirs path = (.ok (), later)) :
    later = disk ∨ ∃ l, later.IsDirAt path l ∧ Created disk later l .dir :=
  makeDirsWithin_created hwf _ hleads h

end Disk

namespace Report

open Disk JavaFormat.Path

variable {disk mid later : Disk} {report : Path} {error : Error}

/-! ## Reports -/

theorem ensureParent_created (hwf : disk.WellFormed) (hleads : disk.LeadsUp report)
    (hlast : ∀ front, report.components ≠ front ++ [.parent])
    (h : ensureParent report disk = (.ok (), mid)) :
    mid = disk ∨ ∃ parent name m, report.components = parent.components ++ [.name name] ∧
      mid.IsDirAt parent m ∧ Created disk mid m .dir := by
  unfold ensureParent at h
  split at h
  · cases h
    exact Or.inl rfl
  · rename_i parent hparent
    split at h
    · cases h
      exact Or.inl rfl
    · rename_i hempty
      have hdone : disk.makeDirs parent = (.ok (), mid) := by
        cases hdirs : disk.makeDirs parent with
        | mk result after =>
          rw [hdirs] at h
          cases result with
          | error cause => cases h
          | ok u =>
            cases h
            rfl
      rcases components_of_parent? hparent with rfl | hdots | ⟨name, hcomponents⟩
      · exact absurd rfl hempty
      · exact absurd hdots (hlast _)
      · exact (makeDirs_created hwf (hleads.of_append hcomponents) hdone).imp_right
          fun ⟨m, hat, hcreated⟩ => ⟨parent, name, m, hcomponents, hat, hcreated⟩

/-- A report is put into the file that its path leads to, or into a new one. -/
theorem put_eq_ok {text : String} (h : put report text mid = (.ok (), later)) :
    (∃ l, mid.IsFileAt report l ∧ mid.denial? l = none ∧
        later = mid.setBytes l text.toUTF8.data.toList) ∨
      ∃ l name, mid.resolve .followed report = .ok ⟨.vacant l name, false⟩ ∧
        later = mid.add l name (.file text.toUTF8.data.toList) := by
  unfold put at h
  cases hwrite : mid.writeBytes report text.toUTF8.data.toList with
  | mk result after =>
    rw [hwrite] at h
    cases result with
    | error cause => cases h
    | ok u =>
      cases h
      refine (writeBytes_eq_ok hwrite).imp_right ?_
      rintro ⟨l, name, hres, -, hadd⟩
      exact ⟨l, name, hres, hadd⟩

/-- **A report that is missing is created** as an empty file, with the missing directories above it;
no old file is emptied. -/
theorem put_created (hwf : disk.WellFormed) (hleads : disk.LeadsUp report)
    (hmissing : disk.exists? report = false) (hparent : ensureParent report disk = (.ok (), mid))
    (h : put report "" mid = (.ok (), later)) :
    Grows disk later ∧ ∃ l, later.IsFileAt report l ∧ Created disk later l (.file []) := by
  have hmid := ensureParent_addsDirs hwf report
  rw [hparent] at hmid
  have hwfm := hmid.wellFormed hwf
  have hempty : "".toUTF8.data.toList = [] := by decide
  -- what is left once it is known that the path of the report leads to a vacant place
  suffices hvacant : ∃ l name, mid.resolve .followed report = .ok ⟨.vacant l name, false⟩ ∧
      later = mid.add l name (.file []) ∧ Created disk later (l ++ [name]) (.file []) by
    obtain ⟨l, name, hres, rfl, hcreated⟩ := hvacant
    have hadd := grows_add (e := .file []) hwfm (fun _ => rfl) (Or.inr rfl) hres
    exact ⟨hmid.toGrows.trans hadd, l ++ [name],
      ⟨[], resolve_vacant_later hadd.toExtends hwfm hres (get?_add_self _ hwfm hres)⟩, hcreated⟩
  have hput := put_eq_ok h
  rw [hempty] at hput
  have hopen : IsOpenable report := by
    rcases hput with ⟨l, ⟨bytes, hfile⟩, -⟩ | ⟨l, name, hres, -⟩
    · exact (resolve_eq_ok_iff.1 hfile).1
    · exact (resolve_eq_ok_iff.1 hres).1
  -- a path that ends with `..` leads to a directory already
  have hlast : ∀ front, report.components ≠ front ++ [.parent] := fun front hfront => by
    obtain ⟨l, slash, hdir⟩ := hleads.isDirAt hfront hopen
    exact absurd (exists?_iff.2 ⟨l, _, _, hdir, nofun⟩) (by simp [hmissing])
  rcases ensureParent_created hwf hleads hlast hparent with
    rfl | ⟨parent, name, m, hcomponents, hat, hnew⟩
  · rcases hput with ⟨l, ⟨bytes, hfile⟩, -⟩ | ⟨l, name, hres, rfl⟩
    · exact absurd (exists?_iff.2 ⟨l, _, _, hfile, fun _ _ => rfl⟩) (by simp [hmissing])
    · obtain ⟨hdir, hnone⟩ := resolve_vacant hwf hres
      exact ⟨l, name, hres, rfl, .of_add _ hdir hnone⟩
  · have hplace := resolve_below hcomponents hat (hnew.get?_below name)
    rcases hput with ⟨l, ⟨bytes, hfile⟩, -⟩ | ⟨l, n, hres, rfl⟩
    · cases hplace _ hfile
    · obtain ⟨rfl, rfl⟩ := Place.vacant.inj (hplace _ hres)
      exact ⟨l, n, hres, rfl, hnew.add n _⟩

/-- **What making sure of a report does** if it is done: nothing where there is one, and else it
creates an empty one. -/
theorem ensure_created_of_leadsUp (hwf : disk.WellFormed) (hleads : disk.LeadsUp report)
    (h : ensure report disk = (.ok (), later)) :
    (disk.exists? report = true ∧ later = disk) ∨
      disk.exists? report = false ∧ Grows disk later ∧
        ∃ l, later.IsFileAt report l ∧ Created disk later l (.file []) := by
  unfold ensure at h
  split at h
  · rename_i hexists
    cases h
    exact Or.inl ⟨hexists, rfl⟩
  · rename_i hmissing
    have hmissing := Bool.eq_false_iff.2 hmissing
    split at h
    · rename_i mid hmid
      exact Or.inr ⟨hmissing, put_created hwf hleads hmissing hmid h⟩
    · rename_i hfailed
      exact absurd h (hfailed later)

/-- A path without a component `..` goes up from nowhere. -/
theorem ensure_created (hwf : disk.WellFormed) (hup : Component.parent ∉ report.components)
    (h : ensure report disk = (.ok (), later)) :
    (disk.exists? report = true ∧ later = disk) ∨
      disk.exists? report = false ∧ Grows disk later ∧
        ∃ l, later.IsFileAt report l ∧ Created disk later l (.file []) :=
  ensure_created_of_leadsUp hwf (leadsUp_of_not_mem hup) h

/-- **Making sure of a report** keeps whatever there is, and then there is a report. -/
theorem ensure_grows (hwf : disk.WellFormed) (hup : Component.parent ∉ report.components)
    (h : ensure report disk = (.ok (), later)) :
    Grows disk later ∧ later.exists? report = true := by
  rcases ensure_created hwf hup h with ⟨hexists, rfl⟩ | ⟨-, hgrows, l, ⟨bytes, hfile⟩, -⟩
  · exact ⟨.refl later, hexists⟩
  · exact ⟨hgrows, exists?_iff.2 ⟨l, _, _, hfile, fun _ _ => rfl⟩⟩

theorem put_error {text : String} (h : put report text mid = (.error error, later)) :
    later = mid := by
  unfold put at h
  cases hwrite : mid.writeBytes report text.toUTF8.data.toList with
  | mk result after =>
    rw [hwrite] at h
    cases result with
    | ok u => cases h
    | error cause =>
      cases h
      exact writeBytes_error hwrite

/-- **Where making sure of a report fails**, whatever there is stays as well, and no more than
directories are new. -/
theorem ensure_error (hwf : disk.WellFormed) (h : ensure report disk = (.error error, later)) :
    AddsDirs disk later := by
  unfold ensure at h
  split at h
  · cases h
  · have hparent := ensureParent_addsDirs hwf report
    split at h
    · rename_i mid hmid
      rw [hmid] at hparent
      rw [put_error h]
      exact hparent
    · rw [h] at hparent
      exact hparent

end Report

end JavaFormat
