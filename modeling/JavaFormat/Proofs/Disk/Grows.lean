import JavaFormat.Proofs.Disk.Lookup
import JavaFormat.Report

/-!
# What creating entries does

Creating directories keeps whatever there is and adds nothing but directories (`Disk.AddsDirs`), and
so does making sure that there is a report, but for the empty report itself (`Disk.Grows`).

* `grows_add`: what a path leads to that is not there may be created there.
* `makeDirs_addsDirs`: what creating a directory and those above it does, whether or not it is done.
-/

set_option autoImplicit false

namespace JavaFormat

namespace Disk

open JavaFormat.Path

/-- **What creating entries does to a disk**: every entry stays as it is, and what is new is a
directory or an empty file. -/
structure Grows (disk later : Disk) : Prop where
  /-- The working directory is the same. -/
  home : later.home = disk.home
  /-- An entry stays as it is. -/
  keep : ∀ l e, disk.get? l = some e → later.get? l = some e
  /-- What is new is a directory or an empty file. -/
  fresh : ∀ l e, disk.get? l = none → later.get? l = some e → e = .dir ∨ e = .file []
  /-- What is new has a name that leads to it. -/
  name : ∀ l name e, disk.get? (l ++ [name]) = none → later.get? (l ++ [name]) = some e →
    IsName name ∧ name.utf8ByteSize ≤ nameLimit
  /-- What is denied is the same. -/
  denial : ∀ l, later.denial? l = disk.denial? l

namespace Grows

variable {disk mid later : Disk}

theorem refl (disk : Disk) : Grows disk disk where
  home := rfl
  keep := fun _ _ hl => hl
  fresh := fun l e hl hlater => by
    rw [hl] at hlater
    cases hlater
  name := fun l name e hl hlater => by
    rw [hl] at hlater
    cases hlater
  denial := fun _ => rfl

theorem trans (h : Grows disk mid) (h' : Grows mid later) : Grows disk later where
  home := h'.home.trans h.home
  keep := fun l e hl => h'.keep l e (h.keep l e hl)
  fresh := fun l e hl hlater => by
    cases hmid : mid.get? l with
    | none => exact h'.fresh l e hmid hlater
    | some e' =>
      rw [h'.keep l e' hmid] at hlater
      cases hlater
      exact h.fresh l e hl hmid
  name := fun l name e hl hlater => by
    cases hmid : mid.get? (l ++ [name]) with
    | none => exact h'.name l name e hmid hlater
    | some e' => exact h.name l name e' hl hmid
  denial := fun l => (h'.denial l).trans (h.denial l)

theorem toExtends (h : Grows disk later) : Extends disk later where
  home := h.home
  dir := fun l hl => h.keep l _ hl
  link := fun l _ hl => h.keep l _ hl
  file := fun l bytes hl => ⟨bytes, h.keep l _ hl⟩
  fresh := fun l target hl hlater => by
    rcases h.fresh l _ hl hlater with hdir | hfile
    · cases hdir
    · cases hfile

theorem wellFormed (h : Grows disk later) (hwf : disk.WellFormed) : later.WellFormed where
  home := h.home ▸ h.keep _ _ hwf.home
  name := fun l name e hlater => by
    cases hl : disk.get? (l ++ [name]) with
    | none => exact h.name l name e hl hlater
    | some e' => exact hwf.name l name e' hl
  target := fun l target hlater => by
    cases hl : disk.get? l with
    | none => exact absurd hlater (h.toExtends.fresh l target hl)
    | some e =>
      rw [h.keep l e hl] at hlater
      cases hlater
      exact hwf.target l target hl

end Grows

/-- **What creating directories does to a disk**: what is new is a directory. -/
structure AddsDirs (disk later : Disk) : Prop extends Grows disk later where
  /-- There are no new files. -/
  directory : ∀ l e, disk.get? l = none → later.get? l = some e → e = .dir

namespace AddsDirs

variable {disk mid later : Disk}

theorem refl (disk : Disk) : AddsDirs disk disk where
  toGrows := .refl disk
  directory := fun l e hl hlater => by
    rw [hl] at hlater
    cases hlater

theorem trans (h : AddsDirs disk mid) (h' : AddsDirs mid later) : AddsDirs disk later where
  toGrows := h.toGrows.trans h'.toGrows
  directory := fun l e hl hlater => by
    cases hmid : mid.get? l with
    | none => exact h'.directory l e hmid hlater
    | some e' =>
      rw [h'.keep l e' hmid] at hlater
      cases hlater
      exact h.directory l e hl hmid

end AddsDirs

/-! ## New names -/

/-- The name that a walk did not find is one that an entry may have. -/
theorem isName_of_walkSteps {disk : Disk} {last : LastLink} {links : Nat} {at_ l : Location}
    {slash slash' : Bool} {steps : List Step} {name : String} (hwf : disk.WellFormed)
    (hlimit : ∀ slash, last.limitsName slash = true)
    (hsteps : ∀ n, Step.down n ∈ steps → IsName n)
    (h : walkSteps disk last links at_ slash steps = .ok ⟨.vacant l name, slash'⟩) :
    IsName name ∧ name.utf8ByteSize ≤ nameLimit := by
  fun_induction walkSteps disk last links at_ slash steps with
  | case1 => cases h
  | case2 links at_ slash rest ih => exact ih (fun n hn => hsteps n (List.mem_cons_of_mem _ hn)) h
  | case3 links at_ slash rest ih => exact ih (fun n hn => hsteps n (List.mem_cons_of_mem _ hn)) h
  | case4 links at_ slash rest ih => exact ih (fun n hn => hsteps n (List.mem_cons_of_mem _ hn)) h
  | case5 => cases h
  | case6 links at_ slash name' hnone hshort =>
    cases h
    refine ⟨hsteps _ List.mem_cons_self, Nat.le_of_not_lt fun hlt => hshort ⟨hlt, ?_⟩⟩
    exact Or.inr (hlimit _)
  | case7 => cases h
  | case8 links at_ slash name' rest hshort hdir ih =>
    exact ih (fun n hn => hsteps n (List.mem_cons_of_mem _ hn)) h
  | case9 => cases h
  | case10 => cases h
  | case11 => cases h
  | case12 => cases h
  | case13 at_ slash name' rest hshort target hlink hkept links ih =>
    refine ih (fun n hn => ?_) h
    rcases List.mem_append.1 hn with hn | hn
    · exact isName_of_mem_stepsOf (hwf.target _ _ hlink) hn
    · exact hsteps n (List.mem_cons_of_mem _ hn)

/-- What a path leads to that is not there may be created there. -/
theorem grows_add {disk : Disk} {last : LastLink} {path : Path} {l : Location} {name : String}
    {slash : Bool} {e : Entry} (hwf : disk.WellFormed)
    (hlimit : ∀ slash, last.limitsName slash = true) (he : e = .dir ∨ e = .file [])
    (h : disk.resolve last path = .ok ⟨.vacant l name, slash⟩) :
    Grows disk (disk.add l name e) := by
  obtain ⟨hdir, hnone⟩ := resolve_vacant hwf h
  have hname : IsName name ∧ name.utf8ByteSize ≤ nameLimit := by
    obtain ⟨hopen, hwalk⟩ := resolve_eq_ok_iff.1 h
    exact isName_of_walkSteps hwf hlimit (fun n hn => isName_of_mem_stepsOf hopen.1 hn) hwalk
  have hadd := get?_add e (beq_iff_eq.2 hdir) hnone
  refine ⟨?_, ?_, ?_, ?_, denial?_add disk l name e⟩
  · rw [add, dif_pos ⟨beq_iff_eq.2 hdir, hnone⟩]
  · intro k found hk
    rw [hadd k, if_neg, hk]
    rintro rfl
    rw [hnone] at hk
    cases hk
  · intro k found hk hfound
    rw [hadd k] at hfound
    split at hfound
    · exact Option.some.inj hfound ▸ he
    · rw [hk] at hfound
      cases hfound
  · intro k name' found hk hfound
    rw [hadd (k ++ [name'])] at hfound
    split at hfound
    · rename_i heq
      obtain ⟨-, heq⟩ := List.append_inj' heq rfl
      cases heq
      exact hname
    · rw [hk] at hfound
      cases hfound

theorem get?_add_self {disk : Disk} {last : LastLink} {path : Path} {l : Location} {name : String}
    {slash : Bool} (e : Entry) (hwf : disk.WellFormed)
    (h : disk.resolve last path = .ok ⟨.vacant l name, slash⟩) :
    (disk.add l name e).get? (l ++ [name]) = some e := by
  obtain ⟨hdir, hnone⟩ := resolve_vacant hwf h
  rw [get?_add e (beq_iff_eq.2 hdir) hnone, if_pos rfl]

/-! ## Directories -/

theorem create_dir_addsDirs {disk : Disk} (hwf : disk.WellFormed) (path : Path) :
    AddsDirs disk (disk.create path .dir).2 := by
  unfold create
  split
  · exact .refl disk
  · rename_i l name slash hres
    unfold unlessDenied
    split
    · obtain ⟨hdir, hnone⟩ := resolve_vacant hwf hres
      refine ⟨grows_add hwf (fun _ => rfl) (Or.inl rfl) hres, fun k e hk hlater => ?_⟩
      rw [get?_add .dir (beq_iff_eq.2 hdir) hnone] at hlater
      split at hlater
      · exact (Option.some.inj hlater).symm
      · rw [hk] at hlater
        cases hlater
    · exact .refl disk
  · exact .refl disk

theorem orDir_snd (result : Except IoError Unit × Disk) (path : Path) :
    (orDir result path).2 = result.2 := by
  unfold orDir
  split
  · split <;> rfl
  · rfl

theorem makeDirsWithin_addsDirs {disk : Disk} (hwf : disk.WellFormed) (path : Path) (fuel : Nat) :
    AddsDirs disk (disk.makeDirsWithin path fuel).2 := by
  induction fuel generalizing disk path with
  | zero => exact .refl disk
  | succ fuel ih =>
    have hcreate := create_dir_addsDirs hwf path
    unfold makeDirsWithin
    split
    · exact .refl disk
    · split
      · rename_i mid hres
        rw [hres] at hcreate
        split
        · exact hcreate
        · rename_i parent hparent
          have hparents := ih (hcreate.wellFormed hwf) parent
          split
          · rename_i mid' hres'
            rw [hres'] at hparents
            rw [orDir_snd]
            have hadds := hcreate.trans hparents
            exact hadds.trans (create_dir_addsDirs (hadds.wellFormed hwf) path)
          · exact hcreate.trans hparents
      · rw [orDir_snd]
        exact hcreate

/-- **Creating a directory and those above it** keeps whatever there is and adds only these. -/
theorem makeDirs_addsDirs {disk : Disk} (hwf : disk.WellFormed) (path : Path) :
    AddsDirs disk (disk.makeDirs path).2 := makeDirsWithin_addsDirs hwf path _

end Disk

namespace Report

open Disk JavaFormat.Path

theorem ensureParent_addsDirs {disk : Disk} (hwf : disk.WellFormed) (report : Path) :
    AddsDirs disk (ensureParent report disk).2 := by
  unfold ensureParent
  split
  · exact .refl disk
  · split
    · exact .refl disk
    · exact makeDirs_addsDirs hwf _

end Report

end JavaFormat
