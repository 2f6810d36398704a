import JavaFormat.Proofs.Disk.Resolve

/-!
# Disks that grow

What `check` and `format` do to a disk leaves directories, links and files where they are
(`Disk.Extends`).  A walk that found an entry finds it again on the later disk, and one that failed
on the way fails there again (`walkSteps_persists`), unless it missed an entry.
-/

set_option autoImplicit false

namespace JavaFormat

namespace Disk

/-- **What becomes of a disk on which files are written and entries are created**: directories and
links stay, files stay files, and no new link appears. -/
structure Extends (disk later : Disk) : Prop where
  /-- The working directory is the same. -/
  home : later.home = disk.home
  /-- A directory stays. -/
  dir : ∀ l, disk.get? l = some .dir → later.get? l = some .dir
  /-- A link stays and keeps its target. -/
  link : ∀ l target, disk.get? l = some (.link target) → later.get? l = some (.link target)
  /-- A file stays, whatever it holds. -/
  file : ∀ l bytes, disk.get? l = some (.file bytes) → ∃ others, later.get? l = some (.file others)
  /-- What is new is no link. -/
  fresh : ∀ l target, disk.get? l = none → later.get? l ≠ some (.link target)

namespace Extends

variable {disk mid later : Disk}

theorem refl (disk : Disk) : Extends disk disk where
  home := rfl
  dir := fun _ h => h
  link := fun _ _ h => h
  file := fun _ bytes h => ⟨bytes, h⟩
  fresh := fun _ _ h => by rw [h]; exact nofun

theorem trans (h : Extends disk mid) (h' : Extends mid later) : Extends disk later where
  home := h'.home.trans h.home
  dir := fun l hl => h'.dir l (h.dir l hl)
  link := fun l target hl => h'.link l target (h.link l target hl)
  file := fun l bytes hl => by
    obtain ⟨others, hm⟩ := h.file l bytes hl
    exact h'.file l others hm
  fresh := fun l target hl => by
    cases hm : mid.get? l with
    | none => exact h'.fresh l target hm
    | some e =>
      cases e with
      | file bytes =>
        obtain ⟨others, ho⟩ := h'.file l bytes hm
        rw [ho]
        exact nofun
      | dir =>
        rw [h'.dir l hm]
        exact nofun
      | link t => exact absurd hm (h.fresh l t hl)

theorem isSome (h : Extends disk later) (l : Location) (hl : (disk.get? l).isSome = true) :
    (later.get? l).isSome = true := by
  obtain ⟨e, he⟩ := Option.isSome_iff_exists.1 hl
  cases e with
  | dir => rw [h.dir l he, Option.isSome_some]
  | link target => rw [h.link l target he, Option.isSome_some]
  | file bytes =>
    obtain ⟨others, hothers⟩ := h.file l bytes he
    rw [hothers, Option.isSome_some]

end Extends

/-! ## Places -/

/-- Where a place is. -/
def Place.location : Place → Location
  | .entry l _ => l
  | .vacant l name => l ++ [name]

/-- Whether a place is as a disk has it. -/
def Place.IsIn (disk : Disk) : Place → Prop
  | .entry l e => disk.get? l = some e
  | .vacant l name => disk.get? l = some .dir ∧ disk.get? (l ++ [name]) = none

/-- A place as it is on another disk. -/
def Place.seen (disk : Disk) (place : Place) : Place :=
  match disk.get? place.location with
  | some e => .entry place.location e
  | none => place

theorem get?_dropLast {disk : Disk} {l : Location} (h : disk.get? l = some .dir) :
    disk.get? l.dropLast = some .dir := by
  rcases List.eq_nil_or_concat l with rfl | ⟨front, n, rfl⟩
  · exact h
  · rw [List.concat_eq_append] at h
    rw [List.concat_eq_append, List.dropLast_concat]
    exact eq_of_beq (hasDir_of_get? h)

@[simp] theorem get?_nil (disk : Disk) : disk.get? [] = some .dir := by rw [get?, if_pos rfl]

/-- What a walk on a disk has to do with the same walk on a later one: it ends at the same place, or
with the same failure, unless it missed an entry. -/
def Persists (disk later : Disk) (result result' : Except IoError Destination) : Prop :=
  match result with
  | .ok ⟨place, slash⟩ => place.IsIn disk ∧ result' = .ok ⟨place.seen later, slash⟩
  | .error .notFound => True
  | .error e => result' = .error e

theorem persists_error {disk later : Disk} {e : IoError} :
    Persists disk later (.error e) (.error e) := by
  cases e <;> simp [Persists]

/-- **A walk ends later where it ended before**, if it ended in a directory that was there. -/
theorem walkSteps_persists {disk later : Disk} (hext : Extends disk later) (last : LastLink)
    (links : Nat) (at_ : Location) (slash : Bool) (steps : List Step)
    (hat : disk.get? at_ = some .dir) :
    Persists disk later (walkSteps disk last links at_ slash steps)
      (walkSteps later last links at_ slash steps) := by
  fun_induction walkSteps disk last links at_ slash steps with
  | case1 links at_ slash =>
    rw [walkSteps]
    refine ⟨hat, ?_⟩
    rw [Place.seen, Place.location, hext.dir _ hat]
  | case2 links at_ slash rest ih =>
    rw [walkSteps]
    exact ih (get?_nil disk)
  | case3 links at_ slash rest ih =>
    rw [walkSteps]
    exact ih hat
  | case4 links at_ slash rest ih =>
    rw [walkSteps]
    exact ih (get?_dropLast hat)
  | case5 links at_ slash name rest hlong =>
    rw [walkSteps, if_pos hlong]
    exact persists_error
  | case6 links at_ slash name hnone hshort =>
    rw [walkSteps, if_neg hshort]
    refine ⟨⟨hat, hnone⟩, ?_⟩
    have hfresh := hext.fresh (at_ ++ [name])
    rw [Place.seen, Place.location]
    cases hl : later.get? (at_ ++ [name]) with
    | none => rfl
    | some e =>
      cases e with
      | file bytes => rfl
      | dir => simp [walkSteps]
      | link target => exact absurd hl (hfresh target hnone)
  | case7 => trivial
  | case8 links at_ slash name rest hshort hdir ih =>
    rw [walkSteps_down_dir hshort (hext.dir _ hdir)]
    exact ih hdir
  | case9 links at_ slash name bytes hfile hshort =>
    obtain ⟨others, ho⟩ := hext.file _ _ hfile
    rw [walkSteps_down_file hshort ho]
    refine ⟨hfile, ?_⟩
    rw [Place.seen, Place.location, ho]
    rfl
  | case10 links at_ slash name rest hshort bytes hfile hrest =>
    obtain ⟨others, ho⟩ := hext.file _ _ hfile
    rw [walkSteps_down_file hshort ho, if_neg hrest]
    exact persists_error
  | case11 links at_ slash name rest hshort target hlink hkept =>
    have hl := hext.link _ _ hlink
    rw [walkSteps_down_kept hshort hl hkept]
    refine ⟨hlink, ?_⟩
    rw [Place.seen, Place.location, hl]
  | case12 at_ slash name rest hshort target hlink hkept =>
    rw [walkSteps_down_zero hshort (hext.link _ _ hlink) hkept]
    exact persists_error
  | case13 at_ slash name rest hshort target hlink hkept links ih =>
    rw [walkSteps_down_link hshort (hext.link _ _ hlink) hkept]
    exact ih hat

end Disk

end JavaFormat
