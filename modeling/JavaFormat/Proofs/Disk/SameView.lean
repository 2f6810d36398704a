import JavaFormat.Proofs.Disk.Walk

/-!
# Disks that hold the same

Two disks hold the same if the same stands at every location (`SameView`), whatever the order in
which their entries are found.  Paths lead to the same files and directories on both, and the walks
over a directory are the same (`SameView.walk_eq_ok`).
-/

set_option autoImplicit false

namespace JavaFormat

namespace Disk

variable {disk other : Disk}

/-- Whether two disks have the same working directory and the same entry at every location. -/
structure SameView (disk other : Disk) : Prop where
  /-- The working directory is the same. -/
  home : other.home = disk.home
  /-- The same stands everywhere. -/
  get? : ∀ l, other.get? l = disk.get? l

namespace SameView

theorem symm (h : SameView disk other) : SameView other disk :=
  ⟨h.home.symm, fun l => (h.get? l).symm⟩

/-- Disks with the same entries in another order hold the same. -/
theorem of_perm (hhome : other.home = disk.home) (h : other.entries.Perm disk.entries) :
    SameView disk other where
  home := hhome
  get? := fun l => by
    rw [Disk.get?, Disk.get?]
    split
    · rfl
    · refine Option.ext fun e => ?_
      rw [lookup_eq_some, lookup_eq_some, h.mem_iff]

/-- What is denied does not count. -/
theorem deny (disk : Disk) (l : Location) (d : Denial) : SameView disk (disk.deny l d) :=
  ⟨home_deny disk l d, get?_deny disk l d⟩

theorem toExtends (h : SameView disk other) : Extends disk other where
  home := h.home
  dir := fun l hl => (h.get? l).trans hl
  link := fun l _ hl => (h.get? l).trans hl
  file := fun l bytes hl => ⟨bytes, (h.get? l).trans hl⟩
  fresh := fun l _ hl => by
    rw [h.get?, hl]
    exact nofun

theorem wellFormed (h : SameView disk other) (hwf : disk.WellFormed) : other.WellFormed where
  home := by rw [h.home, h.get?, hwf.home]
  name := fun l name e he => hwf.name l name e ((h.get? _).symm.trans he)
  target := fun l target hl => hwf.target l target ((h.get? _).symm.trans hl)

theorem names_eq (h : SameView disk other) (l : Location) : other.names l = disk.names l := by
  rw [← filter_names h.toExtends.isSome, List.filter_eq_self.2]
  intro name hname
  rwa [mem_names, h.get?] at hname

theorem depth_le (h : SameView disk other) : other.depth ≤ disk.depth := by
  obtain ⟨l, e, he, hl⟩ := exists_length_eq_depth other
  rw [← hl]
  exact length_le_depth ((h.get? l).symm.trans he)

theorem depth_eq (h : SameView disk other) : other.depth = disk.depth :=
  Nat.le_antisymm h.depth_le h.symm.depth_le

theorem isFile_eq (h : SameView disk other) (hwf : disk.WellFormed) (path : Path) :
    other.isFile path = disk.isFile path := by
  rw [Bool.eq_iff_iff, isFile_iff, isFile_iff]
  exact exists_congr fun l => ⟨fun hl => hl.persists h.symm.toExtends (h.wellFormed hwf),
    fun hl => hl.persists h.toExtends hwf⟩

theorem walkBelow_eq (h : SameView disk other) (hwf : disk.WellFormed) (root : Path) (fuel : Nat)
    (l : Location) (path : Path) :
    other.walkBelow root fuel l path = disk.walkBelow root fuel l path := by
  induction fuel generalizing l path with
  | zero => rfl
  | succ fuel ih => simp only [walkBelow, h.names_eq, h.get?, h.isFile_eq hwf, ih]

/-- **A walk lists the same**, whatever the order in which the entries are found. -/
theorem walk_eq_ok (h : SameView disk other) (hwf : disk.WellFormed) {root : Path}
    {files : List Path} (hwalk : disk.walk root = .ok files) : other.walk root = .ok files := by
  obtain ⟨l, hl, hfiles⟩ := walk_eq_ok_iff.1 hwalk
  refine walk_eq_ok_iff.2 ⟨l, hl.persists h.toExtends hwf, ?_⟩
  rw [h.walkBelow_eq hwf, h.depth_eq, hfiles]

end SameView

end Disk

end JavaFormat
