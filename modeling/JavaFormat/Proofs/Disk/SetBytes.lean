import JavaFormat.Proofs.Disk.Walk

/-!
# Disks that differ in one file

Other bytes in a file change nothing but what is read from it.  Every path leads where it led
(`resolve_setBytes`), so that the same directories and files are found (`isDir_setBytes`,
`walk_setBytes`), and a path that does not lead to the file is read as before
(`readBytes_setBytes`), whether reading it succeeds or fails.
-/

set_option autoImplicit false

namespace JavaFormat

namespace Disk

variable {disk : Disk} {l : Location} {bytes : List UInt8}

/-! ## Where paths lead -/

/-- A place once other bytes are put into the file at a location. -/
def Place.rewritten (l : Location) (bytes : List UInt8) : Place → Place
  | .entry k (.file old) => .entry k (.file (if k = l then bytes else old))
  | place => place

/-- The same of where a path ends. -/
def Destination.rewritten (l : Location) (bytes : List UInt8) (found : Destination) :
    Destination := ⟨found.place.rewritten l bytes, found.slash⟩

theorem get?_setBytes_of_none {k : Location} (h : disk.get? k = none) :
    (disk.setBytes l bytes).get? k = none := by
  rw [get?_setBytes, h]
  split <;> rfl

theorem get?_setBytes_of_dir {k : Location} (h : disk.get? k = some .dir) :
    (disk.setBytes l bytes).get? k = some .dir := by
  rw [get?_setBytes, h]
  split <;> rfl

theorem get?_setBytes_of_link {k : Location} {target : Path}
    (h : disk.get? k = some (.link target)) :
    (disk.setBytes l bytes).get? k = some (.link target) := by
  rw [get?_setBytes, h]
  split <;> rfl

theorem get?_setBytes_of_file {k : Location} {old : List UInt8}
    (h : disk.get? k = some (.file old)) :
    (disk.setBytes l bytes).get? k = some (.file (if k = l then bytes else old)) := by
  rw [get?_setBytes, h]
  split <;> rfl

theorem WellFormed.setBytes (h : disk.WellFormed) (l : Location) (bytes : List UInt8) :
    (disk.setBytes l bytes).WellFormed := by
  refine ⟨get?_setBytes_of_dir h.home, fun k name e he => ?_, fun k target hlink => ?_⟩
  · rw [get?_setBytes] at he
    split at he
    · obtain ⟨e', he', -⟩ := Option.map_eq_some_iff.1 he
      exact h.name k name e' he'
    · exact h.name k name e he
  · rw [get?_setBytes] at hlink
    split at hlink
    · obtain ⟨e', he', heq⟩ := Option.map_eq_some_iff.1 hlink
      cases e' <;> cases heq
      exact h.target k target he'
    · exact h.target k target hlink

/-- A walk takes the same way, whatever a file holds. -/
theorem walkSteps_setBytes (disk : Disk) (l : Location) (bytes : List UInt8) (last : LastLink)
    (links : Nat) (at_ : Location) (slash : Bool) (steps : List Step) :
    walkSteps (disk.setBytes l bytes) last links at_ slash steps =
      (walkSteps disk last links at_ slash steps).map (Destination.rewritten l bytes) := by
  fun_induction walkSteps disk last links at_ slash steps with
  | case1 links at_ slash =>
    rw [walkSteps]
    rfl
  | case2 links at_ slash rest ih =>
    rw [walkSteps]
    exact ih
  | case3 links at_ slash rest ih =>
    rw [walkSteps]
    exact ih
  | case4 links at_ slash rest ih =>
    rw [walkSteps]
    exact ih
  | case5 links at_ slash name rest hlong =>
    rw [walkSteps, if_pos hlong]
    rfl
  | case6 links at_ slash name hnone hshort =>
    rw [walkSteps_down_none hshort (get?_setBytes_of_none hnone), if_pos rfl]
    rfl
  | case7 links at_ slash name rest hshort hnone hrest =>
    rw [walkSteps_down_none hshort (get?_setBytes_of_none hnone), if_neg hrest]
    rfl
  | case8 links at_ slash name rest hshort hdir ih =>
    rw [walkSteps_down_dir hshort (get?_setBytes_of_dir hdir)]
    exact ih
  | case9 links at_ slash name old hfile hshort =>
    rw [walkSteps_down_file hshort (get?_setBytes_of_file hfile), if_pos rfl]
    rfl
  | case10 links at_ slash name rest hshort old hfile hrest =>
    rw [walkSteps_down_file hshort (get?_setBytes_of_file hfile), if_neg hrest]
    rfl
  | case11 links at_ slash name rest hshort target hlink hkept =>
    rw [walkSteps_down_kept hshort (get?_setBytes_of_link hlink) hkept]
    rfl
  | case12 at_ slash name rest hshort target hlink hkept =>
    rw [walkSteps_down_zero hshort (get?_setBytes_of_link hlink) hkept]
    rfl
  | case13 at_ slash name rest hshort target hlink hkept links ih =>
    rw [walkSteps_down_link hshort (get?_setBytes_of_link hlink) hkept]
    exact ih

/-- **Every path leads where it led**, whatever a file holds. -/
theorem resolve_setBytes (disk : Disk) (l : Location) (bytes : List UInt8) (last : LastLink)
    (path : Path) :
    (disk.setBytes l bytes).resolve last path =
      (disk.resolve last path).map (Destination.rewritten l bytes) := by
  rw [resolve, resolve]
  split
  · rfl
  · split
    · rfl
    · split
      · rfl
      · exact walkSteps_setBytes disk l bytes last linkLimit disk.home path.endsWithSlash _

/-! ## What is found and read -/

theorem isDir_setBytes (disk : Disk) (l : Location) (bytes : List UInt8) (path : Path) :
    (disk.setBytes l bytes).isDir path = disk.isDir path := by
  rw [isDir, isDir, entryAt, entryAt, resolve_setBytes]
  cases disk.resolve .followed path with
  | error e => rfl
  | ok found =>
    obtain ⟨place, slash⟩ := found
    cases place with
    | vacant k name => rfl
    | entry k e => cases e <;> cases slash <;> rfl

theorem isFile_setBytes (disk : Disk) (l : Location) (bytes : List UInt8) (path : Path) :
    (disk.setBytes l bytes).isFile path = disk.isFile path := by
  rw [isFile, isFile, entryAt, entryAt, resolve_setBytes]
  cases disk.resolve .followed path with
  | error e => rfl
  | ok found =>
    obtain ⟨place, slash⟩ := found
    cases place with
    | vacant k name => rfl
    | entry k e => cases e <;> cases slash <;> rfl

/-- **A path that does not lead to the file is read as before.** -/
theorem readBytes_setBytes {path : Path} (h : ¬disk.IsFileAt path l) :
    (disk.setBytes l bytes).readBytes path = disk.readBytes path := by
  rw [readBytes, readBytes, entryAt, entryAt, resolve_setBytes]
  cases hres : disk.resolve .followed path with
  | error e => rfl
  | ok found =>
    obtain ⟨place, slash⟩ := found
    cases place with
    | vacant k name => rfl
    | entry k e =>
      cases e with
      | dir => rfl
      | link target => rfl
      | file old =>
        cases slash with
        | true => rfl
        | false =>
          have hk : k ≠ l := by
            rintro rfl
            exact h ⟨old, hres⟩
          simp only [Except.map, Destination.rewritten, Place.rewritten, if_neg hk]

/-! ## What is listed -/

theorem names_setBytes (disk : Disk) (l : Location) (bytes : List UInt8) (k : Location) :
    (disk.setBytes l bytes).names k = disk.names k := by
  rw [names, names, setBytes, List.filterMap_map]
  congr 2
  funext x
  obtain ⟨key, e⟩ := x
  cases e <;> rfl

theorem depth_setBytes (disk : Disk) (l : Location) (bytes : List UInt8) :
    (disk.setBytes l bytes).depth = disk.depth := by
  rw [depth, depth, setBytes, List.foldl_map]
  congr 1
  funext d x
  obtain ⟨key, e⟩ := x
  cases e <;> rfl

theorem walkBelow_setBytes (disk : Disk) (l : Location) (bytes : List UInt8) (root : Path)
    (fuel : Nat) (k : Location) (path : Path) :
    (disk.setBytes l bytes).walkBelow root fuel k path = disk.walkBelow root fuel k path := by
  induction fuel generalizing k path with
  | zero => rfl
  | succ fuel ih =>
    have hentry : listEntry (disk.setBytes l bytes) root fuel k path =
        listEntry disk root fuel k path := by
      funext name
      rw [listEntry, listEntry]
      cases he : disk.get? (k ++ [name]) with
      | none => rw [get?_setBytes_of_none he]
      | some e =>
        cases e with
        | dir =>
          rw [get?_setBytes_of_dir he]
          exact ih _ _
        | file old => rw [get?_setBytes_of_file he]
        | link target =>
          rw [get?_setBytes_of_link he]
          simp only [isFile_setBytes]
    rw [walkBelow, walkBelow, names_setBytes]
    split
    · rfl
    · exact congrArg (fun f => (disk.names k).mapM f >>= fun parts => pure parts.flatten) hentry

/-- **A walk lists the same**, whatever a file holds. -/
theorem walk_setBytes (disk : Disk) (l : Location) (bytes : List UInt8) :
    (disk.setBytes l bytes).walk = disk.walk := by
  funext root
  rw [walk, walk, resolve_setBytes, depth_setBytes]
  cases disk.resolve .followed root with
  | error e => rfl
  | ok found =>
    obtain ⟨place, slash⟩ := found
    cases place with
    | vacant k name => rfl
    | entry k e =>
      cases e with
      | dir => exact walkBelow_setBytes disk l bytes root _ k root
      | file old => rfl
      | link target => rfl

end Disk

end JavaFormat
