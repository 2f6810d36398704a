import JavaFormat.Proofs.Disk.Walk

/-!
# The ways down that a walk takes

Below a directory a walk lists every regular file, and every link that leads to one, that lies in
directories only (`IsFileBelow`).  It spells each as the path of the directory continued by the
names that lead to it (`waysBelow`), and it leaves out a link whose path, spelled so, is too long or
has too many links on the way (`IsListedBelow`).

* `eq_map_waysBelow`: what is listed, by the names that lead to it.
* `mem_waysBelow`: which names lead to what is listed.
* `pairwise_waysBelow`: they are in order, name by name, which is not the order of the paths as
  texts.
-/

set_option autoImplicit false

namespace JavaFormat

namespace Disk

open JavaFormat.Path

variable {disk : Disk} {root path : Path} {l : Location} {name : String} {names : List String}

/-! ## What is to be listed -/

/-- **Whether names lead down to a file** from the directory at `l`: to a regular file, or to a link
that leads to one. -/
def IsFileBelow (disk : Disk) (l : Location) (names : List String) : Prop :=
  (∃ bytes, disk.get? (l ++ names) = some (.file bytes)) ∨
    (∃ target, disk.get? (l ++ names) = some (.link target)) ∧
      ∃ m bytes, disk.LeadsTo (l ++ names) m (.file bytes) false

theorem IsFileBelow.isSome (h : disk.IsFileBelow l names) :
    (disk.get? (l ++ names)).isSome = true := by
  rcases h with ⟨bytes, h⟩ | ⟨⟨target, h⟩, -⟩ <;> rw [h, Option.isSome_some]

/-- **Whether names lead down to a file that is listed** from the directory at `l`, which is spelled
`path`. -/
structure IsListedBelow (disk : Disk) (path : Path) (l : Location) (names : List String) :
    Prop where
  /-- They lead to a file. -/
  file : disk.IsFileBelow l names
  /-- A link to a file is listed only if its path keeps within the limits. -/
  limits : ∀ target, disk.get? (l ++ names) = some (.link target) →
    disk.IsWithinLimits (names.foldl join path)

theorem isListedBelow_append (front names : List String) :
    disk.IsListedBelow path l (front ++ names) ↔
      disk.IsListedBelow (front.foldl join path) (l ++ front) names := by
  constructor <;> rintro ⟨hfile, hlimits⟩
  · rw [IsFileBelow, ← List.append_assoc] at hfile
    rw [← List.append_assoc, List.foldl_append] at hlimits
    exact ⟨hfile, hlimits⟩
  · rw [IsFileBelow, List.append_assoc] at hfile
    rw [List.append_assoc, ← List.foldl_append] at hlimits
    exact ⟨hfile, hlimits⟩

theorem isListedBelow_cons :
    disk.IsListedBelow path l (name :: names) ↔
      disk.IsListedBelow (path.join name) (l ++ [name]) names :=
  isListedBelow_append [name] names

theorem isListedBelow_of_file {bytes : List UInt8}
    (h : disk.get? (l ++ names) = some (.file bytes)) : disk.IsListedBelow path l names where
  file := .inl ⟨bytes, h⟩
  limits := fun target hlink => by
    rw [h] at hlink
    cases hlink

/-- A link is listed if there is a file under its path. -/
theorem isListedBelow_link_iff (hwf : disk.WellFormed) (henters : disk.Enters path l)
    {target : Path} (hlink : disk.get? (l ++ [name]) = some (.link target)) :
    disk.IsListedBelow path l [name] ↔ disk.isFile (path.join name) = true := by
  rw [isFile_iff]
  constructor
  · rintro ⟨⟨bytes, hfile⟩ | ⟨-, m, bytes, hleads⟩, hlimits⟩
    · rw [hlink] at hfile
      cases hfile
    · exact ⟨m, (henters.isFileAt_link_iff hwf hlink).2 ⟨⟨bytes, hleads⟩, hlimits target hlink⟩⟩
  · rintro ⟨m, hm⟩
    obtain ⟨⟨bytes, hleads⟩, hlimits⟩ := (henters.isFileAt_link_iff hwf hlink).1 hm
    exact ⟨.inr ⟨⟨target, hlink⟩, m, bytes, hleads⟩, fun _ _ => hlimits⟩

/-- Nothing lies below what is no directory. -/
theorem IsListedBelow.eq_nil (h : disk.IsListedBelow path l names)
    (hdir : disk.get? l ≠ some .dir) : names = [] := by
  obtain ⟨e, he⟩ := Option.isSome_iff_exists.1 h.file.isSome
  exact Decidable.byContradiction fun hne => hdir (get?_of_append he hne)

theorem IsListedBelow.ne_nil (h : disk.IsListedBelow path l names)
    (hdir : disk.get? l = some .dir) : names ≠ [] := by
  rintro rfl
  have hfile := h.file
  rw [IsFileBelow, List.append_nil, hdir] at hfile
  rcases hfile with ⟨bytes, h⟩ | ⟨⟨target, h⟩, -⟩ <;> cases h

/-! ## The names that lead to what is listed -/

/-- The names through the entry of a name in a directory, those below it being `below`. -/
def waysThrough (disk : Disk) (l : Location) (path : Path) (name : String)
    (below : List (List String)) : List (List String) :=
  match disk.get? (l ++ [name]) with
  | some (.file _) => [[name]]
  | some (.link _) => if disk.isFile (path.join name) then [[name]] else []
  | some .dir => below.map (List.cons name)
  | none => []

/-- The names that lead from the directory at `l`, which is spelled `path`, to what is listed below
it, at most `fuel` levels deep. -/
def waysBelow (disk : Disk) : Nat → Location → Path → List (List String)
  | 0, _, _ => []
  | fuel + 1, l, path => (disk.names l).flatMap fun name =>
    disk.waysThrough l path name (disk.waysBelow fuel (l ++ [name]) (path.join name))

/-- What is listed are the path of the directory continued by these names. -/
theorem eq_map_waysBelow {fuel : Nat} {files : List Path}
    (h : disk.walkBelow root fuel l path = .ok files) :
    files = (disk.waysBelow fuel l path).map (·.foldl join path) := by
  induction fuel generalizing l path files with
  | zero =>
    cases h
    rfl
  | succ fuel ih =>
    obtain ⟨-, parts, hparts, rfl⟩ := walkBelow_succ_eq_ok.1 h
    rw [waysBelow, List.map_flatMap, List.flatMap_def]
    refine congrArg List.flatten (eq_map_of_mapM hparts fun name part hpart => ?_)
    rw [listEntry] at hpart
    rw [waysThrough]
    cases he : disk.get? (l ++ [name]) with
    | none =>
      rw [he] at hpart
      cases hpart
      rfl
    | some e =>
      rw [he] at hpart
      cases e with
      | dir =>
        rw [ih hpart, List.map_map]
        rfl
      | file bytes =>
        cases hpart
        rfl
      | link target =>
        cases hpart
        split <;> rfl

theorem exists_eq_cons_of_mem_waysThrough {below : List (List String)}
    (h : names ∈ disk.waysThrough l path name below) : ∃ rest, names = name :: rest := by
  rw [waysThrough] at h
  split at h
  · exact ⟨[], List.mem_singleton.1 h⟩
  · split at h
    · exact ⟨[], List.mem_singleton.1 h⟩
    · cases h
  · obtain ⟨rest, -, rfl⟩ := List.mem_map.1 h
    exact ⟨rest, rfl⟩
  · cases h

/-- Through the entry of a name lead the names of what is to be listed, once it is known for
directories. -/
theorem cons_mem_waysThrough (hwf : disk.WellFormed) (henters : disk.Enters path l)
    {below : List (List String)}
    (hbelow : disk.get? (l ++ [name]) = some .dir →
      (names ∈ below ↔ disk.IsListedBelow (path.join name) (l ++ [name]) names)) :
    name :: names ∈ disk.waysThrough l path name below ↔
      disk.IsListedBelow path l (name :: names) := by
  rw [isListedBelow_cons, waysThrough]
  cases he : disk.get? (l ++ [name]) with
  | none =>
    refine iff_of_false List.not_mem_nil fun h => ?_
    have hsome := h.file.isSome
    rw [h.eq_nil (by rw [he]; exact nofun), List.append_nil, he] at hsome
    cases hsome
  | some e =>
    cases e with
    | dir =>
      rw [← hbelow he]
      refine List.mem_map.trans ⟨?_, fun h => ⟨names, h, rfl⟩⟩
      rintro ⟨rest, hrest, heq⟩
      rwa [← (List.cons.inj heq).2]
    | file bytes =>
      refine List.mem_singleton.trans ⟨fun h => ?_, fun h => ?_⟩
      · rw [(List.cons.inj h).2]
        exact isListedBelow_of_file (by rwa [List.append_nil])
      · rw [h.eq_nil (by rw [he]; exact nofun)]
    | link target =>
      have hiff : disk.IsListedBelow (path.join name) (l ++ [name]) names ↔
          names = [] ∧ disk.isFile (path.join name) = true := by
        rw [← isListedBelow_link_iff hwf henters he, isListedBelow_cons]
        refine ⟨fun h => ?_, fun ⟨hnil, h⟩ => by rwa [hnil]⟩
        obtain rfl := h.eq_nil (by rw [he]; exact nofun)
        exact ⟨rfl, h⟩
      rw [hiff]
      cases disk.isFile (path.join name) <;> simp

/-- **The names of what is to be listed**, if the levels suffice. -/
theorem mem_waysBelow (hwf : disk.WellFormed) (henters : disk.Enters path l) {fuel : Nat}
    (hdepth : disk.depth < l.length + fuel) (hdir : disk.get? l = some .dir) :
    names ∈ disk.waysBelow fuel l path ↔ disk.IsListedBelow path l names := by
  induction fuel generalizing l path names with
  | zero => exact absurd (length_le_depth hdir) (Nat.not_le.2 hdepth)
  | succ fuel ih =>
    have hthrough : ∀ name names, name :: names ∈ disk.waysThrough l path name
        (disk.waysBelow fuel (l ++ [name]) (path.join name)) ↔
          disk.IsListedBelow path l (name :: names) := fun name names =>
      cons_mem_waysThrough hwf henters fun hname =>
        ih (henters.join hwf hname) (by simp; omega) hname
    rw [waysBelow, List.mem_flatMap]
    constructor
    · rintro ⟨name, -, h⟩
      obtain ⟨rest, rfl⟩ := exists_eq_cons_of_mem_waysThrough h
      exact (hthrough name rest).1 h
    · intro h
      obtain ⟨name, rest, rfl⟩ := List.exists_cons_of_ne_nil (h.ne_nil hdir)
      have hsome := h.file.isSome
      rw [List.append_cons] at hsome
      exact ⟨name, mem_names.2 (isSome_of_append hsome), (hthrough name rest).2 h⟩

/-- Names through an earlier name come before those through a later one. -/
theorem pairwise_waysThrough {below : List (List String)} (h : below.Pairwise (· < ·)) :
    (disk.waysThrough l path name below).Pairwise (· < ·) := by
  rw [waysThrough]
  split
  · exact List.pairwise_singleton _ _
  · split
    · exact List.pairwise_singleton _ _
    · exact .nil
  · exact List.pairwise_map.2 (h.imp fun hlt => List.cons_lt_cons_iff.2 (.inr ⟨rfl, hlt⟩))
  · exact .nil

/-- **The names that lead to what is listed are in order**, name by name. -/
theorem pairwise_waysBelow (disk : Disk) (fuel : Nat) (l : Location) (path : Path) :
    (disk.waysBelow fuel l path).Pairwise (· < ·) := by
  induction fuel generalizing l path with
  | zero => exact .nil
  | succ fuel ih =>
    refine List.pairwise_flatMap.2 ⟨fun name _ => pairwise_waysThrough (ih _ _),
      (pairwise_lt_names disk l).imp fun hlt names hnames others hothers => ?_⟩
    obtain ⟨rest, rfl⟩ := exists_eq_cons_of_mem_waysThrough hnames
    obtain ⟨rest', rfl⟩ := exists_eq_cons_of_mem_waysThrough hothers
    exact List.cons_lt_cons_iff.2 (.inl hlt)

end Disk

end JavaFormat
