import JavaFormat.Proofs.Disk.Listed
import JavaFormat.Proofs.Disk.SameView
import JavaFormat.Proofs.Text.Utf8

/-!
# What a walk lists, and in which order

Below its root a walk lists every regular file, and every link that leads to one, that lies in
directories only; what lies below a link to a directory is left out (`PassesLink`), and so is a link
whose path takes more links than are followed or is too long to be opened.  The components of the
paths below the root come in the order of their bytes.

* `isListedBelow_of_isFileAt`: a path that leads to a file passes a link if it is not listed.
* `walk_lists`: what is listed and in which order, and that the order in which the entries of a
  directory are found makes no difference.
* `not_walk_lists`: a link to a file that is left out.
-/

set_option autoImplicit false

namespace JavaFormat

namespace Path

/-- The bytes of a component in UTF-8. -/
def Component.bytes (component : Component) : List UInt8 :=
  component.text.flatMap String.utf8EncodeChar

/-- The components of a path below `base`, each as its bytes. -/
def bytesBelow (base path : Path) : List (List UInt8) :=
  (path.components.drop base.components.length).map Component.bytes

/-- The bytes of names are in the order of the names. -/
theorem map_bytes_lt {names others : List String} (h : names < others) :
    (names.map Component.name).map Component.bytes <
      (others.map Component.name).map Component.bytes := by
  rw [List.map_map, List.map_map]
  exact List.map_lt (fun _ _ hlt => Text.flatMap_utf8EncodeChar_lt (String.lt_iff.1 hlt)) h

theorem bytesBelow_foldl_join {path : Path} {names : List String} (hne : path ≠ "")
    (h : ∀ name ∈ names, IsName name) :
    bytesBelow path (names.foldl join path) = (names.map Component.name).map Component.bytes := by
  rw [bytesBelow, components_foldl_join hne h, List.drop_left]

end Path

namespace Disk

open JavaFormat.Path

variable {disk : Disk} {root path : Path} {l m : Location} {name : String} {names : List String}

/-! ## Paths that lead to files -/

/-- **Whether names lead below a link** on the way down from the directory at `l`. -/
def PassesLink (disk : Disk) (l : Location) (names : List String) : Prop :=
  ∃ front back target, names = front ++ back ∧ back ≠ [] ∧
    disk.get? (l ++ front) = some (.link target)

/-- What lies below a link is no entry. -/
theorem PassesLink.get?_eq_none (h : disk.PassesLink l names) : disk.get? (l ++ names) = none := by
  obtain ⟨front, back, target, rfl, hback, hlink⟩ := h
  cases he : disk.get? (l ++ (front ++ back)) with
  | none => rfl
  | some e =>
    rw [← List.append_assoc] at he
    rw [get?_of_append he hback] at hlink
    cases hlink

theorem PassesLink.cons (h : disk.PassesLink (l ++ [name]) names) :
    disk.PassesLink l (name :: names) := by
  obtain ⟨front, back, target, rfl, hback, hlink⟩ := h
  exact ⟨name :: front, back, target, rfl, hback, by rwa [List.append_assoc] at hlink⟩

/-- Names along which a walk goes to a file lead to it, to a link to it, or below a link. -/
theorem exists_get?_of_walkSteps {last : LastLink} {links : Nat} {slash slash' : Bool}
    {bytes : List UInt8}
    (h : walkSteps disk last links l slash (names.map .down) =
      .ok ⟨.entry m (.file bytes), slash'⟩) (hlinks : ¬disk.PassesLink l names) :
    (∃ bytes, disk.get? (l ++ names) = some (.file bytes)) ∨
      ∃ target, disk.get? (l ++ names) = some (.link target) := by
  induction names generalizing l with
  | nil =>
    rw [List.map_nil, walkSteps] at h
    cases h
  | cons name names ih =>
    rw [List.map_cons, walkSteps] at h
    split at h
    · cases h
    · split at h
      · split at h <;> cases h
      · have hrest := ih h fun hpasses => hlinks hpasses.cons
        rwa [List.append_assoc] at hrest
      · rename_i old hfile
        split at h
        · rename_i hnil
          rw [List.map_eq_nil_iff.1 hnil]
          exact .inl ⟨old, hfile⟩
        · cases h
      · rename_i target hlink
        by_cases hnil : names = []
        · rw [hnil]
          exact .inr ⟨target, hlink⟩
        · exact absurd ⟨[name], names, target, rfl, hnil, hlink⟩ hlinks

/-- **A path that leads to a file** is that of a file or a link that is listed, unless it passes a
link. -/
theorem isListedBelow_of_isFileAt (hwf : disk.WellFormed) (hdir : disk.IsDirAt path l)
    (hnames : ∀ name ∈ names, IsName name) (h : disk.IsFileAt (names.foldl join path) m)
    (hlinks : ¬disk.PassesLink l names) : disk.IsListedBelow path l names := by
  rcases List.eq_nil_or_concat names with rfl | ⟨front, name, rfl⟩
  · obtain ⟨slash, hdir⟩ := hdir
    obtain ⟨bytes, h⟩ := h
    rw [List.foldl_nil, hdir] at h
    cases h
  rw [List.concat_eq_append] at hnames h hlinks ⊢
  obtain ⟨left, -, hleft⟩ := hdir.enters.goes
  obtain ⟨bytes, hres⟩ := h
  have hwalk := (resolve_eq_ok_iff.1 hres).2
  rw [endsWithSlash_of_resolve hres, stepsOf_foldl_join path hnames, hleft _ (by simp)] at hwalk
  rcases exists_get?_of_walkSteps hwalk hlinks with ⟨old, hfile⟩ | ⟨target, hlink⟩
  · exact isListedBelow_of_file hfile
  · rw [← List.append_assoc] at hlink
    rw [List.foldl_append] at hres
    have hfront : disk.get? (l ++ front) = some .dir :=
      get?_of_append hlink (List.cons_ne_nil name [])
    have henters := hdir.enters.foldl_join hwf hfront
    exact (isListedBelow_append front [name]).2
      ((isListedBelow_link_iff hwf henters hlink).2 (isFile_iff.2 ⟨m, bytes, hres⟩))

/-! ## Listings -/

/-- **What a list of the files below a root is**, the root being the directory at `l`. -/
structure IsListing (disk : Disk) (root : Path) (l : Location) (files : List Path) : Prop where
  /-- The root continued by the names that lead down to a file or a link to one is listed, and
  nothing else; but a link is left out if its path does not keep within the limits. -/
  mem_iff : ∀ p, p ∈ files ↔ ∃ names, disk.IsListedBelow root l names ∧ p = names.foldl join root
  /-- Of the paths below the root that lead to a file those are listed that pass no link. -/
  mem_iff_of_isFileAt : ∀ names, (∀ name ∈ names, IsName name) →
    ∀ m, disk.IsFileAt (names.foldl join root) m →
      (names.foldl join root ∈ files ↔ ¬disk.PassesLink l names)
  /-- Nothing is listed twice. -/
  nodup : files.Nodup
  /-- The components of the root start every path. -/
  prefixed : ∀ p ∈ files, root.components <+: p.components
  /-- The paths are in the order of their components below the root, compared by their bytes. -/
  sorted : files.Pairwise fun p q => bytesBelow root p < bytesBelow root q

section

variable {files : List Path} (hwf : disk.WellFormed) (hl : disk.IsDirAt root l)
  (h : disk.walkBelow root (disk.depth + 1) l root = .ok files)

include hwf hl h

theorem mem_iff_isListedBelow {p : Path} :
    p ∈ files ↔ ∃ names, disk.IsListedBelow root l names ∧ p = names.foldl join root := by
  rw [eq_map_waysBelow h, List.mem_map]
  exact exists_congr fun names =>
    and_congr (mem_waysBelow hwf hl.enters (by omega) (hl.get? hwf)) eq_comm

/-- What lies below a link is not listed. -/
theorem not_passesLink_of_mem (hnames : ∀ name ∈ names, IsName name)
    (hmem : names.foldl join root ∈ files) : ¬disk.PassesLink l names := by
  intro hpasses
  obtain ⟨others, hothers, heq⟩ := (mem_iff_isListedBelow hwf hl h).1 hmem
  have hsome := hothers.file.isSome
  rw [← foldl_join_inj hl.ne_empty hnames (hwf.isName_of_isSome hsome) heq,
    hpasses.get?_eq_none] at hsome
  cases hsome

theorem prefix_components_of_mem {p : Path} (hp : p ∈ files) :
    root.components <+: p.components := by
  obtain ⟨names, hbelow, rfl⟩ := (mem_iff_isListedBelow hwf hl h).1 hp
  rw [components_foldl_join hl.ne_empty (hwf.isName_of_isSome hbelow.file.isSome)]
  exact List.prefix_append _ _

/-- **What is listed is in order**, component by component. -/
theorem pairwise_bytesBelow : files.Pairwise fun p q => bytesBelow root p < bytesBelow root q := by
  have hnames : ∀ names ∈ disk.waysBelow (disk.depth + 1) l root, ∀ name ∈ names, IsName name :=
    fun names hmem => hwf.isName_of_isSome
      ((mem_waysBelow hwf hl.enters (by omega) (hl.get? hwf)).1 hmem).file.isSome
  rw [eq_map_waysBelow h]
  refine List.pairwise_map.2 ((pairwise_waysBelow _ _ _ _).imp_of_mem fun ha hb hlt => ?_)
  rw [bytesBelow_foldl_join hl.ne_empty (hnames _ ha),
    bytesBelow_foldl_join hl.ne_empty (hnames _ hb)]
  exact map_bytes_lt hlt

theorem nodup_of_walkBelow : files.Nodup := by
  refine (pairwise_bytesBelow hwf hl h).imp fun hlt heq => ?_
  rw [heq] at hlt
  exact List.lt_irrefl _ hlt

end

/-- **A walk lists the files below its root**, each once and in order, whatever the order in which
directories give their entries.  Links to files are listed as long as their paths keep within the
limits. -/
theorem walk_lists (hwf : disk.WellFormed) {files : List Path} (h : disk.walk root = .ok files) :
    (∃ l, disk.IsDirAt root l ∧ disk.IsListing root l files) ∧
      ∀ other, disk.SameView other → other.walk root = .ok files := by
  refine ⟨?_, fun other hother => hother.walk_eq_ok hwf h⟩
  obtain ⟨l, hl, hbelow⟩ := walk_eq_ok_iff.1 h
  refine ⟨l, hl, fun p => mem_iff_isListedBelow hwf hl hbelow, fun names hnames m hm => ⟨?_, ?_⟩,
    nodup_of_walkBelow hwf hl hbelow, fun p => prefix_components_of_mem hwf hl hbelow,
    pairwise_bytesBelow hwf hl hbelow⟩
  · exact not_passesLink_of_mem hwf hl hbelow hnames
  · intro hpasses
    have hlisted := isListedBelow_of_isFileAt hwf hl hnames hm hpasses
    exact (mem_iff_isListedBelow hwf hl hbelow).2 ⟨names, hlisted, rfl⟩

/-- A source directory with the files `a/B.java` and `a.java`, a link to the latter, a link to the
directory itself and one that leads nowhere. -/
def linkedProject : Disk :=
  ((((((Disk.empty.add [] "src" .dir).add ["src"] "loop" (.link ".")).add ["src"] "gone.java"
    (.link "none.java")).add ["src"] "a.java" (.file [])).add ["src"] "a" .dir).add
      ["src"] "Z.java" (.link "a.java")).add ["src", "a"] "B.java" (.file [])

/-- The same, with the entries in another order. -/
def shuffledProject : Disk :=
  ((((((Disk.empty.add [] "src" .dir).add ["src"] "Z.java" (.link "a.java")).add ["src"] "a.java"
    (.file [])).add ["src"] "a" .dir).add ["src", "a"] "B.java" (.file [])).add
      ["src"] "gone.java" (.link "none.java")).add ["src"] "loop" (.link ".")

theorem sameView_shuffledProject : linkedProject.SameView shuffledProject :=
  .of_perm rfl (by decide)

theorem linkedProject_wellFormed : linkedProject.WellFormed :=
  ((((((wellFormed_empty.add (by decide) (by decide) (by decide) (by nofun)).add_link
    (by decide) (by decide) (by decide) (by decide)).add_link
    (by decide) (by decide) (by decide) (by decide)).add
    (by decide) (by decide) (by decide) (by nofun)).add
    (by decide) (by decide) (by decide) (by nofun)).add_link
    (by decide) (by decide) (by decide) (by decide)).add
    (by decide) (by decide) (by decide) nofun

theorem isDirAt_linkedProject : linkedProject.IsDirAt "src" ["src"] := by
  refine ⟨false, resolve_eq_ok_iff.2 ⟨⟨by decide, by decide, by decide⟩, ?_⟩⟩
  rw [show stepsOf "src" = [.down "src"] by decide,
    walkSteps_down_dir (not_long_of_le (by decide)) (by decide), walkSteps]
  rfl

/-- A link in the source directory leads where its target leads from there. -/
theorem resolve_linkedProject (name : String) (target : Path)
    (hlink : linkedProject.get? ["src", name] = some (.link target))
    (hshort : (Path.join "src" name).utf8ByteSize < pathLimit) :
    linkedProject.resolve .followed (Path.join "src" name) =
      walkSteps linkedProject .followed 39 ["src"] target.endsWithSlash (stepsOf target) := by
  obtain ⟨hname, hle⟩ := linkedProject_wellFormed.name ["src"] name _ hlink
  have hfollow : walkSteps linkedProject .followed linkLimit ["src"] false [.down name] =
      walkSteps linkedProject .followed 39 ["src"] target.endsWithSlash (stepsOf target ++ []) :=
    walkSteps_down_link (not_long_of_le hle) hlink (by decide)
  rw [isDirAt_linkedProject.enters.resolve_join hname, if_neg (Nat.not_le.2 hshort),
    stepsOf_join_name _ hname, show stepsOf "src" = [.down "src"] by decide, List.singleton_append,
    walkSteps_down_dir (not_long_of_le (by decide)) (by decide)]
  exact hfollow.trans (by rw [List.append_nil])

theorem isFile_linkedProject : linkedProject.isFile (Path.join "src" "Z.java") = true ∧
    linkedProject.isFile (Path.join "src" "loop") = false ∧
      linkedProject.isFile (Path.join "src" "gone.java") = false := by
  have hfile : linkedProject.get? (["src"] ++ ["a.java"]) = some (.file []) := by decide
  rw [isFile, isFile, isFile, entryAt, entryAt, entryAt,
    resolve_linkedProject "Z.java" "a.java" (by decide) (by decide),
    resolve_linkedProject "loop" "." (by decide) (by decide),
    resolve_linkedProject "gone.java" "none.java" (by decide) (by decide),
    show stepsOf "a.java" = [.down "a.java"] by decide, show stepsOf "." = [.stay] by decide,
    show stepsOf "none.java" = [.down "none.java"] by decide,
    walkSteps_down_file (not_long_of_le (by decide)) hfile,
    walkSteps_down_none (not_long_of_le (by decide)) (by decide), walkSteps, walkSteps]
  exact ⟨rfl, rfl, rfl⟩

theorem names_linkedProject :
    linkedProject.names ["src"] = ["Z.java", "a", "a.java", "gone.java", "loop"] ∧
      linkedProject.names ["src", "a"] = ["B.java"] := by
  constructor <;> exact List.mergeSort_of_pairwise (by decide)

theorem walk_linkedProject :
    linkedProject.walk "src" = .ok ["src/Z.java", "src/a/B.java", "src/a.java"] := by
  obtain ⟨hfile, hloop, hgone⟩ := isFile_linkedProject
  have hlink : ∀ name target, linkedProject.get? ["src", name] = some (.link target) →
      listEntry linkedProject "src" linkedProject.depth ["src"] "src" name = .ok
        (if linkedProject.isFile (Path.join "src" name) then [Path.join "src" name] else []) := by
    intro name target h
    rw [listEntry, List.singleton_append, h]
  have hbelow : linkedProject.walkBelow "src" linkedProject.depth ["src", "a"] "src/a" =
      .ok ["src/a/B.java"] := by
    rw [show linkedProject.depth = 2 + 1 by decide, walkBelow_of_files (by decide)
      (by rw [names_linkedProject.2]; exact List.forall_mem_singleton.2 ⟨[], by decide⟩),
      names_linkedProject.2]
    rfl
  refine walk_eq_ok_iff.2 ⟨["src"], isDirAt_linkedProject, walkBelow_succ_eq_ok.2
    ⟨by decide, [["src/Z.java"], ["src/a/B.java"], ["src/a.java"], [], []], ?_, rfl⟩⟩
  rw [names_linkedProject.1]
  refine mapM_cons_eq_ok.2 ⟨_, _, ?_, mapM_cons_eq_ok.2 ⟨_, _, hbelow, mapM_cons_eq_ok.2
    ⟨_, _, rfl, mapM_cons_eq_ok.2 ⟨_, _, ?_, mapM_cons_eq_ok.2 ⟨_, _, ?_, rfl, rfl⟩, rfl⟩, rfl⟩,
      rfl⟩, rfl⟩
  · rw [hlink _ "a.java" (by decide), hfile]
    rfl
  · rw [hlink _ "none.java" (by decide), hgone]
    rfl
  · rw [hlink _ "." (by decide), hloop]
    rfl

/-- The file `a/B.java` comes before `a.java`, as `a` does, and nothing is listed through the link
to the directory. -/
theorem walk_lists_linkedProject :
    linkedProject.WellFormed ∧ linkedProject.SameView shuffledProject ∧
    linkedProject.walk "src" = .ok ["src/Z.java", "src/a/B.java", "src/a.java"] ∧
    linkedProject.IsListing "src" ["src"] ["src/Z.java", "src/a/B.java", "src/a.java"] ∧
    shuffledProject.walk "src" = .ok ["src/Z.java", "src/a/B.java", "src/a.java"] := by
  obtain ⟨⟨l, hl, hlisting⟩, hother⟩ := walk_lists linkedProject_wellFormed walk_linkedProject
  rw [hl.unique isDirAt_linkedProject] at hlisting
  exact ⟨linkedProject_wellFormed, sameView_shuffledProject, walk_linkedProject, hlisting,
    hother _ sameView_shuffledProject⟩

/-! ## Links that are left out -/

/-- A source directory with the file `A.java` and a link to it. -/
def aliasProject : Disk :=
  ((Disk.empty.add [] "src" .dir).add ["src"] "L.java" (.link "A.java")).add ["src"] "A.java"
    (.file [])

/-- The name of a link in a chain: as many letters `l` as links. -/
def linkName : Nat → String
  | 0 => "l"
  | n + 1 => "l" ++ linkName n

/-- What a link in a chain stands for: the source directory, or the link before. -/
def linkTarget : Nat → Path
  | 0 => "src"
  | n + 1 => linkName n

/-- The project with a chain of links that leads to the source directory. -/
def chain : Nat → Disk
  | 0 => aliasProject
  | n + 1 => (chain n).add [] (linkName n) (.link (linkTarget n))

theorem toList_linkName (n : Nat) : (linkName n).toList = List.replicate (n + 1) 'l' := by
  induction n with
  | zero => rfl
  | succ n ih =>
    rw [linkName, String.toList_append, ih]
    rfl

theorem utf8ByteSize_linkName (n : Nat) : (linkName n).utf8ByteSize = n + 1 := by
  induction n with
  | zero => decide
  | succ n ih =>
    have hone : ("l" : String).utf8ByteSize = 1 := by decide
    rw [linkName, String.utf8ByteSize_append, ih, hone, Nat.add_comm]

theorem linkName_ne {n m : Nat} (h : n ≠ m) : linkName n ≠ linkName m := by
  intro heq
  have hsize := utf8ByteSize_linkName n
  rw [heq, utf8ByteSize_linkName] at hsize
  omega

theorem linkName_ne_of_not_mem {text : String} (h : 'l' ∉ text.toList) (n : Nat) :
    linkName n ≠ text := by
  rintro rfl
  rw [toList_linkName] at h
  exact h (by simp)

theorem linkName_ne_src (n : Nat) : linkName n ≠ "src" := linkName_ne_of_not_mem (by decide) n

theorem isName_linkName (n : Nat) : IsName (linkName n) := by
  have hmem : ∀ c ∈ (linkName n).toList, c = 'l' := by
    rw [toList_linkName]
    exact fun c => List.eq_of_mem_replicate
  exact ⟨linkName_ne_of_not_mem (by decide) n, fun h => absurd (hmem _ h) (by decide),
    fun h => absurd (hmem _ h) (by decide), linkName_ne_of_not_mem (by decide) n,
    linkName_ne_of_not_mem (by decide) n⟩

theorem isName_linkTarget (n : Nat) : IsName (linkTarget n) := by
  cases n with
  | zero => exact show IsName "src" by decide
  | succ n => exact isName_linkName n

/-- No link of a chain is there before it is added. -/
theorem get?_chain_of_le {n k : Nat} (h : n ≤ k) : (chain n).get? [linkName k] = none := by
  induction n generalizing k with
  | zero =>
    have halias : ∀ e, ([linkName k], e) ∉ aliasProject.entries := by
      rw [show aliasProject.entries = [(["src", "A.java"], .file []),
        (["src", "L.java"], .link "A.java"), (["src"], .dir)] by decide]
      simp [linkName_ne_src k]
    rw [chain, get?, if_neg (List.cons_ne_nil _ _)]
    exact Option.eq_none_iff_forall_not_mem.2 fun e he => halias e (lookup_eq_some.1 he)
  | succ n ih =>
    have hne : [linkName k] ≠ [] ++ [linkName n] := by
      simpa using linkName_ne (Nat.ne_of_gt h)
    rw [chain, get?_add _ (by simp [hasDir]) (ih (Nat.le_refl n)), if_neg hne]
    exact ih (Nat.le_of_succ_le h)

theorem get?_chain_succ (n : Nat) (l : Location) :
    (chain (n + 1)).get? l =
      if l = [linkName n] then some (.link (linkTarget n)) else (chain n).get? l :=
  get?_add _ (by simp [hasDir]) (get?_chain_of_le (Nat.le_refl n)) l

theorem get?_chain_of_lt {n k : Nat} (h : k < n) :
    (chain n).get? [linkName k] = some (.link (linkTarget k)) := by
  induction n with
  | zero => cases h
  | succ n ih =>
    rw [get?_chain_succ]
    by_cases hk : k = n
    · rw [hk, if_pos rfl]
    · rw [if_neg (by simpa using linkName_ne hk)]
      exact ih (by omega)

/-- In the source directory a chain changes nothing. -/
theorem get?_chain_src (n : Nat) (l : Location) :
    (chain n).get? ("src" :: l) = aliasProject.get? ("src" :: l) := by
  induction n with
  | zero => rfl
  | succ n ih =>
    have hsrc : "src" :: l ≠ [linkName n] := fun heq =>
      linkName_ne_src n (List.cons.inj heq).1.symm
    rw [get?_chain_succ, if_neg hsrc, ih]

theorem names_chain (n : Nat) : (chain n).names ["src"] = ["A.java", "L.java"] := by
  induction n with
  | zero => exact List.mergeSort_of_pairwise (by decide)
  | succ n ih => rw [chain, names_add_of_ne (List.cons_ne_nil _ _), ih]

theorem home_chain (n : Nat) : (chain n).home = [] := by
  induction n with
  | zero => rfl
  | succ n ih => rw [chain, home_add, ih]

theorem aliasProject_wellFormed : aliasProject.WellFormed :=
  ((wellFormed_empty.add (by decide) (by decide) (by decide) (by nofun)).add_link
    (by decide) (by decide) (by decide) (by decide)).add
    (by decide) (by decide) (by decide) nofun

theorem chain_wellFormed {n : Nat} (h : n ≤ nameLimit) : (chain n).WellFormed := by
  induction n with
  | zero => exact aliasProject_wellFormed
  | succ n ih =>
    refine (ih (Nat.le_of_succ_le h)).add_link (by simp [hasDir])
      (get?_chain_of_le (Nat.le_refl n)) ⟨isName_linkName n, ?_⟩ (isName_linkTarget n).null
    rw [utf8ByteSize_linkName]
    exact h

/-- A link of a chain leads to the source directory over all the links before. -/
theorem walkSteps_chain {n k : Nat} (h : k < n) (hlimit : n ≤ nameLimit) (links : Nat)
    (rest : List Step) :
    walkSteps (chain n) .followed (links + (k + 1)) [] false (.down (linkName k) :: rest) =
      walkSteps (chain n) .followed links ["src"] false rest := by
  have hfollow : ∀ links k, k < n →
      walkSteps (chain n) .followed (links + 1) [] false (.down (linkName k) :: rest) =
        walkSteps (chain n) .followed links [] false (.down (linkTarget k) :: rest) := by
    intro links k hk
    have hshort : (linkName k).utf8ByteSize ≤ nameLimit := by
      rw [utf8ByteSize_linkName]
      exact Nat.le_trans hk hlimit
    rw [walkSteps_down_link (not_long_of_le hshort) (get?_chain_of_lt hk) fun hkept => hkept.2 rfl,
      stepsOf_name (isName_linkTarget k), (isName_linkTarget k).endsWithSlash, Bool.and_false]
    rfl
  induction k with
  | zero =>
    rw [hfollow links 0 h]
    exact walkSteps_down_dir (not_long_of_le (by decide)) (get?_chain_src n [])
  | succ k ih =>
    rw [← Nat.add_assoc links, hfollow _ _ h]
    exact ih (Nat.lt_of_succ_lt h)

/-- The project under a chain with as many links as are followed. -/
def chainProject : Disk := chain linkLimit

theorem chainProject_wellFormed : chainProject.WellFormed := chain_wellFormed (by decide)

theorem get?_chainProject : chainProject.get? ["src"] = some .dir ∧
    chainProject.get? (["src"] ++ ["A.java"]) = some (.file []) ∧
      chainProject.get? (["src"] ++ ["L.java"]) = some (.link "A.java") :=
  ⟨get?_chain_src linkLimit [], get?_chain_src linkLimit ["A.java"],
    get?_chain_src linkLimit ["L.java"]⟩

/-- In the source directory there is a link to a file. -/
theorem isFileBelow_chainProject : chainProject.IsFileBelow ["src"] ["L.java"] := by
  obtain ⟨-, hfile, hlink⟩ := get?_chainProject
  have hfollow : walkSteps chainProject .followed (39 + 1) ["src"] false [.down "L.java"] =
      walkSteps chainProject .followed 39 ["src"] false [.down "A.java"] := by
    rw [walkSteps_down_link (not_long_of_le (by decide)) hlink fun hkept => hkept.2 rfl,
      show stepsOf "A.java" = [.down "A.java"] by decide]
    rfl
  refine .inr ⟨⟨"A.java", hlink⟩, ["src"] ++ ["A.java"], [], leadsTo_concat.2 (hfollow.trans ?_)⟩
  exact walkSteps_down_file (not_long_of_le (by decide)) hfile

/-- The last link of the chain leads to the source directory, with no link left to be followed. -/
theorem walkSteps_lastLink (rest : List Step) :
    walkSteps chainProject .followed linkLimit chainProject.home false
      (stepsOf (linkName 39) ++ rest) = walkSteps chainProject .followed 0 ["src"] false rest := by
  rw [stepsOf_name (isName_linkName 39), chainProject, home_chain]
  exact walkSteps_chain (show 39 < linkLimit by decide) (by decide) 0 rest

theorem isDirAt_lastLink : chainProject.IsDirAt (linkName 39) ["src"] := by
  have hsteps := walkSteps_lastLink []
  rw [List.append_nil] at hsteps
  refine ⟨false, resolve_eq_ok_iff.2 ⟨by decide, ?_⟩⟩
  rw [(isName_linkName 39).endsWithSlash, hsteps, walkSteps]

/-- Under the last link of the chain there are too many links to follow. -/
theorem not_isWithinLimits_lastLink :
    ¬chainProject.IsWithinLimits (Path.join (linkName 39) "L.java") := by
  rintro ⟨-, hlinks⟩
  refine exists_takesLinks_iff.1 hlinks ?_
  rw [stepsOf_join_name _ (by decide), walkSteps_lastLink]
  exact walkSteps_down_zero (not_long_of_le (by decide)) get?_chainProject.2.2
    fun hkept => hkept.2 rfl

/-- Under the longest path the path of a link is too long. -/
theorem not_isWithinLimits_longRoot :
    ¬chainProject.IsWithinLimits (longRoot.join "L.java") := by
  rintro ⟨hshort, -⟩
  have hlong := le_utf8ByteSize_join longRoot "L.java" (by decide)
  have hsize : ("L.java" : Path).utf8ByteSize = 6 := by decide
  rw [utf8ByteSize_longRoot, hsize] at hlong
  exact absurd hshort (Nat.not_lt.2 (Nat.le_trans (by decide) hlong))

theorem walk_chainProject {root : Path} (hroot : chainProject.IsDirAt root ["src"])
    (hlimits : ¬chainProject.IsWithinLimits (root.join "L.java")) :
    chainProject.walk root = .ok [root.join "A.java"] := by
  obtain ⟨-, hfile, hlink⟩ := get?_chainProject
  have hfound : chainProject.isFile (root.join "L.java") = false := by
    refine Bool.eq_false_iff.2 fun hfound => hlimits ?_
    exact ((isListedBelow_link_iff chainProject_wellFormed hroot.enters hlink).2 hfound).limits _
      hlink
  refine walk_eq_ok_iff.2 ⟨["src"], hroot, walkBelow_succ_eq_ok.2
    ⟨hroot.isOpenable.2.2, [[root.join "A.java"], []], ?_, rfl⟩⟩
  rw [chainProject, names_chain]
  refine mapM_cons_eq_ok.2 ⟨_, _, ?_, mapM_cons_eq_ok.2 ⟨_, _, ?_, rfl, rfl⟩, rfl⟩
  · rw [listEntry, ← chainProject, hfile]
  · rw [listEntry, ← chainProject, hlink]
    simp only [hfound]
    rfl

/-- **Not every link to a file is listed**: not below a directory that is reached over 40 links, and
not below one with a path of 4095 bytes. -/
theorem not_walk_lists :
    chainProject.WellFormed ∧ chainProject.IsFileBelow ["src"] ["L.java"] ∧
      ∀ root ∈ [linkName 39, longRoot], chainProject.IsDirAt root ["src"] ∧
        ∃ files, chainProject.walk root = .ok files ∧ Path.join root "L.java" ∉ files := by
  have hleft : ∀ root, chainProject.IsDirAt root ["src"] →
      ¬chainProject.IsWithinLimits (root.join "L.java") →
        ∃ files, chainProject.walk root = .ok files ∧ root.join "L.java" ∉ files := by
    refine fun root hroot hlimits => ⟨_, walk_chainProject hroot hlimits, fun hmem => ?_⟩
    have heq : ["L.java"] = ["A.java"] := foldl_join_inj hroot.ne_empty (by decide) (by decide)
      (List.mem_singleton.1 hmem)
    exact absurd heq (by decide)
  have hlong : chainProject.IsDirAt longRoot ["src"] :=
    isDirAt_dotted (home_chain linkLimit) get?_chainProject.1 2046 (by decide)
  refine ⟨chainProject_wellFormed, isFileBelow_chainProject, List.forall_mem_cons.2
    ⟨⟨isDirAt_lastLink, hleft _ isDirAt_lastLink not_isWithinLimits_lastLink⟩,
      List.forall_mem_singleton.2 ⟨hlong, hleft _ hlong not_isWithinLimits_longRoot⟩⟩⟩

end Disk

end JavaFormat
