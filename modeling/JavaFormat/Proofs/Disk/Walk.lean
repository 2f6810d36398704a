import JavaFormat.Disk.Walk
import JavaFormat.Proofs.Disk.Lookup
import JavaFormat.Proofs.Disk.Names
import JavaFormat.Proofs.Sequence
import JavaFormat.Sources

/-!
# Walks over a later disk

A walk over a directory lists on a later disk what it listed before, and new files among that
(`walk_old`); where the directory is new itself it lists nothing but new files (`walk_new`).  The
old paths among those that are listed are the ones that reach an entry of the old disk
(`Disk.reaches`), which is a matter of their components (`reaches_eq_of_same`).

* `Enters`: what a path has to do with the directory that it leads into.
* `Enters.isFileAt_link_iff`: the path of a link leads to a file if the link does and the path keeps
  within the limits.
* `Fits`: new directories and sources are to have paths that are short enough to be opened.
* `IsListed`: what is known of every path that is listed.
-/

set_option autoImplicit false

namespace JavaFormat

namespace Disk

open JavaFormat.Path

variable {disk later : Disk} {path : Path} {l : Location} {name : String}

/-! ## Entering a directory -/

/-- Whether the steps along a path lead into a directory, wherever they go on from there. -/
structure Enters (disk : Disk) (path : Path) (l : Location) : Prop where
  /-- There is no null character in the path. -/
  null : '\x00' ∉ path.toList
  /-- Further steps start in the directory. -/
  goes : ∃ left ≤ linkLimit, ∀ rest, rest ≠ [] →
    walkSteps disk .followed linkLimit disk.home false (stepsOf path ++ rest) =
      walkSteps disk .followed left l false rest

theorem IsDirAt.enters (h : disk.IsDirAt path l) : disk.Enters path l := by
  obtain ⟨slash, h⟩ := h
  obtain ⟨hopen, hwalk⟩ := resolve_eq_ok_iff.1 h
  obtain ⟨left, hle, hleft⟩ :=
    walkSteps_append disk linkLimit disk.home path.endsWithSlash (stepsOf path)
  rw [hwalk] at hleft
  exact ⟨hopen.1, left, hle, fun rest hrest => hleft false rest hrest⟩

namespace Enters

theorem walkSteps_join (h : disk.Enters path l) (hname : IsName name) :
    ∃ left ≤ linkLimit, ∀ rest, walkSteps disk .followed linkLimit disk.home false
        (stepsOf (path.join name) ++ rest) =
      walkSteps disk .followed left l false (.down name :: rest) := by
  obtain ⟨left, hle, hleft⟩ := h.goes
  refine ⟨left, hle, fun rest => ?_⟩
  rw [stepsOf_join_name path hname, List.append_assoc]
  exact hleft _ (List.cons_ne_nil _ _)

theorem join (h : disk.Enters path l) (hwf : disk.WellFormed)
    (hdir : disk.get? (l ++ [name]) = some .dir) : disk.Enters (path.join name) (l ++ [name]) := by
  obtain ⟨hname, hshort⟩ := hwf.name _ _ _ hdir
  obtain ⟨left, hle, hleft⟩ := h.walkSteps_join hname
  refine ⟨hname.null_not_mem_join h.null, left, hle, fun rest hrest => ?_⟩
  rw [hleft, walkSteps_down_dir (not_long_of_le hshort) hdir]

theorem walkSteps_file (h : disk.Enters path l) (hwf : disk.WellFormed) {bytes : List UInt8}
    (hfile : disk.get? (l ++ [name]) = some (.file bytes)) :
    walkSteps disk .followed linkLimit disk.home false (stepsOf (path.join name)) =
      .ok ⟨.entry (l ++ [name]) (.file bytes), false⟩ := by
  obtain ⟨hname, hshort⟩ := hwf.name _ _ _ hfile
  obtain ⟨left, -, hleft⟩ := h.walkSteps_join hname
  have hnil := hleft []
  rw [List.append_nil] at hnil
  rw [hnil, walkSteps_down_file (not_long_of_le hshort) hfile, if_pos rfl]

theorem resolve_join (h : disk.Enters path l) (hname : IsName name) :
    disk.resolve .followed (path.join name) =
      if pathLimit ≤ (path.join name).utf8ByteSize then .error .nameTooLong
      else walkSteps disk .followed linkLimit disk.home false (stepsOf (path.join name)) := by
  have hnull := hname.null_not_mem_join h.null
  rw [resolve, if_neg (by simpa using hnull), if_neg (by simp [hname.join_ne_empty]),
    hname.endsWithSlash_join]

/-- A file in a directory is found under the path of the directory continued by its name. -/
theorem isFileAt (h : disk.Enters path l) (hwf : disk.WellFormed) {bytes : List UInt8}
    (hfile : disk.get? (l ++ [name]) = some (.file bytes))
    (hshort : (path.join name).utf8ByteSize < pathLimit) :
    disk.IsFileAt (path.join name) (l ++ [name]) := by
  obtain ⟨hname, -⟩ := hwf.name _ _ _ hfile
  exact ⟨bytes, by
    rw [h.resolve_join hname, if_neg (Nat.not_le.2 hshort), h.walkSteps_file hwf hfile]⟩

/-- Below the directory the path is continued by names. -/
theorem foldl_join (h : disk.Enters path l) (hwf : disk.WellFormed) {names : List String}
    (hdir : disk.get? (l ++ names) = some .dir) :
    disk.Enters (names.foldl Path.join path) (l ++ names) := by
  induction names generalizing path l with
  | nil => rwa [List.append_nil]
  | cons name names ih =>
    rw [List.append_cons] at hdir ⊢
    have hname : disk.get? (l ++ [name]) = some .dir := by
      by_cases hnames : names = []
      · rwa [hnames, List.append_nil] at hdir
      · exact get?_of_append hdir hnames
    exact ih (h.join hwf hname) hdir

/-- **A link in a directory leads to a file under its path** if it does so by itself and the path
keeps within the limits. -/
theorem isFileAt_link_iff (h : disk.Enters path l) (hwf : disk.WellFormed) {target : Path}
    (hlink : disk.get? (l ++ [name]) = some (.link target)) {m : Location} :
    disk.IsFileAt (path.join name) m ↔
      (∃ bytes, disk.LeadsTo (l ++ [name]) m (.file bytes) false) ∧
        disk.IsWithinLimits (path.join name) := by
  obtain ⟨hname, -⟩ := hwf.name _ _ _ hlink
  obtain ⟨left, hle, hleft⟩ := h.walkSteps_join hname
  have hnil := hleft []
  rw [List.append_nil] at hnil
  have hlinks := walkSteps_links disk .followed left l false [.down name] hle
  rw [IsFileAt, h.resolve_join hname, IsWithinLimits, exists_takesLinks_iff, hnil]
  constructor
  · rintro ⟨bytes, hfound⟩
    split at hfound
    · cases hfound
    · rename_i hshort
      rw [hfound] at hlinks ⊢
      exact ⟨⟨bytes, leadsTo_concat.2 (hlinks.resolve_left nofun).symm⟩, Nat.not_le.1 hshort, nofun⟩
  · rintro ⟨⟨bytes, hleads⟩, hshort, hfew⟩
    refine ⟨bytes, ?_⟩
    rw [if_neg (Nat.not_le.2 hshort), hlinks.resolve_left hfew]
    exact leadsTo_concat.1 hleads

/-- A link in a directory is not missed. -/
theorem not_isMiss (h : disk.Enters path l) (hwf : disk.WellFormed) (hlinks : LinksResolve disk)
    {target : Path} (hlink : disk.get? (l ++ [name]) = some (.link target)) :
    ¬IsMiss (disk.resolve .followed (path.join name)) := by
  obtain ⟨hname, -⟩ := hwf.name _ _ _ hlink
  obtain ⟨left, -, hleft⟩ := h.walkSteps_join hname
  have hnil := hleft []
  rw [List.append_nil] at hnil
  rw [h.resolve_join hname, hnil]
  split
  · exact not_isMiss_error (by decide)
  · obtain ⟨m, e, slash, hall⟩ := walkSteps_link hlinks hlink
    rcases hall left with hmany | hfound
    · rw [hmany]
      exact not_isMiss_error (by decide)
    · rw [hfound]
      exact not_isMiss_entry

end Enters

/-! ## Old and new paths -/

/-- Whether a path leads to an entry, were it only short enough. -/
def reaches (disk : Disk) (path : Path) : Bool :=
  match walkSteps disk .followed linkLimit disk.home false (stepsOf path) with
  | .ok ⟨.entry _ _, _⟩ => true
  | _ => false

theorem IsFileAt.reaches (h : disk.IsFileAt path l) : disk.reaches path = true := by
  obtain ⟨bytes, h⟩ := h
  have hslash := endsWithSlash_of_resolve h
  obtain ⟨-, hwalk⟩ := resolve_eq_ok_iff.1 h
  rw [hslash] at hwalk
  rw [Disk.reaches, hwalk]

theorem reaches_eq_false (hext : Extends disk later) (hwf : disk.WellFormed) {e : Entry}
    {slash : Bool} (hl : disk.get? l = none)
    (h : walkSteps later .followed linkLimit later.home false (stepsOf path) =
      .ok ⟨.entry l e, slash⟩) : disk.reaches path = false := by
  rw [hext.home] at h
  have hpersists :=
    walkSteps_persists hext .followed linkLimit disk.home false (stepsOf path) hwf.home
  unfold reaches
  split
  · rename_i m e' slash' hold
    rw [hold] at hpersists
    obtain ⟨hin, hlater⟩ := hpersists
    rw [hlater, Place.seen, Place.location] at h
    have hin : disk.get? m = some e' := hin
    split at h
    · cases h
      rw [hl] at hin
      cases hin
    · cases h
      rw [hl] at hin
      cases hin
  · rfl

/-- Whether the last step along a path leads to a name. -/
def EndsInName (path : Path) : Prop := ∃ front name, stepsOf path = front ++ [.down name]

theorem endsInName_join (path : Path) (hname : IsName name) : EndsInName (path.join name) :=
  ⟨stepsOf path, name, stepsOf_join_name path hname⟩

/-- Paths with the same components lead to the same place. -/
theorem walkSteps_eq_of_same {p q : Path} (hp : EndsInName p) (hq : EndsInName q)
    (h : same p q = true) : walkSteps disk .followed linkLimit disk.home false (stepsOf p) =
      walkSteps disk .followed linkLimit disk.home false (stepsOf q) := by
  obtain ⟨front, name, hp⟩ := hp
  obtain ⟨front', name', hq⟩ := hq
  have hfilter := filter_stepsOf_eq h
  rw [hp, hq, List.filter_append, List.filter_append] at hfilter
  obtain ⟨hfront, hname⟩ := List.append_inj' hfilter rfl
  have hname : name = name' := by simpa using hname
  rw [hp, hq, ← walkSteps_filter_append _ _ _ _ _ _ (List.cons_ne_nil _ _), hfront,
    walkSteps_filter_append _ _ _ _ _ _ (List.cons_ne_nil _ _), hname]

/-- Paths with the same components lead to an entry or do not. -/
theorem reaches_eq_of_same {p q : Path} (hp : EndsInName p) (hq : EndsInName q)
    (h : same p q = true) : disk.reaches p = disk.reaches q := by
  rw [reaches, reaches, walkSteps_eq_of_same hp hq h]

/-! ## Walks over directories -/

/-- What is listed of the entry of a name in a directory. -/
def listEntry (disk : Disk) (root : Path) (fuel : Nat) (l : Location) (path : Path)
    (name : String) : Except WalkError (List Path) :=
  match disk.get? (l ++ [name]) with
  | some (.file _) => .ok [path.join name]
  | some (.link _) => .ok (if disk.isFile (path.join name) then [path.join name] else [])
  | some .dir => disk.walkBelow root fuel (l ++ [name]) (path.join name)
  | none => .ok []

theorem walkBelow_succ_eq_ok {root : Path} {fuel : Nat} {files : List Path} :
    disk.walkBelow root (fuel + 1) l path = .ok files ↔ path.utf8ByteSize < pathLimit ∧
      ∃ parts, (disk.names l).mapM (listEntry disk root fuel l path) = .ok parts ∧
        files = parts.flatten := by
  unfold walkBelow
  split
  · rename_i hlong
    simp [Nat.not_lt.2 hlong]
  · rename_i hshort
    rw [← Nat.not_le, eq_true hshort, true_and]
    change (((disk.names l).mapM (listEntry disk root fuel l path)) >>= _) = _ ↔ _
    cases (disk.names l).mapM (listEntry disk root fuel l path) with
    | error e => simp [bind, Except.bind]
    | ok parts => simp [bind, Except.bind, pure, Except.pure, eq_comm]

/-- Of a directory that holds nothing but files all of these are listed. -/
theorem walkBelow_of_files {root : Path} {fuel : Nat} (hshort : path.utf8ByteSize < pathLimit)
    (hfiles : ∀ name ∈ disk.names l, ∃ bytes, disk.get? (l ++ [name]) = some (.file bytes)) :
    disk.walkBelow root (fuel + 1) l path = .ok ((disk.names l).map path.join) := by
  have hentry : ∀ name ∈ disk.names l,
      listEntry disk root fuel l path name = .ok [path.join name] := by
    intro name hname
    obtain ⟨bytes, hbytes⟩ := hfiles name hname
    rw [listEntry, hbytes]
  refine walkBelow_succ_eq_ok.2 ⟨hshort, _, mapM_eq_ok_map hentry, ?_⟩
  rw [← List.flatMap_def, List.map_eq_flatMap]

/-- **What a walk over the later disk lists**: an old path, or if it may be a source a new file. -/
structure IsListed (disk later : Disk) (path : Path) : Prop where
  /-- It ends with the name of the entry. -/
  endsInName : EndsInName path
  /-- It is new only as a new file. -/
  new : disk.reaches path = false → path.extension? = some Sources.extension →
    ∃ l, disk.get? l = none ∧ later.IsFileAt path l

/-- Whether new directories and sources below a directory, if they are spelled from `path`, can be
opened: their paths are shorter than the limit. -/
def Fits (disk later : Disk) (path : Path) (l : Location) : Prop :=
  ∀ (names : List String) (e : Entry), disk.get? (l ++ names) = none →
    later.get? (l ++ names) = some e →
    e = .dir ∨ (names.foldl Path.join path).extension? = some Sources.extension →
      (names.foldl Path.join path).utf8ByteSize < pathLimit

theorem Fits.join (h : Fits disk later path l) (name : String) :
    Fits disk later (path.join name) (l ++ [name]) := by
  intro names e hold hlater he
  rw [List.append_assoc] at hold hlater
  exact h (name :: names) e hold hlater he

theorem isListed_new_file (hext : Extends disk later) (hwf : disk.WellFormed)
    (hwfl : later.WellFormed) (henters : later.Enters path l) (hfits : Fits disk later path l)
    {bytes : List UInt8} (hold : disk.get? (l ++ [name]) = none)
    (hfile : later.get? (l ++ [name]) = some (.file bytes)) :
    disk.reaches (path.join name) = false ∧ IsListed disk later (path.join name) := by
  obtain ⟨hname, -⟩ := hwfl.name _ _ _ hfile
  refine ⟨reaches_eq_false hext hwf hold (henters.walkSteps_file hwfl hfile),
    endsInName_join path hname, fun _ hjava => ⟨l ++ [name], hold, ?_⟩⟩
  exact henters.isFileAt hwfl hfile (hfits [name] _ hold hfile (Or.inr hjava))

/-- What a walk over the later disk lists of a new entry, once it is known for directories. -/
theorem listEntry_new (hext : Extends disk later) (hwf : disk.WellFormed)
    (hwfl : later.WellFormed) {root : Path} {fuel : Nat} (henters : later.Enters path l)
    (hfits : Fits disk later path l) (hold : disk.get? (l ++ [name]) = none)
    (hbelow : later.get? (l ++ [name]) = some .dir →
      ∃ files, later.walkBelow root fuel (l ++ [name]) (path.join name) = .ok files ∧
        ∀ p ∈ files, disk.reaches p = false ∧ IsListed disk later p) :
    ∃ files, listEntry later root fuel l path name = .ok files ∧
      ∀ p ∈ files, disk.reaches p = false ∧ IsListed disk later p := by
  unfold listEntry
  cases hname : later.get? (l ++ [name]) with
  | none => exact ⟨[], rfl, nofun⟩
  | some e =>
    cases e with
    | dir => exact hbelow hname
    | link target => exact absurd hname (hext.fresh _ target hold)
    | file bytes =>
      have hlisted := isListed_new_file hext hwf hwfl henters hfits hold hname
      exact ⟨[path.join name], rfl, fun p hp => List.mem_singleton.1 hp ▸ hlisted⟩

/-- **Below a new directory** a walk lists nothing but new files. -/
theorem walkBelow_new (hext : Extends disk later) (hwf : disk.WellFormed)
    (hwfl : later.WellFormed) (root : Path) (fuel : Nat) (hold : disk.get? l = none)
    (hdir : later.get? l = some .dir) (henters : later.Enters path l)
    (hfits : Fits disk later path l) :
    ∃ files, later.walkBelow root fuel l path = .ok files ∧
      ∀ p ∈ files, disk.reaches p = false ∧ IsListed disk later p := by
  induction fuel generalizing l path with
  | zero => exact ⟨[], rfl, nofun⟩
  | succ fuel ih =>
    have hshort : path.utf8ByteSize < pathLimit :=
      hfits [] .dir (by rwa [List.append_nil]) (by rwa [List.append_nil]) (Or.inl rfl)
    have hentry : ∀ name ∈ later.names l, ∃ files,
        listEntry later root fuel l path name = .ok files ∧
          ∀ p ∈ files, disk.reaches p = false ∧ IsListed disk later p := fun name _ =>
      have holdName := get?_append_eq_none hold name
      listEntry_new hext hwf hwfl henters hfits holdName fun hname =>
        ih holdName hname (henters.join hwfl hname) (hfits.join name)
    obtain ⟨parts, hparts, hall⟩ := exists_mapM_eq_ok hentry
    refine ⟨parts.flatten, walkBelow_succ_eq_ok.2 ⟨hshort, parts, hparts, rfl⟩, fun p hp => ?_⟩
    obtain ⟨part, hpart, hp⟩ := List.mem_flatten.1 hp
    exact hall part hpart p hp

/-- What a walk over the later disk lists of an old entry, once it is known for directories. -/
theorem listEntry_old (hext : Extends disk later) (hwf : disk.WellFormed)
    (hlinks : LinksResolve disk) {root : Path} {fuel fuel' : Nat} {files : List Path}
    (henters : disk.Enters path l) {e : Entry} (he : disk.get? (l ++ [name]) = some e)
    (h : listEntry disk root fuel l path name = .ok files)
    (hbelow : e = .dir → disk.walkBelow root fuel (l ++ [name]) (path.join name) = .ok files →
      ∃ all, later.walkBelow root fuel' (l ++ [name]) (path.join name) = .ok all ∧
        all.filter disk.reaches = files ∧ ∀ p ∈ all, IsListed disk later p) :
    ∃ all, listEntry later root fuel' l path name = .ok all ∧
      all.filter disk.reaches = files ∧ ∀ p ∈ all, IsListed disk later p := by
  obtain ⟨hname, -⟩ := hwf.name _ _ _ he
  have hlisted : ∀ p ∈ [path.join name], disk.reaches p = true → IsListed disk later p := by
    rintro p hp hreaches
    rw [List.mem_singleton.1 hp] at hreaches ⊢
    exact ⟨endsInName_join path hname, fun hnew => absurd hreaches (by simp [hnew])⟩
  unfold listEntry at h ⊢
  rw [he] at h
  cases e with
  | dir =>
    rw [hext.dir _ he]
    exact hbelow rfl h
  | file bytes =>
    obtain ⟨others, hothers⟩ := hext.file _ _ he
    rw [hothers]
    obtain rfl := Except.ok.inj h
    have hreaches : disk.reaches (path.join name) = true := by
      rw [reaches, henters.walkSteps_file hwf he]
    exact ⟨_, rfl, by simp [hreaches], fun p hp => hlisted p hp (by simp_all)⟩
  | link target =>
    rw [hext.link _ _ he]
    simp only [(kind_eq_of_not_isMiss hext hwf (henters.not_isMiss hwf hlinks he)).1]
    obtain rfl := Except.ok.inj h
    split
    · rename_i hfile
      obtain ⟨m, hm⟩ := isFile_iff.1 hfile
      exact ⟨_, rfl, by simp [hm.reaches], fun p hp => hlisted p hp (by simp_all [hm.reaches])⟩
    · exact ⟨[], rfl, rfl, nofun⟩

/-- **A walk over the later disk** lists what was listed before, in this order, and new files. -/
theorem walkBelow_old (hext : Extends disk later) (hwf : disk.WellFormed)
    (hwfl : later.WellFormed) (hlinks : LinksResolve disk) {root : Path} {fuel fuel' : Nat}
    {files : List Path} (hdepth : disk.depth < l.length + fuel)
    (hdepth' : later.depth < l.length + fuel') (hdir : disk.get? l = some .dir)
    (henters : disk.Enters path l) (henters' : later.Enters path l)
    (hfits : Fits disk later path l) (h : disk.walkBelow root fuel l path = .ok files) :
    ∃ all, later.walkBelow root fuel' l path = .ok all ∧ all.filter disk.reaches = files ∧
      ∀ p ∈ all, IsListed disk later p := by
  induction fuel' generalizing fuel l path files with
  | zero => exact absurd (length_le_depth (hext.dir l hdir)) (Nat.not_le.2 hdepth')
  | succ fuel' ih =>
    cases fuel with
    | zero => exact absurd (length_le_depth hdir) (Nat.not_le.2 hdepth)
    | succ fuel =>
      obtain ⟨hshort, parts, hparts, rfl⟩ := walkBelow_succ_eq_ok.1 h
      rw [← filter_names hext.isSome] at hparts
      obtain ⟨all, hall, hfilter, hlisted⟩ := mapM_flatten_filter disk.reaches
        (IsListed disk later) (g := listEntry later root fuel' l path) hparts
        (fun name _ hname part hpart => by
          obtain ⟨e, he⟩ := Option.isSome_iff_exists.1 hname
          refine listEntry_old hext hwf hlinks henters he hpart fun hedir hbelow => ?_
          subst hedir
          refine ih ?_ ?_ he (henters.join hwf he) (henters'.join hwfl (hext.dir _ he))
            (hfits.join name) hbelow
          · rw [List.length_append, List.length_singleton]
            omega
          · rw [List.length_append, List.length_singleton]
            omega)
        (fun name _ hname => by
          have hold : disk.get? (l ++ [name]) = none := by simpa using hname
          refine listEntry_new hext hwf hwfl henters' hfits hold fun hnew => ?_
          exact walkBelow_new hext hwf hwfl root fuel' hold hnew (henters'.join hwfl hnew)
            (hfits.join name))
      exact ⟨all.flatten, walkBelow_succ_eq_ok.2 ⟨hshort, all, hall, rfl⟩, hfilter, hlisted⟩

/-! ## Walks over roots -/

theorem walk_eq_ok_iff {root : Path} {files : List Path} :
    disk.walk root = .ok files ↔
      ∃ l, disk.IsDirAt root l ∧ disk.walkBelow root (disk.depth + 1) l root = .ok files := by
  unfold walk IsDirAt
  cases hres : disk.resolve .followed root with
  | error e => simp
  | ok found =>
    obtain ⟨place, slash⟩ := found
    cases place with
    | vacant l name => simp
    | entry l e => cases e <;> simp

/-- Below a root that holds nothing but files all of these are listed. -/
theorem walk_of_files {root : Path} (hroot : disk.IsDirAt root l)
    (hfiles : ∀ name ∈ disk.names l, ∃ bytes, disk.get? (l ++ [name]) = some (.file bytes)) :
    disk.walk root = .ok ((disk.names l).map root.join) :=
  walk_eq_ok_iff.2 ⟨l, hroot, walkBelow_of_files hroot.isOpenable.2.2 hfiles⟩

/-- **A root that was walked before** has the files that were listed before, and new ones. -/
theorem walk_old (hext : Extends disk later) (hwf : disk.WellFormed) (hwfl : later.WellFormed)
    (hlinks : LinksResolve disk) {root : Path} {files : List Path}
    (hfits : ∀ l, later.IsDirAt root l → Fits disk later root l) (h : disk.walk root = .ok files) :
    ∃ all, later.walk root = .ok all ∧ all.filter disk.reaches = files ∧
      ∀ p ∈ all, IsListed disk later p := by
  obtain ⟨l, hl, hfiles⟩ := walk_eq_ok_iff.1 h
  have hl' := hl.persists hext hwf
  have hdepth : disk.depth < l.length + (disk.depth + 1) := by omega
  have hdepth' : later.depth < l.length + (later.depth + 1) := by omega
  obtain ⟨all, hall, hfilter, hlisted⟩ := walkBelow_old hext hwf hwfl hlinks hdepth hdepth'
    (hl.get? hwf) hl.enters hl'.enters (hfits l hl') hfiles
  exact ⟨all, walk_eq_ok_iff.2 ⟨l, hl', hall⟩, hfilter, hlisted⟩

/-- **A new root** has new files only. -/
theorem walk_new (hext : Extends disk later) (hwf : disk.WellFormed) (hwfl : later.WellFormed)
    {root : Path} (hfits : ∀ l, later.IsDirAt root l → Fits disk later root l)
    (hl : later.IsDirAt root l) (hold : disk.get? l = none) :
    ∃ files, later.walk root = .ok files ∧
      ∀ p ∈ files, disk.reaches p = false ∧ IsListed disk later p := by
  obtain ⟨files, hfiles, hlisted⟩ := walkBelow_new hext hwf hwfl root (later.depth + 1) hold
    (hl.get? hwfl) hl.enters (hfits l hl)
  exact ⟨files, walk_eq_ok_iff.2 ⟨l, hl, hfiles⟩, hlisted⟩

end Disk

end JavaFormat
