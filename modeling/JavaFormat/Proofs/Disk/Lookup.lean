import JavaFormat.Proofs.Disk.Fresh

/-!
# What paths lead to on a later disk

On a well-formed disk (`Disk.WellFormed`) a path that leads to a file or a directory leads to the
same one on every later disk, and a path without a component `..` that led nowhere can only lead
to something new.

* `IsFileAt`, `IsDirAt`: where the file or the directory is that a path leads to.
* `resolve_persists`: a path leads later where it led before, unless it missed an entry.
* `get?_eq_none_of_resolve`: what a path missed can only be new.
-/

set_option autoImplicit false

namespace JavaFormat

namespace Disk

open JavaFormat.Path

/-- **What every disk is like**: the working directory is one, entries have names that lead to them,
and the targets of links have no null character. -/
structure WellFormed (disk : Disk) : Prop where
  /-- The working directory is a directory. -/
  home : disk.get? disk.home = some .dir
  /-- An entry has a name that leads to it. -/
  name : ∀ l name e, disk.get? (l ++ [name]) = some e →
    IsName name ∧ name.utf8ByteSize ≤ nameLimit
  /-- The target of a link has no null character. -/
  target : ∀ l target, disk.get? l = some (.link target) → '\x00' ∉ target.toList

theorem wellFormed_empty : Disk.empty.WellFormed where
  home := rfl
  name := fun l name e h => by
    rw [get?, if_neg (by simp)] at h
    cases h
  target := fun l target h => by
    unfold get? at h
    split at h <;> cases h

/-- An entry with a name that leads to it keeps a disk well formed. -/
theorem WellFormed.add {disk : Disk} {l : Location} {name : String} {e : Entry}
    (h : disk.WellFormed) (hdir : disk.hasDir l = true) (hnone : disk.get? (l ++ [name]) = none)
    (hname : IsName name ∧ name.utf8ByteSize ≤ nameLimit)
    (htarget : ∀ target, e = .link target → '\x00' ∉ target.toList) :
    (disk.add l name e).WellFormed := by
  have hadd := get?_add e hdir hnone
  refine ⟨?_, fun k m found hk => ?_, fun k target hk => ?_⟩
  · rw [home_add, hadd, if_neg, h.home]
    intro heq
    rw [← heq, h.home] at hnone
    cases hnone
  · rw [hadd] at hk
    split at hk
    · rename_i heq
      obtain ⟨-, heq⟩ := List.append_inj' heq rfl
      cases heq
      exact hname
    · exact h.name k m found hk
  · rw [hadd] at hk
    split at hk
    · exact htarget target (Option.some.inj hk)
    · exact h.target k target hk

theorem WellFormed.add_link {disk : Disk} {l : Location} {name : String} {target : Path}
    (h : disk.WellFormed) (hdir : disk.hasDir l = true) (hnone : disk.get? (l ++ [name]) = none)
    (hname : IsName name ∧ name.utf8ByteSize ≤ nameLimit) (htarget : '\x00' ∉ target.toList) :
    (disk.add l name (.link target)).WellFormed :=
  h.add hdir hnone hname fun _ heq => Entry.link.inj heq ▸ htarget

/-- Whether a path leads to the file at a location. -/
def IsFileAt (disk : Disk) (path : Path) (l : Location) : Prop :=
  ∃ bytes, disk.resolve .followed path = .ok ⟨.entry l (.file bytes), false⟩

/-- Whether a path leads to the directory at a location. -/
def IsDirAt (disk : Disk) (path : Path) (l : Location) : Prop :=
  ∃ slash, disk.resolve .followed path = .ok ⟨.entry l .dir, slash⟩

variable {disk later : Disk} {path : Path} {l : Location}

/-! ## What is read -/

theorem readBytes_eq_ok_iff {bytes : List UInt8} :
    disk.readBytes path = .ok bytes ↔
      ∃ l, disk.resolve .followed path = .ok ⟨.entry l (.file bytes), false⟩ := by
  unfold readBytes entryAt
  cases hres : disk.resolve .followed path with
  | error e => simp
  | ok found =>
    obtain ⟨place, slash⟩ := found
    cases place with
    | vacant l name => simp
    | entry l e => cases e <;> cases slash <;> simp

theorem isFile_iff : disk.isFile path = true ↔ ∃ l, disk.IsFileAt path l := by
  unfold isFile entryAt IsFileAt
  cases hres : disk.resolve .followed path with
  | error e => simp
  | ok found =>
    obtain ⟨place, slash⟩ := found
    cases place with
    | vacant l name => simp
    | entry l e => cases e <;> cases slash <;> simp

theorem isDir_iff : disk.isDir path = true ↔ ∃ l, disk.IsDirAt path l := by
  unfold isDir entryAt IsDirAt
  cases hres : disk.resolve .followed path with
  | error e => simp
  | ok found =>
    obtain ⟨place, slash⟩ := found
    cases place with
    | vacant l name => simp
    | entry l e => cases e <;> cases slash <;> simp

/-! ## Later disks -/

/-- **A path leads later where it led before**, unless it missed an entry. -/
theorem resolve_persists (hext : Extends disk later) (hwf : disk.WellFormed) (last : LastLink)
    (path : Path) :
    Persists disk later (disk.resolve last path) (later.resolve last path) := by
  unfold resolve
  split
  · exact persists_error
  · split
    · exact persists_error
    · split
      · exact persists_error
      · rw [hext.home]
        exact walkSteps_persists hext last linkLimit disk.home _ _ hwf.home

theorem resolve_entry (hwf : disk.WellFormed) {last : LastLink} {e : Entry} {slash : Bool}
    (h : disk.resolve last path = .ok ⟨.entry l e, slash⟩) : disk.get? l = some e := by
  have hpersists := resolve_persists (.refl disk) hwf last path
  rw [h] at hpersists
  exact hpersists.1

theorem resolve_entry_later (hext : Extends disk later) (hwf : disk.WellFormed)
    {last : LastLink} {e e' : Entry} {slash : Bool}
    (h : disk.resolve last path = .ok ⟨.entry l e, slash⟩) (hlater : later.get? l = some e') :
    later.resolve last path = .ok ⟨.entry l e', slash⟩ := by
  have hpersists := resolve_persists hext hwf last path
  rw [h] at hpersists
  rw [hpersists.2, Place.seen, Place.location, hlater]

theorem resolve_vacant (hwf : disk.WellFormed) {last : LastLink} {name : String} {slash : Bool}
    (h : disk.resolve last path = .ok ⟨.vacant l name, slash⟩) :
    disk.get? l = some .dir ∧ disk.get? (l ++ [name]) = none := by
  have hpersists := resolve_persists (.refl disk) hwf last path
  rw [h] at hpersists
  exact hpersists.1

theorem resolve_vacant_later (hext : Extends disk later) (hwf : disk.WellFormed)
    {last : LastLink} {name : String} {e : Entry} {slash : Bool}
    (h : disk.resolve last path = .ok ⟨.vacant l name, slash⟩)
    (hlater : later.get? (l ++ [name]) = some e) :
    later.resolve last path = .ok ⟨.entry (l ++ [name]) e, slash⟩ := by
  have hpersists := resolve_persists hext hwf last path
  rw [h] at hpersists
  rw [hpersists.2, Place.seen, Place.location, hlater]

theorem IsFileAt.get? (h : disk.IsFileAt path l) (hwf : disk.WellFormed) :
    ∃ bytes, disk.get? l = some (.file bytes) := by
  obtain ⟨bytes, h⟩ := h
  exact ⟨bytes, resolve_entry hwf h⟩

theorem IsFileAt.persists (h : disk.IsFileAt path l) (hext : Extends disk later)
    (hwf : disk.WellFormed) : later.IsFileAt path l := by
  obtain ⟨bytes, h⟩ := h
  obtain ⟨others, hothers⟩ := hext.file l bytes (resolve_entry hwf h)
  exact ⟨others, resolve_entry_later hext hwf h hothers⟩

theorem IsFileAt.unique {m : Location} (h : disk.IsFileAt path l) (h' : disk.IsFileAt path m) :
    l = m := by
  obtain ⟨bytes, h⟩ := h
  obtain ⟨bytes', h'⟩ := h'
  rw [h] at h'
  cases h'
  rfl

/-- A file is read as it stands at its location. -/
theorem IsFileAt.readBytes (h : disk.IsFileAt path l) (hwf : disk.WellFormed) {bytes : List UInt8}
    (hl : disk.get? l = some (.file bytes)) : disk.readBytes path = .ok bytes := by
  obtain ⟨others, h⟩ := h
  have hothers := resolve_entry hwf h
  rw [hl] at hothers
  cases hothers
  exact readBytes_eq_ok_iff.2 ⟨l, h⟩

theorem IsDirAt.isOpenable (h : disk.IsDirAt path l) : IsOpenable path := by
  obtain ⟨slash, h⟩ := h
  exact (resolve_eq_ok_iff.1 h).1

theorem IsDirAt.ne_empty (h : disk.IsDirAt path l) : path ≠ "" := by
  rintro rfl
  exact absurd h.isOpenable (by decide)

theorem IsDirAt.get? (h : disk.IsDirAt path l) (hwf : disk.WellFormed) :
    disk.get? l = some .dir := by
  obtain ⟨slash, h⟩ := h
  exact resolve_entry hwf h

theorem IsDirAt.persists (h : disk.IsDirAt path l) (hext : Extends disk later)
    (hwf : disk.WellFormed) : later.IsDirAt path l := by
  obtain ⟨slash, h⟩ := h
  exact ⟨slash, resolve_entry_later hext hwf h (hext.dir l (resolve_entry hwf h))⟩

theorem IsDirAt.unique {m : Location} (h : disk.IsDirAt path l) (h' : disk.IsDirAt path m) :
    l = m := by
  obtain ⟨slash, h⟩ := h
  obtain ⟨slash', h'⟩ := h'
  rw [h] at h'
  cases h'
  rfl

/-- What a path did not miss is a file or a directory later if it was one before. -/
theorem kind_eq_of_not_isMiss (hext : Extends disk later) (hwf : disk.WellFormed)
    (hmiss : ¬IsMiss (disk.resolve .followed path)) :
    later.isFile path = disk.isFile path ∧ later.isDir path = disk.isDir path := by
  have hpersists := resolve_persists hext hwf .followed path
  unfold isFile isDir entryAt
  cases hres : disk.resolve .followed path with
  | error e =>
    rw [hres] at hpersists hmiss
    have hlater : later.resolve .followed path = .error e := by
      cases e with
      | notFound => exact absurd (Or.inl rfl) hmiss
      | _ => exact hpersists
    rw [hlater]
    exact ⟨rfl, rfl⟩
  | ok found =>
    obtain ⟨place, slash⟩ := found
    rw [hres] at hpersists hmiss
    cases place with
    | vacant l name => exact absurd (Or.inr ⟨l, name, slash, rfl⟩) hmiss
    | entry l e =>
      obtain ⟨hin, hlater⟩ := hpersists
      rw [hlater, Place.seen, Place.location]
      cases e with
      | dir =>
        rw [hext.dir l hin]
        exact ⟨rfl, rfl⟩
      | link target =>
        rw [hext.link l target hin]
        exact ⟨rfl, rfl⟩
      | file bytes =>
        obtain ⟨others, hothers⟩ := hext.file l bytes hin
        rw [hothers]
        cases slash <;> exact ⟨rfl, rfl⟩

theorem exists?_iff : disk.exists? path = true ↔
    ∃ l e slash, disk.resolve .followed path = .ok ⟨.entry l e, slash⟩ ∧
      ∀ bytes, e = .file bytes → slash = false := by
  unfold exists? entryAt
  cases hres : disk.resolve .followed path with
  | error e => simp
  | ok found =>
    obtain ⟨place, slash⟩ := found
    cases place with
    | vacant l name => simp
    | entry l e => cases e <;> cases slash <;> simp [and_assoc]

theorem exists?_persists (hext : Extends disk later) (hwf : disk.WellFormed)
    (h : disk.exists? path = true) : later.exists? path = true := by
  obtain ⟨l, e, slash, hres, hslash⟩ := exists?_iff.1 h
  have hl := resolve_entry hwf hres
  cases e with
  | dir =>
    have hlater := hext.dir l hl
    exact exists?_iff.2 ⟨l, _, slash, resolve_entry_later hext hwf hres hlater, nofun⟩
  | link target =>
    have hlater := hext.link l target hl
    exact exists?_iff.2 ⟨l, _, slash, resolve_entry_later hext hwf hres hlater, nofun⟩
  | file bytes =>
    obtain ⟨others, hothers⟩ := hext.file l bytes hl
    exact exists?_iff.2
      ⟨l, _, slash, resolve_entry_later hext hwf hres hothers, fun _ _ => hslash bytes rfl⟩

/-- **Where no slash asks for a directory**, what is written is what is read. -/
theorem resolve_unlessSlash_iff {place : Place} :
    disk.resolve .followedUnlessSlash path = .ok ⟨place, false⟩ ↔
      disk.resolve .followed path = .ok ⟨place, false⟩ := by
  rw [resolve_eq_ok_iff, resolve_eq_ok_iff, walkSteps_unlessSlash_iff]

theorem endsWithSlash_of_resolve {last : LastLink} {place : Place}
    (h : disk.resolve last path = .ok ⟨place, false⟩) : path.endsWithSlash = false := by
  obtain ⟨-, hwalk⟩ := resolve_eq_ok_iff.1 h
  refine Bool.eq_false_iff.2 fun hslash => ?_
  cases slash_of_walkSteps hwalk hslash

/-- Bytes that are written are in the file that the path leads to, or in a new one. -/
theorem writeBytes_eq_ok {bytes : List UInt8}
    (h : disk.writeBytes path bytes = (.ok (), later)) :
    (∃ l, disk.IsFileAt path l ∧ disk.denial? l = none ∧ later = disk.setBytes l bytes) ∨
      ∃ l name, disk.resolve .followed path = .ok ⟨.vacant l name, false⟩ ∧
        disk.denial? l = none ∧ later = disk.add l name (.file bytes) := by
  unfold writeBytes at h
  split at h
  · cases h
  · rename_i place slash hres
    cases slash with
    | true => cases h
    | false =>
      have hfollowed := resolve_unlessSlash_iff.1 hres
      simp only [Bool.false_eq_true, if_false] at h
      split at h
      · rename_i l name
        exact Or.inr ⟨l, name, hfollowed, unlessDenied_eq_ok_iff.1 h⟩
      · rename_i l old
        exact Or.inl ⟨l, ⟨old, hfollowed⟩, unlessDenied_eq_ok_iff.1 h⟩
      · cases h

/-- A path that leads to a file is written to that file, unless that is denied. -/
theorem IsFileAt.writeBytes (h : disk.IsFileAt path l) (bytes : List UInt8) :
    disk.writeBytes path bytes = disk.unlessDenied l (disk.setBytes l bytes) := by
  obtain ⟨old, h⟩ := h
  rw [Disk.writeBytes, resolve_unlessSlash_iff.2 h]
  rfl

/-- A path that leads to a vacant place is written to a new file there, unless that is denied. -/
theorem writeBytes_of_vacant {name : String} {bytes : List UInt8}
    (h : disk.resolve .followedUnlessSlash path = .ok ⟨.vacant l name, false⟩)
    (hdenial : disk.denial? l = none) :
    disk.writeBytes path bytes = (.ok (), disk.add l name (.file bytes)) := by
  rw [Disk.writeBytes, h]
  exact unlessDenied_of_none hdenial

theorem create_of_vacant {name : String} {e : Entry} {slash : Bool}
    (h : disk.resolve .kept path = .ok ⟨.vacant l name, slash⟩)
    (hdenial : disk.denial? l = none) : disk.create path e = (.ok (), disk.add l name e) := by
  rw [Disk.create, h]
  exact unlessDenied_of_none hdenial

/-- A file that cannot be written is left as it is, and so is everything else. -/
theorem writeBytes_error {bytes : List UInt8} {cause : IoError}
    (h : disk.writeBytes path bytes = (.error cause, later)) : later = disk := by
  unfold writeBytes at h
  split at h
  · exact (congrArg Prod.snd h).symm
  · split at h
    · exact (congrArg Prod.snd h).symm
    · split at h
      · exact (unlessDenied_eq_error h).1
      · exact (unlessDenied_eq_error h).1
      · exact (congrArg Prod.snd h).symm

/-! ## What a path missed -/

theorem root_not_mem_pieceSteps (text : List Char) : Step.root ∉ pieceSteps text := by
  intro h
  obtain ⟨piece, -, hstep⟩ := List.mem_map.1 h
  unfold Step.ofPiece at hstep
  split at hstep
  · cases hstep
  · split at hstep <;> cases hstep

theorem areDownward_pieceSteps (h : Step.up ∉ stepsOf path) :
    AreDownward (pieceSteps path.toList) := by
  refine ⟨fun hup => h ?_, root_not_mem_pieceSteps _⟩
  rw [stepsOf_eq]
  exact List.mem_append_right _ hup

/-- Where the steps along a path start. -/
def start (disk : Disk) (path : Path) : Location := if path.isAbsolute then [] else disk.home

theorem walkSteps_stepsOf (disk : Disk) (last : LastLink) (links : Nat) (slash : Bool)
    (path : Path) :
    walkSteps disk last links disk.home slash (stepsOf path) =
      walkSteps disk last links (disk.start path) slash (pieceSteps path.toList) := by
  rw [stepsOf_eq, start]
  cases path.isAbsolute with
  | true => simp [walkSteps]
  | false => rfl

/-- **What a path missed can only be new.** -/
theorem get?_eq_none_of_resolve (hext : Extends disk later) (hwf : disk.WellFormed)
    (hlinks : LinksResolve disk) (hup : Step.up ∉ stepsOf path)
    (hslash : path.endsWithSlash = false) (hmiss : IsMiss (disk.resolve .followed path))
    {e : Entry} {slash : Bool} (h : later.resolve .followed path = .ok ⟨.entry l e, slash⟩) :
    disk.get? l = none := by
  obtain ⟨hopen, hwalk⟩ := resolve_eq_ok_iff.1 h
  have hstart : later.start path = disk.start path := by rw [start, start, hext.home]
  rw [hopen.resolve, hslash, walkSteps_stepsOf] at hmiss
  rw [hslash, walkSteps_stepsOf, hstart] at hwalk
  have hdir : disk.get? (disk.start path) = some .dir := by
    unfold start
    split
    · exact get?_nil disk
    · exact hwf.home
  exact get?_eq_none_of_walkSteps hext hlinks (areDownward_pieceSteps hup) hdir hmiss hwalk

/-! ## Ways without links -/

/-- An entry lies below directories. -/
theorem get?_of_append {names : List String} {e : Entry} (h : disk.get? (l ++ names) = some e)
    (hne : names ≠ []) : disk.get? l = some .dir := by
  induction names generalizing l with
  | nil => exact absurd rfl hne
  | cons name names ih =>
    rw [← List.singleton_append, ← List.append_assoc] at h
    by_cases hnames : names = []
    · subst hnames
      rw [List.append_nil] at h
      exact eq_of_beq (hasDir_of_get? h)
    · exact eq_of_beq (hasDir_of_get? (ih h hnames))

/-- What leads to an entry is an entry. -/
theorem isSome_of_append {names : List String} (h : (disk.get? (l ++ names)).isSome = true) :
    (disk.get? l).isSome = true := by
  by_cases hnames : names = []
  · rwa [hnames, List.append_nil] at h
  · obtain ⟨e, he⟩ := Option.isSome_iff_exists.1 h
    rw [get?_of_append he hnames, Option.isSome_some]

/-- Names that lead to an entry are names that an entry may have. -/
theorem WellFormed.isName_of_isSome (hwf : disk.WellFormed) {names : List String}
    (h : (disk.get? (l ++ names)).isSome = true) : ∀ name ∈ names, IsName name := by
  intro name hname
  obtain ⟨front, back, rfl⟩ := List.append_of_mem hname
  rw [List.append_cons, ← List.append_assoc, ← List.append_assoc] at h
  obtain ⟨e, he⟩ := Option.isSome_iff_exists.1 (isSome_of_append h)
  exact (hwf.name _ _ _ he).1

/-- Along the names of directories a walk goes down. -/
theorem walkSteps_names (disk : Disk) (last : LastLink) (links : Nat) (slash : Bool)
    {names : List String} (rest : List Step) (hdir : disk.get? (l ++ names) = some .dir)
    (hshort : ∀ name ∈ names, name.utf8ByteSize ≤ nameLimit) :
    walkSteps disk last links l slash (names.map .down ++ rest) =
      walkSteps disk last links (l ++ names) slash rest := by
  induction names generalizing l with
  | nil => rw [List.append_nil]; rfl
  | cons name names ih =>
    rw [← List.singleton_append, ← List.append_assoc] at hdir
    have hname : disk.get? (l ++ [name]) = some .dir := by
      by_cases hnames : names = []
      · subst hnames
        rwa [List.append_nil] at hdir
      · exact get?_of_append hdir hnames
    have hle := hshort name List.mem_cons_self
    rw [List.map_cons, List.cons_append, walkSteps_down_dir (not_long_of_le hle) hname,
      ih hdir fun n hn => hshort n (List.mem_cons_of_mem _ hn), List.append_assoc]
    rfl

/-- **A path without links** leads to the entry of its last name, or to where there is none. -/
theorem resolve_of_names {last : LastLink} (front : List Step) (names : List String)
    (name : String) (hpath : IsOpenable path) (hsteps : stepsOf path = front ++ [.down name])
    (hfront : front.filter (· ≠ .stay) = names.map .down)
    (hshort : ∀ n ∈ names ++ [name], n.utf8ByteSize ≤ nameLimit)
    (hdir : disk.get? (disk.home ++ names) = some .dir)
    (hlink : ∀ target, disk.get? (disk.home ++ names ++ [name]) ≠ some (.link target)) :
    disk.resolve last path =
      .ok ⟨(Place.vacant (disk.home ++ names) name).seen disk, path.endsWithSlash⟩ := by
  have hnames := fun n hn => hshort n (List.mem_append_left _ hn)
  have hname := hshort name (List.mem_append_right _ List.mem_cons_self)
  rw [hpath.resolve, hsteps, ← walkSteps_filter_append _ _ _ _ _ _ (List.cons_ne_nil _ _), hfront,
    walkSteps_names disk last linkLimit _ _ hdir hnames, Place.seen, Place.location]
  cases hget : disk.get? (disk.home ++ names ++ [name]) with
  | none => exact walkSteps_down_none (not_long_of_le hname) hget
  | some e =>
    cases e with
    | dir => rw [walkSteps_down_dir (not_long_of_le hname) hget, walkSteps]
    | file bytes => exact walkSteps_down_file (not_long_of_le hname) hget
    | link target => exact absurd hget (hlink target)

/-- A directory is found under a path with pieces `.` in front that is short enough to be opened. -/
theorem isDirAt_dotted_of {disk : Disk} {path : Path} (names : List String) (name : String)
    (hhome : disk.home = []) (hnull : '\x00' ∉ path.toList) (habs : path.isAbsolute = false)
    (hsteps : stepsOf path = names.map .down ++ [.down name])
    (hnames : ∀ m ∈ names ++ [name], m.utf8ByteSize ≤ nameLimit)
    (hdir : disk.get? names = some .dir) (hentry : disk.get? (names ++ [name]) = some .dir)
    (n : Nat) (hne : 0 < path.utf8ByteSize) (hshort : 2 * n + path.utf8ByteSize < pathLimit) :
    disk.IsDirAt (dotted n path) (names ++ [name]) := by
  have hsize := utf8ByteSize_dotted n path
  have hopen : IsOpenable (dotted n path) := by
    refine ⟨null_not_mem_dotted n hnull, Bool.eq_false_iff.2 fun hempty => ?_, by omega⟩
    rw [String.isEmpty_iff.1 hempty, String.utf8ByteSize_empty] at hsize
    omega
  have hdir' : disk.get? (disk.home ++ names) = some .dir := by rwa [hhome, List.nil_append]
  have hentry' : disk.get? (disk.home ++ names ++ [name]) = some .dir := by
    rwa [hhome, List.nil_append]
  have hlink : ∀ target, disk.get? (disk.home ++ names ++ [name]) ≠ some (.link target) := by
    rw [hentry']
    exact fun _ => nofun
  refine ⟨(dotted n path).endsWithSlash, ?_⟩
  rw [resolve_of_names (List.replicate n .stay ++ names.map .down) names name hopen
    (by rw [stepsOf_dotted n habs, hsteps, List.append_assoc]) (by simp) hnames hdir' hlink,
    Place.seen, Place.location, hentry', hhome, List.nil_append]

/-- The source directory is found under any path that is short enough to be opened. -/
theorem isDirAt_dotted {disk : Disk} (hhome : disk.home = []) (hsrc : disk.get? ["src"] = some .dir)
    (n : Nat) (hshort : 2 * n + 3 < pathLimit) : disk.IsDirAt (dotted n "src") ["src"] :=
  isDirAt_dotted_of [] "src" hhome (by decide) (by decide) (by decide) (by decide) (get?_nil disk)
    hsrc n (by decide) hshort

/-- The source directory `src` under a path of 4095 bytes, the longest that can be opened. -/
def longRoot : Path := dotted 2046 "src"

theorem utf8ByteSize_longRoot : longRoot.utf8ByteSize = 4095 := utf8ByteSize_dotted 2046 "src"

end Disk

end JavaFormat
