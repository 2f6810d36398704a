import JavaFormat.Proofs.Disk.Ways
import JavaFormat.Proofs.Path

/-!
# What a walk lists

A walk lists the path of its root continued by the names that lead down to an entry
(`exists_names_of_walk`), so that a listed path starts as the root does.  Listed paths with the same
components lead to the same place, as long as they can be opened
(`IsSpelledOut.resolve_eq_of_same`).  Without links and components `..` the file that a path leads
to lies where the absolute form of the path names it (`map_name_of_isFileAt`): different spellings
of an absolute path are spellings of one file.
-/

set_option autoImplicit false

namespace JavaFormat

namespace Disk

open JavaFormat.Path

variable {disk : Disk} {root path p : Path} {l : Location}

/-! ## Listed paths -/

/-- Whether a path is that of a directory continued by the names that lead down to an entry. -/
def IsBelow (disk : Disk) (l : Location) (path p : Path) : Prop :=
  ∃ names, names ≠ [] ∧ (∀ name ∈ names, IsName name) ∧ p = names.foldl join path ∧
    (disk.get? (l ++ names)).isSome = true

theorem isBelow_of_walkBelow (hwf : disk.WellFormed) {fuel : Nat} {files : List Path}
    (henters : disk.Enters path l) (hdepth : disk.depth < l.length + fuel)
    (hdir : disk.get? l = some .dir) (h : disk.walkBelow root fuel l path = .ok files)
    (hp : p ∈ files) : disk.IsBelow l path p := by
  rw [eq_map_waysBelow h] at hp
  obtain ⟨names, hnames, rfl⟩ := List.mem_map.1 hp
  have hbelow := (mem_waysBelow hwf henters hdepth hdir).1 hnames
  have hsome := hbelow.file.isSome
  exact ⟨names, hbelow.ne_nil hdir, hwf.isName_of_isSome hsome, rfl, hsome⟩

/-- **A walk lists its root continued by names.** -/
theorem exists_names_of_walk (hwf : disk.WellFormed) {files : List Path}
    (h : disk.walk root = .ok files) (hp : p ∈ files) :
    root ≠ "" ∧ ∃ names, names ≠ [] ∧ (∀ name ∈ names, IsName name) ∧
      p = names.foldl join root := by
  obtain ⟨l, hl, hbelow⟩ := walk_eq_ok_iff.1 h
  obtain ⟨names, hne, hnames, hfold, -⟩ :=
    isBelow_of_walkBelow hwf hl.enters (by omega) (hl.get? hwf) hbelow hp
  exact ⟨hl.ne_empty, names, hne, hnames, hfold⟩

theorem foldl_join_ne_empty {names : List String} (hne : path ≠ "")
    (h : ∀ name ∈ names, IsName name) : names.foldl join path ≠ "" := by
  induction names generalizing path with
  | nil => exact hne
  | cons name names ih =>
    exact ih (join_ne (h name List.mem_cons_self)) fun n hn => h n (List.mem_cons_of_mem _ hn)

theorem endsInName_foldl_join {names : List String} (hne : names ≠ [])
    (h : ∀ name ∈ names, IsName name) : EndsInName (names.foldl join path) := by
  obtain ⟨front, name, rfl⟩ := List.eq_nil_or_concat names |>.resolve_left hne
  rw [List.concat_eq_append, List.foldl_append]
  exact endsInName_join _ (h name (by simp))

theorem null_not_mem_foldl_join {names : List String} (hpath : '\x00' ∉ path.toList)
    (h : ∀ name ∈ names, IsName name) : '\x00' ∉ (names.foldl join path).toList := by
  induction names generalizing path with
  | nil => exact hpath
  | cons name names ih =>
    have hname := h name List.mem_cons_self
    exact ih (hname.null_not_mem_join hpath) fun n hn => h n (List.mem_cons_of_mem _ hn)

/-- **Whether a path looks like one that a walk lists**: it ends with a name, and it can be opened
unless it is too long. -/
structure IsSpelledOut (p : Path) : Prop where
  /-- It leads to a name at last. -/
  endsInName : EndsInName p
  /-- It does not end with a slash. -/
  slash : p.endsWithSlash = false
  /-- It is not empty. -/
  nonempty : p ≠ ""
  /-- There is no null character in it. -/
  null : '\x00' ∉ p.toList

theorem isSpelledOut_of_walk (hwf : disk.WellFormed) {files : List Path}
    (h : disk.walk root = .ok files) (hp : p ∈ files) : IsSpelledOut p := by
  obtain ⟨hroot, names, hne, hnames, rfl⟩ := exists_names_of_walk hwf h hp
  obtain ⟨l, hl, -⟩ := walk_eq_ok_iff.1 h
  refine ⟨endsInName_foldl_join hne hnames, ?_, foldl_join_ne_empty hroot hnames,
    null_not_mem_foldl_join hl.enters.null hnames⟩
  obtain ⟨front, name, rfl⟩ := List.eq_nil_or_concat names |>.resolve_left hne
  rw [List.concat_eq_append, List.foldl_append]
  exact (hnames name (by simp)).endsWithSlash_join _

theorem IsSpelledOut.resolve (h : IsSpelledOut p) (hshort : p.utf8ByteSize < pathLimit) :
    disk.resolve .followed p =
      walkSteps disk .followed linkLimit disk.home false (stepsOf p) := by
  rw [IsOpenable.resolve ⟨h.null, by simpa [String.isEmpty_iff] using h.nonempty, hshort⟩, h.slash]

/-- **Listed paths with the same components lead to the same place**, if they are short enough. -/
theorem IsSpelledOut.resolve_eq_of_same {q : Path} (hp : IsSpelledOut p) (hq : IsSpelledOut q)
    (hshort : p.utf8ByteSize < pathLimit) (hshort' : q.utf8ByteSize < pathLimit)
    (h : same p q = true) : disk.resolve .followed p = disk.resolve .followed q := by
  rw [hp.resolve hshort, hq.resolve hshort', walkSteps_eq_of_same hp.endsInName hq.endsInName h]

/-- The names in the working directory lead to it. -/
theorem WellFormed.isName_home (hwf : disk.WellFormed) : ∀ name ∈ disk.home, IsName name := by
  have hsome : (disk.get? ([] ++ disk.home)).isSome = true := by
    rw [List.nil_append, hwf.home, Option.isSome_some]
  exact hwf.isName_of_isSome hsome

/-! ## Ways without links -/

/-- The name that a step leads down to. -/
def Step.name? : Step → Option String
  | .down name => some name
  | _ => none

/-- Without links a walk ends where its steps lead down to. -/
theorem eq_of_walkSteps_hasNoLink (hlinks : HasNoLink disk) {last : LastLink} {links : Nat}
    {at_ : Location} {slash slash' : Bool} {steps : List Step} {e : Entry}
    (hdown : AreDownward steps)
    (h : walkSteps disk last links at_ slash steps = .ok ⟨.entry l e, slash'⟩) :
    l = at_ ++ steps.filterMap Step.name? := by
  induction steps generalizing at_ with
  | nil =>
    rw [walkSteps] at h
    cases h
    exact (List.append_nil _).symm
  | cons step rest ih =>
    cases step with
    | root => exact absurd List.mem_cons_self hdown.2
    | up => exact absurd List.mem_cons_self hdown.1
    | stay =>
      rw [walkSteps] at h
      exact ih hdown.tail h
    | down name =>
      rw [walkSteps] at h
      split at h
      · cases h
      · rw [List.filterMap_cons_some (rfl : Step.name? (.down name) = some name)]
        split at h
        · split at h <;> cases h
        · rw [ih hdown.tail h, List.append_assoc]
          rfl
        · split at h
          · rename_i hrest
            cases h
            rw [hrest]
            rfl
          · cases h
        · rename_i target hlink
          exact absurd hlink (hlinks _ target)

theorem map_name_pieceSteps {text : List Char} (hup : Step.up ∉ pieceSteps text) :
    ((pieceSteps text).filterMap Step.name?).map Component.name = namedBy (pieces text) := by
  rw [pieceSteps] at hup ⊢
  generalize pieces text = ps at hup ⊢
  induction ps with
  | nil => rfl
  | cons piece ps ih =>
    by_cases hne : piece = []
    · subst hne
      exact ih hup
    have hkeep : (piece :: ps).filter (· != []) = piece :: ps.filter (· != []) :=
      List.filter_cons_of_pos (by simpa using hne)
    rw [hkeep, List.map_cons, List.mem_cons, not_or] at hup
    rw [hkeep, List.map_cons, namedBy]
    by_cases hdot : piece = ['.']
    · subst hdot
      exact ih hup.2
    have hdots : piece ≠ ['.', '.'] := by
      rintro rfl
      exact hup.1 rfl
    have hvoid : isVoid piece = false := by simp [isVoid, hne, hdot]
    rw [Step.ofPiece, if_neg hdot, if_neg hdots,
      List.filterMap_cons_some (rfl : Step.name? (.down (String.ofList piece)) = _), List.map_cons,
      ih hup.2, List.filter_cons_of_pos (by rw [hvoid]; rfl), List.map_cons, Cut.componentOf,
      if_neg hdots]
    rfl

/-- **Without links the file of a path** lies where the absolute form of the path names it. -/
theorem map_name_of_isFileAt (hlinks : HasNoLink disk) (hup : Step.up ∉ stepsOf p)
    (h : disk.IsFileAt p l) : l.map Component.name = p.above disk.home ++ p.named := by
  obtain ⟨bytes, h⟩ := h
  obtain ⟨-, hwalk⟩ := resolve_eq_ok_iff.1 h
  have hdown := areDownward_pieceSteps hup
  rw [walkSteps_stepsOf] at hwalk
  have hstart : (disk.start p).map Component.name = p.above disk.home := by
    rw [Disk.start, above]
    split <;> rfl
  rw [eq_of_walkSteps_hasNoLink hlinks hdown hwalk, List.map_append, hstart,
    map_name_pieceSteps hdown.1]
  rfl

end Disk

end JavaFormat
