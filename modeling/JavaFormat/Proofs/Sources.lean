import JavaFormat.Proofs.Disk.Walk

/-!
# Sources on a later disk

The sources below some roots stay the sources, spelled as they were, if further roots and entries
are new (`collect_later`): whether a path is old is a matter of its components, so that choosing the
first spelling of each path and choosing the old paths do not get in each other's way
(`firstSpellings_filter`).
-/

set_option autoImplicit false

namespace JavaFormat

namespace Sources

open Disk

theorem mem_of_mem_firstSpellings {ps : List Path} {p : Path} (h : p ∈ firstSpellings ps) :
    p ∈ ps := by
  induction ps with
  | nil => exact h
  | cons q ps ih =>
    rcases List.mem_cons.1 h with rfl | h
    · exact List.mem_cons_self
    · exact List.mem_cons_of_mem _ (ih (List.mem_filter.1 h).1)

/-- **No two first spellings are the same path.** -/
theorem pairwise_firstSpellings (ps : List Path) :
    (firstSpellings ps).Pairwise fun p q => Path.same p q = false := by
  induction ps with
  | nil => exact .nil
  | cons p ps ih =>
    refine List.Pairwise.cons (fun q hq => ?_) (ih.filter _)
    simpa using (List.mem_filter.1 hq).2

/-- Every path has a first spelling. -/
theorem exists_same_firstSpellings {ps : List Path} {p : Path} (h : p ∈ ps) :
    ∃ q ∈ firstSpellings ps, Path.same q p = true := by
  induction ps with
  | nil => cases h
  | cons first ps ih =>
    rcases List.mem_cons.1 h with rfl | h
    · exact ⟨p, List.mem_cons_self, beq_self_eq_true _⟩
    · obtain ⟨q, hq, hsame⟩ := ih h
      cases hfirst : Path.same first q with
      | true =>
        have hcomponents : first.components = p.components :=
          (eq_of_beq hfirst).trans (eq_of_beq hsame)
        exact ⟨first, List.mem_cons_self, beq_iff_eq.2 hcomponents⟩
      | false =>
        exact ⟨q, List.mem_cons_of_mem _ (List.mem_filter.2 ⟨hq, by simp [hfirst]⟩), hsame⟩

/-- **First spellings among those that are kept** are the first spellings that are kept, if this is
a matter of components. -/
theorem firstSpellings_filter {keep : Path → Bool} {ps : List Path}
    (h : ∀ p ∈ ps, ∀ q ∈ ps, Path.same p q = true → keep p = keep q) :
    (firstSpellings ps).filter keep = firstSpellings (ps.filter keep) := by
  induction ps with
  | nil => rfl
  | cons p ps ih =>
    have ih := ih fun q hq r hr => h q (List.mem_cons_of_mem _ hq) r (List.mem_cons_of_mem _ hr)
    rw [firstSpellings]
    cases hp : keep p with
    | true =>
      rw [List.filter_cons_of_pos hp, List.filter_cons_of_pos hp, firstSpellings, ← ih,
        List.filter_filter, List.filter_filter]
      simp only [Bool.and_comm]
    | false =>
      rw [List.filter_cons_of_neg (by simp [hp]), List.filter_cons_of_neg (by simp [hp]), ← ih,
        List.filter_filter]
      refine List.filter_congr fun q hq => ?_
      cases hq' : keep q with
      | false => rfl
      | true =>
        have hmem := List.mem_cons_of_mem p (mem_of_mem_firstSpellings hq)
        have hsame : Path.same p q ≠ true := fun hs => by
          have := h p List.mem_cons_self q hmem hs
          simp [hp, hq'] at this
        simp [hsame]

theorem collect_eq_ok_iff {ε : Type} {walk : Path → Except ε (List Path)}
    {excludes : List Glob.Pattern} {roots files : List Path} :
    collect walk excludes roots = .ok files ↔
      ∃ found,
        (roots.mapM fun root => (walk root).map (·.filter (admits excludes root))) = .ok found ∧
        files = firstSpellings found.flatten := by
  unfold collect
  cases roots.mapM fun root => (walk root).map (·.filter (admits excludes root)) with
  | error e => simp [bind, Except.bind]
  | ok found => simp [bind, Except.bind, pure, Except.pure, eq_comm]

/-- Where sources are found, every root is walked. -/
theorem exists_walk_of_collect {ε : Type} {walk : Path → Except ε (List Path)}
    {excludes : List Glob.Pattern} {roots files : List Path}
    (h : collect walk excludes roots = .ok files) {root : Path} (hroot : root ∈ roots) :
    ∃ listed, walk root = .ok listed := by
  obtain ⟨found, hfound, -⟩ := collect_eq_ok_iff.1 h
  obtain ⟨part, -, hpart⟩ := exists_mem_of_mapM hfound hroot
  obtain ⟨listed, hlisted, -⟩ := except_map_eq_ok.1 hpart
  exact ⟨listed, hlisted⟩

/-- A source is listed below a root, where no pattern leaves it out. -/
theorem exists_listed_of_collect {ε : Type} {walk : Path → Except ε (List Path)}
    {excludes : List Glob.Pattern} {roots files : List Path}
    (h : collect walk excludes roots = .ok files) {p : Path} (hp : p ∈ files) :
    ∃ root ∈ roots, ∃ listed, walk root = .ok listed ∧ p ∈ listed ∧
      admits excludes root p = true := by
  obtain ⟨found, hfound, rfl⟩ := collect_eq_ok_iff.1 h
  obtain ⟨part, hpart, hp⟩ := List.mem_flatten.1 (mem_of_mem_firstSpellings hp)
  obtain ⟨root, hroot, hwalk⟩ := exists_of_mem_mapM hfound hpart
  obtain ⟨listed, hlisted, rfl⟩ := except_map_eq_ok.1 hwalk
  obtain ⟨hp, hadmits⟩ := List.mem_filter.1 hp
  exact ⟨root, hroot, listed, hlisted, hp, hadmits⟩

/-! ## Other patterns -/

section Patterns

variable {ε : Type} {walk : Path → Except ε (List Path)} {excludes excludes' : List Glob.Pattern}
  {roots files : List Path}

/-- What more patterns admit is admitted by fewer. -/
theorem admits_of_subset (hsub : excludes ⊆ excludes') {root p : Path}
    (h : admits excludes' root p = true) : admits excludes root p = true := by
  rw [admits, Bool.and_eq_true_iff, Bool.not_eq_true', List.any_eq_false] at h ⊢
  exact ⟨h.1, fun pattern hpattern => h.2 pattern (hsub hpattern)⟩

/-- **More patterns let no other source through**, but perhaps another spelling of one. -/
theorem collect_of_subset (hsub : excludes ⊆ excludes')
    (h : collect walk excludes roots = .ok files) :
    ∃ files', collect walk excludes' roots = .ok files' ∧
      ∀ p ∈ files', ∃ q ∈ files, Path.same q p = true := by
  obtain ⟨found, hfound, rfl⟩ := collect_eq_ok_iff.1 h
  have hroots : ∀ root ∈ roots, ∃ part,
      (walk root).map (·.filter (admits excludes' root)) = .ok part ∧
        ∀ p ∈ part, p ∈ found.flatten := by
    intro root hroot
    obtain ⟨part, hpart, hwalk⟩ := exists_mem_of_mapM hfound hroot
    obtain ⟨listed, hlisted, rfl⟩ := except_map_eq_ok.1 hwalk
    refine ⟨_, except_map_eq_ok.2 ⟨listed, hlisted, rfl⟩, fun p hp => ?_⟩
    obtain ⟨hp, hadmits⟩ := List.mem_filter.1 hp
    exact List.mem_flatten.2 ⟨_, hpart, List.mem_filter.2 ⟨hp, admits_of_subset hsub hadmits⟩⟩
  obtain ⟨found', hfound', hall⟩ := exists_mapM_eq_ok hroots
  refine ⟨firstSpellings found'.flatten, collect_eq_ok_iff.2 ⟨found', hfound', rfl⟩,
    fun p hp => exists_same_firstSpellings ?_⟩
  obtain ⟨part, hpart, hp⟩ := List.mem_flatten.1 (mem_of_mem_firstSpellings hp)
  exact hall part hpart p hp

/-- **The order of patterns** and how often they are given make no difference. -/
theorem collect_congr (h : ∀ pattern, pattern ∈ excludes ↔ pattern ∈ excludes') :
    collect walk excludes roots = collect walk excludes' roots := by
  have hadmits : admits excludes = admits excludes' := by
    funext root p
    rw [Bool.eq_iff_iff]
    exact ⟨admits_of_subset fun pattern => (h pattern).2,
      admits_of_subset fun pattern => (h pattern).1⟩
  rw [collect, collect, hadmits]

end Patterns

/-! ## A later disk -/

variable {disk later : Disk}

theorem isDir_of_collect {excludes : List Glob.Pattern} {roots files : List Path}
    (h : collect disk.walk excludes roots = .ok files) {root : Path} (hroot : root ∈ roots) :
    disk.isDir root = true := by
  obtain ⟨listed, hlisted⟩ := exists_walk_of_collect h hroot
  obtain ⟨l, hl, -⟩ := walk_eq_ok_iff.1 hlisted
  exact isDir_iff.2 ⟨l, hl⟩

theorem isListed_of_admits {excludes : List Glob.Pattern} {root p : Path} {listed : List Path}
    (h : ∀ p ∈ listed, IsListed disk later p) (hp : p ∈ listed.filter (admits excludes root)) :
    IsListed disk later p ∧ p.extension? = some extension := by
  obtain ⟨hp, hadmits⟩ := List.mem_filter.1 hp
  exact ⟨h p hp, eq_of_beq (Bool.and_eq_true_iff.1 hadmits).1⟩

/-- **The sources on a later disk** are those from before and new files, if what is added to the
roots is new. -/
theorem collect_later (hext : Extends disk later) (hwf : disk.WellFormed)
    (hwfl : later.WellFormed) (hlinks : LinksResolve disk) {excludes : List Glob.Pattern}
    {roots roots' files : List Path} (hroots : roots'.filter disk.isDir = roots)
    (hnew : ∀ root ∈ roots', disk.isDir root = false →
      ∃ l, later.IsDirAt root l ∧ disk.get? l = none)
    (hfits : ∀ root ∈ roots', ∀ l, later.IsDirAt root l → Fits disk later root l)
    (h : collect disk.walk excludes roots = .ok files) :
    ∃ all, collect later.walk excludes roots' = .ok all ∧ all.filter disk.reaches = files ∧
      ∀ p ∈ all, disk.reaches p = false → ∃ l, disk.get? l = none ∧ later.IsFileAt p l := by
  obtain ⟨found, hfound, rfl⟩ := collect_eq_ok_iff.1 h
  rw [← hroots] at hfound
  obtain ⟨all, hall, hfilter, hlisted⟩ := mapM_flatten_filter disk.reaches
    (fun p => IsListed disk later p ∧ p.extension? = some extension)
    (g := fun root => (later.walk root).map (·.filter (admits excludes root))) hfound
    (fun root hroot _ part hpart => by
      obtain ⟨files, hfiles, rfl⟩ := except_map_eq_ok.1 hpart
      obtain ⟨more, hmore, hold, hlisted⟩ :=
        walk_old hext hwf hwfl hlinks (hfits root hroot) hfiles
      refine ⟨_, except_map_eq_ok.2 ⟨more, hmore, rfl⟩, ?_, fun p hp => ?_⟩
      · rw [← hold, List.filter_filter, List.filter_filter]
        simp only [Bool.and_comm]
      · exact isListed_of_admits hlisted hp)
    (fun root hroot hdir => by
      obtain ⟨l, hl, hold⟩ := hnew root hroot hdir
      obtain ⟨more, hmore, hlisted⟩ := walk_new hext hwf hwfl (hfits root hroot) hl hold
      refine ⟨_, except_map_eq_ok.2 ⟨more, hmore, rfl⟩, fun p hp => ⟨?_, ?_⟩⟩
      · exact (hlisted p (List.mem_filter.1 hp).1).1
      · exact isListed_of_admits (fun p hp => (hlisted p hp).2) hp)
  refine ⟨firstSpellings all.flatten, collect_eq_ok_iff.2 ⟨all, hall, rfl⟩, ?_, ?_⟩
  · rw [← hfilter]
    refine firstSpellings_filter fun p hp q hq hsame => ?_
    exact reaches_eq_of_same (hlisted p hp).1.endsInName (hlisted q hq).1.endsInName hsame
  · intro p hp hold
    obtain ⟨hp, hjava⟩ := hlisted p (mem_of_mem_firstSpellings hp)
    exact hp.new hold hjava

end Sources

end JavaFormat
