import JavaFormat.Proofs.Sources
import Mathlib.Data.List.Induction

/-!
# Which sources are selected, and in which order

The sources below some roots are selected in one pass over all that is listed below the roots, one
root after the other (`Sources.listings`).  A path is selected where it is listed first among those
that its root and the patterns admit (`IsFirst`): a file that a pattern leaves out below one root
may still be selected below another one.

* `collect_eq_error_iff`: selecting fails as listing the first root does that cannot be listed.
* `firstSpellings_concat`: one more path is selected unless it is selected already.
* `collect_selects`: what is selected, in which order and spelling, and that the order of the roots
  and how often they are given decide nothing else.
-/

set_option autoImplicit false

namespace JavaFormat

namespace Sources

variable {ε : Type} {walk : Path → Except ε (List Path)} {excludes : List Glob.Pattern}
  {roots roots' files : List Path}

/-! ## What is listed -/

/-- The paths that are listed below some roots, one root after the other, each with its root. -/
def listings (walk : Path → Except ε (List Path)) (roots : List Path) :
    Except ε (List (Path × Path)) :=
  (roots.mapM fun root => (walk root).map (·.map (Prod.mk root))).map List.flatten

/-- **Whether a path below a root may be selected**: its extension is `java`, and no pattern matches
it as it is spelled below the root, or as a whole where it is not below the root. -/
structure IsAdmitted (excludes : List Glob.Pattern) (root path : Path) : Prop where
  /-- It ends with the extension of a source. -/
  java : path.extension? = some "java"
  /-- No pattern leaves it out. -/
  kept : ∀ pattern ∈ excludes, pattern.matches ((path.relativeTo? root).getD path) = false

theorem admits_iff {root path : Path} :
    admits excludes root path = true ↔ IsAdmitted excludes root path := by
  rw [admits, Bool.and_eq_true_iff, beq_iff_eq, Bool.not_eq_true', List.any_eq_false]
  exact ⟨fun h => ⟨h.1, fun pattern hp => Bool.eq_false_iff.2 (h.2 pattern hp)⟩,
    fun h => ⟨h.java, fun pattern hp => Bool.eq_false_iff.1 (h.kept pattern hp)⟩⟩

/-- The paths among those that are listed that their roots and the patterns admit. -/
def admitted (excludes : List Glob.Pattern) (listed : List (Path × Path)) : List Path :=
  (listed.filter fun o => admits excludes o.1 o.2).map Prod.snd

theorem mem_admitted {listed : List (Path × Path)} {p : Path} :
    p ∈ admitted excludes listed ↔ ∃ root, (root, p) ∈ listed ∧ IsAdmitted excludes root p := by
  rw [admitted, List.mem_map]
  constructor
  · rintro ⟨⟨root, path⟩, ho, rfl⟩
    obtain ⟨ho, hadmits⟩ := List.mem_filter.1 ho
    exact ⟨root, ho, admits_iff.1 hadmits⟩
  · rintro ⟨root, ho, hadmitted⟩
    exact ⟨(root, p), List.mem_filter.2 ⟨ho, admits_iff.2 hadmitted⟩, rfl⟩

theorem admitted_concat (listed : List (Path × Path)) (o : Path × Path) :
    admitted excludes (listed ++ [o]) =
      admitted excludes listed ++ if admits excludes o.1 o.2 then [o.2] else [] := by
  rw [admitted, List.filter_append, List.map_append]
  cases h : admits excludes o.1 o.2 <;> simp [h, admitted]

/-- Sources are selected from all that is listed. -/
theorem collect_eq_map_listings (walk : Path → Except ε (List Path))
    (excludes : List Glob.Pattern) (roots : List Path) :
    collect walk excludes roots =
      (listings walk roots).map fun listed => firstSpellings (admitted excludes listed) := by
  have hpart : ∀ root, (walk root).map (·.filter (admits excludes root)) =
      ((walk root).map (·.map (Prod.mk root))).map
        fun part => (part.filter fun o => admits excludes o.1 o.2).map Prod.snd := by
    intro root
    cases walk root with
    | error e => rfl
    | ok paths =>
      refine congrArg Except.ok ?_
      change _ = ((paths.map (Prod.mk root)).filter _).map Prod.snd
      rw [List.filter_map, List.map_map]
      exact (List.map_id _).symm
  simp only [collect, listings, hpart, mapM_map]
  cases roots.mapM fun root => (walk root).map (·.map (Prod.mk root)) with
  | error e => rfl
  | ok parts =>
    refine congrArg (fun ps => Except.ok (firstSpellings ps)) ?_
    rw [admitted, List.filter_flatten, List.map_flatten, List.map_map]
    rfl

theorem mem_listings {listed : List (Path × Path)} (h : listings walk roots = .ok listed)
    {root path : Path} :
    (root, path) ∈ listed ↔ root ∈ roots ∧ ∃ paths, walk root = .ok paths ∧ path ∈ paths := by
  obtain ⟨parts, hparts, rfl⟩ := except_map_eq_ok.1 h
  rw [List.mem_flatten]
  constructor
  · rintro ⟨part, hpart, hmem⟩
    obtain ⟨root', hroot, hwalk⟩ := exists_of_mem_mapM hparts hpart
    obtain ⟨paths, hpaths, rfl⟩ := except_map_eq_ok.1 hwalk
    obtain ⟨path', hpath, heq⟩ := List.mem_map.1 hmem
    cases heq
    exact ⟨hroot, paths, hpaths, hpath⟩
  · rintro ⟨hroot, paths, hpaths, hpath⟩
    refine ⟨_, mem_of_mapM hparts hroot (except_map_eq_ok.2 ⟨paths, hpaths, rfl⟩), ?_⟩
    exact List.mem_map_of_mem hpath

/-! ## How selecting fails -/

/-- **Selecting fails as listing does** for the first root that cannot be listed. -/
theorem collect_eq_error_iff {e : ε} :
    collect walk excludes roots = .error e ↔ ∃ front root back, roots = front ++ root :: back ∧
      (∀ other ∈ front, ∃ paths, walk other = .ok paths) ∧ walk root = .error e := by
  rw [collect_eq_map_listings, listings, except_map_eq_error, except_map_eq_error,
    mapM_eq_error_iff]
  simp only [except_map_eq_error, except_map_eq_ok]
  constructor
  · rintro ⟨front, root, back, heq, hfront, hroot⟩
    refine ⟨front, root, back, heq, fun other hother => ?_, hroot⟩
    obtain ⟨-, paths, hpaths, -⟩ := hfront other hother
    exact ⟨paths, hpaths⟩
  · rintro ⟨front, root, back, heq, hfront, hroot⟩
    refine ⟨front, root, back, heq, fun other hother => ?_, hroot⟩
    obtain ⟨paths, hpaths⟩ := hfront other hother
    exact ⟨_, paths, hpaths, rfl⟩

theorem exists_collect_eq_error_iff :
    (∃ e, collect walk excludes roots = .error e) ↔ ∃ root ∈ roots, ∃ e, walk root = .error e := by
  constructor
  · rintro ⟨e, h⟩
    obtain ⟨front, root, back, rfl, -, hroot⟩ := collect_eq_error_iff.1 h
    exact ⟨root, by simp, e, hroot⟩
  · rintro ⟨root, hroot, e, he⟩
    cases h : collect walk excludes roots with
    | error cause => exact ⟨cause, rfl⟩
    | ok files =>
      obtain ⟨listed, hlisted⟩ := exists_walk_of_collect h hroot
      rw [he] at hlisted
      cases hlisted

/-! ## Where paths are listed first -/

/-- **Where a path is selected**: it may be selected there, and nowhere before the same path. -/
def IsFirst (excludes : List Glob.Pattern) (listed : List (Path × Path)) (i : Nat) : Prop :=
  ∃ root path, listed[i]? = some (root, path) ∧ IsAdmitted excludes root path ∧
    ∀ j < i, ∀ root' path', listed[j]? = some (root', path') →
      IsAdmitted excludes root' path' → Path.same path' path = false

/-- What comes later does not matter. -/
theorem isFirst_append {listed more : List (Path × Path)} {i : Nat} (h : i < listed.length) :
    IsFirst excludes (listed ++ more) i ↔ IsFirst excludes listed i := by
  have hat : ∀ j, j ≤ i → (listed ++ more)[j]? = listed[j]? := fun j hj =>
    List.getElem?_append_left (Nat.lt_of_le_of_lt hj h)
  rw [IsFirst, IsFirst, hat i (Nat.le_refl i)]
  refine exists_congr fun root => exists_congr fun path => and_congr_right fun _ =>
    and_congr_right fun _ => forall_congr' fun j => forall_congr' fun hj => ?_
  rw [hat j (Nat.le_of_lt hj)]

/-- A path that is listed last is selected there unless it may be selected before. -/
theorem isFirst_concat {listed : List (Path × Path)} {o : Path × Path} :
    IsFirst excludes (listed ++ [o]) listed.length ↔ IsAdmitted excludes o.1 o.2 ∧
      ∀ other ∈ listed, IsAdmitted excludes other.1 other.2 → Path.same other.2 o.2 = false := by
  rw [IsFirst]
  simp only [List.getElem?_concat_length, Option.some.injEq]
  constructor
  · rintro ⟨_, _, heq, hadmitted, hfirst⟩
    cases heq
    refine ⟨hadmitted, fun other hother => ?_⟩
    obtain ⟨j, hj, rfl⟩ := List.getElem_of_mem hother
    exact hfirst j hj _ _ (by rw [List.getElem?_append_left hj, List.getElem?_eq_getElem hj])
  · rintro ⟨hadmitted, hfirst⟩
    refine ⟨o.1, o.2, rfl, hadmitted, fun j hj root' path' hat => ?_⟩
    rw [List.getElem?_append_left hj] at hat
    exact hfirst _ (List.mem_of_getElem? hat)

/-- **One more path is selected** unless it is selected already. -/
theorem firstSpellings_concat (ps : List Path) (p : Path) :
    firstSpellings (ps ++ [p]) =
      firstSpellings ps ++ if ps.any (Path.same · p) then [] else [p] := by
  induction ps with
  | nil => rfl
  | cons q ps ih =>
    rw [List.cons_append, firstSpellings, firstSpellings, ih, List.filter_append, List.any_cons]
    cases hq : Path.same q p with
    | true => cases ps.any (Path.same · p) <;> simp [hq]
    | false => cases ps.any (Path.same · p) <;> simp [hq]

/-- **Whether paths are selected where they are listed first**: they stand in `listed` at the places
of which each is such, from left to right. -/
structure AreFirst (excludes : List Glob.Pattern) (listed : List (Path × Path))
    (places : List Nat) (files : List Path) : Prop where
  /-- The places go from left to right. -/
  sorted : places.Pairwise (· < ·)
  /-- They are those where a path is listed first. -/
  mem_iff : ∀ i, i ∈ places ↔ IsFirst excludes listed i
  /-- The paths are those that stand there. -/
  spelled : files.map some = places.map fun i => (listed[i]?).map Prod.snd

namespace AreFirst

variable {listed : List (Path × Path)} {places : List Nat} {o : Path × Path}

theorem lt_length (h : AreFirst excludes listed places files) {i : Nat} (hi : i ∈ places) :
    i < listed.length := by
  obtain ⟨_, _, hat, -⟩ := (h.mem_iff i).1 hi
  exact (List.getElem?_eq_some_iff.1 hat).1

theorem spelled_append (h : AreFirst excludes listed places files) (more : List (Path × Path)) :
    files.map some = places.map fun i => ((listed ++ more)[i]?).map Prod.snd :=
  h.spelled.trans (List.map_congr_left fun i hi => by
    rw [List.getElem?_append_left (h.lt_length hi)])

/-- The places stay what they are if one more path is listed, but perhaps for its own. -/
theorem mem_iff_concat (h : AreFirst excludes listed places files) {i : Nat}
    (hi : i ≠ listed.length) : i ∈ places ↔ IsFirst excludes (listed ++ [o]) i := by
  rcases Nat.lt_or_gt_of_ne hi with hi | hi
  · rw [h.mem_iff, isFirst_append hi]
  · refine iff_of_false (fun hmem => absurd (h.lt_length hmem) (by omega)) ?_
    rintro ⟨_, _, hat, -⟩
    have hlt := (List.getElem?_eq_some_iff.1 hat).1
    rw [List.length_append, List.length_singleton] at hlt
    omega

theorem concat_first (h : AreFirst excludes listed places files)
    (hfirst : IsFirst excludes (listed ++ [o]) listed.length) :
    AreFirst excludes (listed ++ [o]) (places ++ [listed.length]) (files ++ [o.2]) where
  sorted := List.pairwise_append.2 ⟨h.sorted, List.pairwise_singleton _ _, fun i hi j hj =>
    List.mem_singleton.1 hj ▸ h.lt_length hi⟩
  mem_iff := fun i => by
    by_cases hi : i = listed.length
    · rw [hi]
      exact iff_of_true (by simp) hfirst
    · rw [List.mem_append, List.mem_singleton, ← h.mem_iff_concat hi]
      exact or_iff_left hi
  spelled := by
    rw [List.map_append, List.map_append, h.spelled_append [o]]
    simp

theorem concat_other (h : AreFirst excludes listed places files)
    (hother : ¬IsFirst excludes (listed ++ [o]) listed.length) :
    AreFirst excludes (listed ++ [o]) places files where
  sorted := h.sorted
  mem_iff := fun i => by
    by_cases hi : i = listed.length
    · rw [hi]
      exact iff_of_false (fun hmem => absurd (h.lt_length hmem) (Nat.lt_irrefl _)) hother
    · exact h.mem_iff_concat hi
  spelled := h.spelled_append [o]

end AreFirst

/-- The last path that is listed is selected just if it is listed there first. -/
theorem firstSpellings_admitted_concat (listed : List (Path × Path)) (o : Path × Path)
    [Decidable (IsFirst excludes (listed ++ [o]) listed.length)] :
    firstSpellings (admitted excludes (listed ++ [o])) =
      firstSpellings (admitted excludes listed) ++
        if IsFirst excludes (listed ++ [o]) listed.length then [o.2] else [] := by
  rw [admitted_concat]
  by_cases hadmits : admits excludes o.1 o.2 = true
  · have hiff : IsFirst excludes (listed ++ [o]) listed.length ↔
        (admitted excludes listed).any (Path.same · o.2) = false := by
      rw [isFirst_concat, List.any_eq_false]
      constructor
      · rintro ⟨-, hnew⟩ q hq
        obtain ⟨root, ho, hadmitted⟩ := mem_admitted.1 hq
        exact Bool.eq_false_iff.1 (hnew (root, q) ho hadmitted)
      · intro hnew
        refine ⟨admits_iff.1 hadmits, fun other hother hadmitted => Bool.eq_false_iff.2 ?_⟩
        exact hnew other.2 (mem_admitted.2 ⟨other.1, hother, hadmitted⟩)
    rw [if_pos hadmits, firstSpellings_concat]
    simp only [hiff]
    cases (admitted excludes listed).any (Path.same · o.2) <;> rfl
  · rw [if_neg hadmits, if_neg fun h => hadmits (admits_iff.2 (isFirst_concat.1 h).1),
      List.append_nil, List.append_nil]

/-- **Paths are selected where they are listed first.** -/
theorem exists_areFirst (excludes : List Glob.Pattern) (listed : List (Path × Path)) :
    ∃ places, AreFirst excludes listed places (firstSpellings (admitted excludes listed)) := by
  classical
  induction listed using List.reverseRecOn with
  | nil => exact ⟨[], .nil, fun i => by simp [IsFirst], rfl⟩
  | append_singleton listed o ih =>
    obtain ⟨places, h⟩ := ih
    rw [firstSpellings_admitted_concat]
    split
    · rename_i hfirst
      exact ⟨_, h.concat_first hfirst⟩
    · rename_i hother
      rw [List.append_nil]
      exact ⟨_, h.concat_other hother⟩

/-! ## What is selected -/

/-- **What it is to select the sources below some roots.** -/
structure IsSelection (walk : Path → Except ε (List Path)) (excludes : List Glob.Pattern)
    (roots files : List Path) : Prop where
  /-- A path is selected, in some spelling, just if it is listed below a root that admits it. -/
  same_iff : ∀ p, (∃ q ∈ files, Path.same q p = true) ↔ ∃ root ∈ roots, ∃ paths,
    walk root = .ok paths ∧ ∃ q ∈ paths, Path.same q p = true ∧ IsAdmitted excludes root q
  /-- No path is selected twice. -/
  distinct : files.Pairwise fun p q => Path.same p q = false
  /-- The paths stand in the order and the spelling in which they are listed first. -/
  first : ∃ listed places, listings walk roots = .ok listed ∧
    AreFirst excludes listed places files

theorem isSelection_of_collect (h : collect walk excludes roots = .ok files) :
    IsSelection walk excludes roots files := by
  rw [collect_eq_map_listings] at h
  obtain ⟨listed, hlisted, rfl⟩ := except_map_eq_ok.1 h
  refine ⟨fun p => ⟨?_, ?_⟩, pairwise_firstSpellings _, ?_⟩
  · rintro ⟨q, hq, hsame⟩
    obtain ⟨root, ho, hadmitted⟩ := mem_admitted.1 (mem_of_mem_firstSpellings hq)
    obtain ⟨hroot, paths, hpaths, hpath⟩ := (mem_listings hlisted).1 ho
    exact ⟨root, hroot, paths, hpaths, q, hpath, hsame, hadmitted⟩
  · rintro ⟨root, hroot, paths, hpaths, q, hq, hsame, hadmitted⟩
    have ho := (mem_listings hlisted).2 ⟨hroot, paths, hpaths, hq⟩
    obtain ⟨first, hfirst, hsame'⟩ :=
      exists_same_firstSpellings (mem_admitted.2 ⟨root, ho, hadmitted⟩)
    exact ⟨first, hfirst, beq_iff_eq.2 ((eq_of_beq hsame').trans (eq_of_beq hsame))⟩
  · obtain ⟨places, hplaces⟩ := exists_areFirst excludes listed
    exact ⟨listed, places, hlisted, hplaces⟩

/-- **The sources below some roots** are selected from all that is listed, or nothing is: selecting
fails just if a root cannot be listed, as listing the first such root fails.  With other roots that
are the same but for their order and number it fails or does not as well, and selects the same
paths, up to their spelling and order. -/
theorem collect_selects (walk : Path → Except ε (List Path)) (excludes : List Glob.Pattern)
    (hroots : ∀ root, root ∈ roots' ↔ root ∈ roots) :
    (∀ e, collect walk excludes roots = .error e ↔ ∃ front root back,
      roots = front ++ root :: back ∧ (∀ other ∈ front, ∃ paths, walk other = .ok paths) ∧
        walk root = .error e) ∧
    (∀ files, collect walk excludes roots = .ok files →
      IsSelection walk excludes roots files) ∧
    ((∃ e, collect walk excludes roots' = .error e) ↔
      ∃ e, collect walk excludes roots = .error e) ∧
    ∀ files files', collect walk excludes roots = .ok files →
      collect walk excludes roots' = .ok files' → ∀ p,
        (∃ q ∈ files', Path.same q p = true) ↔ ∃ q ∈ files, Path.same q p = true := by
  refine ⟨fun e => collect_eq_error_iff, fun files h => isSelection_of_collect h, ?_, ?_⟩
  · rw [exists_collect_eq_error_iff, exists_collect_eq_error_iff]
    simp only [hroots]
  · intro files files' h h' p
    rw [(isSelection_of_collect h).same_iff, (isSelection_of_collect h').same_iff]
    simp only [hroots]

/-- What is listed below nested roots, one of which is spelled in two ways. -/
def nestedWalk (root : Path) : Except String (List Path) :=
  if root = "src" then .ok ["src/A.java", "src/gen/G.java", "src/notes.txt"]
  else if root = "src//gen" then .ok ["src//gen/G.java"]
  else if root = "src/gen" then .ok ["src/gen/G.java"]
  else .error root

/-- The pattern `gen/*`. -/
def nestedPattern : Glob.Pattern := ⟨"gen/".toList.map .char ++ [.anyText false]⟩

/-- A file that the pattern leaves out below the outer root is selected below the inner one, in the
spelling that is listed first. -/
theorem collect_selects_nested :
    Glob.Pattern.ofText "gen/*" = .ok nestedPattern ∧
    (∀ root, root ∈ ["src/gen", "src", "src//gen", "src"] ↔
      root ∈ ["src", "src//gen", "src/gen"]) ∧
    collect nestedWalk [nestedPattern] ["src", "src//gen", "src/gen"] =
      .ok ["src/A.java", "src//gen/G.java"] ∧
    collect nestedWalk [nestedPattern] ["src/gen", "src", "src//gen", "src"] =
      .ok ["src/gen/G.java", "src/A.java"] ∧
    IsSelection nestedWalk [nestedPattern] ["src", "src//gen", "src/gen"]
      ["src/A.java", "src//gen/G.java"] ∧
    ∀ p, (∃ q ∈ ["src/gen/G.java", "src/A.java"], Path.same q p = true) ↔
      ∃ q ∈ ["src/A.java", "src//gen/G.java"], Path.same q p = true := by
  have hroots : ∀ root, root ∈ ["src/gen", "src", "src//gen", "src"] ↔
      root ∈ ["src", "src//gen", "src/gen"] := by
    intro root
    simp only [List.mem_cons, List.not_mem_nil]
    grind
  have hfiles : collect nestedWalk [nestedPattern] ["src", "src//gen", "src/gen"] =
      .ok ["src/A.java", "src//gen/G.java"] := rfl
  have hfiles' : collect nestedWalk [nestedPattern] ["src/gen", "src", "src//gen", "src"] =
      .ok ["src/gen/G.java", "src/A.java"] := rfl
  obtain ⟨-, hselects, -, hsame⟩ := collect_selects nestedWalk [nestedPattern] hroots
  exact ⟨rfl, hroots, hfiles, hfiles', hselects _ hfiles, hsame _ _ hfiles hfiles'⟩

end Sources

end JavaFormat
