import JavaFormat.Proofs.Disk.Steps

/-!
# How a walk goes on

What one step down does (`walkSteps_down_none` and the others, one for each kind of entry), and what
follows for whole walks.

* `walkSteps_append`: a walk along some steps and others goes on where the first ones end.
* `walkSteps_links`: the number of links left decides nothing but whether there are too many, so
  that a walk that has enough of them follows a certain number (`exists_takesLinks_iff`).
* `walkSteps_unlessSlash_iff`: following a link unless a slash asks for a directory is following it,
  where none asks.
* `walkSteps_of_kept`: keeping a link at the end is following it, where the walk ends at none.
* `walkSteps_filter_append`: steps that stay where they are do not count in front of others.
* `resolve_eq_ok_iff`: a path leads somewhere if it can be opened and its steps lead there.
-/

set_option autoImplicit false

namespace JavaFormat

namespace Disk

/-! ## Steps down -/

section Down

variable {disk : Disk} {last : LastLink} {links : Nat} {at_ : Location} {slash : Bool}
  {name : String} {rest : List Step}

theorem walkSteps_down_none
    (hshort : ¬(nameLimit < name.utf8ByteSize ∧ (rest ≠ [] ∨ last.limitsName slash)))
    (hnone : disk.get? (at_ ++ [name]) = none) :
    walkSteps disk last links at_ slash (.down name :: rest) =
      if rest = [] then .ok ⟨.vacant at_ name, slash⟩ else .error .notFound := by
  rw [walkSteps, if_neg hshort, hnone]

theorem walkSteps_down_dir
    (hshort : ¬(nameLimit < name.utf8ByteSize ∧ (rest ≠ [] ∨ last.limitsName slash)))
    (hdir : disk.get? (at_ ++ [name]) = some .dir) :
    walkSteps disk last links at_ slash (.down name :: rest) =
      walkSteps disk last links (at_ ++ [name]) slash rest := by
  rw [walkSteps, if_neg hshort, hdir]

theorem walkSteps_down_file {bytes : List UInt8}
    (hshort : ¬(nameLimit < name.utf8ByteSize ∧ (rest ≠ [] ∨ last.limitsName slash)))
    (hfile : disk.get? (at_ ++ [name]) = some (.file bytes)) :
    walkSteps disk last links at_ slash (.down name :: rest) =
      if rest = [] then .ok ⟨.entry (at_ ++ [name]) (.file bytes), slash⟩
      else .error .notDirectory := by
  rw [walkSteps, if_neg hshort, hfile]

theorem walkSteps_down_kept {target : Path}
    (hshort : ¬(nameLimit < name.utf8ByteSize ∧ (rest ≠ [] ∨ last.limitsName slash)))
    (hlink : disk.get? (at_ ++ [name]) = some (.link target))
    (hkept : rest = [] ∧ ¬last.isFollowed slash) :
    walkSteps disk last links at_ slash (.down name :: rest) =
      .ok ⟨.entry (at_ ++ [name]) (.link target), slash⟩ := by
  rw [walkSteps, if_neg hshort, hlink]
  exact if_pos hkept

theorem walkSteps_down_zero {target : Path}
    (hshort : ¬(nameLimit < name.utf8ByteSize ∧ (rest ≠ [] ∨ last.limitsName slash)))
    (hlink : disk.get? (at_ ++ [name]) = some (.link target))
    (hkept : ¬(rest = [] ∧ ¬last.isFollowed slash)) :
    walkSteps disk last 0 at_ slash (.down name :: rest) = .error .tooManyLinks := by
  rw [walkSteps, if_neg hshort, hlink]
  exact if_neg hkept

theorem walkSteps_down_link {target : Path}
    (hshort : ¬(nameLimit < name.utf8ByteSize ∧ (rest ≠ [] ∨ last.limitsName slash)))
    (hlink : disk.get? (at_ ++ [name]) = some (.link target))
    (hkept : ¬(rest = [] ∧ ¬last.isFollowed slash)) :
    walkSteps disk last (links + 1) at_ slash (.down name :: rest) =
      walkSteps disk last links at_ (slash || (rest.isEmpty && target.endsWithSlash))
        (stepsOf target ++ rest) := by
  rw [walkSteps, if_neg hshort, hlink]
  exact if_neg hkept

/-- Where the last name of a path is limited, so is every name. -/
theorem not_long {last last' : LastLink} {rest' : List Step}
    {slash slash' : Bool} (hl : last.limitsName slash = true)
    (h : ¬(nameLimit < name.utf8ByteSize ∧ (rest ≠ [] ∨ last.limitsName slash))) :
    ¬(nameLimit < name.utf8ByteSize ∧ (rest' ≠ [] ∨ last'.limitsName slash')) :=
  fun hlong => h ⟨hlong.1, Or.inr hl⟩

/-- A name that an entry may have is not too long. -/
theorem not_long_of_le (hle : name.utf8ByteSize ≤ nameLimit) :
    ¬(nameLimit < name.utf8ByteSize ∧ (rest ≠ [] ∨ last.limitsName slash)) :=
  fun hlong => Nat.not_lt.2 hle hlong.1

end Down

/-! ## Further steps -/

/-- What becomes of a walk that has further steps to take where it ended, with so many links
left. -/
def goOn (disk : Disk) (links : Nat) (slash : Bool) (rest : List Step) :
    Except IoError Destination → Except IoError Destination
  | .error e => .error e
  | .ok ⟨.vacant _ _, _⟩ => .error .notFound
  | .ok ⟨.entry l .dir, _⟩ => walkSteps disk .followed links l slash rest
  | .ok ⟨.entry _ _, _⟩ => .error .notDirectory

/-- **A walk along some steps and others** goes on where the walk along the first ones ends. -/
theorem walkSteps_append (disk : Disk) (links : Nat) (at_ : Location) (slash : Bool)
    (steps : List Step) :
    ∃ left ≤ links, ∀ (slash' : Bool) (rest : List Step), rest ≠ [] →
      walkSteps disk .followed links at_ slash' (steps ++ rest) =
        goOn disk left slash' rest (walkSteps disk .followed links at_ slash steps) := by
  fun_induction walkSteps disk .followed links at_ slash steps with
  | case1 links at_ slash =>
    exact ⟨links, Nat.le_refl links, fun slash' rest _ => rfl⟩
  | case2 links at_ slash steps ih =>
    obtain ⟨left, hle, hleft⟩ := ih
    refine ⟨left, hle, fun slash' rest hrest => ?_⟩
    rw [List.cons_append, walkSteps, hleft slash' rest hrest]
  | case3 links at_ slash steps ih =>
    obtain ⟨left, hle, hleft⟩ := ih
    refine ⟨left, hle, fun slash' rest hrest => ?_⟩
    rw [List.cons_append, walkSteps, hleft slash' rest hrest]
  | case4 links at_ slash steps ih =>
    obtain ⟨left, hle, hleft⟩ := ih
    refine ⟨left, hle, fun slash' rest hrest => ?_⟩
    rw [List.cons_append, walkSteps, hleft slash' rest hrest]
  | case5 links at_ slash name steps hlong =>
    refine ⟨links, Nat.le_refl links, fun slash' rest hrest => ?_⟩
    rw [List.cons_append, walkSteps, if_pos ⟨hlong.1, Or.inl (by simp [hrest])⟩]
    rfl
  | case6 links at_ slash name hnone hshort =>
    refine ⟨links, Nat.le_refl links, fun slash' rest hrest => ?_⟩
    rw [List.cons_append, walkSteps, if_neg (not_long rfl hshort), hnone]
    simp [goOn, hrest]
  | case7 links at_ slash name steps hshort hnone hsteps =>
    refine ⟨links, Nat.le_refl links, fun slash' rest hrest => ?_⟩
    rw [List.cons_append, walkSteps, if_neg (not_long rfl hshort), hnone]
    simp [goOn, hrest]
  | case8 links at_ slash name steps hshort hdir ih =>
    obtain ⟨left, hle, hleft⟩ := ih
    refine ⟨left, hle, fun slash' rest hrest => ?_⟩
    rw [List.cons_append, walkSteps_down_dir (not_long rfl hshort) hdir]
    exact hleft slash' rest hrest
  | case9 links at_ slash name bytes hfile hshort =>
    refine ⟨links, Nat.le_refl links, fun slash' rest hrest => ?_⟩
    rw [List.cons_append, walkSteps, if_neg (not_long rfl hshort), hfile]
    simp [goOn, hrest]
  | case10 links at_ slash name steps hshort bytes hfile hsteps =>
    refine ⟨links, Nat.le_refl links, fun slash' rest hrest => ?_⟩
    rw [List.cons_append, walkSteps, if_neg (not_long rfl hshort), hfile]
    simp [goOn, hrest]
  | case11 links at_ slash name steps hshort target hlink hkept =>
    exact absurd rfl hkept.2
  | case12 at_ slash name steps hshort target hlink hkept =>
    refine ⟨0, Nat.le_refl 0, fun slash' rest hrest => ?_⟩
    rw [List.cons_append, walkSteps_down_zero (not_long rfl hshort) hlink fun hkept => hkept.2 rfl]
    rfl
  | case13 at_ slash name steps hshort target hlink hkept links ih =>
    obtain ⟨left, hle, hleft⟩ := ih
    refine ⟨left, Nat.le_succ_of_le hle, fun slash' rest hrest => ?_⟩
    have hempty : (steps ++ rest).isEmpty = false := by simp [hrest]
    rw [List.cons_append, walkSteps_down_link (not_long rfl hshort) hlink fun hkept => hkept.2 rfl,
      hempty, Bool.false_and, Bool.or_false, ← List.append_assoc]
    exact hleft slash' rest hrest

/-- With more links left a walk ends as it does, unless it had too few. -/
theorem walkSteps_links (disk : Disk) (last : LastLink) (links : Nat) (at_ : Location)
    (slash : Bool) (steps : List Step) {more : Nat} (h : links ≤ more) :
    walkSteps disk last links at_ slash steps = .error .tooManyLinks ∨
      walkSteps disk last links at_ slash steps = walkSteps disk last more at_ slash steps := by
  fun_induction walkSteps disk last links at_ slash steps generalizing more with
  | case1 => exact Or.inr (by rw [walkSteps])
  | case2 links at_ slash rest ih =>
    rw [walkSteps.eq_2]
    exact ih h
  | case3 links at_ slash rest ih =>
    rw [walkSteps.eq_3]
    exact ih h
  | case4 links at_ slash rest ih =>
    rw [walkSteps.eq_4]
    exact ih h
  | case5 links at_ slash name rest hlong => exact Or.inr (by rw [walkSteps, if_pos hlong])
  | case6 links at_ slash name hnone hshort =>
    exact Or.inr (by rw [walkSteps_down_none hshort hnone, if_pos rfl])
  | case7 links at_ slash name rest hshort hnone hrest =>
    exact Or.inr (by rw [walkSteps_down_none hshort hnone, if_neg hrest])
  | case8 links at_ slash name rest hshort hdir ih =>
    rw [walkSteps_down_dir hshort hdir]
    exact ih h
  | case9 links at_ slash name bytes hfile hshort =>
    exact Or.inr (by rw [walkSteps_down_file hshort hfile, if_pos rfl])
  | case10 links at_ slash name rest hshort bytes hfile hrest =>
    exact Or.inr (by rw [walkSteps_down_file hshort hfile, if_neg hrest])
  | case11 links at_ slash name rest hshort target hlink hkept =>
    exact Or.inr (by rw [walkSteps_down_kept hshort hlink hkept])
  | case12 => exact Or.inl rfl
  | case13 at_ slash name rest hshort target hlink hkept links ih =>
    obtain ⟨more, rfl⟩ : ∃ m, more = m + 1 := ⟨more - 1, by omega⟩
    rw [walkSteps_down_link hshort hlink hkept]
    exact ih (Nat.le_of_succ_le_succ h)

/-- **How many links a walk follows**: with fewer of them left there are too many. -/
def TakesLinks (disk : Disk) (at_ : Location) (steps : List Step) (n : Nat) : Prop :=
  ∀ links, walkSteps disk .followed links at_ false steps = .error .tooManyLinks ↔ links < n

/-- A walk has enough links left if it follows no more. -/
theorem exists_takesLinks_iff {disk : Disk} {links : Nat} {at_ : Location} {steps : List Step} :
    (∃ n ≤ links, TakesLinks disk at_ steps n) ↔
      walkSteps disk .followed links at_ false steps ≠ .error .tooManyLinks := by
  have hmore : ∀ {fewer more : Nat}, fewer ≤ more →
      walkSteps disk .followed more at_ false steps = .error .tooManyLinks →
        walkSteps disk .followed fewer at_ false steps = .error .tooManyLinks :=
    fun hle h => (walkSteps_links disk .followed _ at_ false steps hle).elim id (·.trans h)
  refine ⟨fun ⟨n, hle, hn⟩ h => Nat.not_lt.2 hle ((hn links).1 h), fun h => ?_⟩
  induction links with
  | zero =>
    exact ⟨0, Nat.le_refl 0, fun links =>
      iff_of_false (fun hmany => h (hmore (Nat.zero_le links) hmany)) (Nat.not_lt_zero links)⟩
  | succ links ih =>
    by_cases hfewer : walkSteps disk .followed links at_ false steps = .error .tooManyLinks
    · refine ⟨links + 1, Nat.le_refl _, fun others => ⟨fun hmany => ?_, fun hlt => ?_⟩⟩
      · exact Nat.not_le.1 fun hle => h (hmore hle hmany)
      · exact hmore (Nat.le_of_lt_succ hlt) hfewer
    · obtain ⟨n, hle, hn⟩ := ih hfewer
      exact ⟨n, Nat.le_succ_of_le hle, hn⟩

/-! ## Slashes -/

/-- A slash at the end of the path is not forgotten on the way. -/
theorem slash_of_walkSteps {disk : Disk} {last : LastLink} {links : Nat} {at_ : Location}
    {slash : Bool} {steps : List Step} {found : Destination}
    (h : walkSteps disk last links at_ slash steps = .ok found) (hs : slash = true) :
    found.slash = true := by
  fun_induction walkSteps disk last links at_ slash steps with
  | case1 =>
    cases h
    exact hs
  | case2 links at_ slash rest ih => exact ih h hs
  | case3 links at_ slash rest ih => exact ih h hs
  | case4 links at_ slash rest ih => exact ih h hs
  | case5 => cases h
  | case6 =>
    cases h
    exact hs
  | case7 => cases h
  | case8 links at_ slash name rest hshort hdir ih => exact ih h hs
  | case9 =>
    cases h
    exact hs
  | case10 => cases h
  | case11 =>
    cases h
    exact hs
  | case12 => cases h
  | case13 at_ slash name rest hshort target hlink hkept links ih =>
    exact ih h (by rw [hs, Bool.true_or])

/-- **Where no slash asks for a directory**, a link at the end is followed in either way. -/
theorem walkSteps_unlessSlash_iff {disk : Disk} {links : Nat} {at_ : Location} {slash : Bool}
    {steps : List Step} {place : Place} :
    walkSteps disk .followedUnlessSlash links at_ slash steps = .ok ⟨place, false⟩ ↔
      walkSteps disk .followed links at_ slash steps = .ok ⟨place, false⟩ := by
  by_cases hs : slash = true
  · exact ⟨fun h => absurd (slash_of_walkSteps h hs) nofun,
      fun h => absurd (slash_of_walkSteps h hs) nofun⟩
  rw [Bool.not_eq_true] at hs
  fun_induction walkSteps disk .followedUnlessSlash links at_ slash steps with
  | case1 links at_ slash => rw [walkSteps]
  | case2 links at_ slash rest ih =>
    rw [walkSteps]
    exact ih hs
  | case3 links at_ slash rest ih =>
    rw [walkSteps]
    exact ih hs
  | case4 links at_ slash rest ih =>
    rw [walkSteps]
    exact ih hs
  | case5 links at_ slash name rest hlong =>
    rw [walkSteps, if_pos ⟨hlong.1, Or.inr rfl⟩]
  | case6 links at_ slash name hnone hshort =>
    subst hs
    rw [walkSteps_down_none (not_long rfl hshort) hnone, if_pos rfl]
  | case7 links at_ slash name rest hshort hnone hrest =>
    subst hs
    rw [walkSteps_down_none (not_long rfl hshort) hnone, if_neg hrest]
  | case8 links at_ slash name rest hshort hdir ih =>
    subst hs
    rw [walkSteps_down_dir (not_long rfl hshort) hdir]
    exact ih rfl
  | case9 links at_ slash name bytes hfile hshort =>
    subst hs
    rw [walkSteps_down_file (not_long rfl hshort) hfile, if_pos rfl]
  | case10 links at_ slash name rest hshort bytes hfile hrest =>
    subst hs
    rw [walkSteps_down_file (not_long rfl hshort) hfile, if_neg hrest]
  | case11 links at_ slash name rest hshort target hlink hkept =>
    subst hs
    exact absurd rfl hkept.2
  | case12 at_ slash name rest hshort target hlink hkept =>
    subst hs
    rw [walkSteps_down_zero (not_long rfl hshort) hlink fun hkept => hkept.2 rfl]
  | case13 at_ slash name rest hshort target hlink hkept links ih =>
    subst hs
    rw [walkSteps_down_link (not_long rfl hshort) hlink fun hkept => hkept.2 rfl]
    cases hsl : rest.isEmpty && target.endsWithSlash with
    | false =>
      rw [hsl] at ih
      exact ih rfl
    | true =>
      exact ⟨fun h => absurd (slash_of_walkSteps h rfl) nofun,
        fun h => absurd (slash_of_walkSteps h rfl) nofun⟩

/-- **Where a walk does not end at a link**, it does not matter that one at the end is kept. -/
theorem walkSteps_of_kept {disk : Disk} {links : Nat} {at_ : Location} {slash : Bool}
    {steps : List Step} {result : Except IoError Destination}
    (hresult : ∀ l target slash', result ≠ .ok ⟨.entry l (.link target), slash'⟩)
    (h : walkSteps disk .kept links at_ slash steps = result) :
    walkSteps disk .followed links at_ slash steps = result := by
  fun_induction walkSteps disk .kept links at_ slash steps with
  | case1 links at_ slash =>
    rw [walkSteps]
    exact h
  | case2 links at_ slash rest ih =>
    rw [walkSteps]
    exact ih h
  | case3 links at_ slash rest ih =>
    rw [walkSteps]
    exact ih h
  | case4 links at_ slash rest ih =>
    rw [walkSteps]
    exact ih h
  | case5 links at_ slash name rest hlong =>
    rw [walkSteps, if_pos ⟨hlong.1, Or.inr rfl⟩]
    exact h
  | case6 links at_ slash name hnone hshort =>
    rw [walkSteps_down_none (not_long rfl hshort) hnone, if_pos rfl]
    exact h
  | case7 links at_ slash name rest hshort hnone hrest =>
    rw [walkSteps_down_none (not_long rfl hshort) hnone, if_neg hrest]
    exact h
  | case8 links at_ slash name rest hshort hdir ih =>
    rw [walkSteps_down_dir (not_long rfl hshort) hdir]
    exact ih h
  | case9 links at_ slash name bytes hfile hshort =>
    rw [walkSteps_down_file (not_long rfl hshort) hfile, if_pos rfl]
    exact h
  | case10 links at_ slash name rest hshort bytes hfile hrest =>
    rw [walkSteps_down_file (not_long rfl hshort) hfile, if_neg hrest]
    exact h
  | case11 links at_ slash name rest hshort target hlink hkept =>
    exact absurd h.symm (hresult _ _ _)
  | case12 at_ slash name rest hshort target hlink hkept =>
    rw [walkSteps_down_zero (not_long rfl hshort) hlink fun hkept => hkept.2 rfl]
    exact h
  | case13 at_ slash name rest hshort target hlink hkept links ih =>
    rw [walkSteps_down_link (not_long rfl hshort) hlink fun hkept => hkept.2 rfl]
    exact ih h

/-! ## Steps that stay -/

theorem walkSteps_down_congr {disk : Disk} {last : LastLink} {links : Nat} {at_ : Location}
    {slash : Bool} {name : String} {rest rest' : List Step} (hne : rest ≠ []) (hne' : rest' ≠ [])
    (hdir : walkSteps disk last links (at_ ++ [name]) slash rest =
      walkSteps disk last links (at_ ++ [name]) slash rest')
    (hlink : ∀ fewer target, fewer < links →
      walkSteps disk last fewer at_ slash (stepsOf target ++ rest) =
        walkSteps disk last fewer at_ slash (stepsOf target ++ rest')) :
    walkSteps disk last links at_ slash (.down name :: rest) =
      walkSteps disk last links at_ slash (.down name :: rest') := by
  have hempty : rest.isEmpty = false := by simpa using hne
  have hempty' : rest'.isEmpty = false := by simpa using hne'
  rw [walkSteps, walkSteps, hdir]
  simp only [hne, hne', hempty, hempty', ne_eq, not_false_eq_true, true_or, false_and, if_false,
    Bool.false_and, Bool.or_false]
  cases links with
  | zero => rfl
  | succ fewer => simp only [hlink fewer _ (Nat.lt_succ_self fewer)]

/-- **Steps that stay do not count** in front of others. -/
theorem walkSteps_filter_append (disk : Disk) (last : LastLink) (links : Nat) (at_ : Location)
    (slash : Bool) (steps : List Step) {rest : List Step} (hrest : rest ≠ []) :
    walkSteps disk last links at_ slash (steps.filter (· ≠ .stay) ++ rest) =
      walkSteps disk last links at_ slash (steps ++ rest) := by
  induction links using Nat.strongRecOn generalizing at_ slash steps with
  | ind links ihl =>
    induction steps generalizing at_ slash with
    | nil => rfl
    | cons step steps ih =>
      cases step with
      | root => simpa [walkSteps] using ih [] slash
      | stay => simpa [walkSteps] using ih at_ slash
      | up => simpa [walkSteps] using ih at_.dropLast slash
      | down m =>
        rw [List.filter_cons_of_pos (by simp), List.cons_append, List.cons_append]
        refine walkSteps_down_congr (by simp [hrest]) (by simp [hrest]) (ih _ _)
          fun fewer target hlt => ?_
        -- the target's own steps that stay count as little as those of the path
        rw [← List.append_assoc, ← List.append_assoc, ← ihl fewer hlt, List.filter_append,
          List.filter_filter, ← ihl fewer hlt at_ slash (stepsOf target ++ steps),
          List.filter_append]
        simp only [Bool.and_self]

/-- Steps that stay lead to where one stands. -/
theorem walkSteps_stays (disk : Disk) (last : LastLink) (links : Nat) (at_ : Location)
    (slash : Bool) {steps : List Step} (h : ∀ step ∈ steps, step = .stay) :
    walkSteps disk last links at_ slash steps = .ok ⟨.entry at_ .dir, slash⟩ := by
  induction steps with
  | nil => rw [walkSteps]
  | cons step steps ih =>
    obtain rfl := h step List.mem_cons_self
    rw [walkSteps, ih fun s hs => h s (List.mem_cons_of_mem _ hs)]

/-! ## Paths that can be opened -/

/-- Whether a path can be followed at all. -/
def IsOpenable (path : Path) : Prop :=
  '\x00' ∉ path.toList ∧ path.isEmpty = false ∧ path.utf8ByteSize < pathLimit

instance (path : Path) : Decidable (IsOpenable path) := by unfold IsOpenable; infer_instance

theorem IsOpenable.resolve {path : Path} (h : IsOpenable path) (disk : Disk) (last : LastLink) :
    disk.resolve last path =
      walkSteps disk last linkLimit disk.home path.endsWithSlash (stepsOf path) := by
  obtain ⟨hnull, hempty, hlong⟩ := h
  rw [Disk.resolve, if_neg (by simpa using hnull), if_neg (by simp [hempty]),
    if_neg (Nat.not_le.2 hlong)]

/-- **A path leads somewhere** if it can be opened and its steps lead there. -/
theorem resolve_eq_ok_iff {disk : Disk} {last : LastLink} {path : Path} {found : Destination} :
    disk.resolve last path = .ok found ↔ IsOpenable path ∧
      walkSteps disk last linkLimit disk.home path.endsWithSlash (stepsOf path) = .ok found := by
  refine ⟨fun h => ?_, fun h => h.1.resolve disk last ▸ h.2⟩
  have hopen : IsOpenable path := by
    unfold Disk.resolve at h
    split at h
    · cases h
    · rename_i hnull
      split at h
      · cases h
      · rename_i hempty
        split at h
        · cases h
        · rename_i hlong
          exact ⟨by simpa using hnull, Bool.eq_false_iff.2 hempty, Nat.not_le.1 hlong⟩
  exact ⟨hopen, hopen.resolve disk last ▸ h⟩

/-- A path that cannot be opened is not one that leads nowhere, unless it is empty. -/
theorem resolve_ne_notFound {disk : Disk} {last : LastLink} {path : Path}
    (hopen : ¬IsOpenable path) (hempty : path.isEmpty = false) :
    disk.resolve last path ≠ .error .notFound := by
  unfold Disk.resolve
  split
  · exact nofun
  · rename_i hnull
    rw [if_neg (by simp [hempty])]
    split
    · exact nofun
    · rename_i hlong
      exact absurd ⟨by simpa using hnull, hempty, Nat.not_le.1 hlong⟩ hopen

/-- **Whether a path keeps within the limits**: it is short enough to be opened, and no more links
are on the way along it than are followed, from the working directory to the end. -/
def IsWithinLimits (disk : Disk) (path : Path) : Prop :=
  path.utf8ByteSize < pathLimit ∧ ∃ n ≤ linkLimit, TakesLinks disk disk.home (stepsOf path) n

end Disk

end JavaFormat
