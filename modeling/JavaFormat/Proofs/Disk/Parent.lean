import JavaFormat.Proofs.Disk.Lookup

/-!
# The directory above an entry

The path that `Path.parent?` gives has all components of a path but the last one
(`components_of_parent?`).  Where it leads to a directory that has no entry of that last name, the
path itself can only lead to the vacant place there (`resolve_below`).  Where the last component is
`..`, the path leads to a directory if the rest does, which is what `Disk.LeadsUp` asks of every
such component.
-/

set_option autoImplicit false

namespace JavaFormat

namespace Path

/-! ## Spelling pieces -/

/-- Pieces are read back as they are spelled. -/
theorem pieces_spell {ps : List (List Char)} (hne : ps ≠ []) (h : ∀ p ∈ ps, '/' ∉ p) :
    pieces (spell ps) = ps := by
  induction ps with
  | nil => exact absurd rfl hne
  | cons p ps ih =>
    have hp := pieces_of_not_mem (h p List.mem_cons_self)
    cases ps with
    | nil => simpa [spell, List.intercalate] using hp
    | cons q qs =>
      have hspell : spell (p :: q :: qs) = p ++ '/' :: spell (q :: qs) := by
        simp [spell, List.intercalate]
      rw [hspell, pieces_append_slash, hp, ih (List.cons_ne_nil q qs) fun x hx =>
        h x (List.mem_cons_of_mem _ hx)]
      rfl

/-- Only the empty text has no piece but an empty one. -/
theorem eq_nil_of_pieces {s : List Char} (h : pieces s = [[]]) : s = [] := by
  cases s with
  | nil => rfl
  | cons c cs =>
    rw [pieces, piecesFrom] at h
    split at h
    · exact absurd (List.cons.inj h).2 (pieces_ne_nil cs)
    · obtain ⟨p, ps, hp⟩ := exists_piecesFrom cs [c]
      rw [hp] at h
      simp at h

/-- What a cut is like: its pieces have no slash, and without a start the first one says
something. -/
structure IsCut (cut : Cut) : Prop where
  /-- A path starts with the root, the component `.` or neither. -/
  start : cut.start = none ∨ cut.start = some .root ∨ cut.start = some .current
  /-- The pieces are between slashes. -/
  slash : ∀ p ∈ cut.body, '/' ∉ p
  /-- The first piece would be a start if it said nothing. -/
  first : cut.start = none → ∀ p ∈ cut.body.head?, isVoid p = false

theorem isCut_ofPath {path : Path} (h : path ≠ "") : IsCut (Cut.ofPath path) := by
  have hslash : ∀ p ∈ pieces path.toList, '/' ∉ p := fun p hp => (mem_pieces hp).1
  unfold Cut.ofPath
  split
  · rename_i p ps hp
    rw [hp] at hslash
    exact ⟨Or.inr (Or.inl rfl), fun q hq => hslash q (List.mem_cons_of_mem _ hq), nofun⟩
  · rename_i ps hp
    rw [hp] at hslash
    exact ⟨Or.inr (Or.inr rfl), fun q hq => hslash q (List.mem_cons_of_mem _ hq), nofun⟩
  · rename_i ps hroot hcurrent
    refine ⟨Or.inl rfl, hslash, fun _ p hp => ?_⟩
    cases hps : pieces path.toList with
    | nil => exact absurd hps (pieces_ne_nil _)
    | cons q qs =>
      rw [hps] at hp
      obtain rfl := Option.some.inj hp
      have hdot : q ≠ ['.'] := fun he => hcurrent qs (by rw [hps, he])
      suffices hne : q ≠ [] by simp [isVoid, hne, hdot]
      rintro rfl
      cases qs with
      | cons r rs => exact hroot r rs hps
      | nil => exact h (String.toList_injective (eq_nil_of_pieces hps))

/-- **The components of a path that is put together** are those of what it is put together of. -/
theorem components_toPath {cut : Cut} (h : IsCut cut) :
    (Cut.toPath cut).components = cut.components := by
  obtain ⟨start, body⟩ := cut
  obtain ⟨hstart, hslash, hfirst⟩ := h
  unfold components Cut.ofPath Cut.toPath
  rw [String.toList_ofList]
  cases body with
  | nil => rcases hstart with hs | hs | hs <;> obtain rfl : start = _ := hs <;> rfl
  | cons p ps =>
    have hpieces : pieces (spell (p :: ps)) = p :: ps := pieces_spell (List.cons_ne_nil p ps) hslash
    rcases hstart with hs | hs | hs <;> obtain rfl : start = _ := hs
    · have hvoid : isVoid p = false := hfirst rfl p rfl
      simp only [hpieces]
      split
      · rename_i heq
        obtain ⟨rfl, -⟩ := List.cons.inj heq
        cases hvoid
      · rename_i heq
        obtain ⟨rfl, -⟩ := List.cons.inj heq
        cases hvoid
      · rfl
    · simp only [pieces_slash, hpieces]
    · have hdot : pieces ('.' :: '/' :: spell (p :: ps)) = ['.'] :: p :: ps := by
        rw [show '.' :: '/' :: spell (p :: ps) = ['.'] ++ '/' :: spell (p :: ps) from rfl,
          pieces_append_slash, hpieces]
        rfl
      simp only [hdot]

/-! ## Leaving out the last component -/

theorem isPrefix_trimEnd (ps : List (List Char)) : trimEnd ps <+: ps := by
  rw [← List.reverse_suffix, trimEnd, List.reverse_reverse]
  exact List.dropWhile_suffix isVoid

theorem filter_trimEnd (ps : List (List Char)) :
    (trimEnd ps).filter (fun p => !isVoid p) = ps.filter fun p => !isVoid p := by
  have hdrop : ∀ qs : List (List Char),
      (qs.dropWhile isVoid).filter (fun p => !isVoid p) = qs.filter fun p => !isVoid p := by
    intro qs
    induction qs with
    | nil => rfl
    | cons q qs ih =>
      by_cases hq : isVoid q = true
      · rw [List.dropWhile_cons_of_pos hq, ih, List.filter_cons_of_neg (by simp [hq])]
      · rw [List.dropWhile_cons_of_neg hq]
  rw [trimEnd, List.filter_reverse, hdrop, List.filter_reverse, List.reverse_reverse]

/-- The components of a cut do not show the pieces at its end that say nothing. -/
theorem components_trimEnd (start : Option Component) (ps : List (List Char)) :
    Cut.components ⟨start, trimEnd ps⟩ = Cut.components ⟨start, ps⟩ := by
  rw [Cut.components, Cut.components, filter_trimEnd]

theorem IsCut.of_isPrefix_body {cut : Cut} {ps : List (List Char)} (h : IsCut cut)
    (hfront : ps <+: cut.body) : IsCut ⟨cut.start, ps⟩ where
  start := h.start
  slash := fun p hp => h.slash p (hfront.subset hp)
  first := fun hs p hp => h.first hs p (by
    obtain ⟨rest, hrest⟩ := hfront
    cases ps with
    | nil => cases hp
    | cons q qs => rw [← hrest]; exact hp)

/-- **The parent of a path** has its components but the last one, which is `..` or a name; only the
path `.` has the parent that is empty without having a component less. -/
theorem components_of_parent? {path parent : Path} (h : path.parent? = some parent) :
    parent = "" ∨ path.components = parent.components ++ [.parent] ∨
      ∃ name, path.components = parent.components ++ [.name name] := by
  have hne : path ≠ "" := by
    rintro rfl
    rw [show parent? "" = none by decide] at h
    cases h
  have hcut := isCut_ofPath hne
  simp only [parent?] at h
  split at h
  · rename_i last rest hrev
    have htrim : trimEnd (Cut.ofPath path).body = rest.reverse ++ [last] := by
      rw [← List.reverse_reverse (trimEnd _), hrev, List.reverse_cons]
    have hlast : isVoid last = false := by
      have := List.head?_dropWhile_not isVoid (Cut.ofPath path).body.reverse
      rw [trimEnd, List.reverse_reverse] at hrev
      rw [hrev] at this
      exact this
    have hfront : trimEnd rest.reverse <+: (Cut.ofPath path).body :=
      (isPrefix_trimEnd _).trans
        ((htrim ▸ List.prefix_append rest.reverse [last]).trans (isPrefix_trimEnd _))
    have hcomponents : path.components = parent.components ++ [Cut.componentOf last] := by
      rw [← Option.some.inj h, components_toPath (hcut.of_isPrefix_body hfront), components_trimEnd,
        components, ← components_trimEnd, htrim]
      simp [Cut.components, hlast]
    rw [Cut.componentOf] at hcomponents
    split at hcomponents
    · exact Or.inr (Or.inl hcomponents)
    · exact Or.inr (Or.inr ⟨_, hcomponents⟩)
  · split at h
    · exact Or.inl (Option.some.inj h).symm
    · cases h

end Path

namespace Disk

open JavaFormat.Path

variable {disk : Disk} {path parent : Path} {m : Location} {name : String}

theorem resolve_of_kept {place : Place} {slash : Bool}
    (hplace : ∀ l target, place ≠ .entry l (.link target))
    (h : disk.resolve .kept path = .ok ⟨place, slash⟩) :
    disk.resolve .followed path = .ok ⟨place, slash⟩ := by
  obtain ⟨hopen, hwalk⟩ := resolve_eq_ok_iff.1 h
  refine resolve_eq_ok_iff.2 ⟨hopen, walkSteps_of_kept (fun l target slash' he => ?_) hwalk⟩
  cases he
  exact hplace l target rfl

/-- The steps along a path lead to its last component but one and then on, staying where they are
elsewhere. -/
theorem stepsOf_of_components {front : List Component} {c : Component} {step : Step}
    (h : path.components = front ++ [c]) (hc : Step.ofComponent? c = some step) :
    ∃ steps back, stepsOf path = steps ++ step :: back ∧
      steps.filter (· ≠ .stay) = front.filterMap Step.ofComponent? ∧
      ∀ s ∈ back, s = .stay := by
  have hfilter := filter_stepsOf path
  rw [h, List.filterMap_append, List.filterMap_cons_some hc, List.filterMap_nil] at hfilter
  obtain ⟨steps, tail, hpath, hsteps, htail⟩ := List.filter_eq_append_iff.1 hfilter
  obtain ⟨stays, back, rfl, hstays, -, hback⟩ := List.filter_eq_cons_iff.1 htail
  refine ⟨steps ++ stays, back, by simp [hpath], ?_, fun s hs => ?_⟩
  · rw [List.filter_append, hsteps, List.filter_eq_nil_iff.2 hstays, List.append_nil]
  · simpa using List.filter_eq_nil_iff.1 hback s hs

/-- **Where the directory above has no entry of the last name**, a path can only lead to that vacant
place. -/
theorem resolve_below (hcomponents : path.components = parent.components ++ [.name name])
    (hparent : disk.IsDirAt parent m) (hnone : disk.get? (m ++ [name]) = none)
    (found : Destination) (h : disk.resolve .followed path = .ok found) :
    found.place = .vacant m name := by
  obtain ⟨front, back, hsteps, hfront, -⟩ := stepsOf_of_components hcomponents rfl
  rw [← filter_stepsOf] at hfront
  obtain ⟨slash, hres⟩ := hparent
  obtain ⟨-, hwalk⟩ := resolve_eq_ok_iff.1 h
  obtain ⟨-, hdir⟩ := resolve_eq_ok_iff.1 hres
  obtain ⟨left, -, hleft⟩ :=
    walkSteps_append disk linkLimit disk.home parent.endsWithSlash (stepsOf parent)
  -- the steps that stay are left out and put back, now as those along the parent
  have hdown : walkSteps disk .followed linkLimit disk.home path.endsWithSlash
      (front ++ .down name :: back) =
        walkSteps disk .followed left m path.endsWithSlash (.down name :: back) := by
    rw [← walkSteps_filter_append _ _ _ _ _ _ (List.cons_ne_nil _ _), hfront,
      walkSteps_filter_append _ _ _ _ _ _ (List.cons_ne_nil _ _),
      hleft path.endsWithSlash _ (List.cons_ne_nil _ _), hdir]
    rfl
  rw [hsteps, hdown, walkSteps, hnone] at hwalk
  split at hwalk
  · cases hwalk
  · dsimp only at hwalk
    split at hwalk <;> cases hwalk
    rfl

/-! ## Paths that go up -/

/-- **Whether a path goes up from nothing but directories**: what stands in front of a component
`..` leads to one. -/
def LeadsUp (disk : Disk) (path : Path) : Prop :=
  ∀ front back, path.components = front ++ .parent :: back →
    ∃ l slash, walkSteps disk .followed linkLimit disk.home false
      (front.filterMap Step.ofComponent?) = .ok ⟨.entry l .dir, slash⟩

theorem leadsUp_of_not_mem (h : Component.parent ∉ path.components) : disk.LeadsUp path :=
  fun front back hcomponents => absurd (hcomponents ▸ by simp) h

theorem LeadsUp.of_append {rest : List Component} (h : disk.LeadsUp path)
    (hcomponents : path.components = parent.components ++ rest) : disk.LeadsUp parent :=
  fun front back hparent => h front (back ++ rest) (by rw [hcomponents, hparent]; simp)

/-- A path with `..` at its end leads to a directory. -/
theorem LeadsUp.walkSteps {front : List Component} (h : disk.LeadsUp path)
    (hcomponents : path.components = front ++ [.parent]) (slash : Bool) :
    ∃ l, Disk.walkSteps disk .followed linkLimit disk.home slash (stepsOf path) =
      .ok ⟨.entry l .dir, slash⟩ := by
  obtain ⟨l, slash', hfront⟩ := h front [] hcomponents
  obtain ⟨steps, back, hsteps, hfilter, hback⟩ := stepsOf_of_components hcomponents rfl
  obtain ⟨left, -, hleft⟩ := walkSteps_append disk linkLimit disk.home false
    (front.filterMap Step.ofComponent?)
  refine ⟨l.dropLast, ?_⟩
  rw [hsteps, ← walkSteps_filter_append _ _ _ _ _ _ (List.cons_ne_nil _ _), hfilter,
    hleft slash _ (List.cons_ne_nil _ _), hfront, goOn, Disk.walkSteps,
    walkSteps_stays disk .followed left l.dropLast slash hback]

theorem LeadsUp.isDirAt {front : List Component} (h : disk.LeadsUp path)
    (hcomponents : path.components = front ++ [.parent]) (hopen : IsOpenable path) :
    ∃ l, disk.IsDirAt path l := by
  obtain ⟨l, hwalk⟩ := h.walkSteps hcomponents path.endsWithSlash
  exact ⟨l, _, resolve_eq_ok_iff.2 ⟨hopen, hwalk⟩⟩

/-- Nothing is missing where such a path leads. -/
theorem LeadsUp.resolve_ne_notFound {front : List Component} (h : disk.LeadsUp path)
    (hcomponents : path.components = front ++ [.parent]) :
    disk.resolve .kept path ≠ .error .notFound := by
  have hempty : path.isEmpty = false := by
    refine Bool.eq_false_iff.2 fun he => ?_
    rw [String.isEmpty_iff.1 he] at hcomponents
    exact absurd hcomponents.symm (by simp [show components "" = [] by decide])
  by_cases hopen : IsOpenable path
  · intro hres
    obtain ⟨l, hwalk⟩ := h.walkSteps hcomponents path.endsWithSlash
    rw [hopen.resolve] at hres
    rw [walkSteps_of_kept (fun _ _ _ he => by cases he) hres] at hwalk
    cases hwalk
  · exact Disk.resolve_ne_notFound hopen hempty

end Disk

end JavaFormat
