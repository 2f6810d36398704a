import JavaFormat.Disk.Operations
import JavaFormat.Proofs.Disk.Extends

/-!
# What is new on a later disk

On a disk whose links all lead somewhere, a path without a component `..` that missed its entry can
only lead to a new one on a later disk (`get?_eq_none_of_resolve`): the way left the old
directories before it came to the entry, and below a new directory everything is new.
-/

set_option autoImplicit false

namespace JavaFormat

namespace Disk

open JavaFormat.Path

/-- **Whether the link at `l` leads to an entry** when it is followed from the directory that it is
in; a slash at the end of its target may ask for a directory. -/
def LeadsTo (disk : Disk) (l m : Location) (e : Entry) (slash : Bool) : Prop :=
  ∃ front name, l = front ++ [name] ∧
    walkSteps disk .followed linkLimit front false [.down name] = .ok ⟨.entry m e, slash⟩

theorem leadsTo_concat {disk : Disk} {l m : Location} {name : String} {e : Entry} {slash : Bool} :
    disk.LeadsTo (l ++ [name]) m e slash ↔
      walkSteps disk .followed linkLimit l false [.down name] = .ok ⟨.entry m e, slash⟩ := by
  refine ⟨?_, fun h => ⟨l, name, rfl, h⟩⟩
  rintro ⟨front, name', heq, h⟩
  obtain ⟨rfl, hname⟩ := List.append_inj' heq rfl
  rwa [(List.cons.inj hname).1]

/-- **Every symbolic link leads to an entry.** -/
def LinksResolve (disk : Disk) : Prop :=
  ∀ (l : Location) (target : Path), disk.get? l = some (.link target) →
    ∃ (m : Location) (e : Entry) (slash : Bool), disk.LeadsTo l m e slash

/-- Whether there is no symbolic link on a disk. -/
def HasNoLink (disk : Disk) : Prop := ∀ l target, disk.get? l ≠ some (.link target)

theorem HasNoLink.linksResolve {disk : Disk} (h : HasNoLink disk) : LinksResolve disk :=
  fun l target hlink => absurd hlink (h l target)

theorem hasNoLink_empty : HasNoLink Disk.empty := by
  intro l target h
  unfold get? at h
  split at h <;> cases h

theorem HasNoLink.add {disk : Disk} (h : HasNoLink disk) (l : Location) (name : String) {e : Entry}
    (he : ∀ target, e ≠ .link target) : HasNoLink (disk.add l name e) := by
  intro k target
  by_cases hadd : disk.hasDir l = true ∧ disk.get? (l ++ [name]) = none
  · rw [get?_add e hadd.1 hadd.2]
    split
    · exact fun heq => he target (Option.some.inj heq)
    · exact h k target
  · rw [Disk.add, dif_neg hadd]
    exact h k target

/-- Whether a walk missed an entry. -/
def IsMiss (result : Except IoError Destination) : Prop :=
  result = .error .notFound ∨ ∃ l name slash, result = .ok ⟨.vacant l name, slash⟩

theorem not_isMiss_error {e : IoError} (h : e ≠ .notFound) : ¬IsMiss (.error e) := by
  rintro (heq | ⟨_, _, _, heq⟩)
  · exact h (Except.error.inj heq)
  · cases heq

theorem not_isMiss_entry {l : Location} {e : Entry} {slash : Bool} :
    ¬IsMiss (.ok ⟨.entry l e, slash⟩) := by
  rintro (heq | ⟨_, _, _, heq⟩) <;> cases heq

/-- Whether steps stay or lead down, but lead neither up nor to the root. -/
def AreDownward (steps : List Step) : Prop := Step.up ∉ steps ∧ Step.root ∉ steps

theorem AreDownward.tail {step : Step} {steps : List Step} (h : AreDownward (step :: steps)) :
    AreDownward steps :=
  ⟨List.not_mem_of_not_mem_cons h.1, List.not_mem_of_not_mem_cons h.2⟩

variable {disk later : Disk}

theorem get?_append_eq_none {l : Location} (h : disk.get? l = none) (name : String) :
    disk.get? (l ++ [name]) = none := by
  cases hl : disk.get? (l ++ [name]) with
  | none => rfl
  | some e =>
    have hdir := hasDir_of_get? hl
    rw [hasDir, h] at hdir
    cases hdir

/-- From the old directories a walk leads to a new entry, and ends there or goes on below it. -/
theorem walkSteps_down_new (hext : Extends disk later) {last : LastLink} {links : Nat}
    {slash : Bool} {name : String} {rest : List Step} {l : Location} {found : Destination}
    (hnew : disk.get? (l ++ [name]) = none)
    (h : walkSteps later last links l slash (.down name :: rest) = .ok found) :
    (∃ bytes, found.place = .entry (l ++ [name]) (.file bytes)) ∨
      found.place = .vacant l name ∨
      walkSteps later last links (l ++ [name]) slash rest = .ok found := by
  rw [walkSteps] at h
  split at h
  · cases h
  · cases hlater : later.get? (l ++ [name]) with
    | none =>
      rw [hlater] at h
      simp only at h
      split at h
      · cases h
        exact Or.inr (Or.inl rfl)
      · cases h
    | some e =>
      rw [hlater] at h
      cases e with
      | dir => exact Or.inr (Or.inr h)
      | file bytes =>
        simp only at h
        split at h
        · cases h
          exact Or.inl ⟨bytes, rfl⟩
        · cases h
      | link target => exact absurd hlater (hext.fresh _ target hnew)

/-- Below a new directory everything is new. -/
theorem get?_eq_none_of_new (hext : Extends disk later) {last : LastLink} {links : Nat}
    {slash : Bool} {steps : List Step} (hsteps : AreDownward steps) {l m : Location} {e : Entry}
    {slash' : Bool} (hl : disk.get? l = none)
    (h : walkSteps later last links l slash steps = .ok ⟨.entry m e, slash'⟩) :
    disk.get? m = none := by
  induction steps generalizing l with
  | nil =>
    rw [walkSteps] at h
    cases h
    exact hl
  | cons step steps ih =>
    cases step with
    | root => exact absurd List.mem_cons_self hsteps.2
    | up => exact absurd List.mem_cons_self hsteps.1
    | stay =>
      rw [walkSteps] at h
      exact ih hsteps.tail hl h
    | down name =>
      have hnew := get?_append_eq_none hl name
      rcases walkSteps_down_new hext hnew h with ⟨bytes, hplace⟩ | hplace | h
      · cases hplace
        exact hnew
      · cases hplace
      · exact ih hsteps.tail hnew h

/-- A link that leads to an entry does so with any number of links left, unless there are too many
to follow. -/
theorem walkSteps_link (hlinks : LinksResolve disk) {l : Location} {name : String} {target : Path}
    (hlink : disk.get? (l ++ [name]) = some (.link target)) :
    ∃ (m : Location) (e : Entry) (slash : Bool), ∀ links,
      walkSteps disk .followed links l false [.down name] = .error .tooManyLinks ∨
        walkSteps disk .followed links l false [.down name] = .ok ⟨.entry m e, slash⟩ := by
  obtain ⟨m, e, slash, hleads⟩ := hlinks _ target hlink
  have hfull := leadsTo_concat.1 hleads
  refine ⟨m, e, slash, fun links => ?_⟩
  rcases Nat.le_total links linkLimit with hle | hle
  · rw [← hfull]
    exact walkSteps_links disk .followed links l false [.down name] hle
  · rcases walkSteps_links disk .followed linkLimit l false [.down name] hle with h | h
    · rw [hfull] at h
      cases h
    · exact Or.inr (h ▸ hfull)

theorem not_isMiss_of_file {links : Nat} {l : Location} {name : String} {bytes : List UInt8}
    {rest : List Step} (hfile : disk.get? (l ++ [name]) = some (.file bytes)) :
    ¬IsMiss (walkSteps disk .followed links l false (.down name :: rest)) := by
  rw [walkSteps, hfile]
  split
  · exact not_isMiss_error (by decide)
  · simp only
    split
    · exact not_isMiss_entry
    · exact not_isMiss_error (by decide)

/-- A walk over a link on which the one on the old disk missed its entry comes to the same directory
on both disks. -/
theorem walkSteps_link_miss (hext : Extends disk later) (hlinks : LinksResolve disk)
    {links links' : Nat} {l : Location} {name : String} {target : Path} {rest : List Step}
    {found : Destination} (hl : disk.get? l = some .dir)
    (hlink : disk.get? (l ++ [name]) = some (.link target))
    (hmiss : IsMiss (walkSteps disk .followed links l false (.down name :: rest)))
    (h : walkSteps later .followed links' l false (.down name :: rest) = .ok found) :
    ∃ n, disk.get? n = some .dir ∧ ∃ left left',
      IsMiss (walkSteps disk .followed left n false rest) ∧
        walkSteps later .followed left' n false rest = .ok found := by
  obtain ⟨n, e, slash, hn⟩ := walkSteps_link hlinks hlink
  have hrest : rest ≠ [] := by
    rintro rfl
    rcases hn links with hn | hn <;> rw [hn] at hmiss
    · exact absurd hmiss (not_isMiss_error (by decide))
    · exact absurd hmiss not_isMiss_entry
  obtain ⟨left, -, hleft⟩ := walkSteps_append disk links l false [.down name]
  obtain ⟨left', -, hleft'⟩ := walkSteps_append later links' l false [.down name]
  have hpersists := walkSteps_persists hext .followed links' l false [.down name] hl
  rw [← List.singleton_append, hleft false rest hrest] at hmiss
  rw [← List.singleton_append, hleft' false rest hrest] at h
  rcases hn links with hold | hold
  · rw [hold] at hmiss
    exact absurd hmiss (not_isMiss_error (by decide))
  · rw [hold] at hmiss
    rcases hn links' with hnow | hnow
    · rw [hnow] at hpersists
      rw [show walkSteps later .followed links' l false [.down name] = _ from hpersists] at h
      cases h
    · rw [hnow] at hpersists
      obtain ⟨hin, hlater⟩ := hpersists
      rw [hlater] at h
      cases e with
      | dir =>
        rw [Place.seen, Place.location, hext.dir _ hin] at h
        exact ⟨n, hin, left, left', hmiss, h⟩
      | file bytes => exact absurd hmiss (not_isMiss_error (by decide))
      | link target => exact absurd hmiss (not_isMiss_error (by decide))

/-- **What a walk missed can only be new.**  The walks on the two disks part where an entry is
missing on the first one, and a link on the way leads to the same place on both. -/
theorem get?_eq_none_of_walkSteps (hext : Extends disk later) (hlinks : LinksResolve disk)
    {steps : List Step} (hsteps : AreDownward steps) {links links' : Nat} {l m : Location}
    {e : Entry} {slash : Bool} (hl : disk.get? l = some .dir)
    (hmiss : IsMiss (walkSteps disk .followed links l false steps))
    (h : walkSteps later .followed links' l false steps = .ok ⟨.entry m e, slash⟩) :
    disk.get? m = none := by
  induction steps generalizing links links' l with
  | nil =>
    rw [walkSteps] at hmiss
    exact absurd hmiss not_isMiss_entry
  | cons step steps ih =>
    cases step with
    | root => exact absurd List.mem_cons_self hsteps.2
    | up => exact absurd List.mem_cons_self hsteps.1
    | stay =>
      rw [walkSteps] at hmiss h
      exact ih hsteps.tail hl hmiss h
    | down name =>
      cases hname : disk.get? (l ++ [name]) with
      | none =>
        rcases walkSteps_down_new hext hname h with ⟨bytes, hplace⟩ | hplace | h
        · cases hplace
          exact hname
        · cases hplace
        · exact get?_eq_none_of_new hext hsteps.tail hname h
      | some found =>
        cases found with
        | dir =>
          rw [walkSteps, hext.dir _ hname] at h
          rw [walkSteps, hname] at hmiss
          split at h
          · cases h
          · rename_i hshort
            rw [if_neg hshort] at hmiss
            exact ih hsteps.tail hname hmiss h
        | file bytes => exact absurd hmiss (not_isMiss_of_file hname)
        | link target =>
          obtain ⟨n, hdir, left, left', hmiss, h⟩ :=
            walkSteps_link_miss hext hlinks hl hname hmiss h
          exact ih hsteps.tail hdir hmiss h

end Disk

end JavaFormat
