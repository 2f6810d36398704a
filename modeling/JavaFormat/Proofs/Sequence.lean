/-!
# Lists of computations that may fail

`List.mapM` succeeds where every one of some computations does, and then its results are theirs
(`exists_mem_of_mapM`, `exists_of_mem_mapM`).  `mapM_flatten_filter` compares two such lists, the
longer of which gives the same results where the shorter one has any.
-/

set_option autoImplicit false

namespace JavaFormat

variable {α β ε : Type}

/-! ## One computation -/

theorem except_map_eq_ok {f : α → β} {x : Except ε α} {y : β} :
    x.map f = .ok y ↔ ∃ a, x = .ok a ∧ f a = y := by
  constructor
  · intro h
    cases x with
    | error e => cases h
    | ok a => exact ⟨a, rfl, Except.ok.inj h⟩
  · rintro ⟨a, rfl, rfl⟩
    rfl

theorem except_map_eq_error {f : α → β} {x : Except ε α} {e : ε} :
    x.map f = .error e ↔ x = .error e := by
  cases x <;> simp [Except.map]

theorem except_mapError_eq_ok {ε' : Type} {f : ε → ε'} {x : Except ε α} {y : α} :
    x.mapError f = .ok y ↔ x = .ok y := by
  constructor
  · intro h
    cases x with
    | error e => cases h
    | ok a => rw [Except.ok.inj h]
  · rintro rfl
    rfl

theorem except_bind_eq_ok {f : α → Except ε β} {x : Except ε α} {y : β} :
    x.bind f = .ok y ↔ ∃ a, x = .ok a ∧ f a = .ok y := by
  constructor
  · intro h
    cases x with
    | error e => cases h
    | ok a => exact ⟨a, rfl, h⟩
  · rintro ⟨a, rfl, h⟩
    exact h

/-! ## Lists of computations -/

theorem mapM_cons_eq_ok {f : α → Except ε β} {x : α} {xs : List α} {ys : List β} :
    (x :: xs).mapM f = .ok ys ↔ ∃ y rest, f x = .ok y ∧ xs.mapM f = .ok rest ∧ ys = y :: rest := by
  rw [List.mapM_cons]
  simp only [bind, except_bind_eq_ok]
  constructor
  · rintro ⟨y, hy, rest, hrest, h⟩
    exact ⟨y, rest, hy, hrest, (Except.ok.inj h).symm⟩
  · rintro ⟨y, rest, hy, hrest, rfl⟩
    exact ⟨y, hy, rest, hrest, rfl⟩

theorem mapM_nil_eq_ok {f : α → Except ε β} {ys : List β} : [].mapM f = .ok ys ↔ ys = [] := by
  simp [pure, Except.pure, eq_comm]

/-- Where all computations succeed, each of them has a result. -/
theorem exists_mem_of_mapM {f : α → Except ε β} {xs : List α} {ys : List β}
    (h : xs.mapM f = .ok ys) {x : α} (hx : x ∈ xs) : ∃ y ∈ ys, f x = .ok y := by
  induction xs generalizing ys with
  | nil => exact absurd hx List.not_mem_nil
  | cons x' xs ih =>
    obtain ⟨y, rest, hy, hrest, rfl⟩ := mapM_cons_eq_ok.1 h
    rcases List.mem_cons.1 hx with rfl | hx
    · exact ⟨y, List.mem_cons_self, hy⟩
    · obtain ⟨y', hy', hf⟩ := ih hrest hx
      exact ⟨y', List.mem_cons_of_mem _ hy', hf⟩

/-- Every result is that of one of the computations. -/
theorem exists_of_mem_mapM {f : α → Except ε β} {xs : List α} {ys : List β}
    (h : xs.mapM f = .ok ys) {y : β} (hy : y ∈ ys) : ∃ x ∈ xs, f x = .ok y := by
  induction xs generalizing ys with
  | nil =>
    obtain rfl := mapM_nil_eq_ok.1 h
    exact absurd hy List.not_mem_nil
  | cons x xs ih =>
    obtain ⟨y', rest, hf, hrest, rfl⟩ := mapM_cons_eq_ok.1 h
    rcases List.mem_cons.1 hy with rfl | hy
    · exact ⟨x, List.mem_cons_self, hf⟩
    · obtain ⟨x', hx', hf⟩ := ih hrest hy
      exact ⟨x', List.mem_cons_of_mem _ hx', hf⟩

/-- The result of a computation is among those of a list with it. -/
theorem mem_of_mapM {f : α → Except ε β} {xs : List α} {ys : List β} (h : xs.mapM f = .ok ys)
    {x : α} (hx : x ∈ xs) {y : β} (hy : f x = .ok y) : y ∈ ys := by
  obtain ⟨y', hmem, hy'⟩ := exists_mem_of_mapM h hx
  obtain rfl := Except.ok.inj (hy.symm.trans hy')
  exact hmem

/-- More computations have more results. -/
theorem subset_of_mapM {f : α → Except ε β} {xs xs' : List α} {ys ys' : List β}
    (hsub : xs ⊆ xs') (h : xs.mapM f = .ok ys) (h' : xs'.mapM f = .ok ys') : ys ⊆ ys' := by
  intro y hy
  obtain ⟨x, hx, hf⟩ := exists_of_mem_mapM h hy
  exact mem_of_mapM h' (hsub hx) hf

/-- Computations that all succeed do so together. -/
theorem exists_mapM_eq_ok {f : α → Except ε β} {P : β → Prop} {xs : List α}
    (h : ∀ x ∈ xs, ∃ y, f x = .ok y ∧ P y) : ∃ ys, xs.mapM f = .ok ys ∧ ∀ y ∈ ys, P y := by
  induction xs with
  | nil => exact ⟨[], rfl, nofun⟩
  | cons x xs ih =>
    obtain ⟨y, hy, hp⟩ := h x List.mem_cons_self
    obtain ⟨ys, hys, hps⟩ := ih fun x' hx' => h x' (List.mem_cons_of_mem _ hx')
    refine ⟨y :: ys, mapM_cons_eq_ok.2 ⟨y, ys, hy, hys, rfl⟩, fun y' hy' => ?_⟩
    rcases List.mem_cons.1 hy' with rfl | hy'
    · exact hp
    · exact hps y' hy'

/-- Computations with known results have these together. -/
theorem mapM_eq_ok_map {f : α → Except ε β} {g : α → β} {xs : List α}
    (h : ∀ x ∈ xs, f x = .ok (g x)) : xs.mapM f = .ok (xs.map g) := by
  induction xs with
  | nil => rfl
  | cons x xs ih =>
    exact mapM_cons_eq_ok.2 ⟨g x, xs.map g, h x List.mem_cons_self,
      ih fun x' hx' => h x' (List.mem_cons_of_mem _ hx'), rfl⟩

/-- What the results of some computations can only be, they are together. -/
theorem eq_map_of_mapM {f : α → Except ε β} {g : α → β} {xs : List α} {ys : List β}
    (h : xs.mapM f = .ok ys) (hg : ∀ x y, f x = .ok y → y = g x) : ys = xs.map g := by
  induction xs generalizing ys with
  | nil => exact mapM_nil_eq_ok.1 h
  | cons x xs ih =>
    obtain ⟨y, rest, hy, hrest, rfl⟩ := mapM_cons_eq_ok.1 h
    rw [hg x y hy, ih hrest, List.map_cons]

/-- Computations that are the same on a list are the same together. -/
theorem mapM_congr {f g : α → Except ε β} {xs : List α} (h : ∀ x ∈ xs, f x = g x) :
    xs.mapM f = xs.mapM g := by
  induction xs with
  | nil => rfl
  | cons x xs ih =>
    rw [List.mapM_cons, List.mapM_cons, h x List.mem_cons_self,
      ih fun x' hx' => h x' (List.mem_cons_of_mem _ hx')]

/-- What is made of every result may be made of all of them at the end. -/
theorem mapM_map {γ : Type} {f : α → Except ε β} {g : β → γ} (xs : List α) :
    xs.mapM (fun x => (f x).map g) = (xs.mapM f).map (List.map g) := by
  induction xs with
  | nil => rfl
  | cons x xs ih =>
    rw [List.mapM_cons, List.mapM_cons, ih]
    cases f x with
    | error e => rfl
    | ok y => cases xs.mapM f <;> rfl

/-- **The first computation that fails** decides how a list of them fails. -/
theorem mapM_eq_error_iff {f : α → Except ε β} {xs : List α} {e : ε} :
    xs.mapM f = .error e ↔ ∃ front x back, xs = front ++ x :: back ∧
      (∀ y ∈ front, ∃ z, f y = .ok z) ∧ f x = .error e := by
  induction xs with
  | nil => simp [pure, Except.pure]
  | cons x xs ih =>
    rw [List.mapM_cons]
    cases hx : f x with
    | error cause =>
      constructor
      · intro h
        cases h
        exact ⟨[], x, xs, rfl, nofun, hx⟩
      · rintro ⟨front, y, back, heq, hfront, hy⟩
        rcases front with _ | ⟨z, front⟩
        · rw [List.nil_append] at heq
          rw [← (List.cons.inj heq).1, hx] at hy
          rw [Except.error.inj hy]
          rfl
        · obtain ⟨w, hw⟩ := hfront z List.mem_cons_self
          rw [← (List.cons.inj heq).1, hx] at hw
          cases hw
    | ok y =>
      have hrest : ((.ok y : Except ε β) >>= fun y => xs.mapM f >>= fun ys => pure (y :: ys)) =
          .error e ↔ xs.mapM f = .error e := by
        cases xs.mapM f <;> simp [bind, Except.bind, pure, Except.pure]
      rw [hrest, ih]
      constructor
      · rintro ⟨front, x', back, rfl, hfront, hx'⟩
        exact ⟨x :: front, x', back, rfl, List.forall_mem_cons.2 ⟨⟨y, hx⟩, hfront⟩, hx'⟩
      · rintro ⟨front, x', back, heq, hfront, hx'⟩
        rcases front with _ | ⟨z, front⟩
        · rw [← (List.cons.inj heq).1, hx] at hx'
          cases hx'
        · exact ⟨front, x', back, (List.cons.inj heq).2, (List.forall_mem_cons.1 hfront).2, hx'⟩

/-- **More computations give more results**: where `g` gives for what is kept the results of `f`
with others among them that `old` leaves out, and only such for the rest, it does so for whole
lists. -/
theorem mapM_flatten_filter (old : β → Bool) (P : β → Prop) {f g : α → Except ε (List β)}
    {keep : α → Bool} {xs : List α} {parts : List (List β)}
    (hf : (xs.filter keep).mapM f = .ok parts)
    (hkeep : ∀ x ∈ xs, keep x = true → ∀ part, f x = .ok part →
      ∃ more, g x = .ok more ∧ more.filter old = part ∧ ∀ y ∈ more, P y)
    (hnew : ∀ x ∈ xs, keep x = false →
      ∃ more, g x = .ok more ∧ ∀ y ∈ more, old y = false ∧ P y) :
    ∃ all, xs.mapM g = .ok all ∧ all.flatten.filter old = parts.flatten ∧
      ∀ y ∈ all.flatten, P y := by
  induction xs generalizing parts with
  | nil =>
    obtain rfl := mapM_nil_eq_ok.1 hf
    exact ⟨[], rfl, rfl, nofun⟩
  | cons x xs ih =>
    have hkeep' := fun x' hx' => hkeep x' (List.mem_cons_of_mem x hx')
    have hnew' := fun x' hx' => hnew x' (List.mem_cons_of_mem x hx')
    have hhead : ∃ part rest, parts.flatten = part ++ rest.flatten ∧
        (xs.filter keep).mapM f = .ok rest ∧
          ∃ more, g x = .ok more ∧ more.filter old = part ∧ ∀ y ∈ more, P y := by
      cases hk : keep x with
      | true =>
        rw [List.filter_cons_of_pos hk] at hf
        obtain ⟨part, rest, hpart, hrest, rfl⟩ := mapM_cons_eq_ok.1 hf
        exact ⟨part, rest, rfl, hrest, hkeep x List.mem_cons_self hk part hpart⟩
      | false =>
        rw [List.filter_cons_of_neg (by simp [hk])] at hf
        obtain ⟨more, hmore, hp⟩ := hnew x List.mem_cons_self hk
        refine ⟨[], parts, rfl, hf, more, hmore, ?_, fun y hy => (hp y hy).2⟩
        exact List.filter_eq_nil_iff.2 fun y hy => by simp [(hp y hy).1]
    obtain ⟨part, rest, hparts, hrest, more, hmore, hold, hp⟩ := hhead
    obtain ⟨all, hall, holds, hps⟩ := ih hrest hkeep' hnew'
    refine ⟨more :: all, mapM_cons_eq_ok.2 ⟨more, all, hmore, hall, rfl⟩, ?_, fun y hy => ?_⟩
    · rw [List.flatten_cons, List.filter_append, hold, holds, hparts]
    · rw [List.flatten_cons, List.mem_append] at hy
      rcases hy with hy | hy
      · exact hp y hy
      · exact hps y hy

end JavaFormat
