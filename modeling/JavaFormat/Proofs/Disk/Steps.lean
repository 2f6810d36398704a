import JavaFormat.Disk.Resolve

/-!
# The steps along a path

What a path asks for is read off its pieces.  A path continued by another one asks for the steps of
both (`stepsOf_join`), and but for the steps that stay where they are the components of a path
say what its steps are (`filter_stepsOf`).

* `Path.IsName`: what may be the name of an entry, a single piece that leads down.
* `stepsOf_join_name`: a path continued by a name leads one step further down.
* `isName_of_mem_stepsOf`: the steps of a path that lead down lead to names.
* `up_not_mem_stepsOf`: a path without a component `..` never leads up.
-/

set_option autoImplicit false

namespace JavaFormat

namespace Path

/-! ## Pieces -/

theorem piecesFrom_append_slash (s t : List Char) :
    ∀ acc : List Char, piecesFrom acc (s ++ '/' :: t) = piecesFrom acc s ++ pieces t := by
  induction s with
  | nil => intro acc; simp [piecesFrom, pieces]
  | cons c cs ih =>
    intro acc
    rw [List.cons_append, piecesFrom, piecesFrom]
    split
    · rw [ih, List.cons_append]
    · exact ih _

/-- The pieces of two texts with a slash between them are the pieces of both. -/
theorem pieces_append_slash (s t : List Char) : pieces (s ++ '/' :: t) = pieces s ++ pieces t :=
  piecesFrom_append_slash s t []

@[simp] theorem pieces_nil : pieces [] = [[]] := rfl

theorem exists_piecesFrom (s : List Char) :
    ∀ acc : List Char, ∃ p ps, piecesFrom acc s = (acc.reverse ++ p) :: ps := by
  induction s with
  | nil => exact fun acc => ⟨[], [], by rw [piecesFrom, List.append_nil]⟩
  | cons c cs ih =>
    intro acc
    rw [piecesFrom]
    split
    · exact ⟨[], piecesFrom [] cs, by rw [List.append_nil]⟩
    · obtain ⟨p, ps, hp⟩ := ih (c :: acc)
      exact ⟨c :: p, ps, by rw [hp, List.reverse_cons, List.append_assoc]; rfl⟩

theorem pieces_ne_nil (s : List Char) : pieces s ≠ [] := by
  obtain ⟨p, ps, hp⟩ := exists_piecesFrom s []
  rw [pieces, hp]
  exact List.cons_ne_nil _ _

/-- Only a text that starts with a slash has an empty piece in front of others. -/
theorem pieces_ne_of_not_isAbsolute {path : Path} (h : path.isAbsolute = false) (p : List Char)
    (ps : List (List Char)) : pieces path.toList ≠ [] :: p :: ps := by
  cases hl : path.toList with
  | nil => simp
  | cons c cs =>
    have hc : c ≠ '/' := by
      rintro rfl
      simp [isAbsolute, hl] at h
    obtain ⟨q, qs, hq⟩ := exists_piecesFrom cs [c]
    rw [pieces, piecesFrom, if_neg hc, hq]
    simp

theorem pieces_slash (s : List Char) : pieces ('/' :: s) = [] :: pieces s :=
  pieces_append_slash [] s

theorem piecesFrom_of_not_mem {s : List Char} (h : '/' ∉ s) :
    ∀ acc : List Char, piecesFrom acc s = [acc.reverse ++ s] := by
  induction s with
  | nil => intro acc; simp [piecesFrom]
  | cons c cs ih =>
    obtain ⟨hc, hcs⟩ := List.ne_and_not_mem_of_not_mem_cons h
    intro acc
    rw [piecesFrom, if_neg (Ne.symm hc), ih hcs]
    simp

theorem pieces_of_not_mem {s : List Char} (h : '/' ∉ s) : pieces s = [s] :=
  piecesFrom_of_not_mem h []

theorem mem_piecesFrom {s : List Char} :
    ∀ {acc piece : List Char}, piece ∈ piecesFrom acc s → '/' ∉ acc →
      '/' ∉ piece ∧ ∀ c ∈ piece, c ∈ acc ∨ c ∈ s := by
  induction s with
  | nil =>
    intro acc piece hp hacc
    obtain rfl := List.mem_singleton.1 hp
    exact ⟨by simpa using hacc, fun c hc => Or.inl (List.mem_reverse.1 hc)⟩
  | cons c cs ih =>
    intro acc piece hp hacc
    rw [piecesFrom] at hp
    split at hp
    · rcases List.mem_cons.1 hp with rfl | hp
      · exact ⟨by simpa using hacc, fun c hc => Or.inl (List.mem_reverse.1 hc)⟩
      · obtain ⟨hslash, hmem⟩ := ih hp List.not_mem_nil
        refine ⟨hslash, fun d hd => Or.inr (List.mem_cons_of_mem _ ?_)⟩
        exact (hmem d hd).resolve_left List.not_mem_nil
    · rename_i hc
      have hacc' : '/' ∉ c :: acc := by
        rw [List.mem_cons, not_or]
        exact ⟨Ne.symm hc, hacc⟩
      obtain ⟨hslash, hmem⟩ := ih hp hacc'
      refine ⟨hslash, fun d hd => ?_⟩
      rcases hmem d hd with hd | hd
      · rcases List.mem_cons.1 hd with rfl | hd
        · exact Or.inr List.mem_cons_self
        · exact Or.inl hd
      · exact Or.inr (List.mem_cons_of_mem _ hd)

/-- A piece of a text has no slash, and its characters are some of the text. -/
theorem mem_pieces {s piece : List Char} (h : piece ∈ pieces s) :
    '/' ∉ piece ∧ ∀ c ∈ piece, c ∈ s := by
  obtain ⟨hslash, hmem⟩ := mem_piecesFrom h List.not_mem_nil
  exact ⟨hslash, fun c hc => (hmem c hc).resolve_left List.not_mem_nil⟩

/-! ## Names -/

/-- **What may be the name of an entry**: a piece of a path that leads down. -/
structure IsName (name : String) : Prop where
  /-- It is not empty. -/
  nonempty : name ≠ ""
  /-- It has no slash. -/
  slash : '/' ∉ name.toList
  /-- It has no null character. -/
  null : '\x00' ∉ name.toList
  /-- It does not mean the directory that it stands in. -/
  not_dot : name ≠ "."
  /-- It does not mean the directory above. -/
  not_dots : name ≠ ".."

instance (name : String) : Decidable (IsName name) :=
  decidable_of_iff (name ≠ "" ∧ '/' ∉ name.toList ∧ '\x00' ∉ name.toList ∧ name ≠ "." ∧
      name ≠ "..")
    ⟨fun ⟨hne, hslash, hnull, hdot, hdots⟩ => ⟨hne, hslash, hnull, hdot, hdots⟩,
      fun ⟨hne, hslash, hnull, hdot, hdots⟩ => ⟨hne, hslash, hnull, hdot, hdots⟩⟩

theorem toList_join (path tail : Path) (h : tail.isAbsolute = false) :
    (path.join tail).toList = path.toList ++ tail.toList ∧
        (path.toList = [] ∨ path.toList.getLast? = some '/') ∨
      (path.join tail).toList = path.toList ++ '/' :: tail.toList ∧ path.toList ≠ [] := by
  rw [join, h, if_neg Bool.false_ne_true]
  split
  · rename_i hp
    refine Or.inl ⟨String.toList_append, hp.imp (fun he => ?_) fun hs => ?_⟩
    · rw [String.isEmpty_iff.1 he]; rfl
    · simpa [endsWithSlash] using hs
  · rename_i hp
    rw [not_or] at hp
    refine Or.inr ⟨by simp [String.toList_append], fun he => hp.1 ?_⟩
    rw [String.isEmpty_iff]
    exact String.toList_injective he

theorem isAbsolute_join {path tail : Path} (h : tail.isAbsolute = false) :
    (path.join tail).isAbsolute = path.isAbsolute := by
  unfold isAbsolute at h ⊢
  rcases toList_join path tail h with ⟨heq, hp⟩ | ⟨heq, hp⟩
  · rw [heq]
    cases hl : path.toList with
    | nil => simpa using h
    | cons c cs => rfl
  · rw [heq]
    cases hl : path.toList with
    | nil => exact absurd hl hp
    | cons c cs => rfl

theorem getLast?_join (path : Path) {tail : Path} (habs : tail.isAbsolute = false)
    (hne : tail.toList ≠ []) : (path.join tail).toList.getLast? = tail.toList.getLast? := by
  have hlast := List.getLast?_eq_some_getLast hne
  rcases toList_join path tail habs with ⟨heq, -⟩ | ⟨heq, -⟩
  · rw [heq, List.getLast?_append, hlast, Option.some_or]
  · rw [heq, List.getLast?_append, List.getLast?_cons, hlast]
    rfl

theorem endsWithSlash_join (path : Path) {tail : Path} (habs : tail.isAbsolute = false)
    (hne : tail.toList ≠ []) : (path.join tail).endsWithSlash = tail.endsWithSlash := by
  rw [endsWithSlash, endsWithSlash, getLast?_join path habs hne]

namespace IsName

variable {name : String}

theorem isAbsolute (h : IsName name) : Path.isAbsolute name = false := by
  unfold Path.isAbsolute
  cases hl : name.toList with
  | nil => rfl
  | cons c cs =>
    have hc : c ≠ '/' := by
      rintro rfl
      exact h.slash (hl ▸ List.mem_cons_self)
    simpa using hc

theorem toList_ne_nil (h : IsName name) : name.toList ≠ [] := fun he =>
  h.nonempty (String.toList_injective he)

theorem endsWithSlash (h : IsName name) : Path.endsWithSlash name = false :=
  beq_eq_false_iff_ne.2 fun hl => h.slash (List.mem_of_getLast? hl)

/-- A path that ends with a name does not end with a slash. -/
theorem endsWithSlash_join (h : IsName name) (path : Path) :
    (path.join name).endsWithSlash = false := by
  rw [Path.endsWithSlash_join path h.isAbsolute h.toList_ne_nil, h.endsWithSlash]

theorem join_ne_empty (h : IsName name) (path : Path) : (path.join name).isEmpty = false := by
  refine Bool.eq_false_iff.2 fun he => ?_
  have hl := getLast?_join path h.isAbsolute h.toList_ne_nil
  rw [String.isEmpty_iff.1 he] at hl
  exact h.toList_ne_nil (List.getLast?_eq_none_iff.1 hl.symm)

theorem null_not_mem_join (h : IsName name) {path : Path} (hp : '\x00' ∉ path.toList) :
    '\x00' ∉ (path.join name).toList := by
  have hn := h.null
  rcases toList_join path name h.isAbsolute with ⟨heq, -⟩ | ⟨heq, -⟩
  · rw [heq, List.mem_append, not_or]
    exact ⟨hp, hn⟩
  · rw [heq, List.mem_append, List.mem_cons, not_or, not_or]
    exact ⟨hp, by decide, hn⟩

end IsName

end Path

namespace Disk

open JavaFormat.Path

/-! ## Steps -/

/-- The steps that the pieces of a text ask for. -/
def pieceSteps (text : List Char) : List Step :=
  ((pieces text).filter (· != [])).map Step.ofPiece

theorem stepsOf_eq (path : Path) :
    stepsOf path = (if path.isAbsolute then [.root] else []) ++ pieceSteps path.toList := rfl

theorem pieceSteps_append_slash (s t : List Char) :
    pieceSteps (s ++ '/' :: t) = pieceSteps s ++ pieceSteps t := by
  rw [pieceSteps, pieces_append_slash, List.filter_append, List.map_append]
  rfl

@[simp] theorem pieceSteps_nil : pieceSteps [] = [] := rfl

/-- **A path continued by another one asks for the steps of both.** -/
theorem stepsOf_join (path : Path) {tail : Path} (h : tail.isAbsolute = false) :
    stepsOf (path.join tail) = stepsOf path ++ stepsOf tail := by
  have hsteps : pieceSteps (path.join tail).toList
      = pieceSteps path.toList ++ pieceSteps tail.toList := by
    rcases toList_join path tail h with ⟨heq, hp | hp⟩ | ⟨heq, -⟩
    · rw [heq, hp, List.nil_append, pieceSteps_nil, List.nil_append]
    · obtain ⟨front, hfront⟩ := List.getLast?_eq_some_iff.1 hp
      rw [heq, hfront, List.append_assoc, List.singleton_append, pieceSteps_append_slash,
        pieceSteps_append_slash, pieceSteps_nil, List.append_nil]
    · rw [heq, pieceSteps_append_slash]
  rw [stepsOf_eq, stepsOf_eq, stepsOf_eq, isAbsolute_join h, h, hsteps, List.append_assoc]
  rfl

theorem stepsOf_name {name : String} (h : IsName name) : stepsOf name = [.down name] := by
  have hd : name.toList ≠ ['.'] := fun he => h.not_dot (String.toList_injective he)
  have hds : name.toList ≠ ['.', '.'] := fun he => h.not_dots (String.toList_injective he)
  have hne : (name.toList != []) = true := by simpa using h.toList_ne_nil
  rw [stepsOf_eq, h.isAbsolute, pieceSteps, pieces_of_not_mem h.slash]
  simp only [Bool.false_eq_true, if_false, List.nil_append, List.filter_cons, hne, if_true,
    List.filter_nil, List.map_cons, List.map_nil]
  rw [Step.ofPiece, if_neg hd, if_neg hds, String.ofList_toList]

/-- A path continued by a name leads one step further down. -/
theorem stepsOf_join_name (path : Path) {name : String} (h : IsName name) :
    stepsOf (path.join name) = stepsOf path ++ [.down name] := by
  rw [stepsOf_join path h.isAbsolute, stepsOf_name h]

/-- A path continued by names leads down along them. -/
theorem stepsOf_foldl_join (path : Path) {names : List String} (h : ∀ name ∈ names, IsName name) :
    stepsOf (names.foldl join path) = stepsOf path ++ names.map .down := by
  induction names generalizing path with
  | nil => exact (List.append_nil _).symm
  | cons name names ih =>
    rw [List.foldl_cons, ih _ fun n hn => h n (List.mem_cons_of_mem _ hn),
      stepsOf_join_name path (h name List.mem_cons_self), List.append_assoc]
    rfl

theorem isName_of_ofPiece {piece : List Char} {name : String}
    (h : Step.ofPiece piece = .down name) (hne : piece ≠ []) (hslash : '/' ∉ piece)
    (hnull : '\x00' ∉ piece) : IsName name := by
  unfold Step.ofPiece at h
  split at h
  · cases h
  · rename_i hd
    split at h
    · cases h
    · rename_i hds
      obtain rfl := Step.down.inj h
      have hlist : ∀ text : String, String.ofList piece = text → piece = text.toList := by
        rintro text rfl
        rw [String.toList_ofList]
      exact ⟨fun he => hne (hlist _ he), by rwa [String.toList_ofList],
        by rwa [String.toList_ofList], fun he => hd (hlist _ he), fun he => hds (hlist _ he)⟩

/-- The names that a path leads to are names of entries. -/
theorem isName_of_mem_stepsOf {path : Path} {name : String} (hp : '\x00' ∉ path.toList)
    (h : Step.down name ∈ stepsOf path) : IsName name := by
  have h : Step.down name ∈ pieceSteps path.toList := by
    rw [stepsOf_eq] at h
    rcases List.mem_append.1 h with h | h
    · split at h <;> simp at h
    · exact h
  obtain ⟨piece, hpiece, hdown⟩ := List.mem_map.1 h
  obtain ⟨hpiece, hne⟩ := List.mem_filter.1 hpiece
  obtain ⟨hslash, hmem⟩ := mem_pieces hpiece
  exact isName_of_ofPiece hdown (by simpa using hne) hslash fun hn => hp (hmem _ hn)

/-! ## Steps and components -/

/-- The step that a component of a path asks for, if it leads anywhere. -/
def Step.ofComponent? : Component → Option Step
  | .root => some .root
  | .current => none
  | .parent => some .up
  | .name name => some (.down name)

theorem filter_steps (ps : List (List Char)) :
    ((ps.filter (· != [])).map Step.ofPiece).filter (· ≠ .stay)
      = ((ps.filter fun piece => !isVoid piece).map Cut.componentOf).filterMap
          Step.ofComponent? := by
  induction ps with
  | nil => rfl
  | cons piece ps ih =>
    by_cases hne : piece = []
    · subst hne; simpa [isVoid] using ih
    · by_cases hd : piece = ['.']
      · subst hd; simpa [isVoid, Step.ofPiece] using ih
      · by_cases hds : piece = ['.', '.']
        · subst hds
          simpa [isVoid, Step.ofPiece, Cut.componentOf, Step.ofComponent?] using ih
        · simpa [isVoid, Step.ofPiece, Cut.componentOf, Step.ofComponent?, hne, hd, hds] using ih

theorem cut_of_isAbsolute {path : Path} (h : path.isAbsolute = true) :
    ∃ text, pieces path.toList = [] :: pieces text ∧
      Cut.ofPath path = ⟨some .root, pieces text⟩ := by
  obtain ⟨text, htext⟩ := List.head?_eq_some_iff.1 (by simpa [isAbsolute] using h)
  have hp : pieces path.toList = [] :: pieces text := by rw [htext, pieces_slash]
  refine ⟨text, hp, ?_⟩
  unfold Cut.ofPath
  rw [hp]
  cases ht : pieces text with
  | nil => exact absurd ht (pieces_ne_nil text)
  | cons p ps => rfl

theorem cut_of_not_isAbsolute {path : Path} (h : path.isAbsolute = false) :
    Cut.ofPath path = ⟨none, pieces path.toList⟩ ∨
      ∃ ps, pieces path.toList = ['.'] :: ps ∧ Cut.ofPath path = ⟨some .current, ps⟩ := by
  unfold Cut.ofPath
  split
  · rename_i p ps hp
    exact absurd hp (pieces_ne_of_not_isAbsolute h p ps)
  · rename_i ps hp
    exact Or.inr ⟨ps, hp, rfl⟩
  · exact Or.inl rfl

/-- **Components say what the steps along a path are**, but for those that stay where they are. -/
theorem filter_stepsOf (path : Path) :
    (stepsOf path).filter (· ≠ .stay) = path.components.filterMap Step.ofComponent? := by
  rw [stepsOf_eq, List.filter_append]
  cases habs : path.isAbsolute with
  | true =>
    obtain ⟨text, hpieces, hcut⟩ := cut_of_isAbsolute habs
    rw [pieceSteps, hpieces, components, hcut, filter_steps]
    rfl
  | false =>
    rw [pieceSteps, filter_steps, components]
    rcases cut_of_not_isAbsolute habs with hcut | ⟨ps, hps, hcut⟩
    · rw [hcut]
      rfl
    · rw [hcut, hps]
      rfl

/-- Paths with the same components ask for the same steps, but for those that stay. -/
theorem filter_stepsOf_eq {p q : Path} (h : same p q = true) :
    (stepsOf p).filter (· ≠ .stay) = (stepsOf q).filter (· ≠ .stay) := by
  rw [filter_stepsOf, filter_stepsOf, eq_of_beq h]

/-- A path without a component `..` never leads up. -/
theorem up_not_mem_stepsOf {path : Path} (h : Component.parent ∉ path.components) :
    Step.up ∉ stepsOf path := by
  intro hup
  have hmem : Step.up ∈ (stepsOf path).filter (· ≠ .stay) :=
    List.mem_filter.2 ⟨hup, by simp⟩
  rw [filter_stepsOf] at hmem
  obtain ⟨c, hc, hstep⟩ := List.mem_filterMap.1 hmem
  cases c with
  | parent => exact h hc
  | root => simp [Step.ofComponent?] at hstep
  | current => simp [Step.ofComponent?] at hstep
  | name n => simp [Step.ofComponent?] at hstep

theorem up_not_mem_stepsOf_join {path tail : Path} (habs : tail.isAbsolute = false)
    (h : Step.up ∉ stepsOf path) (ht : Step.up ∉ stepsOf tail) :
    Step.up ∉ stepsOf (path.join tail) := by
  rw [stepsOf_join path habs, List.mem_append, not_or]
  exact ⟨h, ht⟩

/-! ## Pieces that say nothing -/

/-- A path with `n` pieces `.` in front. -/
def dotted : Nat → Path → Path
  | 0, path => path
  | n + 1, path => "./" ++ dotted n path

theorem utf8ByteSize_dotted (n : Nat) (path : Path) :
    (dotted n path).utf8ByteSize = 2 * n + path.utf8ByteSize := by
  induction n with
  | zero => rw [dotted, Nat.mul_zero, Nat.zero_add]
  | succ n ih =>
    have htwo : ("./" : String).utf8ByteSize = 2 := by decide
    rw [dotted, String.utf8ByteSize_append, ih, htwo]
    omega

theorem toList_dotted_succ (n : Nat) (path : Path) :
    (dotted (n + 1) path).toList = '.' :: '/' :: (dotted n path).toList := by
  rw [dotted, String.toList_append]
  rfl

theorem pieces_dotted_succ (n : Nat) (path : Path) :
    pieces (dotted (n + 1) path).toList = ['.'] :: pieces (dotted n path).toList := by
  rw [toList_dotted_succ]
  exact pieces_append_slash ['.'] _

theorem null_not_mem_dotted (n : Nat) {path : Path} (h : '\x00' ∉ path.toList) :
    '\x00' ∉ (dotted n path).toList := by
  induction n with
  | zero => exact h
  | succ n ih =>
    rw [toList_dotted_succ]
    simpa using ih

theorem isAbsolute_dotted (n : Nat) {path : Path} (h : path.isAbsolute = false) :
    (dotted n path).isAbsolute = false := by
  cases n with
  | zero => exact h
  | succ n => rw [Path.isAbsolute, toList_dotted_succ]; rfl

theorem pieceSteps_dotted (n : Nat) (path : Path) :
    pieceSteps (dotted n path).toList = List.replicate n .stay ++ pieceSteps path.toList := by
  induction n with
  | zero => rfl
  | succ n ih =>
    rw [pieceSteps, pieces_dotted_succ, List.replicate_succ, List.cons_append, ← ih]
    rfl

/-- Pieces `.` in front of a path say nothing, whatever their number. -/
theorem stepsOf_dotted (n : Nat) {path : Path} (h : path.isAbsolute = false) :
    stepsOf (dotted n path) = List.replicate n .stay ++ stepsOf path := by
  rw [stepsOf_eq, stepsOf_eq, isAbsolute_dotted n h, h, pieceSteps_dotted]
  rfl

theorem le_utf8ByteSize_join (path tail : Path) (h : tail.isAbsolute = false) :
    path.utf8ByteSize + tail.utf8ByteSize ≤ (path.join tail).utf8ByteSize := by
  rw [Path.join, h, if_neg Bool.false_ne_true]
  split
  · exact Nat.le_of_eq String.utf8ByteSize_append.symm
  · rw [String.utf8ByteSize_append, String.utf8ByteSize_append]
    omega

end Disk

end JavaFormat
