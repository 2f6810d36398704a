import JavaFormat.Proofs.Disk.Parent

/-!
# What a path names

The components of a path are what it starts with, which is the root, the component `.` or neither,
and what it `Path.named` after that (`components_eq`).  Continuing a path by a name keeps the start
and adds the name, under which the longer path is found below the shorter one (`relativeTo?_join`).
The absolute form of a path names what the path does, from the root or below the working directory
(`components_absolute`).  So paths that start alike have the same components if their absolute forms
do (`same_of_absolute`).
-/

set_option autoImplicit false

namespace JavaFormat

namespace Path

open Disk

/-! ## Start and names -/

/-- What a path starts with: the root, the component `.` or neither. -/
def start? (path : Path) : Option Component := (Cut.ofPath path).start

/-- The components that some pieces spell. -/
def namedBy (ps : List (List Char)) : List Component :=
  (ps.filter fun piece => !isVoid piece).map Cut.componentOf

/-- The components of a path after its start. -/
def named (path : Path) : List Component := namedBy (pieces path.toList)

theorem namedBy_append (ps qs : List (List Char)) :
    namedBy (ps ++ qs) = namedBy ps ++ namedBy qs := by
  rw [namedBy, List.filter_append, List.map_append]
  rfl

/-- The pieces after the start of a path are all but one that names nothing. -/
theorem exists_lead (path : Path) :
    ∃ lead, namedBy lead = [] ∧ pieces path.toList = lead ++ (Cut.ofPath path).body := by
  cases habs : path.isAbsolute with
  | true =>
    obtain ⟨text, hpieces, hcut⟩ := cut_of_isAbsolute habs
    exact ⟨[[]], rfl, by rw [hpieces, hcut]; rfl⟩
  | false =>
    rcases cut_of_not_isAbsolute habs with hcut | ⟨ps, hps, hcut⟩
    · exact ⟨[], rfl, by rw [hcut]; rfl⟩
    · exact ⟨[['.']], rfl, by rw [hps, hcut]; rfl⟩

theorem components_eq (path : Path) : path.components = path.start?.toList ++ path.named := by
  obtain ⟨lead, hlead, hpieces⟩ := exists_lead path
  rw [named, hpieces, namedBy_append, hlead, List.nil_append]
  rfl

theorem start?_eq (path : Path) :
    path.start? = if path.isAbsolute then some .root
      else if (pieces path.toList).head? = some ['.'] then some .current else none := by
  cases habs : path.isAbsolute with
  | true =>
    obtain ⟨text, -, hcut⟩ := cut_of_isAbsolute habs
    rw [start?, hcut]
    rfl
  | false =>
    rw [start?, Cut.ofPath]
    split
    · rename_i p ps hp
      exact absurd hp (pieces_ne_of_not_isAbsolute habs p ps)
    · rename_i ps hp
      rw [hp]
      rfl
    · rename_i ps hroot hcurrent
      rw [if_neg Bool.false_ne_true, if_neg]
      intro hhead
      obtain ⟨ps, hps⟩ := List.head?_eq_some_iff.1 hhead
      exact hcurrent ps hps

theorem start?_eq_root_iff {path : Path} : path.start? = some .root ↔ path.isAbsolute = true := by
  rw [start?_eq]
  cases path.isAbsolute with
  | true => simp
  | false =>
    simp only [Bool.false_eq_true, if_false, iff_false]
    split <;> exact nofun

/-- Whether a component is read back as it is spelled, which no start is. -/
structure IsSpelled (c : Component) : Prop where
  /-- It is what its text spells. -/
  own : Cut.componentOf c.text = c
  /-- Its text is one piece. -/
  slash : '/' ∉ c.text
  /-- Its text says something. -/
  notVoid : isVoid c.text = false

theorem IsName.isSpelled {name : String} (h : IsName name) : IsSpelled (.name name) := by
  have hdot : name.toList ≠ ['.'] := fun he => h.not_dot (String.toList_injective he)
  have hdots : name.toList ≠ ['.', '.'] := fun he => h.not_dots (String.toList_injective he)
  refine ⟨?_, h.slash, by simp [isVoid, Component.text, h.toList_ne_nil, hdot]⟩
  rw [Cut.componentOf, Component.text, if_neg hdots, String.ofList_toList]

/-- What a path names are names and components `..`. -/
theorem isSpelled_of_mem_named {path : Path} {c : Component} (h : c ∈ path.named) :
    IsSpelled c := by
  obtain ⟨piece, hpiece, rfl⟩ := List.mem_map.1 h
  obtain ⟨hpiece, hvoid⟩ := List.mem_filter.1 hpiece
  have htext : (Cut.componentOf piece).text = piece := by
    rw [Cut.componentOf]
    split
    · rename_i hdots
      rw [hdots]
      rfl
    · exact String.toList_ofList
  refine ⟨?_, ?_, ?_⟩ <;> rw [htext]
  · exact (mem_pieces hpiece).1
  · simpa using hvoid

theorem filter_components (path : Path) :
    path.components.filter (fun c => c ≠ .root ∧ c ≠ .current) = path.named := by
  have hnamed : path.named.filter (fun c => c ≠ .root ∧ c ≠ .current) = path.named := by
    refine List.filter_eq_self.2 fun c hc => ?_
    have hown := (isSpelled_of_mem_named hc).own
    cases c with
    | root => cases hown
    | current => cases hown
    | parent => rfl
    | name n => rfl
  have hstart : path.start?.toList.filter (fun c => c ≠ .root ∧ c ≠ .current) = [] := by
    rw [start?_eq]
    split
    · rfl
    · split <;> rfl
  rw [components_eq, List.filter_append, hnamed, hstart, List.nil_append]

/-! ## Continuing a path -/

variable {path : Path} {name : String}

theorem namedBy_name (h : IsName name) : namedBy [name.toList] = [.name name] := by
  obtain ⟨hown, -, hvoidName⟩ := h.isSpelled
  have hkept : (!isVoid name.toList) = true := by
    rw [show isVoid name.toList = false from hvoidName]
    rfl
  rw [namedBy, List.filter_cons, if_pos hkept, List.filter_nil, List.map_cons, List.map_nil]
  exact congrArg (fun c => [c]) hown

/-- A path continued by a name has one more piece, in the place of the empty one at its end if it
ends with a slash. -/
theorem pieces_join (hne : path ≠ "") (h : IsName name) :
    ∃ front back, front ≠ [] ∧ pieces path.toList = front ++ back ∧ namedBy back = [] ∧
      pieces (path.join name).toList = front ++ [name.toList] := by
  have hname := pieces_of_not_mem h.slash
  rcases toList_join path name h.isAbsolute with ⟨heq, hp | hp⟩ | ⟨heq, -⟩
  · exact absurd (String.toList_injective hp) hne
  · obtain ⟨front, hfront⟩ := List.getLast?_eq_some_iff.1 hp
    refine ⟨pieces front, [[]], pieces_ne_nil front, ?_, rfl, ?_⟩
    · rw [hfront, pieces_append_slash]
      rfl
    · rw [heq, hfront, List.append_assoc, List.singleton_append, pieces_append_slash, hname]
  · refine ⟨pieces path.toList, [], pieces_ne_nil _, (List.append_nil _).symm, rfl, ?_⟩
    rw [heq, pieces_append_slash, hname]

theorem start?_join (hne : path ≠ "") (h : IsName name) :
    (path.join name).start? = path.start? := by
  obtain ⟨front, back, hfront, hpath, -, hjoin⟩ := pieces_join hne h
  obtain ⟨p, ps, rfl⟩ := List.exists_cons_of_ne_nil hfront
  rw [start?_eq, start?_eq, isAbsolute_join h.isAbsolute, hpath, hjoin]
  rfl

theorem named_join (hne : path ≠ "") (h : IsName name) :
    (path.join name).named = path.named ++ [.name name] := by
  obtain ⟨front, back, -, hpath, hback, hjoin⟩ := pieces_join hne h
  rw [named, named, hpath, hjoin, namedBy_append, namedBy_append, hback, namedBy_name h,
    List.append_nil]

theorem join_ne (h : IsName name) : path.join name ≠ "" := fun he => by
  have hempty := h.join_ne_empty path
  rw [he] at hempty
  cases hempty

/-- **A path continued by names** starts as it did and names these, too. -/
theorem foldl_join {names : List String} (hne : path ≠ "") (h : ∀ name ∈ names, IsName name) :
    (names.foldl join path).start? = path.start? ∧
      (names.foldl join path).named = path.named ++ names.map .name := by
  induction names generalizing path with
  | nil => exact ⟨rfl, (List.append_nil _).symm⟩
  | cons name names ih =>
    have hname := h name List.mem_cons_self
    obtain ⟨hstart, hnamed⟩ := ih (join_ne hname) fun n hn => h n (List.mem_cons_of_mem _ hn)
    rw [List.foldl_cons]
    exact ⟨hstart.trans (start?_join hne hname),
      hnamed.trans (by rw [named_join hne hname, List.append_assoc]; rfl)⟩

theorem components_foldl_join {names : List String} (hne : path ≠ "")
    (h : ∀ name ∈ names, IsName name) :
    (names.foldl join path).components = path.components ++ names.map .name := by
  obtain ⟨hstart, hnamed⟩ := foldl_join hne h
  rw [components_eq, components_eq, hstart, hnamed, List.append_assoc]

/-- Different names continue a path to different ones. -/
theorem foldl_join_inj {names others : List String} (hne : path ≠ "")
    (h : ∀ name ∈ names, IsName name) (h' : ∀ name ∈ others, IsName name)
    (heq : names.foldl join path = others.foldl join path) : names = others := by
  have hcomponents := components_foldl_join hne h
  rw [heq, components_foldl_join hne h', List.append_cancel_left_eq] at hcomponents
  exact (List.map_inj_right fun _ _ hname => Component.name.inj hname).1 hcomponents.symm

theorem components_join (hne : path ≠ "") (h : IsName name) :
    (path.join name).components = path.components ++ [.name name] := by
  rw [components_eq, components_eq, start?_join hne h, named_join hne h, List.append_assoc]

theorem fileName?_join (hne : path ≠ "") (h : IsName name) :
    (path.join name).fileName? = some name := by
  rw [fileName?, components_join hne h, List.getLast?_concat]

/-- After as many pieces as some name something comes what follows them, behind pieces that say
nothing. -/
theorem piecesAfter_append (ps : List (List Char)) (rest : List (List Char)) :
    ∃ void, (∀ piece ∈ void, isVoid piece = true) ∧
      piecesAfter (namedBy ps).length (ps ++ rest) = void ++ rest := by
  induction ps with
  | nil => exact ⟨[], nofun, by rw [List.nil_append]; cases rest <;> rfl⟩
  | cons piece ps ih =>
    cases hvoid : isVoid piece with
    | false =>
      have hlength : (namedBy (piece :: ps)).length = (namedBy ps).length + 1 := by
        rw [namedBy, List.filter_cons_of_pos (by rw [hvoid]; rfl)]
        rfl
      rw [hlength, List.cons_append, piecesAfter, if_neg (by rw [hvoid]; exact Bool.false_ne_true)]
      exact ih
    | true =>
      have hsame : namedBy (piece :: ps) = namedBy ps := by
        rw [namedBy, List.filter_cons_of_neg (by rw [hvoid]; exact Bool.false_ne_true)]
        rfl
      obtain ⟨void, hall, hafter⟩ := ih
      rw [hsame]
      cases hn : (namedBy ps).length with
      | zero =>
        rw [hn, piecesAfter] at hafter
        rw [List.cons_append, piecesAfter, hafter]
        exact ⟨piece :: void, List.forall_mem_cons.2 ⟨hvoid, hall⟩, rfl⟩
      | succ n =>
        rw [hn] at hafter
        rw [List.cons_append, piecesAfter, if_pos hvoid]
        exact ⟨void, hall, hafter⟩

/-- The body of a path that is continued by a name ends with the name. -/
theorem exists_body_join (hne : path ≠ "") (h : IsName name) :
    ∃ ps, (Cut.ofPath (path.join name)).body = ps ++ [name.toList] ∧ namedBy ps = path.named := by
  obtain ⟨lead, hlead, hbody⟩ := exists_lead (path.join name)
  have hnamed : namedBy (Cut.ofPath (path.join name)).body = path.named ++ [.name name] := by
    rw [← named_join hne h, named, hbody, namedBy_append, hlead, List.nil_append]
  obtain ⟨front, back, -, -, -, hjoin⟩ := pieces_join hne h
  rcases List.eq_nil_or_concat (Cut.ofPath (path.join name)).body with hnil | ⟨ps, last, hps⟩
  · rw [hnil] at hnamed
    exact absurd hnamed.symm (by simp [namedBy])
  · rw [List.concat_eq_append] at hps
    rw [hjoin, hps, ← List.append_assoc] at hbody
    obtain rfl := (List.cons.inj (List.append_inj' hbody rfl).2).1
    rw [hps, namedBy_append, namedBy_name h] at hnamed
    exact ⟨ps, hps, List.append_cancel_right hnamed⟩

/-- **A path continued by a name** is found below the path under that name. -/
theorem relativeTo?_join (hcomponents : path.components ≠ []) (h : IsName name) :
    (path.join name).relativeTo? path = some name := by
  have hne : path ≠ "" := by
    rintro rfl
    exact hcomponents rfl
  obtain ⟨ps, hbody, hnamed⟩ := exists_body_join hne h
  obtain ⟨void, hvoid, hafter⟩ := piecesAfter_append ps [name.toList]
  have hlength : path.components.length - (Cut.ofPath (path.join name)).start.toList.length =
      (namedBy ps).length := by
    rw [components_eq, hnamed, ← start?_join hne h, List.length_append, start?]
    exact Nat.add_sub_cancel_left _ _
  have hbelow : path.components.isPrefixOf (Cut.ofPath (path.join name)).components = true := by
    rw [List.isPrefixOf_iff_prefix]
    exact ⟨[.name name], (components_join hne h).symm⟩
  have hvoidName : isVoid name.toList = false := h.isSpelled.notVoid
  have hdrop : (void ++ [name.toList]).dropWhile isVoid = [name.toList] := by
    rw [List.dropWhile_append_of_pos hvoid, List.dropWhile_cons_of_neg (by simp [hvoidName])]
  have htrim : trimEnd [name.toList] = [name.toList] := by simp [trimEnd, hvoidName]
  rw [relativeTo?]
  simp only [hbelow, if_true]
  rw [hlength, hbody, hafter, hdrop, htrim]
  simp [spell]

theorem named_dotted (n : Nat) (path : Path) : (dotted n path).named = path.named := by
  induction n with
  | zero => rfl
  | succ n ih =>
    rw [named, pieces_dotted_succ, ← ih]
    rfl

/-- Pieces `.` in front of a path count as one component. -/
theorem components_dotted (n : Nat) (path : Path) :
    (dotted (n + 1) path).components = .current :: path.named := by
  have hstart : (dotted (n + 1) path).start? = some .current := by
    rw [start?_eq, isAbsolute, pieces_dotted_succ, toList_dotted_succ]
    rfl
  rw [components_eq, hstart, named_dotted]
  rfl

/-! ## Absolute forms -/

/-- The components above a path: those of the working directory, unless the path is absolute. -/
def above (home : List String) (path : Path) : List Component :=
  if path.isAbsolute then [] else home.map .name

theorem namedBy_spell {cs : List Component} (h : ∀ c ∈ cs, IsSpelled c) :
    namedBy (pieces (spell (cs.map Component.text))) = cs := by
  cases cs with
  | nil => rfl
  | cons c cs =>
    have hpieces : pieces (spell ((c :: cs).map Component.text)) =
        (c :: cs).map Component.text := by
      refine pieces_spell (List.cons_ne_nil _ _) fun piece hpiece => ?_
      obtain ⟨d, hd, rfl⟩ := List.mem_map.1 hpiece
      exact (h d hd).slash
    have hall : (c :: cs).filter ((fun piece => !isVoid piece) ∘ Component.text) = c :: cs :=
      List.filter_eq_self.2 fun d hd => by simp [(h d hd).notVoid]
    rw [hpieces, namedBy, List.filter_map, List.map_map, hall]
    exact (List.map_congr_left fun d hd => (h d hd).own).trans (List.map_id _)

/-- The components of an absolute path that is spelled out, with slashes in front and behind. -/
theorem components_spell {cs : List Component} (h : ∀ c ∈ cs, IsSpelled c) {front back : List Char}
    (hfront : front = ['/'] ∨ front = ['/', '/']) (hback : back = [] ∨ back = ['/']) :
    components (String.ofList (front ++ spell (cs.map Component.text) ++ back)) = .root :: cs := by
  have hcs := namedBy_spell h
  generalize spell (cs.map Component.text) = text at hcs
  have hend : namedBy (pieces (text ++ back)) = cs := by
    rcases hback with rfl | rfl
    · rw [List.append_nil, hcs]
    · rw [pieces_append_slash, namedBy_append, hcs]
      exact List.append_nil _
  have hnamed : namedBy (pieces (front ++ text ++ back)) = cs := by
    rw [List.append_assoc]
    rcases hfront with rfl | rfl
    · rw [List.singleton_append, pieces_slash]
      exact hend
    · rw [show ['/', '/'] ++ (text ++ back) = '/' :: '/' :: (text ++ back) from rfl, pieces_slash,
        pieces_slash]
      exact hend
  have habs : isAbsolute (String.ofList (front ++ text ++ back)) = true := by
    rcases hfront with rfl | rfl <;> simp [isAbsolute, String.toList_ofList]
  rw [components_eq, start?_eq_root_iff.2 habs, named, String.toList_ofList, hnamed]
  rfl

/-- An absolute form is spelled out, with one or two slashes in front and at most one behind. -/
theorem absolute_eq (home : List String) (hne : path ≠ "") :
    ∃ front back, (front = ['/'] ∨ front = ['/', '/']) ∧ (back = [] ∨ back = ['/']) ∧
      absolute home path = String.ofList
        (front ++ spell ((path.above home ++ path.named).map Component.text) ++ back) := by
  have hempty : path.isEmpty = false := by simpa [String.isEmpty_iff] using hne
  have hback : ∀ text : List Char, ∃ back : List Char, (back = [] ∨ back = ['/']) ∧
      (if path.endsWithSlash ∧ text.getLast? ≠ some '/' then text ++ ['/'] else text) =
        text ++ back := by
    intro text
    split
    · exact ⟨['/'], Or.inr rfl, rfl⟩
    · exact ⟨[], Or.inl rfl, (List.append_nil _).symm⟩
  rw [absolute, hempty, if_neg Bool.false_ne_true, above]
  simp only [filter_components]
  cases path.isAbsolute with
  | true =>
    simp only [if_true, List.nil_append]
    generalize hfront :
      (if path.toList.takeWhile (· == '/') = ['/', '/'] then ['/', '/'] else ['/']) = front
    obtain ⟨back, hback, hspelled⟩ := hback (front ++ spell (path.named.map Component.text))
    refine ⟨front, back, ?_, hback, congrArg String.ofList hspelled⟩
    rw [← hfront]
    split
    · exact Or.inr rfl
    · exact Or.inl rfl
  | false =>
    have hnames : (home.map Component.name ++ path.named).map Component.text =
        home.map String.toList ++ path.named.map Component.text := by
      rw [List.map_append, List.map_map]
      rfl
    simp only [Bool.false_eq_true, if_false, hnames]
    obtain ⟨back, hback, hspelled⟩ :=
      hback ('/' :: spell (home.map String.toList ++ path.named.map Component.text))
    exact ⟨['/'], back, Or.inl rfl, hback, congrArg String.ofList hspelled⟩

/-- **The absolute form of a path** starts at the root and names what the path does, below the
working directory unless the path is absolute. -/
theorem components_absolute {home : List String} (hhome : ∀ name ∈ home, IsName name)
    (hne : path ≠ "") :
    (absolute home path).components = .root :: (path.above home ++ path.named) := by
  obtain ⟨front, back, hfront, hback, heq⟩ := absolute_eq home hne
  rw [heq]
  refine components_spell (fun c hc => ?_) hfront hback
  rcases List.mem_append.1 hc with hc | hc
  · rw [above] at hc
    split at hc
    · cases hc
    · obtain ⟨name, hname, rfl⟩ := List.mem_map.1 hc
      exact (hhome name hname).isSpelled
  · exact isSpelled_of_mem_named hc

/-- **Paths that start alike are the same** if their absolute forms are. -/
theorem same_of_absolute {home : List String} (hhome : ∀ name ∈ home, IsName name) {p q : Path}
    (hp : p ≠ "") (hq : q ≠ "") (hstart : p.start? = q.start?)
    (h : same (absolute home p) (absolute home q) = true) : same p q = true := by
  have habs : p.isAbsolute = q.isAbsolute := by
    rw [Bool.eq_iff_iff, ← start?_eq_root_iff, ← start?_eq_root_iff, hstart]
  have hcomponents := eq_of_beq h
  rw [components_absolute hhome hp, components_absolute hhome hq, above, above, habs] at hcomponents
  have hnamed := List.append_cancel_left (List.cons.inj hcomponents).2
  rw [same, components_eq, components_eq, hstart, hnamed]
  exact beq_self_eq_true _

end Path

end JavaFormat
