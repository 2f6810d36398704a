import JavaFormat.Path

/-!
# Disks

A disk holds files, directories and symbolic links, each at a `Location`, the list of names that
lead to it from the root.  Every entry lies in a directory.  `Disk.get?` is the view of a disk; the
operations `add` and `setBytes` are described by what they do to it:

* `get?_add`: a new entry stands at its location, and nothing else changes;
* `get?_setBytes`: the bytes of one file change, and nothing else does;
* `hasDir_of_get?`: what holds an entry is a directory.

A disk may deny changes to some of its entries (`Disk.denial?`): a file that cannot be opened for
writing, a directory in which nothing can be created.  What it denies is the same after a change,
and it denies nothing about an entry that is new (`denial?_eq_none`).

Left out are permissions to read a file, to list a directory and to go through one, which every disk
gives; a write that fails after the file was opened, as it may where the disk fills up meanwhile;
names that are not UTF-8, hard links, mounted disks and files that are not regular; times, owners
and other attributes; and other programs that change the disk during a run.
-/

set_option autoImplicit false

namespace JavaFormat

/-- The names that lead from the root to an entry. -/
abbrev Location := List String

/-- What may stand at a location. -/
inductive Entry where
  /-- A regular file with its content. -/
  | file (bytes : List UInt8)
  /-- A directory. -/
  | dir
  /-- A symbolic link with the path that it stands for. -/
  | link (target : Path)
  deriving DecidableEq

/-- Why a change is denied. -/
inductive Denial where
  /-- The permissions do not allow it. -/
  | permission
  /-- Everything there can only be read. -/
  | readOnly
  /-- There is no space for it. -/
  | noSpace
  deriving DecidableEq, Repr

/-- Files, directories and symbolic links, and the working directory. -/
structure Disk where
  /-- The working directory. -/
  home : Location
  /-- What stands where; the root is left out. -/
  entries : List (Location × Entry)
  /-- The files that cannot be opened for writing and the directories in which nothing can be
  created. -/
  denials : List (Location × Denial)
  /-- At most one entry stands at a location. -/
  nodup : (entries.map Prod.fst).Nodup
  /-- Every entry is in the root or in a directory. -/
  inDir : ∀ (l : Location) (n : String) (e : Entry), (l ++ [n], e) ∈ entries →
    l = [] ∨ (l, Entry.dir) ∈ entries
  /-- What is denied is about the root or an entry. -/
  ofEntry : ∀ (l : Location) (d : Denial), (l, d) ∈ denials → l = [] ∨ ∃ e, (l, e) ∈ entries

namespace Disk

/-- What stands at a location. -/
def get? (disk : Disk) (l : Location) : Option Entry :=
  if l = [] then some .dir else disk.entries.lookup l

/-- Whether a directory stands at a location. -/
def hasDir (disk : Disk) (l : Location) : Bool := disk.get? l == some .dir

/-- Why changes at a location are denied, if they are. -/
def denial? (disk : Disk) (l : Location) : Option Denial := disk.denials.lookup l

theorem lookup_eq_some {disk : Disk} {l : Location} {e : Entry} :
    disk.entries.lookup l = some e ↔ (l, e) ∈ disk.entries := by
  have h : ∀ es : List (Location × Entry), (es.map Prod.fst).Nodup →
      (es.lookup l = some e ↔ (l, e) ∈ es) := by
    intro es
    induction es with
    | nil => simp
    | cons x xs ih =>
      obtain ⟨k, v⟩ := x
      intro hn
      simp only [List.map_cons, List.nodup_cons] at hn
      by_cases hk : l = k
      · subst hk
        have hno : (l, e) ∉ xs := fun hm => hn.1 (List.mem_map.2 ⟨_, hm, rfl⟩)
        simp only [List.lookup_cons, beq_self_eq_true, List.mem_cons, Prod.mk.injEq, true_and,
          hno, or_false, Option.some.injEq]
        exact eq_comm
      · have hb : (l == k) = false := by simpa using hk
        simp only [List.lookup_cons, hb, ih hn.2, List.mem_cons, Prod.mk.injEq, hk, false_and,
          false_or]
  exact h _ disk.nodup

/-- An entry is in a directory. -/
theorem hasDir_of_get? {disk : Disk} {l : Location} {n : String} {e : Entry}
    (h : disk.get? (l ++ [n]) = some e) : disk.hasDir l = true := by
  have hm : (l ++ [n], e) ∈ disk.entries := by
    rw [get?, if_neg (by simp)] at h
    exact lookup_eq_some.1 h
  unfold hasDir get?
  rcases disk.inDir l n e hm with rfl | hd
  · simp
  · by_cases hl : l = []
    · simp [hl]
    · rw [if_neg hl, lookup_eq_some.2 hd]; simp

theorem get?_eq_none {disk : Disk} {l : Location} (h : disk.get? l = none) (e : Entry) :
    (l, e) ∉ disk.entries := by
  intro hm
  unfold get? at h
  by_cases hl : l = []
  · simp [hl] at h
  · rw [if_neg hl, lookup_eq_some.2 hm] at h; simp at h

theorem hasDir_iff {disk : Disk} {l : Location} :
    disk.hasDir l = true ↔ l = [] ∨ (l, Entry.dir) ∈ disk.entries := by
  unfold hasDir get?
  by_cases hl : l = []
  · simp [hl]
  · simp [hl, ← lookup_eq_some]

/-- Nothing is denied where nothing stands. -/
theorem denial?_eq_none {disk : Disk} {l : Location} (h : disk.get? l = none) :
    disk.denial? l = none := by
  cases hd : disk.denial? l with
  | none => rfl
  | some d =>
    obtain ⟨front, back, hmem, -⟩ := List.lookup_eq_some_iff.1 hd
    rcases disk.ofEntry l d (hmem ▸ by simp) with rfl | ⟨e, he⟩
    · simp [get?] at h
    · exact absurd he (get?_eq_none h e)

/-! ## Operations -/

/-- The disk with a new entry in a directory, provided that there is the directory and that nothing
stands at the place. -/
def add (disk : Disk) (l : Location) (n : String) (e : Entry) : Disk :=
  if h : disk.hasDir l = true ∧ disk.get? (l ++ [n]) = none then
    { home := disk.home
      entries := (l ++ [n], e) :: disk.entries
      denials := disk.denials
      nodup := by
        rw [List.map_cons, List.nodup_cons]
        refine ⟨fun hm => ?_, disk.nodup⟩
        obtain ⟨⟨k, v⟩, hkv, rfl⟩ := List.mem_map.1 hm
        exact get?_eq_none h.2 v hkv
      inDir := by
        intro k m v hm
        rcases List.mem_cons.1 hm with heq | hm
        · obtain ⟨rfl, -⟩ := List.append_inj' (Prod.mk.inj heq).1 rfl
          exact (hasDir_iff.1 h.1).imp_right (List.mem_cons_of_mem _)
        · exact (disk.inDir k m v hm).imp_right (List.mem_cons_of_mem _)
      ofEntry := fun k d hd => (disk.ofEntry k d hd).imp_right fun ⟨v, hv⟩ =>
        ⟨v, List.mem_cons_of_mem _ hv⟩ }
  else disk

/-- The disk with other bytes in the file at a location, if there is one. -/
def setBytes (disk : Disk) (l : Location) (bytes : List UInt8) : Disk where
  home := disk.home
  entries := disk.entries.map fun x =>
    match x with
    | (k, .file old) => (k, .file (if k = l then bytes else old))
    | other => other
  denials := disk.denials
  nodup := by
    have h : (disk.entries.map fun x => match x with
        | (k, Entry.file old) => (k, Entry.file (if k = l then bytes else old))
        | other => other).map Prod.fst = disk.entries.map Prod.fst := by
      rw [List.map_map]
      apply List.map_congr_left
      rintro ⟨k, v⟩ -
      cases v <;> rfl
    rw [h]; exact disk.nodup
  inDir := by
    intro k m v hm
    obtain ⟨⟨k', v'⟩, hx, heq⟩ := List.mem_map.1 hm
    have hk : k' = k ++ [m] := by cases v' <;> exact (Prod.mk.inj heq).1
    subst hk
    exact (disk.inDir k m v' hx).imp_right fun hd => List.mem_map.2 ⟨_, hd, rfl⟩
  ofEntry := fun k d hd => (disk.ofEntry k d hd).imp_right fun ⟨v, hv⟩ => by
    cases v <;> exact ⟨_, List.mem_map.2 ⟨_, hv, rfl⟩⟩

/-- The disk without what stands at a location or below it. -/
def remove (disk : Disk) (l : Location) : Disk where
  home := disk.home
  entries := disk.entries.filter fun x => !l.isPrefixOf x.1
  denials := disk.denials.filter fun x => !l.isPrefixOf x.1
  nodup := (List.filter_sublist.map Prod.fst).nodup disk.nodup
  inDir := by
    intro k m v hm
    obtain ⟨hm, hp⟩ := List.mem_filter.1 hm
    refine (disk.inDir k m v hm).imp_right fun hd => List.mem_filter.2 ⟨hd, ?_⟩
    simp only [Bool.not_eq_true', Bool.eq_false_iff] at hp ⊢
    intro hk
    exact hp (List.isPrefixOf_iff_prefix.2
      ((List.isPrefixOf_iff_prefix.1 hk).trans (List.prefix_append k [m])))
  ofEntry := fun k d hd => by
    obtain ⟨hd, hp⟩ := List.mem_filter.1 hd
    exact (disk.ofEntry k d hd).imp_right fun ⟨v, hv⟩ => ⟨v, List.mem_filter.2 ⟨hv, hp⟩⟩

/-- The disk that also denies changes at a location, if something stands there. -/
def deny (disk : Disk) (l : Location) (d : Denial) : Disk :=
  if h : (disk.get? l).isSome then
    { disk with
      denials := (l, d) :: disk.denials
      ofEntry := by
        intro k d' hd
        rcases List.mem_cons.1 hd with heq | hd
        · obtain ⟨rfl, -⟩ := Prod.mk.inj heq
          by_cases hl : k = []
          · exact .inl hl
          · obtain ⟨e, he⟩ := Option.isSome_iff_exists.1 h
            rw [get?, if_neg hl] at he
            exact .inr ⟨e, lookup_eq_some.1 he⟩
        · exact disk.ofEntry k d' hd }
  else disk

/-- A disk with nothing but the directories that lead to the working directory. -/
def empty : Disk := ⟨[], [], [], by simp, by simp, by simp⟩

/-- The names in a directory, in order. -/
def names (disk : Disk) (l : Location) : List String :=
  (disk.entries.filterMap fun x => if x.1.dropLast = l then x.1.getLast? else none).mergeSort
    fun a b => decide (a ≤ b)

/-- How deep the deepest entry lies. -/
def depth (disk : Disk) : Nat := disk.entries.foldl (fun d x => max d x.1.length) 0

/-! ## The view after an operation -/

@[simp] theorem denial?_add (disk : Disk) (l : Location) (n : String) (e : Entry) (k : Location) :
    (disk.add l n e).denial? k = disk.denial? k := by
  unfold add
  split <;> rfl

@[simp] theorem denial?_setBytes (disk : Disk) (l : Location) (bytes : List UInt8)
    (k : Location) : (disk.setBytes l bytes).denial? k = disk.denial? k := rfl

@[simp] theorem home_add (disk : Disk) (l : Location) (n : String) (e : Entry) :
    (disk.add l n e).home = disk.home := by
  unfold add
  split <;> rfl

@[simp] theorem home_deny (disk : Disk) (l : Location) (d : Denial) :
    (disk.deny l d).home = disk.home := by
  unfold deny
  split <;> rfl

@[simp] theorem get?_deny (disk : Disk) (l : Location) (d : Denial) (k : Location) :
    (disk.deny l d).get? k = disk.get? k := by
  unfold deny
  split <;> rfl

theorem get?_add {disk : Disk} {l : Location} {n : String} (e : Entry)
    (hd : disk.hasDir l = true) (hn : disk.get? (l ++ [n]) = none) (k : Location) :
    (disk.add l n e).get? k = if k = l ++ [n] then some e else disk.get? k := by
  rw [add, dif_pos ⟨hd, hn⟩]
  unfold get?
  by_cases hk : k = []
  · simp [hk]
  · by_cases h : k = l ++ [n]
    · simp [h]
    · have hb : (k == l ++ [n]) = false := by simpa using h
      simp [hk, h, List.lookup_cons, hb]

/-- What a file holds after other bytes were put into it. -/
def Entry.withBytes (bytes : List UInt8) : Entry → Entry
  | .file _ => .file bytes
  | e => e

theorem get?_setBytes (disk : Disk) (l : Location) (bytes : List UInt8) (k : Location) :
    (disk.setBytes l bytes).get? k =
      if k = l then (disk.get? k).map (Entry.withBytes bytes) else disk.get? k := by
  unfold get? setBytes
  by_cases hk : k = []
  · subst hk; by_cases hl : [] = l <;> simp [hl, Entry.withBytes]
  · simp only [hk, if_false]
    generalize disk.entries = es
    induction es with
    | nil => simp
    | cons x xs ih =>
      obtain ⟨k', v⟩ := x
      by_cases hkk : k = k'
      · subst hkk
        cases v <;> by_cases hl : k = l <;> simp [hl, Entry.withBytes]
      · have hb : (k == k') = false := by simpa using hkk
        cases v <;> simpa [List.lookup_cons, hb] using ih

end Disk

end JavaFormat
