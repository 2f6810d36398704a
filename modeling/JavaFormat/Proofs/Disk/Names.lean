import JavaFormat.Disk.Basic

/-!
# Names and depths

The names in a directory are those of its entries, each once and in order, so that the old names of
a directory are found among the later ones by asking which are old (`filter_names`).
-/

set_option autoImplicit false

namespace JavaFormat

namespace Disk

variable {disk later : Disk} {l : Location}

/-! ## The names in a directory -/

theorem getLast?_eq_some_iff_of_dropLast {k : Location} {name : String} :
    (if k.dropLast = l then k.getLast? else none) = some name ↔ k = l ++ [name] := by
  constructor
  · intro h
    split at h
    · rename_i hl
      obtain ⟨front, rfl⟩ := List.getLast?_eq_some_iff.1 h
      rw [List.dropLast_concat] at hl
      rw [hl]
    · cases h
  · rintro rfl
    simp

/-- The names in a directory are those of the entries in it. -/
theorem mem_names {name : String} :
    name ∈ disk.names l ↔ (disk.get? (l ++ [name])).isSome = true := by
  rw [names, List.mem_mergeSort, List.mem_filterMap, get?, if_neg (by simp),
    Option.isSome_iff_exists]
  simp only [getLast?_eq_some_iff_of_dropLast, lookup_eq_some]
  constructor
  · rintro ⟨⟨k, e⟩, hmem, rfl⟩
    exact ⟨e, hmem⟩
  · rintro ⟨e, he⟩
    exact ⟨_, he, rfl⟩

theorem nodup_names (disk : Disk) (l : Location) : (disk.names l).Nodup := by
  rw [names, (List.mergeSort_perm _ _).nodup_iff]
  refine List.pairwise_filterMap.2 ((List.pairwise_map.1 disk.nodup).imp ?_)
  rintro ⟨k, e⟩ ⟨k', e'⟩ hne name hname name' hname' rfl
  rw [getLast?_eq_some_iff_of_dropLast] at hname hname'
  exact hne (hname.trans hname'.symm)

theorem pairwise_names (disk : Disk) (l : Location) : (disk.names l).Pairwise (· ≤ ·) := by
  have h := @List.pairwise_mergeSort _ (fun a b : String => decide (a ≤ b))
    (fun a b c hab hbc => by
      rw [decide_eq_true_iff] at hab hbc ⊢
      exact String.le_trans hab hbc)
    (fun a b => by simpa using String.le_total a b)
    (disk.entries.filterMap fun x => if x.1.dropLast = l then x.1.getLast? else none)
  exact h.imp of_decide_eq_true

/-- The names in a directory are in order, each once. -/
theorem pairwise_lt_names (disk : Disk) (l : Location) : (disk.names l).Pairwise (· < ·) :=
  ((pairwise_names disk l).and (nodup_names disk l)).imp fun h => Std.lt_of_le_of_ne h.1 h.2

/-- Where entries stay, the old names in a directory are those of the later ones that are old. -/
theorem filter_names (h : ∀ k, (disk.get? k).isSome = true → (later.get? k).isSome = true) :
    (later.names l).filter (fun name => (disk.get? (l ++ [name])).isSome) = disk.names l := by
  refine @List.Perm.eq_of_pairwise _ (· ≤ ·) _ _ (fun a b _ _ => String.le_antisymm)
    ((pairwise_names later l).filter _) (pairwise_names disk l) ?_
  refine (List.perm_ext_iff_of_nodup ((nodup_names later l).filter _) (nodup_names disk l)).2 ?_
  intro name
  rw [List.mem_filter, mem_names, mem_names]
  exact ⟨fun hname => hname.2, fun hname => ⟨h _ hname, hname⟩⟩

/-- A new entry leaves the names in other directories as they are. -/
theorem names_add_of_ne {k : Location} (h : l ≠ k) (name : String) (e : Entry) :
    (disk.add k name e).names l = disk.names l := by
  unfold Disk.add
  split
  · rw [names, names, List.filterMap_cons_none]
    rw [List.dropLast_concat, if_neg (Ne.symm h)]
  · rfl

/-! ## How deep entries lie -/

theorem length_le_depth {e : Entry} (h : disk.get? l = some e) : l.length ≤ disk.depth := by
  by_cases hl : l = []
  · rw [hl]
    exact Nat.zero_le _
  · rw [get?, if_neg hl, lookup_eq_some] at h
    have hfold : ∀ (es : List (Location × Entry)) (d : Nat), d ≤
        es.foldl (fun d x => max d x.1.length) d ∧ ∀ x ∈ es, x.1.length ≤
          es.foldl (fun d x => max d x.1.length) d := by
      intro es
      induction es with
      | nil => exact fun d => ⟨Nat.le_refl d, fun x hx => absurd hx List.not_mem_nil⟩
      | cons x es ih =>
        intro d
        obtain ⟨hd, hes⟩ := ih (max d x.1.length)
        refine ⟨Nat.le_trans (Nat.le_max_left _ _) hd, fun y hy => ?_⟩
        rcases List.mem_cons.1 hy with rfl | hy
        · exact Nat.le_trans (Nat.le_max_right _ _) hd
        · exact hes y hy
    exact (hfold disk.entries 0).2 _ h

/-- The deepest entry lies as deep as the disk is. -/
theorem exists_length_eq_depth (disk : Disk) :
    ∃ l e, disk.get? l = some e ∧ l.length = disk.depth := by
  have hfold : ∀ (es : List (Location × Entry)) (d : Nat),
      es.foldl (fun d x => max d x.1.length) d = d ∨
        ∃ x ∈ es, x.1.length = es.foldl (fun d x => max d x.1.length) d := by
    intro es
    induction es with
    | nil => exact fun d => .inl rfl
    | cons x es ih =>
      intro d
      rcases ih (max d x.1.length) with heq | ⟨y, hy, heq⟩
      · rcases Nat.le_total x.1.length d with hle | hle
        · exact .inl (heq.trans (Nat.max_eq_left hle))
        · exact .inr ⟨x, List.mem_cons_self, (heq.trans (Nat.max_eq_right hle)).symm⟩
      · exact .inr ⟨y, List.mem_cons_of_mem _ hy, heq⟩
  rcases hfold disk.entries 0 with heq | ⟨⟨l, e⟩, hmem, heq⟩
  · exact ⟨[], .dir, if_pos rfl, heq.symm⟩
  · by_cases hl : l = []
    · exact ⟨l, .dir, if_pos hl, heq⟩
    · exact ⟨l, e, by rw [get?, if_neg hl, lookup_eq_some.2 hmem], heq⟩

end Disk

end JavaFormat
