import JavaFormat.Text.Lines

/-!
# Writing lines and reading them back

A text is some lines, each with a line feed behind it, and a last line without one
(`Text.lineInduction`).  Everything about `lines` follows from its two equations on such a text,
`lines_of_not_mem` and `lines_append_cons`.

* `lines_unlines_crlf`: lines written with two characters between them are read back as they are.
* `lines_unlines_lf`: lines written with a line feed between them lose a carriage return at their
  end, which is read as a part of the terminator.
* `Terminator.ofText_unlines`: the terminator is found again, unless a line feed is taken for the
  end of a longer one.
-/

set_option autoImplicit false

namespace JavaFormat

namespace Text

/-! ## A text, line by line -/

/-- A text without line feeds is one piece. -/
theorem segments_of_not_mem {l : Line} (h : '\n' ∉ l) : segments l = [l] := by
  induction l with
  | nil => rfl
  | cons c cs ih =>
    rw [List.mem_cons, not_or] at h
    rw [segments_cons, if_neg (Ne.symm h.1), ih h.2]
    rfl

/-- What stands before the first line feed is the first piece. -/
theorem segments_append_cons {l : Line} (h : '\n' ∉ l) (s : List Char) :
    segments (l ++ '\n' :: s) = l :: segments s := by
  induction l with
  | nil => rw [List.nil_append, segments_cons, if_pos rfl]
  | cons c cs ih =>
    rw [List.mem_cons, not_or] at h
    rw [List.cons_append, segments_cons, if_neg (Ne.symm h.1), ih h.2]
    rfl

/-- A text is a line without line feeds, or such a line, a line feed and a text. -/
theorem exists_first_line (s : List Char) :
    '\n' ∉ s ∨ ∃ l rest, '\n' ∉ l ∧ s = l ++ '\n' :: rest := by
  induction s with
  | nil => exact Or.inl List.not_mem_nil
  | cons c cs ih =>
    by_cases hc : c = '\n'
    · exact Or.inr ⟨[], cs, List.not_mem_nil, by rw [hc]; rfl⟩
    · rcases ih with h | ⟨l, rest, hl, rfl⟩
      · exact Or.inl fun hm => (List.mem_cons.1 hm).elim (fun he => hc he.symm) h
      · exact Or.inr ⟨c :: l, rest,
          fun hm => (List.mem_cons.1 hm).elim (fun he => hc he.symm) hl, rfl⟩

/-- Induction over a text, line by line. -/
theorem lineInduction {motive : List Char → Prop} (last : ∀ l, '\n' ∉ l → motive l)
    (line : ∀ l rest, '\n' ∉ l → motive rest → motive (l ++ '\n' :: rest)) (s : List Char) :
    motive s := by
  rcases exists_first_line s with h | ⟨l, rest, hl, rfl⟩
  · exact last s h
  · exact line l rest hl (lineInduction last line rest)
termination_by s.length
decreasing_by subst_vars; simp only [List.length_append, List.length_cons]; omega

/-! ## Reading lines -/

theorem lines_of_not_mem {l : Line} (h : '\n' ∉ l) : lines l = if l = [] then [] else [l] := by
  simp [lines, segments_of_not_mem h]

/-- The first line feed decides the terminator. -/
theorem Terminator.ofText_append_cons {l : Line} (h : '\n' ∉ l) (s : List Char) :
    ofText (l ++ '\n' :: s) = if l.getLast? = some '\r' then crlf else lf := by
  obtain ⟨p, ps, hps⟩ := List.exists_cons_of_ne_nil (segments_ne_nil s)
  rw [ofText, segments_append_cons h, hps]

theorem lines_append_cons {l : Line} (h : '\n' ∉ l) (s : List Char) :
    lines (l ++ '\n' :: s) = dropReturn l :: lines s := by
  rw [lines, lines, segments_append_cons h]
  cases hs : segments s with
  | nil => exact absurd hs (segments_ne_nil s)
  | cons p ps => simp

theorem dropReturn_append_return (l : Line) : dropReturn (l ++ ['\r']) = l := by
  simp [dropReturn]

theorem dropReturn_of_getLast? {l : Line} (h : l.getLast? ≠ some '\r') : dropReturn l = l :=
  if_neg h

/-- A line is what is left of it without its carriage return, and perhaps that. -/
theorem eq_dropReturn_or (l : Line) : l = dropReturn l ∨ l = dropReturn l ++ ['\r'] := by
  by_cases h : l.getLast? = some '\r'
  · obtain ⟨k, rfl⟩ := List.getLast?_eq_some_iff.1 h
    exact Or.inr (by rw [dropReturn_append_return])
  · exact Or.inl (dropReturn_of_getLast? h).symm

/-- What does not see a carriage return at the end of a line does not see that it is dropped. -/
theorem apply_dropReturn {α : Type} {f : Line → α} (h : ∀ l, f (l ++ ['\r']) = f l) (l : Line) :
    f (dropReturn l) = f l := by
  rcases eq_dropReturn_or l with hl | hl
  · rw [← hl]
  · rw [← h (dropReturn l), ← hl]

/-- A carriage return that is dropped takes nothing else along. -/
theorem mem_of_mem_dropReturn {l : Line} {c : Char} (h : c ∈ dropReturn l) : c ∈ l := by
  rcases eq_dropReturn_or l with hl | hl
  · rwa [hl]
  · rw [hl]; exact List.mem_append_left _ h

/-- No line has a line feed in it. -/
theorem not_mem_of_mem_lines {s : List Char} {l : Line} (h : l ∈ lines s) : '\n' ∉ l := by
  induction s using lineInduction with
  | last k hk =>
    rw [lines_of_not_mem hk] at h
    split at h
    · exact absurd h List.not_mem_nil
    · rwa [List.mem_singleton.1 h]
  | line k rest hk ih =>
    rw [lines_append_cons hk] at h
    rcases List.mem_cons.1 h with rfl | h
    · exact fun hm => hk (mem_of_mem_dropReturn hm)
    · exact ih h

/-- Every carriage return has a line feed behind it. -/
def ReturnsPaired (s : List Char) : Prop :=
  ∀ front rest, s = front ++ '\r' :: rest → rest.head? = some '\n'

theorem ReturnsPaired.of_not_mem {s : List Char} (h : '\r' ∉ s) : ReturnsPaired s :=
  fun front _ hs => absurd (hs ▸ List.mem_append_right front List.mem_cons_self) h

theorem ReturnsPaired.of_append {s t : List Char} (h : ReturnsPaired (s ++ t)) :
    ReturnsPaired t := fun front rest ht => h (s ++ front) rest (by rw [ht, List.append_assoc])

/-- In front of a line feed, a paired carriage return is the last character of its piece. -/
theorem ReturnsPaired.eq_nil {l rest front back : List Char} (h : ReturnsPaired (l ++ '\n' :: rest))
    (hl : '\n' ∉ l) (he : l = front ++ '\r' :: back) : back = [] := by
  have hn := h front (back ++ '\n' :: rest) (by rw [he, List.append_assoc]; rfl)
  cases back with
  | nil => rfl
  | cons c cs =>
    cases hn
    exact absurd (he ▸ List.mem_append_right _ (List.mem_cons_of_mem _ (List.mem_cons_self ..))) hl

/-- **Where every carriage return belongs to a terminator, none is in a line.** -/
theorem ReturnsPaired.not_mem_of_mem_lines {s : List Char} (h : ReturnsPaired s) {l : Line}
    (hl : l ∈ lines s) : '\r' ∉ l := by
  induction s using lineInduction with
  | last k hk =>
    rw [lines_of_not_mem hk] at hl
    split at hl
    · exact absurd hl List.not_mem_nil
    · rw [List.mem_singleton.1 hl]
      intro hr
      obtain ⟨front, rest, rfl⟩ := List.append_of_mem hr
      have hm := List.mem_of_mem_head? (h front rest rfl)
      exact hk (List.mem_append_right _ (List.mem_cons_of_mem _ hm))
  | line k rest hk ih =>
    rw [lines_append_cons hk] at hl
    rcases List.mem_cons.1 hl with rfl | hl
    · intro hr
      obtain ⟨front, back, hd⟩ := List.append_of_mem hr
      rcases eq_dropReturn_or k with he | he
      · obtain rfl := h.eq_nil hk (he.trans hd)
        rw [he.trans hd, dropReturn_append_return] at hd
        exact absurd (congrArg List.length hd) (by simp)
      · rw [hd, List.append_assoc] at he
        exact absurd (h.eq_nil hk he) (by simp)
    · exact ih (ReturnsPaired.of_append (s := k ++ ['\n']) (by simpa using h)) hl

/-! ## Writing lines -/

namespace Terminator

/-- The pieces of a text that is written from lines: a line and what is left of its terminator, and
nothing behind the last one. -/
theorem segments_unlines (t : Terminator) {ls : List Line} (h : ∀ l ∈ ls, '\n' ∉ l) :
    segments (t.unlines ls) = ls.map (· ++ t.chars.dropLast) ++ [[]] := by
  induction ls with
  | nil => rfl
  | cons l ls ih =>
    have hl : '\n' ∉ l ++ t.chars.dropLast := by
      have := h l (List.mem_cons_self ..)
      cases t <;> simpa [chars] using this
    have heq : t.unlines (l :: ls) = (l ++ t.chars.dropLast) ++ '\n' :: t.unlines ls := by
      cases t <;> simp [chars]
    rw [heq, segments_append_cons hl, ih fun k hk => h k (List.mem_cons_of_mem _ hk)]
    rfl

theorem lines_unlines (t : Terminator) {ls : List Line} (h : ∀ l ∈ ls, '\n' ∉ l) :
    lines (t.unlines ls) = ls.map fun l => dropReturn (l ++ t.chars.dropLast) := by
  simp only [lines, segments_unlines t h, List.dropLast_concat, List.map_map]
  simp [Function.comp_def]

/-- **Lines with a carriage return and a line feed behind them are read back as they are.** -/
theorem lines_unlines_crlf {ls : List Line} (h : ∀ l ∈ ls, '\n' ∉ l) :
    lines (crlf.unlines ls) = ls := by
  rw [lines_unlines crlf h]
  simp [chars, dropReturn_append_return]

/-- **Lines with a line feed behind them lose a carriage return at their end.** -/
theorem lines_unlines_lf {ls : List Line} (h : ∀ l ∈ ls, '\n' ∉ l) :
    lines (lf.unlines ls) = ls.map dropReturn := by
  rw [lines_unlines lf h]
  simp [chars]

/-- Lines are read back as they are where no carriage return is at stake. -/
theorem lines_unlines_eq {t : Terminator} {ls : List Line} (h : ∀ l ∈ ls, '\n' ∉ l)
    (hr : t = lf → ∀ l ∈ ls, l.getLast? ≠ some '\r') : lines (t.unlines ls) = ls := by
  cases t with
  | crlf => exact lines_unlines_crlf h
  | lf =>
    rw [lines_unlines_lf h]
    exact (List.map_congr_left fun l hl => dropReturn_of_getLast? (hr rfl l hl)).trans
      (List.map_id _)

/-- The first line that is written decides which terminator is found. -/
theorem ofText_unlines (t : Terminator) {l : Line} {ls : List Line}
    (h : ∀ k ∈ l :: ls, '\n' ∉ k) :
    ofText (t.unlines (l :: ls)) = if l.getLast? = some '\r' then crlf else t := by
  rw [ofText, segments_unlines t h]
  cases ls with
  | nil => cases t <;> simp [chars]
  | cons k ks => cases t <;> simp [chars]

/-- The terminator is found again where no carriage return is at stake. -/
theorem ofText_unlines_eq {t : Terminator} {ls : List Line} (hne : ls ≠ [])
    (h : ∀ k ∈ ls, '\n' ∉ k) (hr : t = lf → ∀ l ∈ ls, l.getLast? ≠ some '\r') :
    ofText (t.unlines ls) = t := by
  cases ls with
  | nil => exact absurd rfl hne
  | cons l ls =>
    rw [ofText_unlines t h]
    cases t with
    | crlf => exact ite_self _
    | lf => exact if_neg (hr rfl l (List.mem_cons_self ..))

end Terminator

end Text

end JavaFormat
