import JavaFormat.Proofs.Source.Layout

/-!
# Terminators are all that terminators decide

A source may end some lines with a line feed and others with a carriage return and a line feed.
Where every carriage return stands in front of a line feed, the lines are those of the source
without its carriage returns (`lines_withoutReturns`).  So a layout of the source is the layout of
that text, written with the terminator of the first line (`formatText_withoutReturns`), whether or
not that line is blank and goes.
-/

set_option autoImplicit false

namespace JavaFormat

namespace Text

/-- A text without its carriage returns. -/
def withoutReturns (s : List Char) : List Char := s.filter (· != '\r')

theorem return_not_mem_withoutReturns (s : List Char) : '\r' ∉ withoutReturns s := fun h => by
  simpa using (List.mem_filter.1 h).2

theorem withoutReturns_of_not_mem {s : List Char} (h : '\r' ∉ s) : withoutReturns s = s :=
  List.filter_eq_self.2 fun c hc => by
    have hne : c ≠ '\r' := fun he => h (he ▸ hc)
    simpa using hne

theorem withoutReturns_append (s t : List Char) :
    withoutReturns (s ++ t) = withoutReturns s ++ withoutReturns t := List.filter_append _ _

/-! ## Carriage returns in terminators -/

theorem ReturnsPaired.cons {c : Char} {s : List Char} (hc : c ≠ '\r') (h : ReturnsPaired s) :
    ReturnsPaired (c :: s) := fun front rest hs => by
  rcases front with _ | ⟨d, front⟩
  · exact absurd (List.cons.inj hs).1 hc
  · exact h front rest (List.cons.inj hs).2

theorem ReturnsPaired.return_cons {s : List Char} (h : ReturnsPaired s) :
    ReturnsPaired ('\r' :: '\n' :: s) := fun front rest hs => by
  rcases front with _ | ⟨d, front⟩
  · rw [← (List.cons.inj hs).2]
    rfl
  · exact h.cons (by decide) front rest (List.cons.inj hs).2

/-- Where every carriage return belongs to a terminator, a line is its characters without it. -/
theorem ReturnsPaired.withoutReturns_line {l rest : List Char} (hl : '\n' ∉ l)
    (h : ReturnsPaired (l ++ '\n' :: rest)) : withoutReturns l = dropReturn l := by
  have hnone : '\r' ∉ dropReturn l := h.not_mem_of_mem_lines (by
    rw [lines_append_cons hl]
    exact List.mem_cons_self)
  rcases eq_dropReturn_or l with he | he
  · rw [← he] at hnone
    rw [withoutReturns_of_not_mem hnone, ← he]
  · rw [he, withoutReturns_append, withoutReturns_of_not_mem hnone, dropReturn_append_return]
    exact List.append_nil _

/-- **Carriage returns in terminators** make no difference to the lines of a text. -/
theorem lines_withoutReturns {s : List Char} (h : ReturnsPaired s) :
    lines (withoutReturns s) = lines s := by
  induction s using lineInduction with
  | last l hl =>
    have hnone : '\r' ∉ l := by
      by_cases hnil : l = []
      · rw [hnil]
        exact List.not_mem_nil
      · exact h.not_mem_of_mem_lines (by
          rw [lines_of_not_mem hl, if_neg hnil]
          exact List.mem_singleton.2 rfl)
    rw [withoutReturns_of_not_mem hnone]
  | line l rest hl ih =>
    have hline := h.withoutReturns_line hl
    have hrest : ReturnsPaired rest := ReturnsPaired.of_append (s := l ++ ['\n']) (by simpa using h)
    have hfeed : '\n' ∉ dropReturn l := fun hm => hl (mem_of_mem_dropReturn hm)
    have htwice : dropReturn (dropReturn l) = dropReturn l :=
      dropReturn_of_getLast? fun hr =>
        return_not_mem_withoutReturns l (hline ▸ List.mem_of_getLast? hr)
    have htext : withoutReturns (l ++ '\n' :: rest) =
        dropReturn l ++ '\n' :: withoutReturns rest := by
      rw [withoutReturns_append, hline]
      rfl
    rw [htext, lines_append_cons hfeed, htwice, ih hrest, lines_append_cons hl]

/-! ## Writing terminators -/

namespace Terminator

/-- A text without carriage returns uses line feeds. -/
theorem ofText_of_not_mem {s : List Char} (h : '\r' ∉ s) : ofText s = lf := by
  rcases exists_first_line s with hs | ⟨l, rest, hl, rfl⟩
  · rw [ofText, segments_of_not_mem hs]
  · have hlast : l.getLast? ≠ some '\r' := fun hr =>
      h (List.mem_append_left _ (List.mem_of_getLast? hr))
    rw [ofText_append_cons hl, if_neg hlast]

/-- A text with a terminator in the place of every line feed. -/
def replaceFeeds (t : Terminator) (s : List Char) : List Char :=
  s.flatMap fun c => if c = '\n' then t.chars else [c]

theorem replaceFeeds_append (t : Terminator) (s u : List Char) :
    t.replaceFeeds (s ++ u) = t.replaceFeeds s ++ t.replaceFeeds u := List.flatMap_append

theorem replaceFeeds_of_not_mem (t : Terminator) {s : List Char} (h : '\n' ∉ s) :
    t.replaceFeeds s = s := by
  induction s with
  | nil => rfl
  | cons c cs ih =>
    obtain ⟨hc, hcs⟩ := List.ne_and_not_mem_of_not_mem_cons h
    rw [replaceFeeds, List.flatMap_cons, if_neg (Ne.symm hc)]
    exact congrArg (c :: ·) (ih hcs)

/-- Lines that are written with line feeds are rewritten with another terminator. -/
theorem replaceFeeds_unlines (t : Terminator) {ls : List Line} (h : ∀ l ∈ ls, '\n' ∉ l) :
    t.replaceFeeds (lf.unlines ls) = t.unlines ls := by
  induction ls with
  | nil => rfl
  | cons l ls ih =>
    rw [unlines_cons, unlines_cons, replaceFeeds_append, replaceFeeds_append,
      t.replaceFeeds_of_not_mem (h l List.mem_cons_self),
      ih fun k hk => h k (List.mem_cons_of_mem _ hk)]
    simp [replaceFeeds, chars]

theorem withoutReturns_replaceFeeds (t : Terminator) {s : List Char} (h : '\r' ∉ s) :
    withoutReturns (t.replaceFeeds s) = s := by
  induction s with
  | nil => rfl
  | cons c cs ih =>
    obtain ⟨hc, hcs⟩ := List.ne_and_not_mem_of_not_mem_cons h
    have hhead : withoutReturns (if c = '\n' then t.chars else [c]) = [c] := by
      split
      · rename_i hfeed
        rw [hfeed]
        cases t <;> rfl
      · exact withoutReturns_of_not_mem (by simpa using hc)
    rw [replaceFeeds, List.flatMap_cons, withoutReturns_append, hhead]
    exact congrArg (c :: ·) (ih hcs)

/-- **Whether a text ends every line with one terminator**: a carriage return stands only in front
of a line feed, and a line feed has one in front of it just if the terminator has. -/
def EndsLines (t : Terminator) (s : List Char) : Prop :=
  ReturnsPaired s ∧ ∀ front rest, s = front ++ '\n' :: rest →
    (front.getLast? = some '\r' ↔ t = crlf)

namespace EndsLines

variable {t : Terminator} {s : List Char}

theorem nil (t : Terminator) : t.EndsLines [] :=
  ⟨.of_not_mem List.not_mem_nil, fun _ _ hs => absurd hs (by simp)⟩

/-- A character of a line, or a line feed that ends one alone, may come in front. -/
theorem cons {c : Char} (hc : c ≠ '\r') (hfeed : c = '\n' → t = lf) (h : t.EndsLines s) :
    t.EndsLines (c :: s) := by
  refine ⟨h.1.cons hc, fun front rest hs => ?_⟩
  rcases front with _ | ⟨d, front⟩
  · rw [hfeed (List.cons.inj hs).1]
    exact ⟨nofun, nofun⟩
  · obtain ⟨rfl, htail⟩ := List.cons.inj hs
    have hiff := h.2 front rest htail
    rw [List.getLast?_cons, ← hiff]
    cases front.getLast? with
    | none => simpa using hc
    | some e => rfl

/-- A carriage return and a line feed may come in front of lines that end so. -/
theorem return_cons (h : crlf.EndsLines s) : crlf.EndsLines ('\r' :: '\n' :: s) := by
  refine ⟨h.1.return_cons, fun front rest hs => ⟨fun _ => rfl, fun _ => ?_⟩⟩
  rcases front with _ | ⟨d, _ | ⟨e, front⟩⟩
  · exact absurd (List.cons.inj hs).1 (by decide)
  · rw [← (List.cons.inj hs).1]
    rfl
  · have hlast := (h.2 front rest (List.cons.inj (List.cons.inj hs).2).2).2 rfl
    rw [List.getLast?_cons_cons, List.getLast?_cons, hlast]
    rfl

end EndsLines

/-- **A text with one terminator for every line feed** ends its lines with it. -/
theorem endsLines_replaceFeeds (t : Terminator) {s : List Char} (h : '\r' ∉ s) :
    t.EndsLines (t.replaceFeeds s) := by
  induction s with
  | nil => exact .nil t
  | cons c cs ih =>
    obtain ⟨hc, hcs⟩ := List.ne_and_not_mem_of_not_mem_cons h
    rw [replaceFeeds, List.flatMap_cons]
    split
    · cases t with
      | lf => exact .cons (by decide) (fun _ => rfl) (ih hcs)
      | crlf => exact .return_cons (ih hcs)
    · rename_i hfeed
      exact .cons (Ne.symm hc) (fun he => absurd he hfeed) (ih hcs)

end Terminator

end Text

namespace Source

open Text

/-- **Terminators influence nothing but terminators.**  Where every carriage return stands in front
of a line feed, a layout of a source is that of the source without its carriage returns, with the
terminator of the source's first line for every line feed.  So sources that differ in their
terminators are laid out alike, and every line of a layout ends with one terminator. -/
theorem formatText_withoutReturns (style : Style) {s : List Char} (h : ReturnsPaired s) :
    formatText style s =
        (Terminator.ofText s).replaceFeeds (formatText style (withoutReturns s)) ∧
      withoutReturns (formatText style s) = formatText style (withoutReturns s) ∧
      (Terminator.ofText s).EndsLines (formatText style s) := by
  have hlines := lines_withoutReturns h
  have hlf : Terminator.ofText (withoutReturns s) = .lf :=
    Terminator.ofText_of_not_mem (return_not_mem_withoutReturns s)
  have hformat : formatText style s =
      (Terminator.ofText s).replaceFeeds (formatText style (withoutReturns s)) := by
    rw [formatText, formatText, hlines, hlf]
    exact (Terminator.replaceFeeds_unlines _ fun l hl => not_mem_of_mem_layoutLines hl).symm
  have hnone : '\r' ∉ formatText style (withoutReturns s) := by
    rw [formatText, hlines, hlf, Terminator.unlines]
    intro hr
    obtain ⟨l, hl, hr⟩ := List.mem_flatMap.1 hr
    rcases List.mem_append.1 hr with hr | hr
    · rcases mem_of_mem_layoutLines hl hr with ⟨k, hk, hm⟩ | hb
      · exact h.not_mem_of_mem_lines hk hm
      · exact absurd hb (by decide)
    · exact absurd hr (by decide)
  refine ⟨hformat, ?_, ?_⟩
  · rw [hformat, Terminator.withoutReturns_replaceFeeds _ hnone]
  · rw [hformat]
    exact Terminator.endsLines_replaceFeeds _ hnone

/-- A blank line that decides the terminator and goes, a line with another terminator, and a last
line with none. -/
theorem formatText_withoutReturns_mixed :
    ReturnsPaired "\t\r\n\tint a; \n\nint b;".toList ∧
      formatText ⟨.j17, .spaces, 4⟩ "\t\r\n\tint a; \n\nint b;".toList =
        "    int a;\r\n\r\nint b;\r\n".toList ∧
      withoutReturns (formatText ⟨.j17, .spaces, 4⟩ "\t\r\n\tint a; \n\nint b;".toList) =
        formatText ⟨.j17, .spaces, 4⟩ "\t\n\tint a; \n\nint b;".toList ∧
      Terminator.crlf.EndsLines "    int a;\r\n\r\nint b;\r\n".toList := by
  have hpaired : ReturnsPaired "\t\r\n\tint a; \n\nint b;".toList :=
    .cons (by decide) (.return_cons (.of_not_mem (by decide)))
  obtain ⟨hformat, hplain, hends⟩ := formatText_withoutReturns ⟨.j17, .spaces, 4⟩ hpaired
  exact ⟨hpaired, hformat.trans (by decide), hplain, hends⟩

end Source

end JavaFormat
