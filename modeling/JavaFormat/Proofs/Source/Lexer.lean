import JavaFormat.Proofs.Source.Indent
import JavaFormat.Proofs.Text.Lines
import JavaFormat.Source.Lexer

/-!
# The lexer does not see the layout

Blanks decide nothing about comments, literals and text blocks: `scanLine` gives the same region for
a line that is indented anew (`scanLine_reindent`) and for one with other blanks or carriage returns
at its end (`scan_append_trailing`).  The delicate places are the ones where a character takes the
next one along: a backslash, of which only the line's end is left, ends a literal or stays in a text
block either way.
-/

set_option autoImplicit false

namespace JavaFormat

namespace Source

open Text

/-- Whether a character may trail a line without being a part of it: a blank or a carriage
return. -/
def isTrailing (c : Char) : Bool := isBlank c || c == '\r'

theorem isTrailing_iff {c : Char} : isTrailing c = true ↔ c = ' ' ∨ c = '\t' ∨ c = '\r' := by
  simp [isTrailing, isBlank, or_assoc]

theorem isTrailing_of_isBlank {c : Char} (h : isBlank c = true) : isTrailing c = true := by
  rw [isTrailing, h, Bool.true_or]

/-- Whether a context is one of the language, in which a literal has one of two quotes. -/
def Context.IsReal : Context → Prop
  | region _ => True
  | literal q => q = '"' ∨ q = '\''

theorem Context.isReal_region (r : Region) : (Context.region r).IsReal := trivial

/-- A backslash that takes no character along is the last one of its line. -/
theorem eq_nil_of_backslash {c : Char} {rest : Line}
    (h : ∀ d k, c = '\\' → rest = d :: k → False) (hc : c = '\\') : rest = [] := by
  cases rest with
  | nil => rfl
  | cons d k => exact absurd rfl (h d k hc)

/-! ## Characters that begin nothing -/

/-- A character that is no part of a delimiter. -/
structure IsInert (c : Char) : Prop where
  /-- It begins no comment and ends none. -/
  slash : c ≠ '/'
  /-- It is no part of the delimiter of a block comment. -/
  star : c ≠ '*'
  /-- It delimits no string and no text block. -/
  quote : c ≠ '"'
  /-- It delimits no character literal. -/
  apostrophe : c ≠ '\''
  /-- It takes no other character along. -/
  backslash : c ≠ '\\'

theorem isInert_of_isTrailing {c : Char} (h : isTrailing c = true) : IsInert c := by
  rcases isTrailing_iff.1 h with rfl | rfl | rfl <;> constructor <;> decide

/-- What stands before a character that is put at the end of a line, if it is another one. -/
theorem eq_cons_of_append_singleton {c d : Char} (hne : c ≠ d) {l rest : Line}
    (h : l ++ [c] = d :: rest) : ∃ k, l = d :: k ∧ k ++ [c] = rest := by
  cases l with
  | nil => exact absurd (List.cons.inj h).1 hne
  | cons x xs =>
    obtain ⟨rfl, rfl⟩ := List.cons.inj h
    exact ⟨xs, rfl, rfl⟩

theorem scan_literal_nil (c q : Char) :
    scan (if c = q then .region .code else .literal q) [] = .code := by
  split <;> rfl

theorem scan_cons_of_isInert {c : Char} (hc : IsInert c) (r : Region) (l : Line) :
    scan (.region r) (c :: l) = scan (.region r) l := by
  cases r <;> simp [scan, hc.slash, hc.star, hc.quote, hc.apostrophe, hc.backslash]

theorem scan_append_singleton {c : Char} (hc : IsInert c) (context : Context) (l : Line) :
    scan context (l ++ [c]) = scan context l := by
  fun_induction scan context l with
  | case1 q =>
    rw [List.nil_append, scan, scan_literal_nil]
    exact fun _ _ h => absurd h hc.backslash
  | case2 r => rw [List.nil_append, scan_cons_of_isInert hc]; rfl
  | case3 q d rest ih => simpa [scan] using ih
  | case4 q d rest h ih =>
    -- a backslash at the very end takes the new character along; both ways the literal is over
    by_cases hd : d = '\\' ∧ rest = []
    · obtain ⟨rfl, rfl⟩ := hd
      rw [scan_literal_nil]
      rfl
    · rw [List.cons_append, scan, ih]
      intro x xs hx he
      cases rest with
      | nil => exact hd ⟨hx, rfl⟩
      | cons y ys => exact h y ys hx rfl
  | case5 rest ih => simpa [scan] using ih
  | case6 d rest h ih =>
    rw [List.cons_append, scan, ih]
    intro xs hd he
    obtain ⟨k, rfl, -⟩ := eq_cons_of_append_singleton hc.slash he
    exact h k hd rfl
  | case7 d rest ih => simpa [scan] using ih
  | case8 rest ih => simpa [scan] using ih
  | case9 d rest hesc hquote ih =>
    by_cases hd : d = '\\' ∧ rest = []
    · obtain ⟨rfl, rfl⟩ := hd
      rfl
    · rw [List.cons_append, scan, ih]
      · intro x xs hx he
        cases rest with
        | nil => exact hd ⟨hx, rfl⟩
        | cons y ys => exact hesc y ys hx rfl
      · intro xs hx he
        obtain ⟨k, rfl, hk⟩ := eq_cons_of_append_singleton hc.quote he
        obtain ⟨k, rfl, -⟩ := eq_cons_of_append_singleton hc.quote hk
        exact hquote k hx rfl
  | case10 => simp [scan]
  | case11 rest ih => simpa [scan] using ih
  | case12 rest ih => simpa [scan] using ih
  | case13 rest h ih =>
    rw [List.cons_append, scan, ih]
    intro xs he
    obtain ⟨k, rfl, hk⟩ := eq_cons_of_append_singleton hc.quote he
    obtain ⟨k, rfl, -⟩ := eq_cons_of_append_singleton hc.quote hk
    exact h k rfl
  | case14 rest ih => simpa [scan] using ih
  | case15 d rest hline hblock htext hstring hchar ih =>
    rw [List.cons_append, scan, ih]
    · intro xs hd he
      obtain ⟨k, rfl, -⟩ := eq_cons_of_append_singleton hc.slash he
      exact hline k hd rfl
    · intro xs hd he
      obtain ⟨k, rfl, -⟩ := eq_cons_of_append_singleton hc.star he
      exact hblock k hd rfl
    · exact fun xs hd _ => absurd hd hstring
    · exact hstring
    · exact hchar

/-! ## Blanks at the ends of a line -/

/-- **What trails a line decides nothing.** -/
theorem scan_append_trailing (context : Context) (l : Line) {trail : Line}
    (h : ∀ c ∈ trail, isTrailing c = true) : scan context (l ++ trail) = scan context l := by
  induction trail using List.reverseRecOn with
  | nil => rw [List.append_nil]
  | append_singleton trail c ih =>
    rw [← List.append_assoc, scan_append_singleton (isInert_of_isTrailing (h c (by simp))),
      ih fun d hd => h d (List.mem_append_left _ hd)]

/-- Blanks in front of a line decide nothing. -/
theorem scan_append_of_blank (r : Region) {lead : Line} (h : ∀ c ∈ lead, isBlank c = true)
    (l : Line) : scan (.region r) (lead ++ l) = scan (.region r) l := by
  induction lead with
  | nil => rfl
  | cons c cs ih =>
    rw [List.cons_append, scan_cons_of_isInert (isInert_of_isTrailing
      (isTrailing_of_isBlank (h c (List.mem_cons_self ..)))),
      ih fun d hd => h d (List.mem_cons_of_mem _ hd)]

/-- A line of blanks leaves the region as it is. -/
theorem scanLine_of_blank (r : Region) {l : Line} (h : ∀ c ∈ l, isBlank c = true) :
    scanLine r l = r := by
  rw [scanLine, ← List.append_nil l, scan_append_of_blank r h]
  rfl

/-- **The lexer reads a line that is indented anew as it reads the line itself.** -/
theorem scanLine_reindent (indentation : Indentation) (tab : UInt64) (r : Region) (l : Line) :
    scanLine r (reindent indentation tab l) = scanLine r l := by
  rcases blank_or_body_reindent indentation tab l with
    ⟨hl, hr⟩ | ⟨lead, body, trail, rfl, hl, -, ht, hr⟩
  · rw [hr, scanLine_of_blank r hl]; rfl
  · rw [hr, scanLine, scanLine, scan_append_of_blank r fun c hc => isBlank_of_mem_indentTo hc,
      scan_append_trailing _ _ fun c hc => isTrailing_of_isBlank (ht c hc),
      scan_append_of_blank r hl]

/-- **A carriage return at the end of a line decides nothing.** -/
theorem scanLine_dropReturn (r : Region) (l : Line) : scanLine r (dropReturn l) = scanLine r l :=
  apply_dropReturn (fun k => scan_append_trailing (.region r) k fun c hc => by
    rw [List.mem_singleton.1 hc]; rfl) l

end Source

end JavaFormat
