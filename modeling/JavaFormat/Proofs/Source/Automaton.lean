import JavaFormat.Proofs.Source.Lexer

/-!
# A lexer that reads one character at a time

`scan` looks ahead at up to three characters of a line and forgets, at the end of the line,
everything but a `Region`.  The automaton here does neither: it reads a text character by character,
line feeds included, and its state says which `Mode` the text is in and which characters are
`Pending`, that is, may still turn out to be the first ones of a delimiter.

* `nextLine_ofRegion`: over a line the automaton goes where `scanLine` goes.
* `read_beforeLine`: where a line of a text starts, the automaton is in the region to which
  `scanLine` has come over the lines before it, and nothing is pending.

The two differ on how they get there.  The automaton takes a first quote for the start of a string
and only the third one for the start of a text block; `scan` decides at the first.  So the states in
which something is pending are compared with those in which nothing is, on a line that does not go
on with what they wait for.
-/

set_option autoImplicit false

namespace JavaFormat

namespace Source

open Text

namespace Automaton

/-! ## The automaton -/

/-- What surrounds a character of a text. -/
inductive Mode where
  /-- Code. -/
  | code
  /-- A comment up to the end of the line. -/
  | lineComment
  /-- A comment up to the next `*/`. -/
  | blockComment
  /-- A string literal. -/
  | string
  /-- A character literal. -/
  | character
  /-- A text block. -/
  | textBlock
  deriving DecidableEq, Repr

/-- The characters just read that the next one may go on from. -/
inductive Pending where
  /-- None. -/
  | nothing
  /-- A slash, which may begin a comment. -/
  | slash
  /-- A star, which may end a block comment. -/
  | star
  /-- One quote of the three that open or close a text block. -/
  | quote
  /-- Two such quotes. -/
  | quotes
  /-- A backslash, which escapes the next character. -/
  | backslash
  deriving DecidableEq, Repr

/-- What the automaton knows of the characters read. -/
structure State where
  /-- What the next character stands in. -/
  mode : Mode
  /-- What it may go on from. -/
  pending : Pending
  deriving DecidableEq, Repr

namespace State

/-- The state after a line feed.  It ends a line comment and a literal, an escape at the end of one
included; a block comment and a text block go on. -/
def endLine (s : State) : State :=
  match s.mode with
  | .blockComment => ⟨.blockComment, .nothing⟩
  | .textBlock => ⟨.textBlock, .nothing⟩
  | _ => ⟨.code, .nothing⟩

/-- The state after any other character. -/
def read : State → Char → State
  | ⟨.code, pending⟩, c =>
    if pending = .slash ∧ c = '/' then ⟨.lineComment, .nothing⟩
    else if pending = .slash ∧ c = '*' then ⟨.blockComment, .nothing⟩
    else if pending = .quotes ∧ c = '"' then ⟨.textBlock, .nothing⟩
    else if c = '/' then ⟨.code, .slash⟩
    else if c = '"' then ⟨.string, .quote⟩
    else if c = '\'' then ⟨.character, .nothing⟩
    else ⟨.code, .nothing⟩
  | ⟨.lineComment, _⟩, _ => ⟨.lineComment, .nothing⟩
  | ⟨.blockComment, pending⟩, c =>
    if pending = .star ∧ c = '/' then ⟨.code, .nothing⟩
    else if c = '*' then ⟨.blockComment, .star⟩
    else ⟨.blockComment, .nothing⟩
  | ⟨.string, pending⟩, c =>
    if pending = .backslash then ⟨.string, .nothing⟩
    else if c = '"' then ⟨.code, if pending = .quote then .quotes else .nothing⟩
    else if c = '\\' then ⟨.string, .backslash⟩
    else ⟨.string, .nothing⟩
  | ⟨.character, pending⟩, c =>
    if pending = .backslash then ⟨.character, .nothing⟩
    else if c = '\'' then ⟨.code, .nothing⟩
    else if c = '\\' then ⟨.character, .backslash⟩
    else ⟨.character, .nothing⟩
  | ⟨.textBlock, pending⟩, c =>
    if pending = .backslash then ⟨.textBlock, .nothing⟩
    else if pending = .quotes ∧ c = '"' then ⟨.code, .nothing⟩
    else if c = '"' then ⟨.textBlock, if pending = .quote then .quotes else .quote⟩
    else if c = '\\' then ⟨.textBlock, .backslash⟩
    else ⟨.textBlock, .nothing⟩

/-- The state after one more character. -/
def step (s : State) (c : Char) : State := if c = '\n' then s.endLine else s.read c

/-- The state in a region, with nothing pending. -/
def ofRegion : Region → State
  | .code => ⟨.code, .nothing⟩
  | .blockComment => ⟨.blockComment, .nothing⟩
  | .textBlock => ⟨.textBlock, .nothing⟩

end State

/-- The state after a text, which starts in code. -/
def read (s : List Char) : State := s.foldl State.step (.ofRegion .code)

/-! ## Lines -/

namespace State

/-- The state at the start of the next line, from the one in which `l` is read. -/
def nextLine (s : State) (l : Line) : State := (l.foldl read s).endLine

theorem nextLine_nil (s : State) : s.nextLine [] = s.endLine := rfl

theorem nextLine_cons (s : State) (c : Char) (l : Line) :
    s.nextLine (c :: l) = (s.read c).nextLine l := rfl

theorem foldl_step {l : Line} (h : '\n' ∉ l) (s : State) :
    (l ++ ['\n']).foldl step s = s.nextLine l := by
  induction l generalizing s with
  | nil => rfl
  | cons c l ih =>
    obtain ⟨hc, hl⟩ := List.ne_and_not_mem_of_not_mem_cons h
    rw [List.cons_append, List.foldl_cons, ih hl, nextLine_cons, step, if_neg hc.symm]

/-- States that read the first character of a line alike agree about the line. -/
theorem nextLine_congr {s t : State} {l : Line} (hend : s.endLine = t.endLine)
    (h : ∀ c k, l = c :: k → s.read c = t.read c) : s.nextLine l = t.nextLine l := by
  cases l with
  | nil => exact hend
  | cons c k => rw [nextLine_cons, nextLine_cons, h c k rfl]

theorem nextLine_lineComment (pending : Pending) (l : Line) :
    nextLine ⟨.lineComment, pending⟩ l = ofRegion .code := by
  induction l generalizing pending with
  | nil => rfl
  | cons c l ih => exact ih .nothing

/-! ## What is pending and does not come -/

theorem nextLine_slash {l : Line} (hline : ∀ k, l ≠ '/' :: k) (hblock : ∀ k, l ≠ '*' :: k) :
    nextLine ⟨.code, .slash⟩ l = nextLine ⟨.code, .nothing⟩ l := by
  refine nextLine_congr rfl fun c k hl => ?_
  have hslash : c ≠ '/' := fun hc => hline k (hc ▸ hl)
  have hstar : c ≠ '*' := fun hc => hblock k (hc ▸ hl)
  simp [read, hslash, hstar]

theorem nextLine_star {l : Line} (h : ∀ k, l ≠ '/' :: k) :
    nextLine ⟨.blockComment, .star⟩ l = nextLine ⟨.blockComment, .nothing⟩ l := by
  refine nextLine_congr rfl fun c k hl => ?_
  have hslash : c ≠ '/' := fun hc => h k (hc ▸ hl)
  simp [read, hslash]

/-- An empty string is over, whatever may come after it but a third quote. -/
theorem nextLine_code_quotes {l : Line} (h : ∀ k, l ≠ '"' :: k) :
    nextLine ⟨.code, .quotes⟩ l = nextLine ⟨.code, .nothing⟩ l := by
  refine nextLine_congr rfl fun c k hl => ?_
  have hquote : c ≠ '"' := fun hc => h k (hc ▸ hl)
  simp [read, hquote]

theorem nextLine_string_quote {l : Line} (h : ∀ k, l ≠ '"' :: '"' :: k) :
    nextLine ⟨.string, .quote⟩ l = nextLine ⟨.string, .nothing⟩ l := by
  by_cases hl : ∃ k, l = '"' :: k
  · obtain ⟨k, rfl⟩ := hl
    exact nextLine_code_quotes fun m hm => h m (hm ▸ rfl)
  · refine nextLine_congr rfl fun c k hk => ?_
    have hquote : c ≠ '"' := fun hc => hl ⟨k, hc ▸ hk⟩
    simp [read, hquote]

theorem nextLine_textBlock_quotes {l : Line} (h : ∀ k, l ≠ '"' :: k) :
    nextLine ⟨.textBlock, .quotes⟩ l = nextLine ⟨.textBlock, .quote⟩ l := by
  refine nextLine_congr rfl fun c k hl => ?_
  have hquote : c ≠ '"' := fun hc => h k (hc ▸ hl)
  simp [read, hquote]

theorem nextLine_textBlock_quote {l : Line} (h : ∀ k, l ≠ '"' :: '"' :: k) :
    nextLine ⟨.textBlock, .quote⟩ l = nextLine ⟨.textBlock, .nothing⟩ l := by
  by_cases hl : ∃ k, l = '"' :: k
  · obtain ⟨k, rfl⟩ := hl
    exact nextLine_textBlock_quotes fun m hm => h m (hm ▸ rfl)
  · refine nextLine_congr rfl fun c k hk => ?_
    have hquote : c ≠ '"' := fun hc => hl ⟨k, hc ▸ hk⟩
    simp [read, hquote]

/-! ## Literals -/

/-- The state in a context, with nothing pending. -/
def ofContext : Context → State
  | .region r => ofRegion r
  | .literal q => if q = '"' then ⟨.string, .nothing⟩ else ⟨.character, .nothing⟩

theorem endLine_literal (q : Char) : (ofContext (.literal q)).endLine = ofRegion .code := by
  rw [ofContext]
  split <;> rfl

theorem read_literal_quote {q : Char} (hq : Context.IsReal (.literal q)) :
    (ofContext (.literal q)).read q = ofContext (.region .code) := by
  rcases hq with rfl | rfl <;> rfl

theorem read_literal_escape (q c : Char) :
    ((ofContext (.literal q)).read '\\').read c = ofContext (.literal q) := by
  rw [ofContext]
  split <;> simp [read]

theorem endLine_literal_escape (q : Char) :
    ((ofContext (.literal q)).read '\\').endLine = ofRegion .code := by
  rw [ofContext]
  split <;> rfl

theorem read_literal {q c : Char} (hq : Context.IsReal (.literal q)) (hc : c ≠ q)
    (hesc : c ≠ '\\') :
    (ofContext (.literal q)).read c = ofContext (.literal q) := by
  rcases hq with rfl | rfl <;> simp [ofContext, read, hc, hesc]

/-! ## The automaton against the scan -/

/-- **Over a line the automaton goes where the scan goes.** -/
theorem nextLine_ofContext {context : Context} (hreal : context.IsReal) (l : Line) :
    (ofContext context).nextLine l = ofRegion (scan context l) := by
  fun_induction scan context l with
  | case1 q => exact endLine_literal q
  | case2 r => cases r <;> rfl
  | case3 q d rest ih => rw [nextLine_cons, nextLine_cons, read_literal_escape, ih hreal]
  | case4 q d rest h ih =>
    -- a backslash here is the last character: it takes nothing along
    by_cases hd : d = '\\'
    · rw [eq_nil_of_backslash h hd, hd, nextLine_cons, nextLine_nil, endLine_literal_escape,
        scan_literal_nil]
    · by_cases hq : d = q
      · subst hq
        rw [if_pos rfl] at ih ⊢
        rw [nextLine_cons, read_literal_quote hreal, ih trivial]
      · rw [if_neg hq] at ih ⊢
        rw [nextLine_cons, read_literal hreal hq hd, ih hreal]
  | case5 rest ih => exact ih trivial
  | case6 d rest h ih =>
    by_cases hd : d = '*'
    · subst hd
      exact (nextLine_star fun k hk => h k rfl hk).trans (ih trivial)
    · have hread : (ofRegion .blockComment).read d = ofRegion .blockComment := by
        simp [ofRegion, read, hd]
      rw [ofContext, nextLine_cons, hread]
      exact ih trivial
  | case7 d rest ih =>
    have hread : ((ofRegion .textBlock).read '\\').read d = ofRegion .textBlock := by
      simp [ofRegion, read]
    rw [ofContext, nextLine_cons, nextLine_cons, hread]
    exact ih trivial
  | case8 rest ih => exact ih trivial
  | case9 d rest hesc hquote ih =>
    by_cases hd : d = '"'
    · subst hd
      exact (nextLine_textBlock_quote fun k hk => hquote k rfl hk).trans (ih trivial)
    · by_cases hb : d = '\\'
      · rw [eq_nil_of_backslash hesc hb, hb]
        rfl
      · have hread : (ofRegion .textBlock).read d = ofRegion .textBlock := by
          simp [ofRegion, read, hd, hb]
        rw [ofContext, nextLine_cons, hread]
        exact ih trivial
  | case10 rest => exact nextLine_lineComment .nothing rest
  | case11 rest ih => exact ih trivial
  | case12 rest ih => exact ih trivial
  | case13 rest h ih => exact (nextLine_string_quote h).trans (ih (Or.inl rfl))
  | case14 rest ih => exact ih (Or.inr rfl)
  | case15 d rest hline hblock htext hstring hchar ih =>
    by_cases hd : d = '/'
    · subst hd
      exact (nextLine_slash (fun k hk => hline k rfl hk) fun k hk => hblock k rfl hk).trans
        (ih trivial)
    · have hread : (ofRegion .code).read d = ofRegion .code := by
        have hq : d ≠ '"' := hstring
        have ha : d ≠ '\'' := hchar
        simp [ofRegion, read, hd, hq, ha]
      rw [ofContext, nextLine_cons, hread]
      exact ih trivial

/-- Over a line the automaton goes where `scanLine` goes. -/
theorem nextLine_ofRegion (r : Region) (l : Line) :
    (ofRegion r).nextLine l = ofRegion (scanLine r l) :=
  nextLine_ofContext (Context.isReal_region r) l

end State

/-! ## Texts -/

/-- What stands before the line of index `i` of a text: the characters up to the `i`-th line feed,
which is the last of them. -/
def beforeLine : List Char → Nat → List Char
  | _, 0 => []
  | [], _ + 1 => []
  | c :: cs, i + 1 => c :: beforeLine cs (if c = '\n' then i else i + 1)

theorem beforeLine_zero (s : List Char) : beforeLine s 0 = [] := by cases s <;> rfl

theorem beforeLine_append_cons {l : Line} (h : '\n' ∉ l) (rest : List Char) (i : Nat) :
    beforeLine (l ++ '\n' :: rest) (i + 1) = l ++ ['\n'] ++ beforeLine rest i := by
  induction l with
  | nil => rfl
  | cons c l ih =>
    obtain ⟨hc, hl⟩ := List.ne_and_not_mem_of_not_mem_cons h
    rw [List.cons_append, beforeLine, if_neg hc.symm, ih hl]
    rfl

theorem foldl_step_beforeLine {s : List Char} {i : Nat} (hi : i < (lines s).length) (r : Region) :
    (beforeLine s i).foldl State.step (.ofRegion r) =
      .ofRegion (((lines s).take i).foldl scanLine r) := by
  induction s using lineInduction generalizing i r with
  | last l hl =>
    have hlength : (lines l).length ≤ 1 := by
      rw [lines_of_not_mem hl]
      split <;> simp
    obtain rfl : i = 0 := by omega
    rw [beforeLine_zero, List.take_zero]
    rfl
  | line l rest hl ih =>
    rw [lines_append_cons hl] at hi ⊢
    cases i with
    | zero =>
      rw [beforeLine_zero, List.take_zero]
      rfl
    | succ i =>
      rw [beforeLine_append_cons hl, List.foldl_append, State.foldl_step hl,
        State.nextLine_ofRegion, ih (Nat.lt_of_succ_lt_succ hi), List.take_succ_cons,
        List.foldl_cons, scanLine_dropReturn]

/-- **Where a line of a text starts, the automaton is in the region to which the lines before it
lead**, and nothing is pending. -/
theorem read_beforeLine {s : List Char} {i : Nat} (hi : i < (lines s).length) :
    read (beforeLine s i) = .ofRegion (((lines s).take i).foldl scanLine .code) :=
  foldl_step_beforeLine hi .code

end Automaton

end Source

end JavaFormat
