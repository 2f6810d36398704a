import JavaFormat.Proofs.Source.Lexer
import JavaFormat.Proofs.Text.Utf8

/-!
# Scanning the bytes of a line

The regions of a text can be found without looking at characters.  `scanBytes` reads the bytes of a
line in UTF-8 and keeps two flags from one line to the next.  It goes on by one, two or three bytes
at a time, so that a backslash may take it into the middle of a character or beyond the end of the
line, and it leaves literals to a loop of its own, `skipLiteral`.

* `scanBytes_utf8`: on the bytes of a line it gives the flags of the region that `scanLine` gives.
* `Flags.not_both`: so the two flags are never both set.

Both rest on what `Text.le_of_mem_utf8EncodeChar` says about UTF-8: what is left of a character that
is cut in the middle contains no delimiter.
-/

set_option autoImplicit false

namespace JavaFormat

namespace Source

open Text

/-! ## The scan -/

/-- What is known where a line starts. -/
structure Flags where
  /-- The line starts inside a text block. -/
  inTextBlock : Bool
  /-- The line starts inside a block comment. -/
  inBlockComment : Bool
  deriving DecidableEq, Repr

/-- The byte of a character of ASCII. -/
def byte (c : Char) : UInt8 := UInt8.ofNat c.toNat

/-- The bytes after a literal, or none if the line ends before it does. -/
def skipLiteral (quote : UInt8) : List UInt8 → List UInt8
  | [] => []
  | b :: rest =>
    if b = byte '\\' then skipLiteral quote (rest.drop 1)
    else if b = quote then rest
    else skipLiteral quote rest
termination_by bytes => bytes.length
decreasing_by all_goals simp only [List.length_drop, List.length_cons]; omega

theorem length_skipLiteral_le (quote : UInt8) (bytes : List UInt8) :
    (skipLiteral quote bytes).length ≤ bytes.length := by
  fun_induction skipLiteral quote bytes with
  | case1 => exact Nat.le_refl _
  | case2 rest ih =>
    rw [List.length_drop] at ih
    rw [List.length_cons]
    omega
  | case3 rest hb => exact Nat.le_succ _
  | case4 b rest hb hq ih => exact Nat.le_succ_of_le ih

/-- The flags after a line, from those at its start and its bytes. -/
def scanBytes (flags : Flags) : List UInt8 → Flags
  | [] => flags
  | b :: rest =>
    if flags.inBlockComment then
      if ['*', '/'].map byte <+: b :: rest then
        scanBytes { flags with inBlockComment := false } (rest.drop 1)
      else scanBytes flags rest
    else if flags.inTextBlock then
      if b = byte '\\' then scanBytes flags (rest.drop 1)
      else if ['"', '"', '"'].map byte <+: b :: rest then
        scanBytes { flags with inTextBlock := false } (rest.drop 2)
      else scanBytes flags rest
    else if ['/', '/'].map byte <+: b :: rest then flags
    else if ['/', '*'].map byte <+: b :: rest then
      scanBytes { flags with inBlockComment := true } (rest.drop 1)
    else if ['"', '"', '"'].map byte <+: b :: rest then
      scanBytes { flags with inTextBlock := true } (rest.drop 2)
    else if b = byte '"' ∨ b = byte '\'' then scanBytes flags (skipLiteral b rest)
    else scanBytes flags rest
termination_by bytes => bytes.length
decreasing_by
  all_goals
    have hskip := length_skipLiteral_le b rest
    simp only [List.length_drop, List.length_cons]
    omega

/-- The bytes of a line in UTF-8. -/
def utf8 (l : Line) : List UInt8 := l.flatMap String.utf8EncodeChar

/-! ## Bytes of characters -/

theorem utf8_cons (c : Char) (l : Line) : utf8 (c :: l) = String.utf8EncodeChar c ++ utf8 l :=
  List.flatMap_cons ..

theorem utf8_cons_of_lt {c : Char} (hc : c.toNat < 0x80) (l : Line) :
    utf8 (c :: l) = byte c :: utf8 l := by
  rw [utf8_cons, utf8EncodeChar_of_lt hc]
  rfl

/-- Whether bytes are none of ASCII. -/
def AllHigh (bytes : List UInt8) : Prop := ∀ b ∈ bytes, 0x80 ≤ b.toNat

theorem allHigh_utf8EncodeChar {c : Char} (hc : ¬c.toNat < 0x80) :
    AllHigh (String.utf8EncodeChar c) :=
  fun _ hb => le_of_mem_utf8EncodeChar (Nat.le_of_not_lt hc) hb

/-- What is left of a line when the first byte is taken away: no other byte of the first character
is one of ASCII. -/
theorem exists_drop_utf8 (c : Char) (l : Line) :
    ∃ high, AllHigh high ∧ (utf8 (c :: l)).drop 1 = high ++ utf8 l := by
  by_cases hc : c.toNat < 0x80
  · exact ⟨[], fun b hb => absurd hb List.not_mem_nil, by rw [utf8_cons_of_lt hc]; rfl⟩
  · obtain ⟨b, high, hbytes⟩ := List.exists_cons_of_ne_nil (String.utf8EncodeChar_ne_nil (c := c))
    refine ⟨high, fun x hx => allHigh_utf8EncodeChar hc x ?_, ?_⟩
    · rw [hbytes]
      exact List.mem_cons_of_mem b hx
    · rw [utf8_cons, hbytes]
      rfl

theorem ne_byte_of_le {b : UInt8} (hb : 0x80 ≤ b.toNat) {c : Char} (hc : c.toNat < 0x80) :
    b ≠ byte c := by
  rintro rfl
  rw [byte, UInt8.toNat_ofNat', Nat.mod_eq_of_lt (by omega)] at hb
  omega

/-- A delimiter of ASCII is found in the bytes of a line where it is found in the line. -/
theorem map_byte_prefix_iff (delimiter : List Char) (h : ∀ d ∈ delimiter, d.toNat < 0x80)
    {l : Line} : delimiter.map byte <+: utf8 l ↔ delimiter <+: l := by
  induction delimiter generalizing l with
  | nil => simp
  | cons d delimiter ih =>
    have hd := h d List.mem_cons_self
    cases l with
    | nil => simp [utf8]
    | cons c l =>
      by_cases hc : c.toNat < 0x80
      · rw [utf8_cons_of_lt hc, List.map_cons, List.cons_prefix_cons, List.cons_prefix_cons,
          ih fun x hx => h x (List.mem_cons_of_mem d hx)]
        exact and_congr_left' (ofNat_toNat_inj hd hc)
      · obtain ⟨b, high, hbytes⟩ :=
          List.exists_cons_of_ne_nil (String.utf8EncodeChar_ne_nil (c := c))
        have hb : b ≠ byte d :=
          ne_byte_of_le (allHigh_utf8EncodeChar hc b (by rw [hbytes]; exact List.mem_cons_self)) hd
        have hne : d ≠ c := by
          rintro rfl
          exact hc hd
        rw [utf8_cons, hbytes, List.map_cons, List.cons_append, List.cons_prefix_cons,
          List.cons_prefix_cons]
        exact iff_of_false (fun hp => hb hp.1.symm) fun hp => hne hp.1

/-! ## Bytes that decide nothing -/

/-- The characters of which delimiters consist, and the backslash. -/
def delimiting : List Char := ['/', '*', '"', '\'', '\\']

/-- Whether a byte is none of these characters. -/
def IsInertByte (b : UInt8) : Prop := ∀ d ∈ delimiting, b ≠ byte d

theorem lt_of_mem_delimiting {d : Char} (hd : d ∈ delimiting) : d.toNat < 0x80 := by
  simp only [delimiting, List.mem_cons, List.not_mem_nil, or_false] at hd
  rcases hd with rfl | rfl | rfl | rfl | rfl <;> decide

theorem isInertByte_of_le {b : UInt8} (hb : 0x80 ≤ b.toNat) : IsInertByte b :=
  fun _ hd => ne_byte_of_le hb (lt_of_mem_delimiting hd)

/-- In front of a line such a byte decides nothing. -/
theorem scanBytes_cons_of_inert {b : UInt8} (hb : IsInertByte b) (flags : Flags)
    (bytes : List UInt8) : scanBytes flags (b :: bytes) = scanBytes flags bytes := by
  have hnone : ∀ (d : Char) (delimiter : List Char), d ∈ delimiting →
      ¬(d :: delimiter).map byte <+: b :: bytes := fun d delimiter hd hp =>
    hb d hd (List.cons_prefix_cons.1 hp).1.symm
  have hquote : ¬(b = byte '"' ∨ b = byte '\'') :=
    fun hor => hor.elim (hb '"' (by decide)) (hb '\'' (by decide))
  rw [scanBytes]
  simp only [if_neg (hnone '*' _ (by decide)), if_neg (hnone '/' _ (by decide)),
    if_neg (hnone '"' _ (by decide)), if_neg (hb '\\' (by decide)), if_neg hquote, ite_self]

theorem scanBytes_inert_append (flags : Flags) {lead : List UInt8}
    (h : ∀ b ∈ lead, IsInertByte b) (bytes : List UInt8) :
    scanBytes flags (lead ++ bytes) = scanBytes flags bytes := by
  induction lead with
  | nil => rfl
  | cons b lead ih =>
    rw [List.cons_append, scanBytes_cons_of_inert (h b List.mem_cons_self),
      ih fun x hx => h x (List.mem_cons_of_mem b hx)]

theorem skipLiteral_cons_of_inert {b quote : UInt8} (hb : IsInertByte b) (hq : b ≠ quote)
    (bytes : List UInt8) : skipLiteral quote (b :: bytes) = skipLiteral quote bytes := by
  rw [skipLiteral, if_neg (hb '\\' (by decide)), if_neg hq]

theorem skipLiteral_high {q : Char} (hq : q.toNat < 0x80) {high : List UInt8} (h : AllHigh high)
    (bytes : List UInt8) : skipLiteral (byte q) (high ++ bytes) = skipLiteral (byte q) bytes := by
  induction high with
  | nil => rfl
  | cons b high ih =>
    have hb := h b List.mem_cons_self
    rw [List.cons_append, skipLiteral_cons_of_inert (isInertByte_of_le hb) (ne_byte_of_le hb hq),
      ih fun x hx => h x (List.mem_cons_of_mem b hx)]

/-! ## The scan of the bytes against the scan of the characters -/

/-- The flags of a region. -/
def Flags.ofRegion : Region → Flags
  | .code => ⟨false, false⟩
  | .blockComment => ⟨false, true⟩
  | .textBlock => ⟨true, false⟩

/-- The flags after the rest of a line that is read in a context. -/
def scanFrom : Context → List UInt8 → Flags
  | .region r, bytes => scanBytes (.ofRegion r) bytes
  | .literal q, bytes => scanBytes (.ofRegion .code) (skipLiteral (byte q) bytes)

theorem Context.IsReal.quote_lt {q : Char} (h : Context.IsReal (.literal q)) :
    q.toNat < 0x80 := by
  rcases h with rfl | rfl <;> decide

/-- Bytes that are none of ASCII are read in every context as if they were not there. -/
theorem scanFrom_high {context : Context} (hreal : context.IsReal) {high : List UInt8}
    (h : AllHigh high) (bytes : List UInt8) :
    scanFrom context (high ++ bytes) = scanFrom context bytes := by
  cases context with
  | region r => exact scanBytes_inert_append _ (fun b hb => isInertByte_of_le (h b hb)) bytes
  | literal q => rw [scanFrom, skipLiteral_high hreal.quote_lt h, scanFrom]

/-- An escaped character is read as one byte is: what is left of it decides nothing. -/
theorem scanFrom_drop {context : Context} (hreal : context.IsReal) (c : Char) (l : Line) :
    scanFrom context ((utf8 (c :: l)).drop 1) = scanFrom context (utf8 l) := by
  obtain ⟨high, hhigh, hdrop⟩ := exists_drop_utf8 c l
  rw [hdrop, scanFrom_high hreal hhigh]

/-- A character outside ASCII decides nothing. -/
theorem scanFrom_cons_of_not_lt {context : Context} (hreal : context.IsReal) {c : Char}
    (hc : ¬c.toNat < 0x80) (l : Line) :
    scanFrom context (utf8 (c :: l)) = scanFrom context (utf8 l) := by
  rw [utf8_cons, scanFrom_high hreal (allHigh_utf8EncodeChar hc)]

theorem byte_inj {c d : Char} (hc : c.toNat < 0x80) (hd : d.toNat < 0x80) :
    byte c = byte d ↔ c = d := ofNat_toNat_inj hc hd

theorem scanFrom_literal {q c : Char} (hreal : Context.IsReal (.literal q)) (hc : c.toNat < 0x80)
    (l : Line) :
    scanFrom (.literal q) (utf8 (c :: l)) =
      if c = '\\' then scanFrom (.literal q) ((utf8 l).drop 1)
      else if c = q then scanFrom (.region .code) (utf8 l)
      else scanFrom (.literal q) (utf8 l) := by
  rw [utf8_cons_of_lt hc]
  change scanBytes _ (skipLiteral _ (_ :: _)) = _
  rw [skipLiteral]
  simp only [byte_inj hc (by decide : '\\'.toNat < 0x80), byte_inj hc hreal.quote_lt]
  split
  · rfl
  · split <;> rfl

theorem scanFrom_blockComment {c : Char} (hc : c.toNat < 0x80) (l : Line) :
    scanFrom (.region .blockComment) (utf8 (c :: l)) =
      if ['*', '/'] <+: c :: l then scanFrom (.region .code) ((utf8 l).drop 1)
      else scanFrom (.region .blockComment) (utf8 l) := by
  have hend := map_byte_prefix_iff ['*', '/'] (by simp) (l := c :: l)
  rw [utf8_cons_of_lt hc] at hend ⊢
  rw [scanFrom, scanBytes]
  simp only [hend]
  rfl

theorem scanFrom_textBlock {c : Char} (hc : c.toNat < 0x80) (l : Line) :
    scanFrom (.region .textBlock) (utf8 (c :: l)) =
      if c = '\\' then scanFrom (.region .textBlock) ((utf8 l).drop 1)
      else if ['"', '"', '"'] <+: c :: l then scanFrom (.region .code) ((utf8 l).drop 2)
      else scanFrom (.region .textBlock) (utf8 l) := by
  have hend := map_byte_prefix_iff ['"', '"', '"'] (by simp) (l := c :: l)
  rw [utf8_cons_of_lt hc] at hend ⊢
  rw [scanFrom, scanBytes]
  simp only [hend, byte_inj hc (by decide : '\\'.toNat < 0x80)]
  rfl

theorem scanFrom_code {c : Char} (hc : c.toNat < 0x80) (l : Line) :
    scanFrom (.region .code) (utf8 (c :: l)) =
      if ['/', '/'] <+: c :: l then .ofRegion .code
      else if ['/', '*'] <+: c :: l then scanFrom (.region .blockComment) ((utf8 l).drop 1)
      else if ['"', '"', '"'] <+: c :: l then scanFrom (.region .textBlock) ((utf8 l).drop 2)
      else if c = '"' ∨ c = '\'' then scanFrom (.literal c) (utf8 l)
      else scanFrom (.region .code) (utf8 l) := by
  have hline := map_byte_prefix_iff ['/', '/'] (by simp) (l := c :: l)
  have hblock := map_byte_prefix_iff ['/', '*'] (by simp) (l := c :: l)
  have htext := map_byte_prefix_iff ['"', '"', '"'] (by simp) (l := c :: l)
  rw [utf8_cons_of_lt hc] at hline hblock htext ⊢
  rw [scanFrom, scanBytes]
  simp only [hline, hblock, htext, byte_inj hc (by decide : '"'.toNat < 0x80),
    byte_inj hc (by decide : '\''.toNat < 0x80)]
  rfl

theorem not_prefix_cons {c d : Char} {delimiter rest : List Char}
    (h : ∀ k, d = c → rest = delimiter ++ k → False) : ¬c :: delimiter <+: d :: rest := by
  rintro ⟨k, hk⟩
  obtain ⟨hc, hrest⟩ := List.cons.inj hk
  exact h k hc.symm hrest.symm

/-- **On the bytes of a line the scan gives the flags of the region after the line.** -/
theorem scanFrom_utf8 {context : Context} (hreal : context.IsReal) (l : Line) :
    scanFrom context (utf8 l) = .ofRegion (scan context l) := by
  fun_induction scan context l with
  | case1 q => simp [utf8, scanFrom, skipLiteral, scanBytes]
  | case2 r => simp [utf8, scanFrom, scanBytes]
  | case3 q d rest ih =>
    rw [scanFrom_literal hreal (by decide), if_pos rfl, scanFrom_drop hreal, ih hreal]
  | case4 q d rest h ih =>
    by_cases hc : d.toNat < 0x80
    · rw [scanFrom_literal hreal hc]
      by_cases hd : d = '\\'
      · rw [if_pos hd, eq_nil_of_backslash h hd, scan_literal_nil]
        simp [utf8, scanFrom, skipLiteral, scanBytes]
      · rw [if_neg hd]
        split
        · rename_i hq
          rw [if_pos hq] at ih
          exact ih trivial
        · rename_i hq
          rw [if_neg hq] at ih
          exact ih hreal
    · have hq : d ≠ q := by
        rintro rfl
        exact hc hreal.quote_lt
      rw [if_neg hq] at ih ⊢
      rw [scanFrom_cons_of_not_lt hreal hc, ih hreal]
  | case5 rest ih =>
    rw [scanFrom_blockComment (by decide), if_pos ⟨rest, rfl⟩, utf8_cons_of_lt (by decide)]
    exact ih trivial
  | case6 d rest h ih =>
    by_cases hc : d.toNat < 0x80
    · rw [scanFrom_blockComment hc, if_neg (not_prefix_cons h), ih trivial]
    · rw [scanFrom_cons_of_not_lt hreal hc, ih trivial]
  | case7 d rest ih =>
    rw [scanFrom_textBlock (by decide), if_pos rfl, scanFrom_drop hreal, ih trivial]
  | case8 rest ih =>
    rw [scanFrom_textBlock (by decide), if_neg (by decide), if_pos ⟨rest, rfl⟩,
      utf8_cons_of_lt (by decide), utf8_cons_of_lt (by decide)]
    exact ih trivial
  | case9 d rest hesc hquote ih =>
    by_cases hc : d.toNat < 0x80
    · rw [scanFrom_textBlock hc]
      by_cases hd : d = '\\'
      · rw [if_pos hd, eq_nil_of_backslash hesc hd]
        simp [utf8, scanFrom, scanBytes, scan]
      · rw [if_neg hd, if_neg (not_prefix_cons hquote), ih trivial]
    · rw [scanFrom_cons_of_not_lt hreal hc, ih trivial]
  | case10 rest => rw [scanFrom_code (by decide), if_pos ⟨rest, rfl⟩]
  | case11 rest ih =>
    rw [scanFrom_code (by decide), if_neg (by simp), if_pos ⟨rest, rfl⟩,
      utf8_cons_of_lt (by decide)]
    exact ih trivial
  | case12 rest ih =>
    rw [scanFrom_code (by decide), if_neg (by simp), if_neg (by simp), if_pos ⟨rest, rfl⟩,
      utf8_cons_of_lt (by decide), utf8_cons_of_lt (by decide)]
    exact ih trivial
  | case13 rest h ih =>
    rw [scanFrom_code (by decide), if_neg (by simp), if_neg (by simp),
      if_neg (not_prefix_cons fun k _ => h k), if_pos (Or.inl rfl), ih (Or.inl rfl)]
  | case14 rest ih =>
    rw [scanFrom_code (by decide), if_neg (by simp), if_neg (by simp), if_neg (by simp),
      if_pos (Or.inr rfl), ih (Or.inr rfl)]
  | case15 d rest hline hblock htext hstring hchar ih =>
    by_cases hc : d.toNat < 0x80
    · rw [scanFrom_code hc, if_neg (not_prefix_cons hline), if_neg (not_prefix_cons hblock),
        if_neg (not_prefix_cons htext), if_neg (not_or.2 ⟨hstring, hchar⟩), ih trivial]
    · rw [scanFrom_cons_of_not_lt hreal hc, ih trivial]

/-- **On the bytes of a line the scan gives the flags of the region that `scanLine` gives.** -/
theorem scanBytes_utf8 (r : Region) (l : Line) :
    scanBytes (.ofRegion r) (utf8 l) = .ofRegion (scanLine r l) :=
  scanFrom_utf8 (Context.isReal_region r) l

/-- No region sets both flags. -/
theorem Flags.not_both (r : Region) :
    ¬((Flags.ofRegion r).inTextBlock = true ∧ (Flags.ofRegion r).inBlockComment = true) := by
  cases r <;> decide

/-- Over lines the scan of their bytes keeps to the regions between them. -/
theorem foldl_scanBytes (r : Region) (ls : List Line) :
    ls.foldl (fun flags l => scanBytes flags (utf8 l)) (.ofRegion r) =
      .ofRegion (ls.foldl scanLine r) := by
  induction ls generalizing r with
  | nil => rfl
  | cons l ls ih => rw [List.foldl_cons, List.foldl_cons, scanBytes_utf8, ih]

end Source

end JavaFormat
