import JavaFormat.Proofs.Source.ByteScan
import JavaFormat.Source.Layout

/-!
# Bytes at the ends of a line

The scan of the bytes of a line goes on by up to three bytes at a time, and over a literal at once.
Still it does not matter to it where a line ends: bytes that are no part of a delimiter decide
nothing in front of a line and nothing behind it, whichever flags are set when the line begins.

* `scanBytes_concat_of_inert`: one such byte more at the end changes nothing, although a jump that
  went beyond the end before may now end on it.
* `scan_reindent`: so a line leads to the same flags, and to the same region, after it was indented
  anew and with any number of carriage returns behind it.
-/

set_option autoImplicit false

namespace JavaFormat

namespace Source

open Text

/-! ## One more byte at the end -/

/-- Whether some bytes are others, or those with one byte more at their end. -/
def IsOneMore (b : UInt8) (bytes more : List UInt8) : Prop := more = bytes ∨ more = bytes ++ [b]

theorem IsOneMore.congr {α : Type} {b : UInt8} {bytes more : List UInt8} {f : List UInt8 → α}
    (h : IsOneMore b bytes more) (hf : f (bytes ++ [b]) = f bytes) : f more = f bytes := by
  rcases h with rfl | rfl
  · rfl
  · exact hf

theorem isOneMore_drop (b : UInt8) (n : Nat) (bytes : List UInt8) :
    IsOneMore b (bytes.drop n) ((bytes ++ [b]).drop n) := by
  rcases Nat.lt_or_ge bytes.length n with h | h
  · refine Or.inl ?_
    rw [List.drop_of_length_le (by rw [List.length_append, List.length_singleton]; omega),
      List.drop_of_length_le (Nat.le_of_lt h)]
  · exact Or.inr (List.drop_append_of_le_length h)

theorem isOneMore_skipLiteral {b quote : UInt8} (hb : IsInertByte b) (hq : b ≠ quote)
    (bytes : List UInt8) :
    IsOneMore b (skipLiteral quote bytes) (skipLiteral quote (bytes ++ [b])) := by
  fun_induction skipLiteral quote bytes with
  | case1 =>
    refine Or.inl ?_
    rw [List.nil_append, skipLiteral_cons_of_inert hb hq, skipLiteral]
  | case2 rest ih =>
    rw [List.cons_append, skipLiteral, if_pos rfl]
    -- a backslash at the end takes the new byte along
    rcases isOneMore_drop b 1 rest with h | h
    · exact Or.inl (by rw [h])
    · rw [h]
      exact ih
  | case3 rest hne =>
    rw [List.cons_append, skipLiteral, if_neg hne, if_pos rfl]
    exact Or.inr rfl
  | case4 x rest hne hx ih =>
    rw [List.cons_append, skipLiteral, if_neg hne, if_neg hx]
    exact ih

/-- A delimiter is not completed by a byte that is no part of it. -/
theorem map_byte_prefix_concat_iff {b : UInt8} (hb : IsInertByte b) {delimiter : List Char}
    (hd : ∀ d ∈ delimiter, d ∈ delimiting) (bytes : List UInt8) :
    delimiter.map byte <+: bytes ++ [b] ↔ delimiter.map byte <+: bytes := by
  rw [List.prefix_concat_iff]
  refine or_iff_right fun h => ?_
  have hmem : b ∈ delimiter.map byte := by
    rw [h]
    exact List.mem_append_right _ (List.mem_singleton_self b)
  obtain ⟨d, hmem, hbyte⟩ := List.mem_map.1 hmem
  exact hb d (hd d hmem) hbyte.symm

/-- **One more byte at the end of a line decides nothing**, unless it is part of a delimiter or a
backslash. -/
theorem scanBytes_concat_of_inert {b : UInt8} (hb : IsInertByte b) (flags : Flags)
    (bytes : List UInt8) : scanBytes flags (bytes ++ [b]) = scanBytes flags bytes := by
  have hprefix : ∀ (delimiter : List Char) (x : UInt8) (rest : List UInt8),
      (∀ d ∈ delimiter, d ∈ delimiting) →
      (delimiter.map byte <+: x :: (rest ++ [b]) ↔ delimiter.map byte <+: x :: rest) :=
    fun delimiter x rest hd => map_byte_prefix_concat_iff hb hd (x :: rest)
  have hcomment := fun x rest => hprefix ['*', '/'] x rest (by simp [delimiting])
  have hquotes := fun x rest => hprefix ['"', '"', '"'] x rest (by simp [delimiting])
  have hline := fun x rest => hprefix ['/', '/'] x rest (by simp [delimiting])
  have hblock := fun x rest => hprefix ['/', '*'] x rest (by simp [delimiting])
  fun_induction scanBytes flags bytes with
  | case1 flags => rw [List.nil_append, scanBytes_cons_of_inert hb, scanBytes]
  | case2 flags x rest hin hp ih =>
    rw [List.cons_append, scanBytes, if_pos hin, if_pos ((hcomment x rest).2 hp)]
    exact (isOneMore_drop b 1 rest).congr ih
  | case3 flags x rest hin hp ih =>
    rw [List.cons_append, scanBytes, if_pos hin, if_neg (mt (hcomment x rest).1 hp), ih]
  | case4 flags rest hin htext ih =>
    rw [List.cons_append, scanBytes, if_neg hin, if_pos htext, if_pos rfl]
    exact (isOneMore_drop b 1 rest).congr ih
  | case5 flags x rest hin htext hx hp ih =>
    rw [List.cons_append, scanBytes, if_neg hin, if_pos htext, if_neg hx,
      if_pos ((hquotes x rest).2 hp)]
    exact (isOneMore_drop b 2 rest).congr ih
  | case6 flags x rest hin htext hx hp ih =>
    rw [List.cons_append, scanBytes, if_neg hin, if_pos htext, if_neg hx,
      if_neg (mt (hquotes x rest).1 hp), ih]
  | case7 flags x rest hin htext hl =>
    rw [List.cons_append, scanBytes, if_neg hin, if_neg htext, if_pos ((hline x rest).2 hl)]
  | case8 flags x rest hin htext hl hp ih =>
    rw [List.cons_append, scanBytes, if_neg hin, if_neg htext, if_neg (mt (hline x rest).1 hl),
      if_pos ((hblock x rest).2 hp)]
    exact (isOneMore_drop b 1 rest).congr ih
  | case9 flags x rest hin htext hl hp hq ih =>
    rw [List.cons_append, scanBytes, if_neg hin, if_neg htext, if_neg (mt (hline x rest).1 hl),
      if_neg (mt (hblock x rest).1 hp), if_pos ((hquotes x rest).2 hq)]
    exact (isOneMore_drop b 2 rest).congr ih
  | case10 flags x rest hin htext hl hp hq hx ih =>
    have hne : b ≠ x := by
      rcases hx with rfl | rfl
      · exact hb '"' (by decide)
      · exact hb '\'' (by decide)
    rw [List.cons_append, scanBytes, if_neg hin, if_neg htext, if_neg (mt (hline x rest).1 hl),
      if_neg (mt (hblock x rest).1 hp), if_neg (mt (hquotes x rest).1 hq), if_pos hx]
    exact (isOneMore_skipLiteral hb hne rest).congr ih
  | case11 flags x rest hin htext hl hp hq hx ih =>
    rw [List.cons_append, scanBytes, if_neg hin, if_neg htext, if_neg (mt (hline x rest).1 hl),
      if_neg (mt (hblock x rest).1 hp), if_neg (mt (hquotes x rest).1 hq), if_neg hx, ih]

theorem scanBytes_append_inert (flags : Flags) (bytes : List UInt8) {trail : List UInt8}
    (h : ∀ b ∈ trail, IsInertByte b) :
    scanBytes flags (bytes ++ trail) = scanBytes flags bytes := by
  induction trail using List.reverseRecOn with
  | nil => rw [List.append_nil]
  | append_singleton trail b ih =>
    rw [← List.append_assoc, scanBytes_concat_of_inert (h b (by simp)),
      ih fun x hx => h x (List.mem_append_left _ hx)]

/-! ## Lines -/

theorem utf8_append (l k : Line) : utf8 (l ++ k) = utf8 l ++ utf8 k := List.flatMap_append ..

/-- The bytes of a character that decides nothing decide nothing. -/
theorem isInertByte_of_mem_utf8 {l : Line} (h : ∀ c ∈ l, IsInert c) :
    ∀ b ∈ utf8 l, IsInertByte b := by
  intro b hb
  obtain ⟨c, hc, hb⟩ := List.mem_flatMap.1 hb
  by_cases hlt : c.toNat < 0x80
  · rw [utf8EncodeChar_of_lt hlt, List.mem_singleton] at hb
    subst hb
    have hne : ∀ d ∈ delimiting, c ≠ d := by
      simp [delimiting, (h c hc).slash, (h c hc).star, (h c hc).quote, (h c hc).apostrophe,
        (h c hc).backslash]
    exact fun d hd hbyte => hne d hd
      ((byte_inj hlt (lt_of_mem_delimiting hd)).1 hbyte)
  · exact isInertByte_of_le (allHigh_utf8EncodeChar hlt b hb)

/-- **What decides nothing may stand on both sides of a line.** -/
theorem scanBytes_between (flags : Flags) {lead trail : Line} (hl : ∀ c ∈ lead, IsInert c)
    (body : Line) (ht : ∀ c ∈ trail, IsInert c) :
    scanBytes flags (utf8 (lead ++ body ++ trail)) = scanBytes flags (utf8 body) := by
  rw [utf8_append, utf8_append, scanBytes_append_inert _ _ (isInertByte_of_mem_utf8 ht),
    scanBytes_inert_append _ (isInertByte_of_mem_utf8 hl)]

theorem isInert_of_isBlank {c : Char} (h : isBlank c = true) : IsInert c :=
  isInert_of_isTrailing (isTrailing_of_isBlank h)

/-- The scan of the bytes does not see how a line is indented, nor what trails it. -/
theorem scanBytes_reindent (indentation : Indentation) (tab : UInt64) (flags : Flags) (l : Line) :
    scanBytes flags (utf8 (reindent indentation tab l)) = scanBytes flags (utf8 l) := by
  have hnil : ∀ c ∈ ([] : Line), IsInert c := fun c hc => absurd hc List.not_mem_nil
  rcases blank_or_body_reindent indentation tab l with
    ⟨hl, hr⟩ | ⟨lead, body, trail, rfl, hl, -, ht, hr⟩
  · have hold := scanBytes_between flags (fun c hc => isInert_of_isBlank (hl c hc)) [] hnil
    rw [List.append_nil, List.append_nil] at hold
    rw [hr, hold]
  · have hindent : ∀ c ∈ indentTo indentation tab (column tab lead), IsInert c :=
      fun c hc => isInert_of_isBlank (isBlank_of_mem_indentTo hc)
    have hnew := scanBytes_between flags hindent body hnil
    have hold := scanBytes_between flags (fun c hc => isInert_of_isBlank (hl c hc)) body
      fun c hc => isInert_of_isBlank (ht c hc)
    rw [List.append_nil] at hnew
    rw [hr, hnew, hold]

theorem isTrailing_of_mem_returns {n : Nat} {c : Char} (h : c ∈ List.replicate n '\r') :
    isTrailing c = true := by
  rw [List.eq_of_mem_replicate h]
  rfl

/-- **The lexer reads a line that is indented anew as it reads the line itself**, under every style.
Whichever flags are set at its start, one, both or none, its bytes lead to the same flags, and from
every region its characters lead to the same region.  Carriage returns at the end of a line may as
well be there as not. -/
theorem scan_reindent (style : Style) (line : Line) :
    (∀ flags : Flags,
      scanBytes flags (utf8 (reindent style.indentation (max style.tabWidth 1) line)) =
          scanBytes flags (utf8 line) ∧
        ∀ n, scanBytes flags (utf8 (line ++ List.replicate n '\r')) =
          scanBytes flags (utf8 line)) ∧
    ∀ r : Region,
      scanLine r (reindent style.indentation (max style.tabWidth 1) line) = scanLine r line ∧
        ∀ n, scanLine r (line ++ List.replicate n '\r') = scanLine r line := by
  refine ⟨fun flags => ⟨scanBytes_reindent _ _ flags line, fun n => ?_⟩,
    fun r => ⟨scanLine_reindent _ _ r line, fun n => ?_⟩⟩
  · rw [utf8_append]
    exact scanBytes_append_inert flags _ (isInertByte_of_mem_utf8 fun c hc =>
      isInert_of_isTrailing (isTrailing_of_mem_returns hc))
  · exact scan_append_trailing _ line fun c hc => isTrailing_of_mem_returns hc

end Source

end JavaFormat
