import JavaFormat.Proofs.Charset.Gb18030
import JavaFormat.Proofs.Charset.Jis
import JavaFormat.Proofs.Source.Characters

/-!
# Formatted texts are read back

What is written of a formatted text is read back, since its characters are spacing and characters
of the text, which were read themselves (`decode?_of_encode?_format`).  The one exception is
ISO-2022-JP, which reads half-width katakana and writes them as their full-width forms.
-/

set_option autoImplicit false

namespace JavaFormat.Charset

open Source

theorem isSpacing_iff {c : Char} :
    isSpacing c = true ↔ c = ' ' ∨ c = '\t' ∨ c = '\r' ∨ c = '\n' := by
  simp [isSpacing, isBlank_iff, or_assoc]

/-- A charset that writes every character on its own reads a formatted text back if it reads back
what it reads at all. -/
theorem decodeWith_formatText {reader : Reader} {writer : Writer}
    (hspacing : ∀ c, isSpacing c = true → Reads reader c)
    (hback : ∀ c, Reads reader c → ReadsBack reader writer c) {style : Style}
    {source written : List UInt8} {cs : List Char} (hread : decodeWith reader source = some cs)
    (hwrite : encodeWith writer (formatText style cs) = some written) :
    decodeWith reader written = some (formatText style cs) := by
  refine decodeWith_encodeWith (fun c hc => hback c ?_) hwrite
  cases hs : isSpacing c with
  | true => exact hspacing c hs
  | false => exact reads_of_mem_decodeWith hread ((mem_formatText_iff hs).1 hc)

/-- Spacing is read by a charset that reads ASCII. -/
theorem reads_of_isSpacing {reader : Reader} (h : ReadsAscii reader) (c : Char)
    (hc : isSpacing c = true) : Reads reader c := by
  have hlt : c.toNat < 0x80 := by
    rcases isSpacing_iff.1 hc with rfl | rfl | rfl | rfl <;> decide
  obtain ⟨b, bs, -, hread⟩ := h.readAs hlt
  exact ⟨b, bs ++ [], [c], bs.length, hread [], List.mem_cons_self⟩

/-- What ISO-2022-JP writes of a formatted text is read as that text with the half-width katakana
as full-width ones. -/
theorem Iso2022Jp.decode_formatText {style : Style} {source written : List UInt8}
    {cs : List Char} (hread : Iso2022Jp.decode source = some cs)
    (hwrite : Iso2022Jp.encode (formatText style cs) = some written) :
    Iso2022Jp.decode written = some ((formatText style cs).map Iso2022Jp.widen) := by
  refine Iso2022Jp.decode_encode (fun c hc => ?_) hwrite
  cases hs : isSpacing c with
  | true => rcases isSpacing_iff.1 hs with rfl | rfl | rfl | rfl <;> decide
  | false => exact Iso2022Jp.foldMinus_of_mem_decode hread ((mem_formatText_iff hs).1 hc)

/-- No spacing is a half-width katakana, so a layout neither brings any in nor takes any away. -/
theorem halfWidthPlace?_formatText {style : Style} {cs : List Char} :
    (∀ c ∈ formatText style cs, Jis.halfWidthPlace? c = none) ↔
      ∀ c ∈ cs, Jis.halfWidthPlace? c = none := by
  have hspacing : ∀ c, isSpacing c = true → Jis.halfWidthPlace? c = none := fun c hc => by
    rcases isSpacing_iff.1 hc with rfl | rfl | rfl | rfl <;> decide
  refine forall_congr' fun c => ?_
  cases hs : isSpacing c with
  | true => simp [hspacing c hs]
  | false => rw [mem_formatText_iff hs]

/-! ## Texts -/

/-- The charsets other than ISO-2022-JP read back what they write of a formatted text. -/
theorem decode?_of_encode?_of_ne {charset : Charset} (hne : charset ≠ .iso2022Jp) {style : Style}
    {source written : List UInt8} {text : String} (hread : charset.decode? source = some text)
    (hwrite : charset.encode? (format style text) = some written) :
    charset.decode? written = some (format style text) := by
  by_cases hs : charset.IsSimple
  · exact decode?_of_encode? hs hwrite
  -- The others read characters, which a formatted text has been made of.
  have hstream : ∀ {reader : Reader} {writer : Writer},
      ReadsAscii reader → (∀ c, Reads reader c → ReadsBack reader writer c) →
      (decodeWith reader source).map String.ofList = some text →
      encodeWith writer (format style text).toList = some written →
      (decodeWith reader written).map String.ofList = some (format style text) := by
    intro reader writer hascii hback hread hwrite
    obtain ⟨cs, hcs, rfl⟩ := Option.map_eq_some_iff.1 hread
    rw [format, String.toList_ofList, String.toList_ofList] at hwrite
    rw [decodeWith_formatText (reads_of_isSpacing hascii) hback hcs hwrite, format,
      String.toList_ofList]
    rfl
  cases charset with
  | utf8 => exact (hs trivial).elim
  | singleByte charset => exact (hs trivial).elim
  | iso2022Jp => exact (hne rfl).elim
  | gbk =>
    exact hstream Gb18030.readsAscii (fun c hc => Gb18030.readsBack hc false) hread hwrite
  | gb18030 =>
    exact hstream Gb18030.readsAscii (fun c hc => Gb18030.readsBack hc true) hread hwrite
  | big5 => exact hstream Big5.readsAscii (fun c _ => Big5.readsBack c) hread hwrite
  | eucJp => exact hstream EucJp.readsAscii (fun c hc => EucJp.readsBack hc) hread hwrite
  | shiftJis => exact hstream ShiftJis.readsAscii (fun c hc => ShiftJis.readsBack hc) hread hwrite
  | eucKr => exact hstream EucKr.readsAscii (fun c _ => EucKr.readsBack c) hread hwrite

/-- **What is written of a formatted text can be read, and it is that text** unless the charset is
ISO-2022-JP and there are half-width katakana in the text. -/
theorem decode?_of_encode?_format {charset : Charset} {style : Style}
    {source written : List UInt8} {text : String} (hread : charset.decode? source = some text)
    (hwrite : charset.encode? (format style text) = some written) :
    ∃ back, charset.decode? written = some back ∧
      (back = format style text ↔
        (charset = .iso2022Jp → ∀ c ∈ text.toList, Jis.halfWidthPlace? c = none)) := by
  by_cases hne : charset = .iso2022Jp
  · subst hne
    obtain ⟨cs, hcs, rfl⟩ := Option.map_eq_some_iff.1 hread
    rw [encode?, format, String.toList_ofList, String.toList_ofList] at hwrite
    refine ⟨_, congrArg (Option.map String.ofList) (Iso2022Jp.decode_formatText hcs hwrite), ?_⟩
    rw [format, String.toList_ofList, String.ofList_inj, Iso2022Jp.map_widen_eq_self_iff,
      halfWidthPlace?_formatText]
    simp
  · exact ⟨_, decode?_of_encode?_of_ne hne hread hwrite, by simp [hne]⟩

/-- The yen sign is read back, and so is a text without half-width katakana. -/
theorem decode?_of_encode?_format_yen :
    iso2022Jp.decode? [0x1B, 0x28, 0x4A, 0x5C, 0x20, 0x1B, 0x28, 0x42] = some "¥ " ∧
      iso2022Jp.encode? (format ⟨.j8, .spaces, 4⟩ "¥ ") =
        some [0x1B, 0x28, 0x4A, 0x5C, 0x0A, 0x1B, 0x28, 0x42] ∧
      ∃ back, iso2022Jp.decode? [0x1B, 0x28, 0x4A, 0x5C, 0x0A, 0x1B, 0x28, 0x42] = some back ∧
        (back = format ⟨.j8, .spaces, 4⟩ "¥ " ↔
          (iso2022Jp = .iso2022Jp → ∀ c ∈ "¥ ".toList, Jis.halfWidthPlace? c = none)) := by
  have hencode : Iso2022Jp.encode ['¥', ' '] =
      some [0x1B, 0x28, 0x4A, 0x5C, 0x20, 0x1B, 0x28, 0x42] := by decide +kernel
  have hown : ∀ c ∈ ['¥', ' '], Jis.foldMinus c = c :=
    List.forall_mem_cons.2 ⟨rfl, List.forall_mem_singleton.2 rfl⟩
  have hread : iso2022Jp.decode? [0x1B, 0x28, 0x4A, 0x5C, 0x20, 0x1B, 0x28, 0x42] = some "¥ " :=
    congrArg (Option.map String.ofList) (Iso2022Jp.decode_encode hown hencode)
  have hwrite : iso2022Jp.encode? (format ⟨.j8, .spaces, 4⟩ "¥ ") =
      some [0x1B, 0x28, 0x4A, 0x5C, 0x0A, 0x1B, 0x28, 0x42] := by decide +kernel
  exact ⟨hread, hwrite, decode?_of_encode?_format hread hwrite⟩

/-- A half-width katakana is read and written without an error, but as the full-width one. -/
theorem decode?_of_encode?_format_halfWidth :
    iso2022Jp.decode? [0x1B, 0x28, 0x49, 0x31, 0x1B, 0x28, 0x42] = some "ｱ" ∧
      ∃ written, iso2022Jp.encode? (format ⟨.j8, .spaces, 4⟩ "ｱ") = some written ∧
        iso2022Jp.decode? written = some "ア\n" ∧ "ア\n" ≠ format ⟨.j8, .spaces, 4⟩ "ｱ" := by
  have hchar : Iso2022Jp.readIn .katakana 0x31 ([] ++ Iso2022Jp.switch .katakana .ascii) =
      some ('ｱ', 0) := by decide
  have hswitch : Iso2022Jp.decodeInto .ascii false []
      (Iso2022Jp.switch .ascii .katakana ++ [0x31] ++ Iso2022Jp.switch .katakana .ascii) =
        Iso2022Jp.decodeInto .katakana false ['ｱ'] (Iso2022Jp.switch .katakana .ascii) :=
    Iso2022Jp.decodeInto_switch (by decide) hchar
  have hread : Iso2022Jp.decode [0x1B, 0x28, 0x49, 0x31, 0x1B, 0x28, 0x42] = some ['ｱ'] :=
    hswitch.trans (Iso2022Jp.decodeInto_end .katakana ['ｱ'])
  have hkana : Jis.index0208.get? 377 = some 'ア' := by
    rw [Jis.index0208, Index.get?_ofRows]
    decide +kernel
  -- Where the full-width letter comes first in the table does not matter, only that it is there.
  obtain ⟨p, hp⟩ := Index.exists_pointer? Jis.inRows hkana (by decide)
  have hplace : Iso2022Jp.place? .ascii 'ｱ' = some (.jis0208, Iso2022Jp.cells.bytes p) := by
    have hwiden : Iso2022Jp.widen (Jis.foldMinus 'ｱ') = 'ア' := by decide
    have hroman : Jis.romanByte? 'ｱ' = none := by decide
    simp only [Iso2022Jp.place?, hroman, hwiden, hp]
    rfl
  have hwrite : ∃ written, Iso2022Jp.encode ['ｱ', '\n'] = some written := by
    rw [Iso2022Jp.encode, Iso2022Jp.encodeInto, hplace]
    exact ⟨_, rfl⟩
  obtain ⟨written, hwrite⟩ := hwrite
  have hown : ∀ c ∈ ['ｱ', '\n'], Jis.foldMinus c = c :=
    List.forall_mem_cons.2 ⟨rfl, List.forall_mem_singleton.2 rfl⟩
  have hformat : format ⟨.j8, .spaces, 4⟩ "ｱ" = "ｱ\n" := by decide +kernel
  rw [hformat]
  refine ⟨congrArg (Option.map String.ofList) hread, written, hwrite, ?_, by decide⟩
  exact congrArg (Option.map String.ofList) (Iso2022Jp.decode_encode hown hwrite)

end JavaFormat.Charset
