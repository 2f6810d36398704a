import JavaFormat.Edit
import JavaFormat.Proofs.Charset.Bytes

/-!
# Texts that cannot be written

A charset may read characters that it cannot write.  Whether it can write a text depends on nothing
but the characters in it (`exists_encode?_iff`): also in ISO-2022-JP, where the bytes of a character
depend on those before it, but not whether there are any (`Iso2022Jp.place?_eq_none_iff`).  Spacing
can be written in every charset, so that a layout neither brings in a character that cannot be
written nor gets rid of one (`encode?_format_eq_none_iff`).
-/

set_option autoImplicit false

namespace JavaFormat.Charset

open Source

/-! ## Characters -/

/-- A character is in a text that the charset reads. -/
def CanRead (charset : Charset) (c : Char) : Prop :=
  ∃ source text, charset.decode? source = some text ∧ c ∈ text.toList

/-- The charset writes the text of the character alone. -/
def CanWrite (charset : Charset) (c : Char) : Prop :=
  ∃ written, charset.encode? (String.singleton c) = some written

/-! ## ISO-2022-JP -/

namespace Iso2022Jp

/-- Whether a character can be written does not depend on the set that is current. -/
theorem place?_eq_none_iff (current : Set) (c : Char) :
    place? current c = none ↔ place? .ascii c = none := by
  simp only [place?]
  split
  · split
    · exact Iff.rfl
    · split <;> simp
  · exact Iff.rfl

theorem exists_encodeInto_iff (current : Set) (written : List (List UInt8)) (cs : List Char) :
    (∃ bytes, encodeInto current written cs = some bytes) ↔ ∀ c ∈ cs, place? .ascii c ≠ none := by
  induction cs generalizing current written with
  | nil => exact ⟨fun _ c hc => absurd hc List.not_mem_nil, fun _ => ⟨_, rfl⟩⟩
  | cons c cs ih =>
    rw [List.forall_mem_cons, ne_eq, ← place?_eq_none_iff current, encodeInto]
    cases hplace : place? current c with
    | none => simp
    | some place => exact (ih _ _).trans (by simp)

end Iso2022Jp

/-! ## Texts -/

/-- **A charset can write a text if it can write each of its characters.** -/
theorem exists_encode?_iff (charset : Charset) (text : String) :
    (∃ written, charset.encode? text = some written) ↔ ∀ c ∈ text.toList, charset.CanWrite c := by
  -- What decides about a text one character at a time decides about the text of one character.
  have hstream : ∀ ok : Char → Prop,
      (∀ t, (∃ written, charset.encode? t = some written) ↔ ∀ c ∈ t.toList, ok c) →
      ((∃ written, charset.encode? text = some written) ↔
        ∀ c ∈ text.toList, charset.CanWrite c) := by
    intro ok hok
    rw [hok]
    refine forall_congr' fun c => forall_congr' fun _ => ?_
    rw [CanWrite, hok]
    simp
  cases charset with
  | utf8 => exact hstream (fun _ => True) fun t => ⟨fun _ _ _ => trivial, fun _ => ⟨_, rfl⟩⟩
  | iso2022Jp => exact hstream _ fun t => Iso2022Jp.exists_encodeInto_iff .ascii [] t.toList
  | _ => exact hstream _ fun t => exists_encodeWith_iff

/-- Spacing can be written in every charset. -/
theorem canWrite_of_isSpacing (charset : Charset) {c : Char} (hc : isSpacing c = true) :
    charset.CanWrite c := by
  cases charset with
  | singleByte charset =>
    refine exists_encodeWith_iff.2 fun d hd => ?_
    rw [String.toList_singleton, List.mem_singleton] at hd
    exact SingleByte.exists_write (by rw [hd]; exact hc)
  | _ => rcases isSpacing_iff.1 hc with rfl | rfl | rfl | rfl <;> exact ⟨_, rfl⟩

theorem encode?_eq_none_iff (charset : Charset) (text : String) :
    charset.encode? text = none ↔ ∃ c ∈ text.toList, ¬charset.CanWrite c := by
  rw [← Option.not_isSome_iff_eq_none, Option.isSome_iff_exists, exists_encode?_iff]
  push Not
  rfl

/-- **A layout neither brings in a character that cannot be written nor gets rid of one.** -/
theorem encode?_format_eq_none_iff (charset : Charset) (style : Style) (text : String) :
    charset.encode? (format style text) = none ↔ charset.encode? text = none := by
  rw [encode?_eq_none_iff, encode?_eq_none_iff, format, String.toList_ofList]
  refine exists_congr fun c => and_congr_left fun hc => mem_formatText_iff ?_
  cases hs : isSpacing c with
  | true => exact absurd (charset.canWrite_of_isSpacing hs) hc
  | false => rfl

/-! ## Saving -/

/-- **Saving a formatted source fails to write a character exactly where the source has one that the
charset reads and cannot write.** -/
theorem save_format_unencodable_iff {charset : Charset} {source : List UInt8} {text : String}
    (hread : charset.decode? source = some text) (style : Style) :
    (charset.encode? (format style text) = none ↔ charset.encode? text = none) ∧
      ∀ (path : Path) (disk : Disk),
        ((⟨path, text, format style text, charset⟩ : Edit).save disk).1 =
            .error (.unencodable path charset) ↔
          ∃ c ∈ text.toList, charset.CanRead c ∧ ¬charset.CanWrite c := by
  refine ⟨encode?_format_eq_none_iff charset style text, fun path disk => ?_⟩
  have hchars : (∃ c ∈ text.toList, charset.CanRead c ∧ ¬charset.CanWrite c) ↔
      charset.encode? (format style text) = none := by
    rw [encode?_format_eq_none_iff, encode?_eq_none_iff]
    refine exists_congr fun c => and_congr_right fun hc => and_iff_right ?_
    exact ⟨source, text, hread, hc⟩
  rw [hchars, Edit.save]
  cases charset.encode? (format style text) with
  | none => simp
  | some written =>
    dsimp only
    cases (disk.writeBytes path written).1 <;> simp [Except.mapError]

/-! ## A character for private use -/

/-- Shift_JIS reads the pairs of ten rows as characters for private use. -/
theorem decode?_private : shiftJis.decode? [9, 0xF0, 0x40] = some "\t\uE000" := by
  have htab : ShiftJis.read 9 [0xF0, 0x40] = some (['\t'], 0) := by decide
  have hprivate : ShiftJis.read 0xF0 [0x40] = some (['\uE000'], 1) := by decide
  have hread : decodeWith ShiftJis.read [9, 0xF0, 0x40] = some ['\t', '\uE000'] := by
    rw [decodeWith, decodeInto_cons htab, List.drop_zero, decodeInto_cons hprivate, List.drop_one,
      List.tail_cons, decodeInto_nil]
    rfl
  rw [decode?, hread]
  rfl

/-- It writes none of them, since they are in no table. -/
theorem not_canWrite_private : ¬shiftJis.CanWrite '\uE000' := by
  have hpointer : ∀ admissible, Jis.index0208.pointer? admissible '\uE000' = none :=
    fun admissible => Option.eq_none_iff_forall_ne_some.2 fun p hp =>
      (Jis.of_get?_0208 (Index.get?_of_pointer? hp).1).2 (by decide)
  have hwrite : ShiftJis.write '\uE000' = none := by
    have hminus : Jis.foldMinus '\uE000' = '\uE000' := by decide
    have hroman : Jis.romanByte? '\uE000' = none := by decide
    have hhalf : Jis.halfWidthPlace? '\uE000' = none := by decide
    simp only [ShiftJis.write, hroman, hhalf, hminus, hpointer]
    rfl
  intro h
  obtain ⟨piece, hpiece⟩ := exists_encodeWith_iff.1 h '\uE000' (by simp)
  rw [hwrite] at hpiece
  cases hpiece

/-- A source with such a character cannot be saved, whatever the disk is. -/
theorem save_format_unencodable_private :
    shiftJis.decode? [9, 0xF0, 0x40] = some "\t\uE000" ∧
      shiftJis.encode? "\t\uE000" = none ∧
      ∀ (path : Path) (disk : Disk),
        ((⟨path, "\t\uE000", format ⟨.j17, .spaces, 4⟩ "\t\uE000", shiftJis⟩ : Edit).save disk).1 =
          .error (.unencodable path shiftJis) := by
  have hnone : shiftJis.encode? "\t\uE000" = none :=
    (encode?_eq_none_iff _ _).2 ⟨'\uE000', by decide, not_canWrite_private⟩
  refine ⟨decode?_private, hnone, fun path disk => ?_⟩
  exact ((save_format_unencodable_iff decode?_private ⟨.j17, .spaces, 4⟩).2 path disk).2
    ⟨'\uE000', by decide, ⟨_, _, decode?_private, by decide⟩, not_canWrite_private⟩

end JavaFormat.Charset
