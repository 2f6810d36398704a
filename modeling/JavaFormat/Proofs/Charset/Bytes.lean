import JavaFormat.Edit
import JavaFormat.Proofs.Charset.Formatted
import JavaFormat.Proofs.Text.Utf8

/-!
# The bytes of a formatted text

UTF-8 and the single-byte charsets write every character in bytes that tell whether it is spacing:
the tab, the line feed, the carriage return and the space have their bytes of ASCII, and no other
character has one of these (`SeparatesSpacing`).  Since a layout changes nothing but spacing, the
bytes of a formatted text are those of the text, but for these four.

* `Utf8.encodeWith_of_decode`, `SingleByte.encodeWith_of_decodeWith`: what was read is written as
  the same bytes, since no character is read from two sequences of bytes.
* `Charset.save_format_of_decode?`: a text that was read can be written when it is formatted, and
  then differs from what was read in spacing only.
-/

set_option autoImplicit false

namespace JavaFormat

namespace Charset

open Source

/-! ## Spacing in bytes -/

/-- Whether a byte is the tab, the line feed, the carriage return or the space of ASCII. -/
def isSpacingByte (b : UInt8) : Bool := b == 0x09 || b == 0x0A || b == 0x0D || b == 0x20

/-- Bytes without those that are spacing. -/
def withoutSpacingBytes (bytes : List UInt8) : List UInt8 := bytes.filter fun b => !isSpacingByte b

theorem withoutSpacingBytes_append (front back : List UInt8) :
    withoutSpacingBytes (front ++ back) = withoutSpacingBytes front ++ withoutSpacingBytes back :=
  List.filter_append ..

/-- No byte from 0x80 on is spacing. -/
theorem isSpacingByte_of_ge {b : UInt8} (h : 0x80 ≤ b.toNat) : isSpacingByte b = false := by
  have hne : ∀ d : UInt8, d.toNat < 0x80 → (b == d) = false := fun d hd =>
    beq_eq_false_iff_ne.2 fun heq => by rw [heq] at h; omega
  rw [isSpacingByte, hne 0x09 (by decide), hne 0x0A (by decide), hne 0x0D (by decide),
    hne 0x20 (by decide)]
  rfl

theorem toNat_lt_of_isSpacing {c : Char} (h : isSpacing c = true) : c.toNat < 0x80 := by
  rcases isSpacing_iff.1 h with rfl | rfl | rfl | rfl <;> decide

theorem isSpacing_of_ge {c : Char} (h : 0x80 ≤ c.toNat) : isSpacing c = false :=
  Bool.eq_false_iff.2 fun hs => Nat.not_lt.2 h (toNat_lt_of_isSpacing hs)

/-- A byte of ASCII is spacing if its character is. -/
theorem isSpacingByte_ofNat {c : Char} (hc : c.toNat < 0x80) :
    isSpacingByte (UInt8.ofNat c.toNat) = isSpacing c := by
  have hbyte : ∀ d : Char, d.toNat < 0x80 →
      (UInt8.ofNat c.toNat == UInt8.ofNat d.toNat) = (c == d) := by
    intro d hd
    rw [Bool.eq_iff_iff, beq_iff_eq, beq_iff_eq]
    exact Text.ofNat_toNat_inj hc hd
  have htab := hbyte '\t' (by decide)
  have hfeed := hbyte '\n' (by decide)
  have hreturn := hbyte '\r' (by decide)
  have hspace := hbyte ' ' (by decide)
  rw [Bool.eq_iff_iff, isSpacing_iff]
  simp only [isSpacingByte, Bool.or_eq_true]
  change (((UInt8.ofNat c.toNat == UInt8.ofNat '\t'.toNat) = true ∨
    (UInt8.ofNat c.toNat == UInt8.ofNat '\n'.toNat) = true) ∨
    (UInt8.ofNat c.toNat == UInt8.ofNat '\r'.toNat) = true) ∨
    (UInt8.ofNat c.toNat == UInt8.ofNat ' '.toNat) = true ↔ _
  rw [htab, hfeed, hreturn, hspace]
  simp only [beq_iff_eq]
  tauto

/-! ## Charsets that write every character on its own -/

theorem encodeWith_append {writer : Writer} {front back : List Char} {first last : List UInt8}
    (hfront : encodeWith writer front = some first) (hback : encodeWith writer back = some last) :
    encodeWith writer (front ++ back) = some (first ++ last) := by
  induction front generalizing first with
  | nil =>
    obtain rfl := Option.some.inj hfront
    exact hback
  | cons c front ih =>
    obtain ⟨piece, rest, hpiece, hrest, rfl⟩ := encodeWith_cons_eq_some.1 hfront
    rw [List.append_assoc]
    exact encodeWith_cons_eq_some.2 ⟨piece, rest ++ last, hpiece, ih hrest, rfl⟩

/-- A text can be written if all of its characters can. -/
theorem exists_encodeWith_iff {writer : Writer} {cs : List Char} :
    (∃ bytes, encodeWith writer cs = some bytes) ↔ ∀ c ∈ cs, ∃ piece, writer c = some piece := by
  induction cs with
  | nil => exact ⟨fun _ c hc => absurd hc List.not_mem_nil, fun _ => ⟨[], rfl⟩⟩
  | cons c cs ih =>
    rw [List.forall_mem_cons, ← ih]
    constructor
    · rintro ⟨bytes, h⟩
      obtain ⟨piece, rest, hpiece, hrest, -⟩ := encodeWith_cons_eq_some.1 h
      exact ⟨⟨piece, hpiece⟩, rest, hrest⟩
    · rintro ⟨⟨piece, hpiece⟩, rest, hrest⟩
      exact ⟨_, encodeWith_cons_eq_some.2 ⟨piece, rest, hpiece, hrest, rfl⟩⟩

/-- Whether spacing is written in bytes that are spacing, and any other character in others. -/
def SeparatesSpacing (writer : Writer) : Prop :=
  ∀ c piece, writer c = some piece → ∀ b ∈ piece, isSpacingByte b = isSpacing c

/-- Leaving out spacing before a text is written leaves out its bytes. -/
theorem encodeWith_withoutSpacing {writer : Writer} (hw : SeparatesSpacing writer)
    {cs : List Char} {bytes : List UInt8} (h : encodeWith writer cs = some bytes) :
    encodeWith writer (withoutSpacing cs) = some (withoutSpacingBytes bytes) := by
  induction cs generalizing bytes with
  | nil =>
    obtain rfl := Option.some.inj h
    rfl
  | cons c cs ih =>
    obtain ⟨piece, rest, hpiece, hrest, rfl⟩ := encodeWith_cons_eq_some.1 h
    have hbytes := hw c piece hpiece
    rw [withoutSpacingBytes_append]
    cases hc : isSpacing c with
    | true =>
      have hnone : withoutSpacingBytes piece = [] := List.filter_eq_nil_iff.2 fun b hb => by
        rw [hbytes b hb, hc]
        exact Bool.false_ne_true
      rw [withoutSpacing, List.filter_cons_of_neg (by rw [hc]; exact Bool.false_ne_true), hnone]
      exact ih hrest
    | false =>
      have hall : withoutSpacingBytes piece = piece := List.filter_eq_self.2 fun b hb => by
        rw [hbytes b hb, hc]
        rfl
      rw [withoutSpacing, List.filter_cons_of_pos (by rw [hc]; rfl), hall]
      exact encodeWith_cons_eq_some.2 ⟨piece, _, hpiece, ih hrest, rfl⟩

/-- **A formatted text is written in the bytes of the text, but for spacing**, by a charset that
writes spacing and keeps it apart from the other characters. -/
theorem encodeWith_formatText {writer : Writer} (hw : SeparatesSpacing writer)
    (hspacing : ∀ c, isSpacing c = true → ∃ piece, writer c = some piece) (style : Style)
    {cs : List Char} {source : List UInt8} (h : encodeWith writer cs = some source) :
    ∃ written, encodeWith writer (formatText style cs) = some written ∧
      withoutSpacingBytes written = withoutSpacingBytes source := by
  have hall : ∀ c ∈ formatText style cs, ∃ piece, writer c = some piece := by
    intro c hc
    cases hs : isSpacing c with
    | true => exact hspacing c hs
    | false => exact exists_encodeWith_iff.1 ⟨source, h⟩ c ((mem_formatText_iff hs).1 hc)
  obtain ⟨written, hwritten⟩ := exists_encodeWith_iff.2 hall
  have hsame := encodeWith_withoutSpacing hw hwritten
  rw [withoutSpacing_formatText, encodeWith_withoutSpacing hw h] at hsame
  exact ⟨written, hwritten, (Option.some.inj hsame).symm⟩

/-- What was read piece by piece is written as the same bytes if each piece is. -/
theorem encodeWith_of_decodeInto {reader : Reader} {writer : Writer}
    (h : ∀ b rest piece used, reader b rest = some (piece, used) →
      encodeWith writer piece = some (b :: rest.take used))
    {read cs : List Char} {bytes : List UInt8} (hread : decodeInto reader read bytes = some cs) :
    ∃ others, cs = read.reverse ++ others ∧ encodeWith writer others = some bytes := by
  fun_induction decodeInto reader read bytes with
  | case1 read => exact ⟨[], by rw [List.append_nil]; exact (Option.some.inj hread).symm, rfl⟩
  | case2 => cases hread
  | case3 read b rest piece used hpiece ih =>
    obtain ⟨others, rfl, hothers⟩ := ih hread
    refine ⟨piece ++ others, by simp, ?_⟩
    have hboth := encodeWith_append (h b rest piece used hpiece) hothers
    rwa [List.cons_append, List.take_append_drop] at hboth

end Charset

/-! ## UTF-8 -/

namespace Utf8

open Charset Source

/-- Writes a character in one to four bytes. -/
def write : Writer := fun c => some (String.utf8EncodeChar c)

theorem encodeWith_write (cs : List Char) :
    encodeWith write cs = some (cs.flatMap String.utf8EncodeChar) := by
  induction cs with
  | nil => rfl
  | cons c cs ih => exact encodeWith_cons_eq_some.2 ⟨_, _, rfl, ih, rfl⟩

/-- UTF-8 writes every character on its own. -/
theorem encode?_eq (text : String) : Charset.utf8.encode? text = encodeWith write text.toList := by
  have hbytes : text.toUTF8 = (text.toList.flatMap String.utf8EncodeChar).toByteArray := by
    conv => lhs; rw [← String.ofList_toList (s := text)]
    exact String.toByteArray_ofList
  rw [encodeWith_write, encode?, hbytes, List.data_toByteArray]

/-- A character of ASCII is one byte, and any other character none of those. -/
theorem isSpacingByte_of_mem {c : Char} {b : UInt8} (hb : b ∈ String.utf8EncodeChar c) :
    isSpacingByte b = isSpacing c := by
  by_cases hc : c.toNat < 0x80
  · rw [Text.utf8EncodeChar_of_lt hc] at hb
    rw [List.mem_singleton.1 hb, isSpacingByte_ofNat hc]
  · have hhigh := Nat.le_of_not_lt hc
    rw [isSpacingByte_of_ge (Text.le_of_mem_utf8EncodeChar hhigh hb), isSpacing_of_ge hhigh]

theorem separatesSpacing : SeparatesSpacing write := by
  intro c piece hpiece b hb
  obtain rfl := Option.some.inj hpiece
  exact isSpacingByte_of_mem hb

/-- What was read as UTF-8 is written as the same bytes. -/
theorem encodeWith_of_decode {source : List UInt8} {text : String}
    (h : Charset.utf8.decode? source = some text) : encodeWith write text.toList = some source := by
  rw [← encode?_eq, encode?]
  rw [decode?, String.fromUTF8?] at h
  split at h
  · obtain rfl := Option.some.inj h
    rfl
  · cases h

end Utf8

/-! ## Single-byte charsets -/

namespace SingleByte

open Charset Source

theorem toNat_userDefined {p : Nat} (h : p < 128) :
    (Char.ofNat (0xF780 + p)).toNat = 0xF780 + p := by
  rw [Char.ofNat, dif_pos (Or.inr (by omega))]
  rfl

theorem get?_upper_userDefined (p : Nat) :
    userDefined.upper.get? p = if p < 128 then some (Char.ofNat (0xF780 + p)) else none := by
  rw [Index.get?, upper, List.getElem?_toArray, List.getElem?_map]
  split
  · rw [List.getElem?_range ‹p < 128›]
    rfl
  · rw [List.getElem?_eq_none (by simpa using ‹¬p < 128›)]
    rfl

/-- Whether a number is zero or the code point of a character outside ASCII.  It is written with the
functions that evaluate at once. -/
def isUpperCode (n : Nat) : Bool :=
  Nat.beq n 0 || (Nat.ble 0x80 n && (Nat.ble n 0xD7FF || (Nat.ble 0xE000 n && Nat.ble n 0xFFFF)))

theorem le_toNat_of_isUpperCode {n : Nat} (h : isUpperCode n = true) (hne : n ≠ 0) :
    0x80 ≤ (Char.ofNat n).toNat := by
  have hrange : 0x80 ≤ n ∧ (n ≤ 0xD7FF ∨ 0xE000 ≤ n ∧ n ≤ 0xFFFF) := by
    simpa [isUpperCode, hne] using h
  rw [Char.ofNat, dif_pos (by rw [Nat.isValidChar]; omega)]
  exact hrange.1

/-- No character stands at two bytes from 0x80 on. -/
theorem eq_of_get?_upper (charset : SingleByte) {p q : Nat} {c : Char} (hne : c.toNat ≠ 0)
    (hp : charset.upper.get? p = some c) (hq : charset.upper.get? q = some c) : p = q := by
  cases charset with
  | userDefined =>
    rw [get?_upper_userDefined] at hp hq
    split at hp
    · split at hq
      · have hsame := congrArg Char.toNat ((Option.some.inj hp).trans (Option.some.inj hq).symm)
        rw [toNat_userDefined ‹p < 128›, toNat_userDefined ‹q < 128›] at hsame
        omega
      · cases hq
    · cases hp
  | _ => exact Index.eq_of_get? 0x10000 rfl (by decide +kernel) hne hp hq

/-- No character of ASCII stands at a byte from 0x80 on. -/
theorem le_of_get?_upper (charset : SingleByte) {p : Nat} {c : Char}
    (hp : charset.upper.get? p = some c) : 0x80 ≤ c.toNat := by
  cases charset with
  | userDefined =>
    rw [get?_upper_userDefined] at hp
    split at hp
    · obtain rfl := Option.some.inj hp
      rw [toNat_userDefined ‹p < 128›]
      omega
    · cases hp
  | _ =>
    obtain ⟨code, hne, rfl, hcode⟩ := Index.exists_code_of_all 0x10000 isUpperCode rfl
      (by decide +kernel) hp
    exact le_toNat_of_isUpperCode hcode hne

/-- A character that is read from a byte is written as that byte. -/
theorem byteOf?_of_charOf? {charset : SingleByte} {b : UInt8} {c : Char}
    (h : charset.charOf? b = some c) : charset.byteOf? c = some b := by
  rw [charOf?] at h
  split at h
  · rename_i hb
    obtain rfl := Option.some.inj h
    have hlt : b.toNat < 0x80 := UInt8.lt_iff_toNat_lt.1 hb
    rw [byteOf?, toNat_charOfByte, if_pos hlt, UInt8.ofNat_toNat]
  · rename_i hb
    have hge : 0x80 ≤ b.toNat := Nat.le_of_not_lt fun hlt => hb (UInt8.lt_iff_toNat_lt.2 hlt)
    have hc := le_of_get?_upper charset h
    obtain ⟨p, hp⟩ := Index.exists_pointer? (fun _ => true) h rfl
    have hsame : p = b.toNat - 0x80 :=
      eq_of_get?_upper charset (by omega) (Index.get?_of_pointer? hp).1 h
    rw [byteOf?, if_neg (by omega), hp, Option.map_some, hsame, Nat.add_sub_cancel' hge,
      UInt8.ofNat_toNat]

/-- What was read by a single-byte charset is written as the same bytes. -/
theorem encodeWith_of_decodeWith {charset : SingleByte} {source : List UInt8} {cs : List Char}
    (h : decodeWith charset.read source = some cs) : encodeWith charset.write cs = some source := by
  have hpiece : ∀ b rest piece used, charset.read b rest = some (piece, used) →
      encodeWith charset.write piece = some (b :: rest.take used) := by
    intro b rest piece used hread
    obtain ⟨c, hc, hpair⟩ := Option.map_eq_some_iff.1 hread
    obtain ⟨rfl, rfl⟩ := Prod.mk.inj hpair
    refine encodeWith_cons_eq_some.2 ⟨[b], [], ?_, rfl, rfl⟩
    rw [write, byteOf?_of_charOf? hc]
    rfl
  obtain ⟨others, rfl, hothers⟩ := encodeWith_of_decodeInto hpiece h
  exact hothers

theorem separatesSpacing (charset : SingleByte) : SeparatesSpacing charset.write := by
  intro c piece hpiece b hb
  obtain ⟨d, hd, rfl⟩ := Option.map_eq_some_iff.1 hpiece
  obtain rfl := List.mem_singleton.1 hb
  rw [byteOf?] at hd
  split at hd
  · rename_i hc
    obtain rfl := Option.some.inj hd
    exact isSpacingByte_ofNat hc
  · rename_i hc
    obtain ⟨p, hp, rfl⟩ := Option.map_eq_some_iff.1 hd
    have hsize := lt_size_of_get? (Index.get?_of_pointer? hp).1
    have hle := size_upper_le charset
    have hhigh : 0x80 ≤ (UInt8.ofNat (0x80 + p)).toNat := by
      rw [UInt8.toNat_ofNat']
      omega
    rw [isSpacingByte_of_ge hhigh, isSpacing_of_ge (Nat.le_of_not_lt hc)]

theorem exists_write {charset : SingleByte} {c : Char} (hc : isSpacing c = true) :
    ∃ piece, charset.write c = some piece := by
  refine ⟨[UInt8.ofNat c.toNat], ?_⟩
  rw [write, byteOf?, if_pos (toNat_lt_of_isSpacing hc)]
  rfl

end SingleByte

/-! ## Texts -/

namespace Charset

open Source

/-- What a simple charset read is written as the same bytes, and what is written of the formatted
text differs from these in spacing only. -/
theorem encode?_formatText {charset : Charset} (hs : charset.IsSimple) {source : List UInt8}
    {text : String} (hread : charset.decode? source = some text) (style : Style) :
    charset.encode? text = some source ∧
      ∃ written, charset.encode? (format style text) = some written ∧
        withoutSpacingBytes written = withoutSpacingBytes source := by
  -- Both kinds of charsets write character by character what they read.
  have hstream : ∀ writer, SeparatesSpacing writer →
      (∀ c, isSpacing c = true → ∃ piece, writer c = some piece) →
      (∀ t, charset.encode? t = encodeWith writer t.toList) →
      encodeWith writer text.toList = some source →
      charset.encode? text = some source ∧
        ∃ written, charset.encode? (format style text) = some written ∧
          withoutSpacingBytes written = withoutSpacingBytes source := by
    intro writer hw hspacing hencode hsource
    refine ⟨(hencode text).trans hsource, ?_⟩
    rw [hencode, format, String.toList_ofList]
    exact encodeWith_formatText hw hspacing style hsource
  cases charset with
  | utf8 =>
    exact hstream Utf8.write Utf8.separatesSpacing (fun c _ => ⟨_, rfl⟩) Utf8.encode?_eq
      (Utf8.encodeWith_of_decode hread)
  | singleByte charset =>
    obtain ⟨cs, hcs, rfl⟩ := Option.map_eq_some_iff.1 hread
    refine hstream charset.write charset.separatesSpacing (fun c => SingleByte.exists_write)
      (fun _ => rfl) ?_
    rw [String.toList_ofList]
    exact SingleByte.encodeWith_of_decodeWith hcs
  | _ => exact hs.elim

/-- **Formatting changes no byte of a file but spacing**, in UTF-8 and every single-byte charset.
What was read is written as the same bytes; the formatted text can always be written, so that
saving it fails only where the disk does; and the bytes that are written, without those of spacing,
are the bytes that were read without those. -/
theorem save_format_of_decode? {charset : Charset} (hs : charset.IsSimple) {source : List UInt8}
    {text : String} (hread : charset.decode? source = some text) (style : Style) :
    charset.encode? text = some source ∧
      ∃ written, charset.encode? (format style text) = some written ∧
        withoutSpacingBytes written = withoutSpacingBytes source ∧
        ∀ (path : Path) (disk : Disk),
          (⟨path, text, format style text, charset⟩ : Edit).save disk =
            ((disk.writeBytes path written).1.mapError (Error.unwritable path),
              (disk.writeBytes path written).2) := by
  obtain ⟨hback, written, hwritten, hsame⟩ := encode?_formatText hs hread style
  refine ⟨hback, written, hwritten, hsame, fun path disk => ?_⟩
  rw [Edit.save, hwritten]

/-- A tab, an accented letter and a blank at the end of a line, in Windows-1252. -/
theorem save_format_of_decode?_windows1252 :
    (singleByte .windows1252).IsSimple ∧
      (singleByte .windows1252).decode? [0x09, 0xE9, 0x20, 0x0D, 0x0A] = some "\té \r\n" ∧
      (singleByte .windows1252).encode? "\té \r\n" = some [0x09, 0xE9, 0x20, 0x0D, 0x0A] ∧
      ∃ written, (singleByte .windows1252).encode? (format ⟨.j8, .spaces, 4⟩ "\té \r\n") =
          some written ∧
        withoutSpacingBytes written = [0xE9] ∧
        ∀ (path : Path) (disk : Disk),
          (⟨path, "\té \r\n", format ⟨.j8, .spaces, 4⟩ "\té \r\n", singleByte .windows1252⟩ :
              Edit).save disk =
            ((disk.writeBytes path written).1.mapError (Error.unwritable path),
              (disk.writeBytes path written).2) := by
  have hsimple : (singleByte .windows1252).IsSimple := trivial
  have hread : (singleByte .windows1252).decode? [0x09, 0xE9, 0x20, 0x0D, 0x0A] =
      some "\té \r\n" := by decide +kernel
  exact ⟨hsimple, hread, save_format_of_decode? hsimple hread ⟨.j8, .spaces, 4⟩⟩

end Charset

end JavaFormat
