import JavaFormat.Charset.Basic

/-!
# Reading back what was written

A charset that writes every character on its own reads the bytes of a text back if it does so for
each character of it, whatever follows (`decodeWith_encodeWith`).  So does a single-byte charset,
whose bytes have one character each, and UTF-8 reads back whatever it writes.  The other charsets
need only read back the characters that they read anywhere (`Reads`, `ReadsBack`).
-/

set_option autoImplicit false

namespace JavaFormat

namespace Charset

/-! ## Character by character -/

/-- Whether some bytes are read as a character, whatever follows them. -/
def ReadAs (reader : Reader) (bytes : List UInt8) (c : Char) : Prop :=
  ∃ b bs, bytes = b :: bs ∧ ∀ rest, reader b (bs ++ rest) = some ([c], bs.length)

/-- Whether a character is read from the bytes that it is written as. -/
def ReadsBack (reader : Reader) (writer : Writer) (c : Char) : Prop :=
  ∀ bytes, writer c = some bytes → ReadAs reader bytes c

theorem decodeInto_nil (reader : Reader) (read : List Char) :
    decodeInto reader read [] = some read.reverse := by
  rw [decodeInto]

theorem decodeInto_cons {reader : Reader} {read cs : List Char} {b : UInt8} {rest : List UInt8}
    {used : Nat} (h : reader b rest = some (cs, used)) :
    decodeInto reader read (b :: rest) =
      decodeInto reader (cs.reverse ++ read) (rest.drop used) := by
  rw [decodeInto, h]

/-- Writing a text is writing its first character and then the others. -/
theorem encodeWith_cons_eq_some {writer : Writer} {c : Char} {cs : List Char}
    {bytes : List UInt8} :
    encodeWith writer (c :: cs) = some bytes ↔ ∃ piece rest, writer c = some piece ∧
      encodeWith writer cs = some rest ∧ piece ++ rest = bytes := by
  constructor
  · intro h
    simp only [encodeWith, List.mapM_cons, Option.pure_def, Option.bind_eq_bind,
      Option.map_eq_some_iff, Option.bind_eq_some_iff] at h
    obtain ⟨pieces, ⟨piece, hpiece, others, hothers, hcons⟩, rfl⟩ := h
    obtain rfl := Option.some.inj hcons
    exact ⟨piece, others.flatten, hpiece, by rw [encodeWith, hothers]; rfl, rfl⟩
  · rintro ⟨piece, rest, hpiece, hrest, rfl⟩
    obtain ⟨others, hothers, rfl⟩ := Option.map_eq_some_iff.1 hrest
    simp [encodeWith, List.mapM_cons, hpiece, hothers]

theorem decodeInto_encodeWith {reader : Reader} {writer : Writer} :
    ∀ (cs read : List Char) (bytes : List UInt8), (∀ c ∈ cs, ReadsBack reader writer c) →
      encodeWith writer cs = some bytes →
        decodeInto reader read bytes = some (read.reverse ++ cs) := by
  intro cs
  induction cs with
  | nil =>
    intro read bytes _ hb
    have hb : bytes = [] := by simpa [encodeWith] using hb.symm
    subst hb
    rw [decodeInto_nil, List.append_nil]
  | cons c cs ih =>
    intro read bytes h hb
    obtain ⟨piece, others, hpiece, hothers, rfl⟩ := encodeWith_cons_eq_some.1 hb
    obtain ⟨b, bs, rfl, hread⟩ := h c List.mem_cons_self piece hpiece
    rw [List.cons_append]
    rw [decodeInto_cons (hread _), List.drop_left,
      ih _ _ (fun d hd => h d (List.mem_cons_of_mem _ hd)) hothers]
    simp

/-- **Bytes that are written character by character are read back**, if the bytes of each character
are, whatever follows them. -/
theorem decodeWith_encodeWith {reader : Reader} {writer : Writer} {cs : List Char}
    {bytes : List UInt8} (h : ∀ c ∈ cs, ReadsBack reader writer c)
    (hb : encodeWith writer cs = some bytes) : decodeWith reader bytes = some cs :=
  decodeInto_encodeWith cs [] bytes h hb

/-- Whether a reader reads a character from any bytes. -/
def Reads (reader : Reader) (c : Char) : Prop :=
  ∃ b rest cs used, reader b rest = some (cs, used) ∧ c ∈ cs

theorem reads_of_mem_decodeInto {reader : Reader} {read cs : List Char} {bytes : List UInt8}
    (h : decodeInto reader read bytes = some cs) {c : Char} (hc : c ∈ cs) :
    c ∈ read ∨ Reads reader c := by
  fun_induction decodeInto reader read bytes with
  | case1 read =>
    cases h
    exact Or.inl (List.mem_reverse.1 hc)
  | case2 => cases h
  | case3 read b rest piece used hread ih =>
    rcases ih h with hmem | hreads
    · rcases List.mem_append.1 hmem with hmem | hmem
      · exact Or.inr ⟨b, rest, piece, used, hread, List.mem_reverse.1 hmem⟩
      · exact Or.inl hmem
    · exact Or.inr hreads

/-- The characters of a text that was read are characters that are read. -/
theorem reads_of_mem_decodeWith {reader : Reader} {cs : List Char} {bytes : List UInt8}
    (h : decodeWith reader bytes = some cs) {c : Char} (hc : c ∈ cs) : Reads reader c :=
  (reads_of_mem_decodeInto h hc).resolve_left List.not_mem_nil

end Charset

/-! ## Single-byte charsets -/

namespace SingleByte

open Charset

theorem size_upper_le (charset : SingleByte) : charset.upper.chars.size ≤ 128 := by
  cases charset <;> decide +kernel

theorem lt_size_of_get? {index : Index} {p : Nat} {c : Char} (h : index.get? p = some c) :
    p < index.chars.size := by
  refine Nat.lt_of_not_le fun hp => ?_
  rw [Index.get?, Array.getElem?_eq_none hp] at h
  simp at h

/-- The byte of a character reads as that character. -/
theorem charOf?_of_byteOf? {charset : SingleByte} {c : Char} {b : UInt8}
    (h : charset.byteOf? c = some b) : charset.charOf? b = some c := by
  unfold byteOf? at h
  split at h
  · rename_i hc
    obtain rfl := Option.some.inj h
    have hn : (UInt8.ofNat c.toNat).toNat = c.toNat := by
      rw [UInt8.toNat_ofNat']; omega
    have hlt : UInt8.ofNat c.toNat < 0x80 := by
      rw [UInt8.lt_iff_toNat_lt, hn]; exact hc
    rw [charOf?, if_pos hlt, charOfByte, hn, Char.ofNat_toNat]
  · obtain ⟨p, hp, rfl⟩ := Option.map_eq_some_iff.1 h
    have hget := (Index.get?_of_pointer? hp).1
    have hsize := lt_size_of_get? hget
    have hle := size_upper_le charset
    have hn : (UInt8.ofNat (0x80 + p)).toNat = 0x80 + p := by
      rw [UInt8.toNat_ofNat']; omega
    have hge : ¬UInt8.ofNat (0x80 + p) < 0x80 := by
      rw [UInt8.lt_iff_toNat_lt, hn]; simp
    rw [charOf?, if_neg hge, hn, Nat.add_sub_cancel_left, hget]

theorem decodeWith_read {charset : SingleByte} {cs : List Char} {bytes : List UInt8}
    (h : encodeWith charset.write cs = some bytes) : decodeWith charset.read bytes = some cs := by
  refine decodeWith_encodeWith (fun c _ piece hpiece => ?_) h
  obtain ⟨b, hb, rfl⟩ := Option.map_eq_some_iff.1 hpiece
  exact ⟨b, [], rfl, fun rest => by simp [read, charOf?_of_byteOf? hb]⟩

end SingleByte

/-! ## Texts -/

namespace Charset

/-- Whether a charset is UTF-8 or has one byte for each character. -/
def IsSimple : Charset → Prop
  | utf8 => True
  | singleByte _ => True
  | _ => False

theorem fromUTF8?_toUTF8 (text : String) :
    String.fromUTF8? ⟨text.toUTF8.data.toList.toArray⟩ = some text := by
  have h : (⟨text.toUTF8.data.toList.toArray⟩ : ByteArray) = text.toByteArray := by
    rw [Array.toArray_toList]; rfl
  rw [h, String.fromUTF8?, dif_pos text.isValidUTF8]
  rfl

/-- **What is written is read back**, by UTF-8 and by every single-byte charset. -/
theorem decode?_of_encode? {charset : Charset} (hs : charset.IsSimple) {text : String}
    {bytes : List UInt8} (h : charset.encode? text = some bytes) :
    charset.decode? bytes = some text := by
  cases charset with
  | utf8 =>
    obtain rfl := Option.some.inj h
    exact fromUTF8?_toUTF8 text
  | singleByte charset =>
    rw [decode?, SingleByte.decodeWith_read h, Option.map_some, String.ofList_toList]
  | _ => exact hs.elim

end Charset

end JavaFormat
