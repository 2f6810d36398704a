import JavaFormat.Text.Ranges
import JavaFormat.Text.Table.Emoji
import JavaFormat.Text.Table.Width

/-!
# Widths of texts

A text takes as many columns on a terminal as its characters, which take one as a rule, two if they
are wide and none if they extend another one.  But some characters are shown differently next to
others: letters are joined into one, and sequences of emoji are one emoji.  A text is therefore
measured from its end to its start, where `Behind` says what stands behind the next character.

* `Behind.place` is the rule: the columns that a character adds to those behind it, which may be
  fewer than none where it joins with what was counted already.
* `width` is the sum for a line; a line of plain characters is as wide as it is long
  (`width_eq_length`).
-/

set_option autoImplicit false

namespace JavaFormat.Text

/-- What stands behind a character, as far as the character may join with it.  `joiner` says whether
a zero width joiner stands in front of it. -/
inductive Joinable where
  /-- Nothing that a character joins with. -/
  | nothing
  /-- An Arabic alef. -/
  | alef
  /-- A Hebrew lamed. -/
  | lamed (joiner : Bool)
  /-- A Khmer letter that is written below another one. -/
  | subscript
  /-- A Buginese ya. -/
  | ya (joiner : Bool)
  /-- A Buginese vowel sign and a joined ya. -/
  | signYa
  /-- A Tifinagh consonant. -/
  | consonant (joiner : Bool)
  /-- A Tifinagh consonant joiner and a consonant. -/
  | joinedConsonant
  /-- The second of two Lisu tone letters. -/
  | tone
  /-- An Old Turkic i. -/
  | orkhonI (joiner : Bool)
  /-- An emoji. -/
  | emoji
  /-- A skin tone. -/
  | skinTone
  /-- One letter of a flag. -/
  | flagLetter
  /-- Letters of flags. -/
  | flagLetters
  /-- A zero width joiner and an emoji. -/
  | joinedEmoji
  /-- The frame of a key, joined to an emoji. -/
  | joinedFrame
  /-- One letter of a flag, joined to an emoji. -/
  | joinedLetter
  /-- Letters of flags, joined to an emoji; they are `even` in number or not. -/
  | joinedLetters (even : Bool)
  /-- The tags of a region, joined to an emoji, with so many letters and digits. -/
  | joinedTags (letters digits : Nat)
  deriving DecidableEq, Repr

namespace Joinable

/-- Whether it is a part of letters that are joined into one. -/
def isLetter : Joinable → Bool
  | alef | lamed _ | subscript | ya _ | signYa | consonant _ | joinedConsonant | tone
  | orkhonI _ => true
  | _ => false

/-- What it is with a zero width joiner in front. -/
def withJoiner : Joinable → Joinable
  | lamed _ => lamed true
  | ya _ => ya true
  | consonant _ => consonant true
  | orkhonI _ => orkhonI true
  | other => other

/-- Whether an emoji with a variation selector in front of it joins with it. -/
def joinsSelected : Joinable → Bool
  | joinedEmoji | joinedFrame => true
  | _ => false

end Joinable

/-- What stands behind a character. -/
structure Behind where
  /-- What it may join with. -/
  joinable : Joinable
  /-- Whether a selector asks for its look as an emoji. -/
  asEmoji : Bool
  /-- Whether a selector asks for its look as a text. -/
  asText : Bool
  deriving DecidableEq, Repr

namespace Behind

/-- Nothing that matters stands behind a character. -/
def nothing : Behind := ⟨.nothing, false, false⟩

/-- Something to join with. -/
def of (joinable : Joinable) : Behind := ⟨joinable, false, false⟩

/-- With a selector of the look as an emoji in front. -/
def selectEmoji (behind : Behind) : Behind :=
  if behind.joinable.isLetter then { behind with asEmoji := true }
  else if behind.joinable.joinsSelected then { behind with asEmoji := true }
  else ⟨.nothing, true, false⟩

/-- With a selector of the look as a text in front. -/
def selectText (behind : Behind) : Behind :=
  if behind.joinable.isLetter then { behind with asText := true } else ⟨.nothing, false, true⟩

/-- After a character that is not shown as an emoji. -/
def dropEmoji (behind : Behind) : Behind :=
  if !behind.asEmoji then behind
  else if behind.joinable.isLetter then { behind with asEmoji := false }
  else nothing

end Behind

/-! ## Single characters -/

/-- Whether a character is an Arabic alef. -/
def isAlef : Char → Bool :=
  inRanges [(0x622, 0x623), (0x625, 0x625), (0x627, 0x627), (0x671, 0x673), (0x675, 0x675),
    (0x773, 0x774), (0x870, 0x882)]

/-- Whether a character is an Arabic lam. -/
def isLam : Char → Bool :=
  inRanges [(0x644, 0x644), (0x6B5, 0x6B8), (0x76A, 0x76A), (0x8A6, 0x8A6), (0x8C7, 0x8C7)]

/-- Whether a character is a Khmer letter that may be written below another one without a column of
its own. -/
def isSubscript : Char → Bool :=
  inRanges [(0x1780, 0x1782), (0x1784, 0x1787), (0x1789, 0x178C), (0x178E, 0x1793),
    (0x1795, 0x1798), (0x179B, 0x179D), (0x17A0, 0x17A0), (0x17A2, 0x17A2), (0x17A7, 0x17A7),
    (0x17AB, 0x17AC), (0x17AF, 0x17AF)]

/-- Whether a character is a Tifinagh consonant. -/
def isConsonant : Char → Bool := inRanges [(0x2D31, 0x2D65), (0x2D6F, 0x2D6F)]

/-- Whether a character is one of the letters that flags are spelled with. -/
def isFlagLetter : Char → Bool := inRanges [(0x1F1E6, 0x1F1FF)]

/-- Whether a character is a skin tone. -/
def isSkinTone : Char → Bool := inRanges [(0x1F3FB, 0x1F3FF)]

/-- Whether letters are joined across a character, other than those of Arabic. -/
def isPassedOver : Char → Bool :=
  inRanges [(0x34F, 0x34F), (0x17B4, 0x17B5), (0x180B, 0x180D), (0x180F, 0x180F), (0xFE00, 0xFE0F),
    (0xE0100, 0xE01EF)]

/-- The zero width joiner. -/
def joiner : Char := '\u200D'

/-- The columns of a character on its own, and what it is for those in front of it. -/
def alone (c : Char) : Nat × Behind :=
  if c.toNat ≤ 0xA0 then (1, .nothing)
  else if c = '\u05DC' then (1, .of (.lamed false))
  else if isAlef c then (1, .of .alef)
  else if isSubscript c then (1, .of .subscript)
  else if c = '\u17D8' then (3, .nothing)
  else if c = '\u1A10' then (1, .of (.ya false))
  else if isConsonant c then (1, .of (.consonant false))
  else if c = '\uA4FC' ∨ c = '\uA4FD' then (1, .of .tone)
  else if c = '\uFE0E' then (0, Behind.nothing.selectText)
  else if c = '\uFE0F' then (0, Behind.nothing.selectEmoji)
  else if c.toNat = 0x10C03 then (1, .of (.orkhonI false))
  else if isFlagLetter c then (1, .of .flagLetter)
  else if isSkinTone c then (2, .of .skinTone)
  else if inRanges Table.emoji c then (2, .of .emoji)
  else if inRanges Table.zeroWidth c then (0, .nothing)
  else if inRanges Table.wide c then (2, .nothing)
  else (1, .nothing)

/-- Whether Arabic letters are joined across a character. -/
def isTransparent (c : Char) : Bool := (alone c).1 == 0 && !inRanges Table.unjoined c

/-! ## Characters next to each other -/

/-- The columns that a character adds if it joins with what stands behind it, and what stands behind
the next one then. -/
def join (behind : Joinable) (c : Char) : Option (Int × Joinable) :=
  match behind with
  | .nothing => none
  | .alef =>
    if isLam c then some (0, .nothing) else if isTransparent c then some (0, .alef) else none
  | .lamed joined => if joined ∧ c = '\u05D0' then some (0, .nothing) else none
  | .subscript => if c = '\u17D2' then some (-1, .nothing) else none
  | .ya joined => if joined ∧ c = '\u1A17' then some (0, .signYa) else none
  | .signYa => if c = '\u1A15' then some (0, .nothing) else none
  | .consonant joined =>
    if c = '\u2D7F' then some (1, .joinedConsonant)
    else if joined ∧ isConsonant c then some (0, .nothing)
    else none
  | .joinedConsonant => if isConsonant c then some (-1, .nothing) else none
  | .tone => if inRanges [(0xA4F8, 0xA4FB)] c then some (0, .nothing) else none
  | .orkhonI joined => if joined ∧ c.toNat = 0x10C32 then some (0, .nothing) else none
  | .emoji => if c = joiner then some (0, .joinedEmoji) else none
  | .skinTone =>
    if inRanges Table.toned c then some (0, .emoji)
    else if c = joiner then some (0, .joinedEmoji)
    else none
  | .flagLetter => if isFlagLetter c then some (1, .flagLetters) else none
  | .flagLetters =>
    if isFlagLetter c then some (1, .flagLetters)
    else if c = joiner then some (0, .joinedEmoji)
    else none
  | .joinedEmoji =>
    if c = '\u20E3' then some (0, .joinedFrame)
    else if isFlagLetter c then some (1, .joinedLetter)
    else if isSkinTone c then some (0, .skinTone)
    else if c.toNat = 0xE007F then some (0, .joinedTags 0 0)
    else if inRanges Table.emoji c then some (0, .emoji)
    else none
  | .joinedFrame => none
  | .joinedLetter => if isFlagLetter c then some (-1, .joinedLetters true) else none
  | .joinedLetters even =>
    if isFlagLetter c then some (if even then 3 else -1, .joinedLetters (!even))
    else if c = joiner then some (0, .joinedEmoji)
    else none
  | .joinedTags letters digits =>
    if inRanges [(0xE0061, 0xE007A)] c ∧ digits = 0 ∧ letters < 6 then
      some (0, .joinedTags (letters + 1) 0)
    else if inRanges [(0xE0030, 0xE0039)] c ∧ letters ≤ 4 ∧ digits < 3 then
      some (0, .joinedTags letters (digits + 1))
    else if c.toNat = 0x1F3F4 ∧ (digits = 3 ∨ (digits = 0 ∧ 3 ≤ letters)) then some (0, .emoji)
    else none

/-- The columns that a character adds to those behind it, which is not shown as an emoji on
request, and what stands behind the next one then. -/
def Behind.placeBeside (behind : Behind) (c : Char) : Int × Behind :=
  if c.toNat ≤ 0xA0 then (1, .nothing)
  else if c = '\uFE0F' then (0, behind.selectEmoji)
  else if c = '\uFE0E' then (0, behind.selectText)
  else if behind.asText ∧ inRanges Table.textOnRequest c then (1, .nothing)
  else
    let single : Int × Behind := ((alone c).1, (alone c).2)
    let passing := behind.joinable.isLetter && behind.joinable != .alef
    if passing ∧ c = joiner then (0, .of behind.joinable.withJoiner)
    else if passing ∧ isPassedOver c then (0, .of behind.joinable)
    else
      match join behind.joinable c with
      | some (columns, joinable) => (columns, .of joinable)
      | none => single

/-- The columns that a character adds to those behind it, and what stands behind the next one
then. -/
def Behind.place (behind : Behind) (c : Char) : Int × Behind :=
  if behind.asEmoji ∧ inRanges Table.emojiOnRequest c then
    (if behind.joinable.joinsSelected then 0 else 2, .of .emoji)
  else behind.dropEmoji.placeBeside c

/-! ## Lines -/

/-- The columns of a text without line feeds, and what it is for a character in front of it. -/
def measure : List Char → Int × Behind
  | [] => (0, .nothing)
  | c :: cs =>
    let (columns, behind) := measure cs
    let (added, behind) := behind.place c
    (columns + added, behind)

/-- The columns that a text without line feeds takes on a terminal. -/
def width (line : List Char) : Nat := (measure line).1.toNat

theorem measure_of_le (line : List Char) (h : ∀ c ∈ line, c.toNat ≤ 0xA0) :
    measure line = ((line.length : Int), .nothing) := by
  induction line with
  | nil => rfl
  | cons c cs ih =>
    have hc : c.toNat ≤ 0xA0 := h c List.mem_cons_self
    have hplace : Behind.nothing.place c = (1, .nothing) := by
      simp [Behind.place, Behind.nothing, Behind.placeBeside, hc]
    simp [measure, ih fun d hd => h d (List.mem_cons_of_mem _ hd), hplace]

/-- A text of characters up to the no-break space takes a column for each. -/
theorem width_eq_length (line : List Char) (h : ∀ c ∈ line, c.toNat ≤ 0xA0) :
    width line = line.length := by
  simp [width, measure_of_le line h]

end JavaFormat.Text
