import JavaFormat.Proofs.Run

/-!
# Settings, field by field

A config file and a command line are merged one field at a time: what the command line gives counts,
else what the text in the config file says, else a default.  The texts in the file are free, so they
may say nothing; that matters only where the command line leaves the field open.

* `Text.valueName_eq_iff`: the name of a text is a word if the text spells the word, in letters of
  any case and with white space around it.
* `Config.isOutcome_merge`: a merge gives the values of all fields, or the problem of the first one
  that is not in order.
* `Config.merge_fieldwise`: when it does which, what that means for the style and for a task, and
  that what the file says about a field does not matter where the command line gives it.
-/

set_option autoImplicit false

namespace JavaFormat

open CommandLine

namespace Text

/-! ## Words in any case, between white space -/

/-- Whether a text spells a word: with letters of ASCII in any case, and any white space around
it. -/
def Spells (text word : String) : Prop :=
  ∃ lead core trail, text.toList = lead ++ core ++ trail ∧
    (∀ c ∈ lead, isWhiteSpace c = true) ∧ (∀ c ∈ trail, isWhiteSpace c = true) ∧
    lowerAscii core = word.toList

/-- A trimmed text, and what was around it. -/
theorem exists_trim (p : Char → Bool) (s : List Char) :
    ∃ lead trail, s = lead ++ trim p s ++ trail ∧ (∀ c ∈ lead, p c = true) ∧
      ∀ c ∈ trail, p c = true := by
  refine ⟨s.takeWhile p, (s.dropWhile p).rtakeWhile p, ?_, fun c hc => List.mem_takeWhile_imp hc,
    fun c hc => List.mem_rtakeWhile_imp hc⟩
  have happ : trim p s ++ (s.dropWhile p).rtakeWhile p = s.dropWhile p :=
    List.rdropWhile_append_rtakeWhile ..
  rw [List.append_assoc, happ, List.takeWhile_append_dropWhile]

/-- Trimming leaves nothing of a text of which every character is trimmed. -/
theorem trim_eq_nil_iff {p : Char → Bool} {s : List Char} :
    trim p s = [] ↔ ∀ c ∈ s, p c = true := by
  constructor
  · intro h c hc
    obtain ⟨lead, trail, hs, hl, ht⟩ := exists_trim p s
    rw [hs, h, List.append_nil] at hc
    exact (List.mem_append.1 hc).elim (hl c) (ht c)
  · intro h
    rw [trim, trimStart, List.dropWhile_eq_nil_iff.2 h]
    rfl

/-- Trimming gives back what no trimmed character is in. -/
theorem trim_append {p : Char → Bool} {lead core trail : List Char} (hl : ∀ c ∈ lead, p c = true)
    (hcore : ∀ c ∈ core, p c = false) (ht : ∀ c ∈ trail, p c = true) :
    trim p (lead ++ core ++ trail) = core := by
  rcases List.eq_nil_or_concat core with rfl | ⟨k, d, rfl⟩
  · refine trim_eq_nil_iff.2 fun c hc => ?_
    rw [List.append_nil] at hc
    exact (List.mem_append.1 hc).elim (hl c) (ht c)
  · have hhead : ∀ c ∈ (k.concat d ++ trail).head?, p c = false := by
      intro c hc
      rw [List.head?_append_of_ne_nil _ (by simp)] at hc
      exact hcore c (List.mem_of_mem_head? hc)
    rw [trim, trimStart, List.append_assoc, (takeWhile_dropWhile_append hl hhead).2,
      trimEnd_append _ ht, trimEnd_of_getLast? fun c hc => hcore c (List.mem_of_mem_getLast? hc)]

/-- White space has no letters. -/
theorem toLower_of_isWhiteSpace {c : Char} (h : isWhiteSpace c = true) : c.toLower = c := by
  refine dif_neg fun hupper => ?_
  have hlow : 65 ≤ c.toNat := hupper.1
  have hhigh : c.toNat ≤ 90 := hupper.2
  simp [isWhiteSpace] at h
  omega

/-- **The name of a text is a word if the text spells the word**, which has no white space. -/
theorem valueName_eq_iff {text word : String} (hword : word.toList.any isWhiteSpace = false) :
    valueName text = word ↔ Spells text word := by
  constructor
  · rintro rfl
    obtain ⟨lead, trail, htext, hl, ht⟩ := exists_trim isWhiteSpace text.toList
    exact ⟨lead, _, trail, htext, hl, ht, String.toList_ofList.symm⟩
  · rintro ⟨lead, core, trail, htext, hl, ht, hcore⟩
    have hcore' : ∀ c ∈ core, isWhiteSpace c = false := by
      intro c hc
      refine Bool.eq_false_iff.2 fun hspace => ?_
      have hmem : c.toLower ∈ word.toList := hcore ▸ List.mem_map_of_mem hc
      rw [toLower_of_isWhiteSpace hspace] at hmem
      exact List.any_eq_false.1 hword c hmem hspace
    rw [valueName, htext, trim_append hl hcore' ht, hcore, String.ofList_toList]

end Text

/-! ## Texts that say a value -/

/-- The words for an indentation. -/
def Indentation.words : Indentation → List String
  | tabs => ["tabs", "tab"]
  | spaces => ["spaces", "space"]

/-- The words for a baseline. -/
def Baseline.words : Baseline → List String
  | j8 => ["j8", "8"]
  | j17 => ["j17", "17"]

/-- Whether a text says a value, for which there are some words. -/
def Says {α : Type} (words : α → List String) (text : String) (value : α) : Prop :=
  ∃ word ∈ words value, Text.Spells text word

/-- What a reader of texts does: it gives the value that a text says, and refuses a text that says
none by its name. -/
structure IsReader {α : Type} (words : α → List String) (unknown : String → SettingProblem)
    (read : String → Except SettingProblem α) : Prop where
  /-- The value that a text says is read from it. -/
  ok : ∀ text value, Says words text value → read text = .ok value
  /-- A text that says no value is refused. -/
  error : ∀ text, (∀ value, ¬Says words text value) → read text = .error (unknown (valueName text))

variable {α : Type} {words : α → List String} {unknown : String → SettingProblem}
  {read : String → Except SettingProblem α}

theorem says_iff (hwords : ∀ value, ∀ word ∈ words value, word.toList.any Text.isWhiteSpace = false)
    {text : String} {value : α} :
    Says words text value ↔ valueName text ∈ words value := by
  constructor
  · rintro ⟨word, hmem, hspells⟩
    rwa [(Text.valueName_eq_iff (hwords value word hmem)).2 hspells]
  · intro hmem
    exact ⟨_, hmem, (Text.valueName_eq_iff (hwords value _ hmem)).1 rfl⟩

/-- A function that looks for the words of two values is a reader. -/
theorem isReader_of_two (first second : α) (hvalues : ∀ value, value = first ∨ value = second)
    (hwords : ∀ value, ∀ word ∈ words value, word.toList.any Text.isWhiteSpace = false)
    (hdistinct : ∀ word ∈ words first, word ∉ words second)
    (hread : ∀ text, read text =
      if valueName text ∈ words first then .ok first
      else if valueName text ∈ words second then .ok second
      else .error (unknown (valueName text))) : IsReader words unknown read := by
  refine ⟨fun text value hsays => ?_, fun text hnone => ?_⟩
  · rw [says_iff hwords] at hsays
    rcases hvalues value with rfl | rfl
    · rw [hread, if_pos hsays]
    · rw [hread, if_neg fun hfirst => hdistinct _ hfirst hsays, if_pos hsays]
  · have hnot : ∀ value, valueName text ∉ words value := fun value hmem =>
      hnone value ((says_iff hwords).2 hmem)
    rw [hread, if_neg (hnot first), if_neg (hnot second)]

theorem Indentation.isReader : IsReader Indentation.words .unknownIndentation ofText :=
  isReader_of_two .tabs .spaces (fun value => by cases value <;> simp)
    (fun value => by cases value <;> decide) (by decide)
    fun text => by simp [ofText, Indentation.words]

theorem Baseline.isReader : IsReader Baseline.words .unknownBaseline ofText :=
  isReader_of_two .j8 .j17 (fun value => by cases value <;> simp)
    (fun value => by cases value <;> decide) (by decide)
    fun text => by simp [ofText, Baseline.words]

/-! ## One field -/

/-- Whether a field is in order: it is given on the command line, or the file leaves it open, or
its text there says a value. -/
def IsSound (words : α → List String) (given : Option α) (text : Option String) : Prop :=
  given.isSome = true ∨ text = none ∨ ∃ said value, text = some said ∧ Says words said value

/-- The value of a field, where `Reads` tells what the texts of the file mean. -/
inductive IsSettled (Reads : String → α → Prop) (default : α) :
    Option α → Option String → α → Prop
  /-- What the command line gives, whatever the file says. -/
  | given (value : α) (text : Option String) : IsSettled Reads default (some value) text value
  /-- What the file says, if the command line gives nothing. -/
  | read {text : String} {value : α} (h : Reads text value) :
    IsSettled Reads default none (some text) value
  /-- The default, if neither says anything. -/
  | unsaid : IsSettled Reads default none none default

namespace Config

/-- **What comes of a field.**  If it is in order it is settled, whatever the default, and if it is
not the name of its text in the file is reported. -/
theorem choose_cases (hread : IsReader words unknown read) (given : Option α)
    (text : Option String) :
    (IsSound words given text ∧ ∃ choice, choose read given text = .ok choice ∧
      ∀ default, IsSettled (Says words) default given text (choice.getD default)) ∨
    (¬IsSound words given text ∧ ∃ said, text = some said ∧
      choose read given text = .error (unknown (valueName said))) := by
  cases given with
  | some value => exact Or.inl ⟨Or.inl rfl, some value, rfl, fun _ => .given value text⟩
  | none =>
    cases text with
    | none => exact Or.inl ⟨Or.inr (Or.inl rfl), none, rfl, fun _ => .unsaid⟩
    | some said =>
      by_cases hsays : ∃ value, Says words said value
      · obtain ⟨value, hsays⟩ := hsays
        refine Or.inl ⟨Or.inr (Or.inr ⟨said, value, rfl, hsays⟩), some value, ?_,
          fun _ => .read hsays⟩
        rw [choose, hread.ok said value hsays]
        rfl
      · refine Or.inr ⟨?_, said, rfl, ?_⟩
        · rintro (h | h | ⟨said', value, hsaid, h⟩)
          · cases h
          · cases h
          · cases hsaid
            exact hsays ⟨value, h⟩
        · rw [choose, hread.error said (not_exists.1 hsays)]
          rfl

/-- The text in the file is not read where the command line gives the field. -/
theorem choose_congr {given : Option α} {text text' : Option String}
    (h : given = none → text' = text) : choose read given text' = choose read given text := by
  cases given with
  | some value => rfl
  | none => rw [h rfl]

/-! ## All fields -/

/-- Whether an encoding is left open, or has a label that is not blank. -/
def IsLabelled (encoding : Option String) : Prop :=
  ∀ label, encoding = some label → ∃ c ∈ label.toList, Text.isWhiteSpace c = false

theorem isLabelled_iff {encoding : Option String} : IsLabelled encoding ↔
    ¬(encoding.any fun label => Text.trim Text.isWhiteSpace label.toList = []) = true := by
  cases encoding with
  | none => exact iff_of_true nofun Bool.false_ne_true
  | some label =>
    rw [Option.any_some, decide_eq_true_iff, Text.trim_eq_nil_iff]
    constructor
    · intro h hblank
      obtain ⟨c, hc, hspace⟩ := h label rfl
      rw [hblank c hc] at hspace
      cases hspace
    · intro h label' hlabel
      cases hlabel
      simpa using h

/-- The encoding is given, or else read as it stands, or else the default. -/
theorem isSettled_encoding (default : String) (given text : Option String) :
    IsSettled Eq default given text ((given.or text).getD default) := by
  cases given with
  | some value => exact .given value text
  | none =>
    cases text with
    | none => exact .unsaid
    | some said => exact .read rfl

theorem hasTextBlocks_iff (baseline : Baseline) :
    baseline.hasTextBlocks = true ↔ baseline = .j17 := by
  cases baseline <;> decide

/-- Settings that are merged from a config file and a command line. -/
structure IsMerged (config : Config) (given : Choices) (settings : Settings) : Prop where
  /-- The indentation is spaces unless something else is said. -/
  indentation : IsSettled (Says Indentation.words) .spaces given.indentation config.indentation
    settings.indentation
  /-- The baseline is Java 8 unless something else is said. -/
  baseline : IsSettled (Says Baseline.words) .j8 given.baseline config.baseline settings.baseline
  /-- The encoding is UTF-8 unless something else is said. -/
  encoding : IsSettled Eq "UTF-8" given.encoding config.encoding settings.encoding
  /-- The style is theirs, with tab stops every four columns. -/
  style : settings.style = ⟨settings.baseline, settings.indentation, 4⟩
  /-- It has text blocks from Java 17 on. -/
  hasTextBlocks : settings.style.baseline.hasTextBlocks = true ↔ settings.baseline = .j17

/-- The first problem of a config file and a command line, the fields being taken in their order. -/
inductive IsFirstProblem (config : Config) (given : Choices) : SettingProblem → Prop
  /-- The file's indentation says none. -/
  | indentation {said : String} (hsaid : config.indentation = some said)
    (hindentation : ¬IsSound Indentation.words given.indentation config.indentation) :
    IsFirstProblem config given (.unknownIndentation (valueName said))
  /-- The file's baseline says none. -/
  | baseline {said : String} (hsaid : config.baseline = some said)
    (hindentation : IsSound Indentation.words given.indentation config.indentation)
    (hbaseline : ¬IsSound Baseline.words given.baseline config.baseline) :
    IsFirstProblem config given (.unknownBaseline (valueName said))
  /-- The encoding is blank. -/
  | encoding (hindentation : IsSound Indentation.words given.indentation config.indentation)
    (hbaseline : IsSound Baseline.words given.baseline config.baseline)
    (hencoding : ¬IsLabelled (given.encoding.or config.encoding)) :
    IsFirstProblem config given .blankEncoding

/-- Whether all fields are in order. -/
def IsMergeable (config : Config) (given : Choices) : Prop :=
  IsSound Indentation.words given.indentation config.indentation ∧
    IsSound Baseline.words given.baseline config.baseline ∧
    IsLabelled (given.encoding.or config.encoding)

theorem IsFirstProblem.not_isMergeable {config : Config} {given : Choices}
    {problem : SettingProblem} (h : IsFirstProblem config given problem) :
    ¬config.IsMergeable given := by
  rintro ⟨hindentation, hbaseline, hencoding⟩
  cases h with
  | indentation _ h => exact h hindentation
  | baseline _ _ h => exact h hbaseline
  | encoding _ _ h => exact h hencoding

/-- What a merge comes to: the values of the fields if all of them are in order, or the problem of
the first one that is not. -/
def IsOutcome (config : Config) (given : Choices) : Except SettingProblem Settings → Prop
  | .ok settings => config.IsMergeable given ∧ config.IsMerged given settings
  | .error problem => config.IsFirstProblem given problem

/-- **A merge comes to one of the two.** -/
theorem isOutcome_merge (config : Config) (given : Choices) :
    config.IsOutcome given (config.merge given) := by
  rcases choose_cases Indentation.isReader given.indentation config.indentation with
    ⟨hindentation, indentation, hi, hisettled⟩ | ⟨hindentation, said, hsaid, hi⟩
  · rcases choose_cases Baseline.isReader given.baseline config.baseline with
      ⟨hbaseline, baseline, hb, hbsettled⟩ | ⟨hbaseline, said, hsaid, hb⟩
    · by_cases hencoding : IsLabelled (given.encoding.or config.encoding)
      · have hmerge : config.merge given = .ok (Choices.settings
            ⟨indentation, baseline, given.encoding.or config.encoding⟩) := by
          simp only [merge, hi, hb, bind, Except.bind, if_neg (isLabelled_iff.1 hencoding)]
          rfl
        rw [hmerge]
        exact ⟨⟨hindentation, hbaseline, hencoding⟩, hisettled _, hbsettled _,
          isSettled_encoding _ _ _, rfl, hasTextBlocks_iff _⟩
      · have hblank := not_not.1 (mt isLabelled_iff.2 hencoding)
        have hmerge : config.merge given = .error .blankEncoding := by
          simp only [merge, hi, hb, bind, Except.bind, if_pos hblank]
          rfl
        rw [hmerge]
        exact .encoding hindentation hbaseline hencoding
    · have hmerge : config.merge given = .error (.unknownBaseline (valueName said)) := by
        simp only [merge, hi, hb, bind, Except.bind]
      rw [hmerge]
      exact .baseline hsaid hindentation hbaseline
  · have hmerge : config.merge given = .error (.unknownIndentation (valueName said)) := by
      simp only [merge, hi, bind, Except.bind]
    rw [hmerge]
    exact .indentation hsaid hindentation

theorem IsOutcome.isMergeable_iff {config : Config} {given : Choices}
    {result : Except SettingProblem Settings} (h : config.IsOutcome given result) :
    (∃ settings, result = .ok settings) ↔ config.IsMergeable given := by
  cases result with
  | ok settings => exact iff_of_true ⟨settings, rfl⟩ h.1
  | error problem => exact iff_of_false nofun (IsFirstProblem.not_isMergeable h)

/-- Whether two config files say the same about the fields that a command line leaves open. -/
structure AgreesWhereOpen (config other : Config) (given : Choices) : Prop where
  /-- About the indentation. -/
  indentation : given.indentation = none → other.indentation = config.indentation
  /-- About the baseline. -/
  baseline : given.baseline = none → other.baseline = config.baseline
  /-- About the encoding. -/
  encoding : given.encoding = none → other.encoding = config.encoding

/-- What the file says about a field that is given does not matter. -/
theorem merge_congr {config other : Config} {given : Choices}
    (h : config.AgreesWhereOpen other given) : other.merge given = config.merge given := by
  have hencoding : given.encoding.or other.encoding = given.encoding.or config.encoding := by
    cases hgiven : given.encoding with
    | some label => rfl
    | none => rw [h.encoding hgiven]
  rw [merge, merge, choose_congr h.indentation, choose_congr h.baseline, hencoding]

/-- A task for which no settings can be merged is refused for the problem. -/
theorem ofArgs_of_merge_error {config : Config} {problem : SettingProblem} {disk : Disk}
    {args : TaskArgs} (hconfig : Project.findConfig disk args.projectDir args.config = .ok config)
    (h : config.merge args.choices = .error problem) :
    Plan.ofArgs disk args = .error (.setting problem) := by
  simp only [Plan.ofArgs, hconfig, h, bind, Except.bind, Except.mapError]

/-- **Settings are merged field by field.**  A merge succeeds just when every field is in order:
the indentation and the baseline are given, left open by the file or said there in one of their
words, and the encoding that counts is not blank.  Then each field has the value that is given, or
else what the file says, or else its default, and the style is that of these values.  What the file
says about a field that is given does not matter, be it as it may.  A merge that fails reports the
first field that is not in order, and so does every task with this config file and command line. -/
theorem merge_fieldwise (config : Config) (given : Choices) :
    ((∃ settings, config.merge given = .ok settings) ↔
      IsSound Indentation.words given.indentation config.indentation ∧
        IsSound Baseline.words given.baseline config.baseline ∧
        IsLabelled (given.encoding.or config.encoding)) ∧
    (∀ settings, config.merge given = .ok settings → config.IsMerged given settings) ∧
    (∀ other, config.AgreesWhereOpen other given → other.merge given = config.merge given) ∧
    (∀ problem, config.merge given = .error problem → config.IsFirstProblem given problem ∧
      ∀ (disk : Disk) (args : TaskArgs),
        Project.findConfig disk args.projectDir args.config = .ok config → args.choices = given →
        Plan.ofArgs disk args = .error (.setting problem)) := by
  have houtcome := isOutcome_merge config given
  refine ⟨houtcome.isMergeable_iff, fun settings h => ?_, fun other h => merge_congr h,
    fun problem h => ⟨?_, fun disk args hconfig hgiven => ?_⟩⟩
  · rw [h] at houtcome
    exact houtcome.2
  · rw [h] at houtcome
    exact houtcome
  · subst hgiven
    exact ofArgs_of_merge_error hconfig h

/-- A config file that says tabs, in its own way, and no baseline and no encoding. -/
def loose : Config := ⟨some "\u2003TaBs\u00A0", some "j11", some " ", []⟩

/-- A task that is given no settings but a blank encoding. -/
def blankArgs : TaskArgs :=
  { plainArgs "src" "r" with choices := ⟨none, none, some "\u3000"⟩ }

/-- What a loose file leaves unsaid is given on the command line; a blank encoding that is given
does not count as left open. -/
theorem merge_fieldwise_loose :
    loose.IsMerged ⟨none, some .j17, some "UTF-8"⟩ ⟨.tabs, .j17, "UTF-8"⟩ ∧
      Config.merge ⟨loose.indentation, none, none, ["a"]⟩ ⟨none, some .j17, some "UTF-8"⟩ =
        loose.merge ⟨none, some .j17, some "UTF-8"⟩ ∧
      Config.empty.IsFirstProblem blankArgs.choices .blankEncoding ∧
      Plan.ofArgs emptyProject blankArgs = .error (.setting .blankEncoding) := by
  obtain ⟨-, hmerged, hcongr, -⟩ := merge_fieldwise loose ⟨none, some .j17, some "UTF-8"⟩
  obtain ⟨-, -, -, hproblem⟩ := merge_fieldwise Config.empty blankArgs.choices
  obtain ⟨hfirst, hplan⟩ := hproblem .blankEncoding rfl
  have hnone : Project.configInUse emptyProject "." none = none := configInUse_plain rfl (by decide)
  refine ⟨hmerged _ rfl, hcongr _ ⟨fun _ => rfl, nofun, nofun⟩, hfirst, hplan _ _ ?_ rfl⟩
  rw [Project.findConfig_eq, blankArgs, plainArgs, hnone]

end Config

end JavaFormat
