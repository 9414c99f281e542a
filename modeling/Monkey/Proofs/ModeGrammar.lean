import Mathlib
import Monkey.Output.Mode

/-!
# How modes are spelled

A text chooses a mode when it is the name of the mode in letters of either case,
with nothing but white space around it. Reading is more lenient on the way: it
puts the whole text into lower case, which can make several characters of one and
ASCII letters of others. No name can come about that way, whatever the lower case
of the other characters is, as long as it contains no ASCII letter.
-/

namespace Monkey

/-! ## White space around a text -/

namespace WhiteSpace

/-- Nothing but white space. -/
def Blank (content : List Char) : Prop :=
  ∀ char ∈ content, isWhiteSpace char = true

/-- No white space at all. -/
def Solid (content : List Char) : Prop :=
  ∀ char ∈ content, isWhiteSpace char = false

theorem trimStart_append
    {before : List Char}
    (blank : Blank before)
    (content : List Char) :
    trimStart (before ++ content) = trimStart content :=
  List.dropWhile_append_of_pos blank

theorem trimStart_of_blank {content : List Char} (blank : Blank content) :
    trimStart content = [] :=
  List.dropWhile_eq_nil_iff.mpr blank

theorem trimStart_cons_of_solid
    {first : Char}
    (solid : isWhiteSpace first = false)
    (rest : List Char) :
    trimStart (first :: rest) = first :: rest :=
  List.dropWhile_cons_of_neg (Bool.not_eq_true _ ▸ solid)

theorem trimStart_of_solid {content : List Char} (solid : Solid content) :
    trimStart content = content := by
  cases content with
  | nil => rfl
  | cons first rest => exact trimStart_cons_of_solid (solid first (.head _)) rest

theorem exists_trimStart (content : List Char) :
    ∃ before, Blank before ∧ content = before ++ trimStart content :=
  ⟨content.takeWhile isWhiteSpace, fun _ => List.mem_takeWhile_imp,
    List.takeWhile_append_dropWhile.symm⟩

/-- Trimming takes white space from both ends of a text, and nothing else. -/
theorem exists_trim (content : List Char) :
    ∃ before after, Blank before ∧ Blank after ∧
      content = before ++ trim content ++ after := by
  obtain ⟨before, beforeBlank, fromStart⟩ := exists_trimStart content
  obtain ⟨after, afterBlank, fromEnd⟩ :=
    exists_trimStart (trimStart content).reverse
  have fromBoth := congrArg List.reverse fromEnd
  rw [List.reverse_reverse, List.reverse_append] at fromBoth
  refine ⟨before, after.reverse, beforeBlank, ?_, ?_⟩
  · intro char member
    exact afterBlank char (List.mem_reverse.mp member)
  · rw [List.append_assoc]
    exact fromStart.trans (congrArg (before ++ ·) fromBoth)

/-- A text without white space is what trimming leaves of it within white
space. -/
theorem trim_of_solid
    {before content after : List Char}
    (beforeBlank : Blank before)
    (afterBlank : Blank after)
    (solid : Solid content) :
    trim (before ++ content ++ after) = content := by
  rw [trim, List.append_assoc, trimStart_append beforeBlank]
  cases content with
  | nil => rw [List.nil_append, trimStart_of_blank afterBlank]; rfl
  | cons first rest =>
      have endBlank : Blank after.reverse := fun char member =>
        afterBlank char (List.mem_reverse.mp member)
      have endSolid : Solid (first :: rest).reverse := fun char member =>
        solid char (List.mem_reverse.mp member)
      rw [List.cons_append, trimStart_cons_of_solid (solid first (.head _)),
        ← List.cons_append, List.reverse_append, trimStart_append endBlank,
        trimStart_of_solid endSolid, List.reverse_reverse]

end WhiteSpace

/-! ## Lower case -/

/-- What each character of a text becomes in lower case, given what stands
before and behind it. -/
abbrev LowerCasing := (before : List Char) -> Char -> (after : List Char) ->
  List Char

namespace LowerCasing

/-- A text in lower case, behind some characters of the same text. -/
def apply
    (lower : LowerCasing) (before : List Char) : List Char -> List Char
  | [] => []
  | char :: rest =>
      lower before char rest ++ lower.apply (before ++ [char]) rest

/-- Letters of ASCII become small letters. The Kelvin sign and the capital I with
a dot above become a small letter, in one case with a dot behind it. Every other
character becomes one or more characters, none of them a letter of ASCII. -/
structure Standard (lower : LowerCasing) : Prop where
  letter : ∀ before char after, char.isAlpha = true ->
    lower before char after = [char.toLower]
  kelvin : ∀ before after, lower before '\u212a' after = ['k']
  dotted : ∀ before after, lower before '\u0130' after = ['i', '\u0307']
  ne_nil : ∀ before char after, lower before char after ≠ []
  other : ∀ before char after, char.isAlpha = false ->
    char ≠ '\u212a' -> char ≠ '\u0130' ->
      ∀ result ∈ lower before char after, result.isAlpha = false

/-- A letter that names of modes may hold: one of ASCII, but not the one that the
Kelvin sign becomes. -/
def NameLetter (char : Char) : Prop :=
  char.isAlpha = true ∧ char ≠ 'k'

/-- Only a letter of ASCII becomes letters of a name. -/
theorem Standard.isAlpha_of_named
    {lower : LowerCasing}
    (standard : lower.Standard)
    {before after : List Char}
    {char : Char}
    (named : ∀ result ∈ lower before char after, NameLetter result) :
    char.isAlpha = true := by
  by_contra notLetter
  rw [Bool.not_eq_true] at notLetter
  by_cases kelvin : char = '\u212a'
  · subst kelvin
    rw [standard.kelvin] at named
    exact (named 'k' (.head _)).2 rfl
  by_cases dotted : char = '\u0130'
  · subst dotted
    rw [standard.dotted] at named
    have letter := (named '\u0307' (by decide)).1
    cases letter
  obtain ⟨result, others, becomes⟩ :=
    List.exists_cons_of_ne_nil (standard.ne_nil before char after)
  have member : result ∈ lower before char after := becomes ▸ .head _
  have other := standard.other before char after notLetter kelvin dotted result
    member
  rw [(named result member).1] at other
  cases other

/-- A text whose lower case spells a name consists of letters of ASCII. -/
theorem Standard.isAlpha_of_apply
    {lower : LowerCasing}
    (standard : lower.Standard)
    {before content : List Char}
    (named : ∀ result ∈ lower.apply before content, NameLetter result) :
    ∀ char ∈ content, char.isAlpha = true := by
  induction content generalizing before with
  | nil => nofun
  | cons first rest inductionHypothesis =>
      rw [apply] at named
      intro char member
      rcases List.mem_cons.mp member with rfl | member
      · exact standard.isAlpha_of_named fun result resultMember =>
          named result (List.mem_append_left _ resultMember)
      · exact inductionHypothesis
          (fun result resultMember =>
            named result (List.mem_append_right _ resultMember)) char member

/-- Letters of ASCII are put into lower case one by one. -/
theorem Standard.apply_eq_map
    {lower : LowerCasing}
    (standard : lower.Standard)
    {before content : List Char}
    (letters : ∀ char ∈ content, char.isAlpha = true) :
    lower.apply before content = content.map Char.toLower := by
  induction content generalizing before with
  | nil => rfl
  | cons first rest inductionHypothesis =>
      rw [apply, standard.letter _ _ _ (letters first (.head _)),
        inductionHypothesis fun char member => letters char (.tail _ member)]
      rfl

/-- Two standard ways to put texts into lower case make the same names. -/
theorem Standard.apply_eq_iff
    {lower : LowerCasing}
    (standard : lower.Standard)
    {content name : List Char}
    (named : ∀ char ∈ name, NameLetter char) :
    lower.apply [] content = name ↔ content.map Char.toLower = name := by
  constructor
  · rintro rfl
    exact (standard.apply_eq_map (standard.isAlpha_of_apply named)).symm
  · rintro rfl
    refine standard.apply_eq_map fun char member => ?_
    rw [← Char.isAlpha_toLower_eq_isAlpha]
    exact (named _ (List.mem_map_of_mem member)).1

end LowerCasing

/-! ## Names of modes -/

namespace PrintMode

open WhiteSpace

/-- A text names a mode in letters of either case, within white space. -/
def Spells (content : List Char) (mode : PrintMode) : Prop :=
  ∃ before name after, content = before ++ name ++ after ∧
    Blank before ∧ Blank after ∧ name.map Char.toLower = mode.name.toList

theorem nameLetter_of_mem_name
    {mode : PrintMode}
    {char : Char}
    (member : char ∈ mode.name.toList) :
    LowerCasing.NameLetter char := by
  have letters : ∀ char ∈ mode.name.toList,
      char.isAlpha = true ∧ char ≠ 'k' := by
    cases mode <;> simp [name]
  exact letters char member

theorem ofName?_eq_some_iff (content : List Char) (mode : PrintMode) :
    ofName? content = some mode ↔ content = mode.name.toList := by
  constructor
  · intro found
    have named := List.find?_some
      (p := fun mode : PrintMode => mode.name.toList == content) found
    exact (beq_iff_eq.mp named).symm
  · rintro rfl
    cases mode <;> rfl

/-- The way in which modes are put into lower case. -/
def casing : LowerCasing :=
  fun _ char _ => lowerCase char

theorem casing_apply (before content : List Char) :
    casing.apply before content = content.flatMap lowerCase := by
  induction content generalizing before with
  | nil => rfl
  | cons first rest inductionHypothesis =>
      rw [LowerCasing.apply, inductionHypothesis, List.flatMap_cons]
      rfl

theorem lowerCase_of_ne
    {char : Char}
    (notKelvin : char ≠ '\u212a')
    (notDotted : char ≠ '\u0130') :
    lowerCase char = [char.toLower] := by
  rw [lowerCase, if_neg notKelvin, if_neg notDotted]

theorem standard_casing : casing.Standard where
  letter before char after letter := by
    refine lowerCase_of_ne ?_ ?_
    · rintro rfl
      cases letter
    · rintro rfl
      cases letter
  kelvin before after := rfl
  dotted before after := rfl
  ne_nil before char after := by
    change lowerCase char ≠ []
    unfold lowerCase
    split_ifs <;> exact List.cons_ne_nil _ _
  other before char after notLetter notKelvin notDotted result member := by
    change result ∈ lowerCase char at member
    rw [lowerCase_of_ne notKelvin notDotted, List.mem_singleton] at member
    rw [member, Char.isAlpha_toLower_eq_isAlpha, notLetter]

/-- Read a mode, in lower case as given. -/
def parseIn? (lower : LowerCasing) (text : String) : Option PrintMode :=
  ofName? (lower.apply [] (trim text.toList))

theorem parse?_eq_parseIn? (text : String) :
    parse? text = parseIn? casing text := by
  rw [parseIn?, casing_apply]
  rfl

theorem toNat_of_isAlpha {char : Char} (letter : char.isAlpha = true) :
    0x41 ≤ char.toNat ∧ char.toNat ≤ 0x5a ∨
      0x61 ≤ char.toNat ∧ char.toNat ≤ 0x7a := by
  simpa [Char.isAlpha, Char.isUpper, Char.isLower, UInt32.le_iff_toNat_le]
    using letter

/-- Letters of ASCII are no white space. -/
theorem isWhiteSpace_of_isAlpha {char : Char} (letter : char.isAlpha = true) :
    isWhiteSpace char = false := by
  have code := toNat_of_isAlpha letter
  simp only [isWhiteSpace, ranges, List.any_cons, List.any_nil]
  grind

/-- The characters that spell a name are letters of ASCII. -/
theorem isAlpha_of_spelled
    {name : List Char}
    {mode : PrintMode}
    (spelled : name.map Char.toLower = mode.name.toList) :
    ∀ char ∈ name, char.isAlpha = true := by
  intro char member
  rw [← Char.isAlpha_toLower_eq_isAlpha]
  exact (nameLetter_of_mem_name (spelled ▸ List.mem_map_of_mem member)).1

theorem solid_of_spelled
    {name : List Char}
    {mode : PrintMode}
    (spelled : name.map Char.toLower = mode.name.toList) :
    Solid name :=
  fun char member =>
    isWhiteSpace_of_isAlpha (isAlpha_of_spelled spelled char member)

/-- Trimming decides whether a text spells a mode. -/
theorem spells_iff_trim (content : List Char) (mode : PrintMode) :
    Spells content mode ↔
      (trim content).map Char.toLower = mode.name.toList := by
  constructor
  · rintro ⟨before, name, after, rfl, beforeBlank, afterBlank, spelled⟩
    rwa [trim_of_solid beforeBlank afterBlank (solid_of_spelled spelled)]
  · intro spelled
    obtain ⟨before, after, beforeBlank, afterBlank, split⟩ := exists_trim content
    exact ⟨before, _, after, split, beforeBlank, afterBlank, spelled⟩

theorem parseIn?_eq_some_iff
    {lower : LowerCasing}
    (standard : lower.Standard)
    (text : String)
    (mode : PrintMode) :
    parseIn? lower text = some mode ↔ Spells text.toList mode := by
  rw [parseIn?, ofName?_eq_some_iff, spells_iff_trim]
  exact standard.apply_eq_iff fun _ => nameLetter_of_mem_name

/-- Every character of a text that spells a mode is white space or a letter of
ASCII. -/
theorem Spells.isAlpha_of_mem
    {content : List Char}
    {mode : PrintMode}
    (spells : Spells content mode)
    {char : Char}
    (member : char ∈ content)
    (solid : isWhiteSpace char = false) :
    char.isAlpha = true := by
  obtain ⟨before, name, after, rfl, beforeBlank, afterBlank, spelled⟩ := spells
  rw [List.mem_append, List.mem_append] at member
  rcases member with (inBefore | inName) | inAfter
  · exact absurd (beforeBlank char inBefore) (by rw [solid]; decide)
  · exact isAlpha_of_spelled spelled char inName
  · exact absurd (afterBlank char inAfter) (by rw [solid]; decide)

/-- White space in a text that spells a mode has nothing but white space on one of
its sides. -/
theorem Spells.blank_or_blank
    {front back : List Char}
    {gap : Char}
    {mode : PrintMode}
    (spells : Spells (front ++ gap :: back) mode)
    (space : isWhiteSpace gap = true) :
    Blank front ∨ Blank back := by
  obtain ⟨before, name, after, parts, beforeBlank, afterBlank, spelled⟩ := spells
  rw [List.append_assoc] at parts
  rcases List.append_eq_append_iff.mp parts with
    ⟨_, rfl, -⟩ | ⟨middle, -, behindBefore⟩
  · exact .inl fun char member => beforeBlank char (List.mem_append_left _ member)
  right
  rcases List.append_eq_append_iff.mp behindBefore with
    ⟨_, rfl, rfl⟩ | ⟨tail, rfl, fromGap⟩
  · intro char member
    exact afterBlank char (List.mem_append_right _ (.tail _ member))
  cases tail with
  | nil =>
      obtain rfl : gap :: back = after := fromGap
      exact fun char member => afterBlank char (.tail _ member)
  | cons first tail =>
      obtain ⟨rfl, -⟩ := List.cons.inj fromGap
      have solid := solid_of_spelled spelled gap
        (List.mem_append_right _ (.head _))
      rw [solid] at space
      cases space

theorem parse?_eq_some_iff (text : String) (mode : PrintMode) :
    parse? text = some mode ↔ Spells text.toList mode := by
  rw [parse?_eq_parseIn?, parseIn?_eq_some_iff standard_casing]

/-- Modes are read exactly as they are spelled. A text is read as a mode if and
only if it is the name of the mode, in letters of either case, within white space.
So no text is read that holds a character outside ASCII other than white space,
or white space with something else on either side. Any standard way to put texts
into lower case reads the same. -/
theorem modes_are_read_as_spelled (text : String) :
    (∀ mode, parse? text = some mode ↔ Spells text.toList mode) ∧
      (∀ char ∈ text.toList, 0x80 ≤ char.toNat -> isWhiteSpace char = false ->
        parse? text = none) ∧
      (∀ front gap back, text.toList = front ++ gap :: back ->
        isWhiteSpace gap = true -> ¬ Blank front -> ¬ Blank back ->
          parse? text = none) ∧
      ∀ lower : LowerCasing, lower.Standard ->
        parseIn? lower text = parse? text := by
  refine ⟨parse?_eq_some_iff text, ?_, ?_, ?_⟩
  · intro char member outside solid
    refine Option.eq_none_iff_forall_ne_some.mpr fun mode read => ?_
    have letter := ((parse?_eq_some_iff text mode).mp read).isAlpha_of_mem member
      solid
    have code := toNat_of_isAlpha letter
    omega
  · intro front gap back parts space frontFilled backFilled
    refine Option.eq_none_iff_forall_ne_some.mpr fun mode read => ?_
    have spells := (parse?_eq_some_iff text mode).mp read
    rw [parts] at spells
    exact (spells.blank_or_blank space).elim frontFilled backFilled
  · intro lower standard
    refine Option.ext fun mode => ?_
    rw [parseIn?_eq_some_iff standard, parse?_eq_some_iff]

/-- Capitals and white space around a name make no difference. A Kelvin sign behind
it and white space within do. -/
theorem modes_are_read_as_spelled_in_capitals :
    parse? "\u2003sTdOut\n" = some .stdout ∧
      parse? "stdout\u212a" = none ∧ parse? "std out" = none ∧
        casing.Standard ∧ parseIn? casing "SILENT\u00a0" = some .silent := by
  obtain ⟨read, -, -, -⟩ := modes_are_read_as_spelled "\u2003sTdOut\n"
  obtain ⟨-, readOutside, -, -⟩ := modes_are_read_as_spelled "stdout\u212a"
  obtain ⟨-, -, readGap, -⟩ := modes_are_read_as_spelled "std out"
  obtain ⟨readTrimmed, -, -, readIn⟩ := modes_are_read_as_spelled "SILENT\u00a0"
  refine ⟨?_, ?_, ?_, standard_casing, ?_⟩
  · exact (read .stdout).mpr
      ⟨['\u2003'], "sTdOut".toList, ['\n'], rfl,
        List.forall_mem_singleton.mpr rfl, List.forall_mem_singleton.mpr rfl, rfl⟩
  · exact readOutside '\u212a' (by decide) (by decide) rfl
  · exact readGap "std".toList ' ' "out".toList rfl rfl
      (fun blank => absurd (blank 's' (.head _)) (by decide))
      fun blank => absurd (blank 'o' (.head _)) (by decide)
  · rw [readIn casing standard_casing]
    exact (readTrimmed .silent).mpr
      ⟨[], "SILENT".toList, ['\u00a0'], rfl, nofun,
        List.forall_mem_singleton.mpr rfl, rfl⟩

end PrintMode
end Monkey
