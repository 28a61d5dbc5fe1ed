import CollectionTree.Proofs.Numerals
import Mathlib.Data.List.TakeWhile

/-
  Which texts are addresses, and what is wrong with the
  others.

  Key definitions include:
    * `Text.IsTrimmed`
    * `Address.IsCut`
    * `Address.IsHalf`
    * `Address.HalfHasFault`

  Key theorems include:
    * `Text.trim_eq_iff`
    * `Text.splitFirst?_eq_some_iff`
    * `Address.parseHalf_eq_ok_iff`
    * `Address.parseHalf_eq_error_iff`
    * `Address.addresses_follow_grammar`

  Two bytes stand on the sides of the first dot.  Any number
  of leading zeros, a plus sign and white space around each
  byte make no difference.
-/

namespace CollectionTree

------------------------------------------------------------
-- White Space
------------------------------------------------------------

namespace Text

/- What is left of a text without the blanks around it. -/
def IsTrimmed
    (text shown : List Char) : Prop :=
  ∃ before after,
    text = before ++ shown ++ after ∧
      (∀ c ∈ before, isBlank c = true) ∧
        (∀ c ∈ after, isBlank c = true) ∧
          (∀ c ∈ shown.head?, isBlank c = false) ∧
            ∀ c ∈ shown.getLast?, isBlank c = false

/- Nothing is dropped from a text that starts with no blank. -/
theorem dropWhile_isBlank
    {text : List Char}
    (hHead : ∀ c ∈ text.head?, isBlank c = false) :
    text.dropWhile isBlank = text := by
  cases text with
  | nil => rfl
  | cons c rest =>
      have hFirst : isBlank c = false := hHead c rfl
      exact List.dropWhile_cons_of_neg (by simp [hFirst])

theorem IsTrimmed.trim_eq
    {text shown : List Char}
    (hTrimmed : IsTrimmed text shown) :
    trim text = shown := by
  rcases hTrimmed with
    ⟨before, after, rfl, hBefore, hAfter, hHead, hLast⟩
  unfold trim
  rw [List.append_assoc,
    List.dropWhile_append_of_pos hBefore]
  cases shown with
  | nil =>
      rw [List.nil_append,
        List.dropWhile_eq_nil_iff.mpr hAfter]
      rfl
  | cons c rest =>
      have hStart :
          ((c :: rest) ++ after).dropWhile isBlank =
            (c :: rest) ++ after :=
        dropWhile_isBlank hHead
      have hBlank :
          ∀ d ∈ after.reverse, isBlank d = true :=
        fun d hMem => hAfter d (List.mem_reverse.mp hMem)
      rw [hStart, List.reverse_append,
        List.dropWhile_append_of_pos hBlank,
        dropWhile_isBlank (by rwa [List.head?_reverse]),
        List.reverse_reverse]

/- What a text begins with before its first other character. -/
theorem exists_blanks_append
    (text : List Char) :
    ∃ blanks,
      text = blanks ++ text.dropWhile isBlank ∧
        (∀ c ∈ blanks, isBlank c = true) ∧
          ∀ c ∈ (text.dropWhile isBlank).head?,
            isBlank c = false := by
  refine
    ⟨text.takeWhile isBlank,
      List.takeWhile_append_dropWhile.symm,
      List.all_eq_true.mp List.all_takeWhile, ?_⟩
  intro c hHead
  have hNot := List.head?_dropWhile_not isBlank text
  rw [Option.mem_def.mp hHead] at hNot
  exact hNot

theorem isTrimmed_trim
    (text : List Char) :
    IsTrimmed text (trim text) := by
  rcases exists_blanks_append text with
    ⟨before, hText, hBefore, hHead⟩
  generalize hRest : text.dropWhile isBlank = rest at *
  rcases exists_blanks_append rest.reverse with
    ⟨after, hReverse, hAfter, hLast⟩
  have hShown :
      trim text = (rest.reverse.dropWhile isBlank).reverse := by
    unfold trim
    rw [hRest]
  have hSplit : rest = trim text ++ after.reverse := by
    rw [hShown, ← List.reverse_append, ← hReverse,
      List.reverse_reverse]
  refine
    ⟨before, after.reverse, ?_, hBefore, ?_, ?_, ?_⟩
  · rw [List.append_assoc, ← hSplit]
    exact hText
  · exact fun c hMem => hAfter c (List.mem_reverse.mp hMem)
  · intro c hFirst
    apply hHead c
    rw [hSplit, List.head?_append, Option.mem_def.mp hFirst]
    rfl
  · rw [hShown, List.getLast?_reverse]
    exact hLast

theorem trim_eq_iff
    {text shown : List Char} :
    trim text = shown ↔ IsTrimmed text shown := by
  constructor
  · rintro rfl
    exact isTrimmed_trim text
  · exact IsTrimmed.trim_eq

------------------------------------------------------------
-- Cutting
------------------------------------------------------------

theorem splitFirst?_eq_none
    {separator : Char}
    {text : List Char}
    (hAbsent : separator ∉ text) :
    splitFirst? separator text = none := by
  induction text with
  | nil => rfl
  | cons c rest ih =>
      rw [List.mem_cons, not_or] at hAbsent
      simp [splitFirst?, Ne.symm hAbsent.1, ih hAbsent.2]

theorem splitFirst?_eq_some_iff
    {separator : Char}
    {text first second : List Char} :
    splitFirst? separator text = some (first, second) ↔
      text = first ++ separator :: second ∧
        separator ∉ first := by
  constructor
  · intro hCut
    by_cases hMem : separator ∈ text
    · rcases List.eq_append_cons_of_mem hMem with
        ⟨front, rest, rfl, hAbsent⟩
      rw [splitFirst?_append hAbsent] at hCut
      cases hCut
      exact ⟨rfl, hAbsent⟩
    · rw [splitFirst?_eq_none hMem] at hCut
      contradiction
  · rintro ⟨rfl, hAbsent⟩
    exact splitFirst?_append hAbsent second

end Text

namespace Address

------------------------------------------------------------
-- Halves
------------------------------------------------------------

/- A byte, possibly with white space around it. -/
def IsHalf
    (half : List Char)
    (byte : UInt8) : Prop :=
  ∃ shown,
    Text.IsTrimmed half shown ∧
      Whole.IsNumeral 255 shown byte.toNat

/- What is wrong with a half that is not a byte. -/
def HalfHasFault
    (half : List Char)
    (fault : Whole.Fault) : Prop :=
  ∃ shown,
    Text.IsTrimmed half shown ∧
      Whole.HasFault 255 shown fault

theorem parseHalf_eq_ok_iff
    {half : List Char}
    {byte : UInt8} :
    parseHalf half = .ok byte ↔ IsHalf half byte := by
  unfold parseHalf
  constructor
  · intro hRead
    split at hRead
    · rename_i n hNumber
      have hNumeral := Whole.parse_eq_ok_iff.mp hNumber
      have hByte : byte.toNat = n := by
        rw [← Except.ok.inj hRead]
        exact
          UInt8.toNat_ofNat_of_lt'
            (Nat.lt_succ_of_le hNumeral.le)
      exact
        ⟨Text.trim half, Text.isTrimmed_trim half,
          hByte ▸ hNumeral⟩
    · contradiction
  · rintro ⟨shown, hTrimmed, hNumeral⟩
    rw [hTrimmed.trim_eq, Whole.parse_eq_ok_iff.mpr hNumeral]
    simp

theorem parseHalf_eq_error_iff
    {half : List Char}
    {fault : Whole.Fault} :
    parseHalf half = .error (.badHalf fault) ↔
      HalfHasFault half fault := by
  unfold parseHalf
  constructor
  · intro hRead
    split at hRead
    · contradiction
    · rename_i other hNumber
      cases hRead
      exact
        ⟨Text.trim half, Text.isTrimmed_trim half,
          Whole.parse_eq_error_iff.mp hNumber⟩
  · rintro ⟨shown, hTrimmed, hFault⟩
    rw [hTrimmed.trim_eq, Whole.parse_eq_error_iff.mpr hFault]

/- A half is never taken for a text without a dot. -/
theorem parseHalf_cases
    (half : List Char) :
    (∃ byte, parseHalf half = .ok byte) ∨
      ∃ fault, parseHalf half = .error (.badHalf fault) := by
  unfold parseHalf
  split
  · exact Or.inl ⟨_, rfl⟩
  · exact Or.inr ⟨_, rfl⟩

/- A byte in decimal notation is a half. -/
theorem isHalf_digits
    (byte : UInt8) :
    IsHalf (Whole.digits byte.toNat) byte := by
  have hDigit :
      ∀ c ∈ Whole.digits byte.toNat,
        Text.isBlank c = false := by
    intro c hMem
    have hBounds :=
      Char.isDigit_iff_toNat.mp
        (Whole.isDigit_of_mem_digits hMem)
    change 48 ≤ c.toNat ∧ c.toNat ≤ 57 at hBounds
    simp only [Text.isBlank, Bool.or_eq_false_iff,
      Bool.and_eq_false_iff, decide_eq_false_iff_not,
      beq_eq_false_iff_ne]
    omega
  refine
    ⟨Whole.digits byte.toNat, ⟨[], [], by simp, by simp,
      by simp, ?_, ?_⟩,
      Whole.isNumeral_digits
        (Nat.le_of_lt_succ (UInt8.toNat_lt byte))⟩
  · exact fun c hHead =>
      hDigit c (List.mem_of_mem_head? hHead)
  · exact fun c hLast =>
      hDigit c (List.mem_of_getLast? hLast)

------------------------------------------------------------
-- Addresses
------------------------------------------------------------

/- The parts of a text before and after its first dot. -/
def IsCut
    (text first second : List Char) : Prop :=
  text = first ++ '.' :: second ∧ '.' ∉ first

/- The halves are read in order, and the first fault counts. -/
theorem parse_of_isCut
    {text first second : List Char}
    (hCut : IsCut text first second) :
    parse text =
      (parseHalf first).bind fun hi =>
        (parseHalf second).bind fun lo => .ok ⟨hi, lo⟩ := by
  unfold parse
  rw [Text.splitFirst?_eq_some_iff.mpr hCut]
  dsimp only
  cases parseHalf first with
  | error fault => rfl
  | ok hi =>
      cases parseHalf second with
      | error fault => rfl
      | ok lo => rfl

theorem parse_of_no_dot
    {text : List Char}
    (hAbsent : '.' ∉ text) :
    parse text = .error .noDot := by
  unfold parse
  rw [Text.splitFirst?_eq_none hAbsent]

theorem exists_isCut
    {text : List Char}
    (hDot : '.' ∈ text) :
    ∃ first second, IsCut text first second :=
  List.eq_append_cons_of_mem hDot

theorem parse_eq_ok_iff
    {text : List Char}
    {a : Address} :
    parse text = .ok a ↔
      ∃ first second,
        IsCut text first second ∧ IsHalf first a.hi ∧
          IsHalf second a.lo := by
  constructor
  · intro hRead
    by_cases hDot : '.' ∈ text
    · rcases exists_isCut hDot with ⟨first, second, hCut⟩
      rw [parse_of_isCut hCut] at hRead
      cases hHi : parseHalf first with
      | error fault =>
          rw [hHi] at hRead
          contradiction
      | ok hi =>
          cases hLo : parseHalf second with
          | error fault =>
              rw [hHi, hLo] at hRead
              contradiction
          | ok lo =>
              rw [hHi, hLo] at hRead
              cases hRead
              exact
                ⟨first, second, hCut,
                  parseHalf_eq_ok_iff.mp hHi,
                  parseHalf_eq_ok_iff.mp hLo⟩
    · rw [parse_of_no_dot hDot] at hRead
      contradiction
  · rintro ⟨first, second, hCut, hHi, hLo⟩
    rw [parse_of_isCut hCut, parseHalf_eq_ok_iff.mpr hHi,
      parseHalf_eq_ok_iff.mpr hLo]
    rfl

theorem parse_eq_noDot_iff
    {text : List Char} :
    parse text = .error .noDot ↔ '.' ∉ text := by
  constructor
  · intro hRead hDot
    rcases exists_isCut hDot with ⟨first, second, hCut⟩
    rw [parse_of_isCut hCut] at hRead
    rcases parseHalf_cases first with
      ⟨hi, hHi⟩ | ⟨fault, hFault⟩
    · rcases parseHalf_cases second with
        ⟨lo, hLo⟩ | ⟨fault, hFault⟩
      · rw [hHi, hLo] at hRead
        contradiction
      · rw [hHi, hFault] at hRead
        cases hRead
    · rw [hFault] at hRead
      cases hRead
  · exact parse_of_no_dot

theorem parse_eq_badHalf_iff
    {text : List Char}
    {fault : Whole.Fault} :
    parse text = .error (.badHalf fault) ↔
      ∃ first second,
        IsCut text first second ∧
          (HalfHasFault first fault ∨
            (∃ hi, IsHalf first hi) ∧
              HalfHasFault second fault) := by
  constructor
  · intro hRead
    by_cases hDot : '.' ∈ text
    · rcases exists_isCut hDot with ⟨first, second, hCut⟩
      refine ⟨first, second, hCut, ?_⟩
      rw [parse_of_isCut hCut] at hRead
      rcases parseHalf_cases first with
        ⟨hi, hHi⟩ | ⟨other, hFault⟩
      · rcases parseHalf_cases second with
          ⟨lo, hLo⟩ | ⟨other, hFault⟩
        · rw [hHi, hLo] at hRead
          contradiction
        · rw [hHi, hFault] at hRead
          cases hRead
          exact Or.inr
            ⟨⟨hi, parseHalf_eq_ok_iff.mp hHi⟩,
              parseHalf_eq_error_iff.mp hFault⟩
      · rw [hFault] at hRead
        cases hRead
        exact Or.inl (parseHalf_eq_error_iff.mp hFault)
    · rw [parse_of_no_dot hDot] at hRead
      cases hRead
  · rintro
      ⟨first, second, hCut,
        hFault | ⟨⟨hi, hHi⟩, hFault⟩⟩
    · rw [parse_of_isCut hCut,
        parseHalf_eq_error_iff.mpr hFault]
      rfl
    · rw [parse_of_isCut hCut, parseHalf_eq_ok_iff.mpr hHi,
        parseHalf_eq_error_iff.mpr hFault]
      rfl

/- An address is read from its notation. -/
theorem parse_text
    (a : Address) :
    parse a.text.toList = .ok a := by
  rw [parse_eq_ok_iff, toList_text]
  exact
    ⟨Whole.digits a.hi.toNat, Whole.digits a.lo.toNat,
      ⟨rfl, Whole.not_mem_digits (by decide)⟩,
      isHalf_digits a.hi, isHalf_digits a.lo⟩

/-
  A text is an address just if there is a byte on each side
  of its first dot.  Otherwise the fault is that there is no
  dot, or that of the first bad half, which is the fault of
  the first character in it that cannot stand.
-/
theorem addresses_follow_grammar
    (text : String) :
    (∀ a,
        parse text.toList = .ok a ↔
          ∃ first second,
            IsCut text.toList first second ∧
              IsHalf first a.hi ∧ IsHalf second a.lo) ∧
      (parse text.toList = .error .noDot ↔
        '.' ∉ text.toList) ∧
        (∀ fault,
          parse text.toList = .error (.badHalf fault) ↔
            ∃ first second,
              IsCut text.toList first second ∧
                (HalfHasFault first fault ∨
                  (∃ hi, IsHalf first hi) ∧
                    HalfHasFault second fault)) ∧
          ∀ a : Address, parse a.text.toList = .ok a :=
  ⟨fun _ => parse_eq_ok_iff, parse_eq_noDot_iff,
    fun _ => parse_eq_badHalf_iff, parse_text⟩

example :
    parse " +007 .\t256a".toList =
      .error (.badHalf .tooLarge) := by
  decide

end Address

end CollectionTree
