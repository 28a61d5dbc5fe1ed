import CollectionTree.LinkEstimate.Replay
import CollectionTree.Proofs.DottedNotation
import Mathlib.Data.List.Forall2

/-
  Which texts are lists of trials.

  Key definitions include:
    * `Text.IsSplit`
    * `Trial.mark`
    * `Trial.IsWritten`

  Key theorems include:
    * `Text.pieces_eq_iff`
    * `Trial.parse_eq_ok_iff`
    * `Replay.tokens_of_isSplit`
    * `Replay.parse_eq_ok_iff`

  Commas stand between trials, and nothing has to stand
  between commas.  A failure is marked, and the number of
  transmissions follows its mark at once.
-/

namespace CollectionTree

------------------------------------------------------------
-- Cutting at All Separators
------------------------------------------------------------

namespace Text

/- Parts without separators, with one between any two. -/
def IsSplit
    (separator : Char)
    (text : List Char)
    (parts : List (List Char)) : Prop :=
  parts ≠ [] ∧ (∀ part ∈ parts, separator ∉ part) ∧
    text = [separator].intercalate parts

theorem pieces_eq_splitOn
    (separator : Char)
    (text : List Char) :
    pieces separator text = text.splitOn separator := by
  induction text with
  | nil => rfl
  | cons c rest ih =>
      rw [pieces, List.splitOn_cons_eq_if_modifyHead, ih]
      by_cases hSame : c = separator
      · rw [if_pos hSame, if_pos (beq_iff_eq.mpr hSame)]
      · rw [if_neg hSame, if_neg (by simpa using hSame)]
        obtain ⟨part, others, hParts⟩ :=
          List.exists_cons_of_ne_nil
            (List.splitOn_ne_nil separator rest)
        rw [hParts]
        rfl

theorem not_mem_of_mem_pieces
    {separator : Char}
    {text part : List Char}
    (hMem : part ∈ pieces separator text) :
    separator ∉ part := by
  induction text generalizing part with
  | nil =>
      rw [List.mem_singleton.mp hMem]
      exact List.not_mem_nil
  | cons c rest ih =>
      rw [pieces] at hMem
      split at hMem
      · rcases List.mem_cons.mp hMem with rfl | hRest
        · exact List.not_mem_nil
        · exact ih hRest
      · rename_i hOther
        cases hParts : pieces separator rest with
        | nil =>
            rw [hParts] at hMem
            rw [List.mem_singleton.mp hMem,
              List.mem_singleton]
            exact Ne.symm hOther
        | cons first others =>
            rw [hParts] at hMem ih
            rcases List.mem_cons.mp hMem with rfl | hLater
            · rw [List.mem_cons, not_or]
              exact
                ⟨Ne.symm hOther, ih List.mem_cons_self⟩
            · exact ih (List.mem_cons_of_mem first hLater)

theorem pieces_eq_iff
    {separator : Char}
    {text : List Char}
    {parts : List (List Char)} :
    pieces separator text = parts ↔
      IsSplit separator text parts := by
  constructor
  · rintro rfl
    refine
      ⟨?_, fun _ => not_mem_of_mem_pieces, ?_⟩
    · rw [pieces_eq_splitOn]
      exact List.splitOn_ne_nil separator text
    · rw [pieces_eq_splitOn, List.intercalate_splitOn]
  · rintro ⟨hSome, hAbsent, rfl⟩
    rw [pieces_eq_splitOn]
    exact List.splitOn_intercalate separator hAbsent hSome

/- Only blanks leave nothing when they are trimmed. -/
theorem isEmpty_trim
    (text : List Char) :
    (trim text).isEmpty = text.all isBlank := by
  rw [Bool.eq_iff_iff, List.isEmpty_iff, List.all_eq_true,
    trim_eq_iff]
  constructor
  · rintro ⟨before, after, rfl, hBefore, hAfter, -, -⟩ c hMem
    rw [List.append_nil, List.mem_append] at hMem
    exact hMem.elim (hBefore c) (hAfter c)
  · intro hBlank
    exact
      ⟨text, [], by simp, hBlank, by simp, by simp, by simp⟩

end Text

------------------------------------------------------------
-- Trials
------------------------------------------------------------

namespace Trial

/- What stands before a number of transmissions. -/
def mark
    (acked : Bool) : List Char :=
  if acked then [] else ['x']

/-
  A mark if the packet was not acknowledged, and a number
  that is not zero, possibly with white space around them.
-/
def IsWritten
    (piece : List Char)
    (trial : Trial) : Prop :=
  ∃ numeral,
    Text.IsTrimmed piece (mark trial.acked ++ numeral) ∧
      Whole.IsNumeral 255 numeral
        trial.transmissions.toNat ∧
      1 ≤ trial.transmissions.toNat

/- Nothing but the mark is cut off. -/
theorem mark_append_splitMark
    (token : List Char) :
    mark (splitMark token).1 ++ (splitMark token).2 =
      token := by
  unfold splitMark
  split
  · rfl
  · rfl

/- A mark is cut off, and a number has none. -/
theorem splitMark_mark_append
    (acked : Bool)
    {numeral : List Char}
    (hUnmarked : numeral.head? ≠ some 'x') :
    splitMark (mark acked ++ numeral) = (acked, numeral) := by
  cases acked with
  | false => rfl
  | true =>
      change splitMark numeral = (true, numeral)
      unfold splitMark
      split
      · contradiction
      · rfl

theorem parse_eq_ok_iff
    {piece : List Char}
    {trial : Trial} :
    parse piece = .ok trial ↔ IsWritten piece trial := by
  constructor
  · intro hRead
    have hShown := mark_append_splitMark (Text.trim piece)
    have hTrimmed := Text.isTrimmed_trim piece
    simp only [parse] at hRead
    split at hRead
    · contradiction
    · rename_i n hNumber
      split at hRead
      · contradiction
      · rename_i hSome
        cases hRead
        have hNumeral := Whole.parse_eq_ok_iff.mp hNumber
        have hSame : n.toUInt8.toNat = n :=
          UInt8.toNat_ofNat_of_lt'
            (Nat.lt_succ_of_le hNumeral.le)
        refine
          ⟨(splitMark (Text.trim piece)).2, ?_, ?_, ?_⟩
        · rw [hShown]
          exact hTrimmed
        · rw [hSame]
          exact hNumeral
        · rw [hSame]
          omega
  · rintro ⟨numeral, hTrimmed, hNumeral, hSome⟩
    have hUnmarked : numeral.head? ≠ some 'x' :=
      hNumeral.head?_ne (by decide) (by decide)
    have hNotZero : trial.transmissions.toNat ≠ 0 := by
      omega
    simp only [parse]
    rw [hTrimmed.trim_eq,
      splitMark_mark_append trial.acked hUnmarked]
    dsimp only
    rw [Whole.parse_eq_ok_iff.mpr hNumeral]
    dsimp only
    rw [if_neg hNotZero]
    simp

end Trial

------------------------------------------------------------
-- Lists of Trials
------------------------------------------------------------

namespace Replay

theorem tokens_of_isSplit
    {text : List Char}
    {parts : List (List Char)}
    (hSplit : Text.IsSplit ',' text parts) :
    tokens text =
      parts.filter (fun part => !part.all Text.isBlank) := by
  unfold tokens
  rw [Text.pieces_eq_iff.mpr hSplit]
  simp only [Text.isEmpty_trim]

/- All elements are mapped, or there is no result at all. -/
theorem mapM_eq_ok_iff
    {α β ε : Type}
    {f : α → Except ε β}
    {xs : List α}
    {ys : List β} :
    xs.mapM f = .ok ys ↔
      List.Forall₂ (fun x y => f x = .ok y) xs ys := by
  induction xs generalizing ys with
  | nil =>
      rw [List.forall₂_nil_left_iff, List.mapM_nil]
      simp [pure, Except.pure, eq_comm]
  | cons x rest ih =>
      rw [List.mapM_cons, List.forall₂_cons_left_iff]
      simp only [← ih]
      cases f x with
      | error fault => simp [bind, Except.bind]
      | ok y =>
          cases rest.mapM f with
          | error fault => simp [bind, Except.bind]
          | ok others =>
              simp [bind, Except.bind, pure, Except.pure,
                eq_comm]

theorem exists_forall₂_iff
    {α β : Type}
    {R : α → β → Prop}
    {xs : List α} :
    (∃ ys, List.Forall₂ R xs ys) ↔ ∀ x ∈ xs, ∃ y, R x y := by
  induction xs with
  | nil => simp
  | cons x rest ih =>
      rw [List.forall_mem_cons, ← ih]
      constructor
      · rintro ⟨_, hAll⟩
        cases hAll with
        | cons hFirst hRest => exact ⟨⟨_, hFirst⟩, ⟨_, hRest⟩⟩
      · rintro ⟨⟨y, hFirst⟩, ⟨ys, hRest⟩⟩
        exact ⟨y :: ys, .cons hFirst hRest⟩

theorem parse_eq_ok_iff
    {text : List Char}
    {trials : List Trial} :
    parse text = .ok trials ↔
      List.Forall₂ Trial.IsWritten (tokens text) trials := by
  unfold parse
  rw [mapM_eq_ok_iff]
  simp only [Trial.parse_eq_ok_iff]

/- A text is read if each of its tokens can be read. -/
theorem exists_parse_iff
    {text : List Char} :
    (∃ trials, parse text = .ok trials) ↔
      ∀ token ∈ tokens text,
        ∃ trial, Trial.IsWritten token trial := by
  simp only [parse_eq_ok_iff, exists_forall₂_iff]

end Replay

end CollectionTree
