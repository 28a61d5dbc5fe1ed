import CollectionTree.Simulation
import Mathlib.Data.List.Basic

/-
  What is written in a reading can be read from its bytes.

  Key definitions include:
    * `Text.ofAsciiBytes`

  Key theorems include:
    * `Whole.digits_injective`
    * `Address.text_injective`
    * `Simulation.reading_injective`

  Decimal digits are followed by a character that is not a
  digit, so the numbers in a text are told apart by cutting
  it at the first separator.
-/

namespace CollectionTree

------------------------------------------------------------
-- Cutting
------------------------------------------------------------

namespace Text

theorem splitFirst?_append
    {separator : Char}
    {front : List Char}
    (hAbsent : separator ∉ front)
    (rest : List Char) :
    splitFirst? separator (front ++ separator :: rest) =
      some (front, rest) := by
  induction front with
  | nil => simp [splitFirst?]
  | cons c front ih =>
      rw [List.mem_cons, not_or] at hAbsent
      simp [splitFirst?, Ne.symm hAbsent.1, ih hAbsent.2]

/- Text is cut at a separator in one way only. -/
theorem append_separator_inj
    {separator : Char}
    {front front' rest rest' : List Char}
    (hAbsent : separator ∉ front)
    (hAbsent' : separator ∉ front')
    (hSame :
      front ++ separator :: rest =
        front' ++ separator :: rest') :
    front = front' ∧ rest = rest' := by
  have hCut :=
    (splitFirst?_append hAbsent rest).symm.trans
      ((congrArg (splitFirst? separator) hSame).trans
        (splitFirst?_append hAbsent' rest'))
  simpa using hCut

------------------------------------------------------------
-- Bytes
------------------------------------------------------------

/- The characters that bytes stand for. -/
def ofAsciiBytes
    (bytes : List UInt8) : List Char :=
  bytes.map (fun byte => Char.ofNat byte.toNat)

theorem toNat_toUInt8
    {c : Char}
    (hAscii : c.toNat < 128) :
    c.toUInt8.toNat = c.toNat := by
  change c.val.toUInt8.toNat = c.val.toNat
  change c.val.toNat < 128 at hAscii
  rw [UInt32.toNat_toUInt8]
  omega

theorem ofAsciiBytes_asciiBytes
    {text : String}
    (hAscii : ∀ c ∈ text.toList, c.toNat < 128) :
    ofAsciiBytes (Simulation.asciiBytes text) =
      text.toList := by
  unfold ofAsciiBytes Simulation.asciiBytes
  rw [List.map_map]
  refine Eq.trans (List.map_congr_left ?_) (List.map_id _)
  intro c hMem
  simp only [Function.comp_apply, id_eq,
    toNat_toUInt8 (hAscii c hMem), Char.ofNat_toNat]

end Text

------------------------------------------------------------
-- Numbers and Addresses
------------------------------------------------------------

namespace Whole

theorem digits_injective :
    Function.Injective digits := by
  intro a b hSame
  have hValue :=
    congrArg (fun shown => Nat.ofDigitChars 10 shown 0) hSame
  simpa [digits] using hValue

theorem isDigit_of_mem_digits
    {n : Nat}
    {c : Char}
    (hMem : c ∈ digits n) :
    c.isDigit = true :=
  Nat.isDigit_of_mem_toDigits (by omega) (by omega) hMem

theorem not_mem_digits
    {n : Nat}
    {c : Char}
    (hOther : c.isDigit = false) :
    c ∉ digits n := by
  intro hMem
  rw [isDigit_of_mem_digits hMem] at hOther
  contradiction

theorem ascii_of_mem_digits
    {n : Nat}
    {c : Char}
    (hMem : c ∈ digits n) :
    c.toNat < 128 := by
  have hDigit := isDigit_of_mem_digits hMem
  simp only [Char.isDigit, Bool.and_eq_true,
    decide_eq_true_eq] at hDigit
  have hLast : c.val.toNat ≤ 57 :=
    UInt32.le_iff_toNat_le.mp hDigit.2
  change c.val.toNat < 128
  omega

end Whole

namespace Address

theorem toList_text
    (a : Address) :
    a.text.toList =
      Whole.digits a.hi.toNat ++
        '.' :: Whole.digits a.lo.toNat := by
  simp [text, Whole.text, String.toList_append]

/- Different addresses are written differently. -/
theorem text_injective :
    Function.Injective text := by
  intro a b hSame
  have hChars := congrArg String.toList hSame
  rw [toList_text, toList_text] at hChars
  rcases Text.append_separator_inj
    (Whole.not_mem_digits (by decide))
    (Whole.not_mem_digits (by decide)) hChars with
    ⟨hHi, hLo⟩
  have hHi' := UInt8.toNat_inj.mp (Whole.digits_injective hHi)
  have hLo' := UInt8.toNat_inj.mp (Whole.digits_injective hLo)
  cases a
  cases b
  cases hHi'
  cases hLo'
  rfl

theorem ascii_of_mem_text
    {a : Address}
    {c : Char}
    (hMem : c ∈ a.text.toList) :
    c.toNat < 128 := by
  rw [toList_text, List.mem_append, List.mem_cons] at hMem
  rcases hMem with hHi | rfl | hLo
  · exact Whole.ascii_of_mem_digits hHi
  · decide
  · exact Whole.ascii_of_mem_digits hLo

end Address

------------------------------------------------------------
-- Readings
------------------------------------------------------------

namespace Simulation

/- The text of a reading. -/
def readingText
    (step : Nat)
    (node : Address) : String :=
  "reading " ++ Whole.text step ++ " from " ++ node.text

theorem toList_readingText
    (step : Nat)
    (node : Address) :
    (readingText step node).toList =
      "reading ".toList ++
        (Whole.digits step ++
          ' ' :: ("from ".toList ++ node.text.toList)) := by
  simp [readingText, Whole.text, String.toList_append]

theorem ofAsciiBytes_reading
    (step : Nat)
    (node : Address) :
    Text.ofAsciiBytes (reading step node) =
      (readingText step node).toList := by
  apply Text.ofAsciiBytes_asciiBytes
  intro c hMem
  change c ∈ (readingText step node).toList at hMem
  rw [toList_readingText] at hMem
  simp only [List.mem_append, List.mem_cons] at hMem
  have hWords :
      ∀ c ∈ "reading ".toList ++ "from ".toList,
        c.toNat < 128 := by
    simp
  rcases hMem with hWord | hStep | rfl | hWord | hNode
  · exact hWords c (List.mem_append_left _ hWord)
  · exact Whole.ascii_of_mem_digits hStep
  · decide
  · exact hWords c (List.mem_append_right _ hWord)
  · exact Address.ascii_of_mem_text hNode

/- A reading tells its step and its node. -/
theorem reading_injective
    {step step' : Nat}
    {node node' : Address}
    (hSame : reading step node = reading step' node') :
    step = step' ∧ node = node' := by
  have hChars := congrArg Text.ofAsciiBytes hSame
  rw [ofAsciiBytes_reading, ofAsciiBytes_reading,
    toList_readingText, toList_readingText] at hChars
  rcases Text.append_separator_inj
    (Whole.not_mem_digits (by decide))
    (Whole.not_mem_digits (by decide))
    (List.append_cancel_left hChars) with
    ⟨hStep, hRest⟩
  have hNode :=
    String.toList_inj.mp (List.append_cancel_left hRest)
  exact
    ⟨Whole.digits_injective hStep,
      Address.text_injective hNode⟩

end Simulation

end CollectionTree
