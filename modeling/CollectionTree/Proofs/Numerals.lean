import CollectionTree.Proofs.Notation
import Mathlib.Data.List.Induction

/-
  Which texts are whole numbers, and what is wrong with the
  others.

  Key definitions include:
    * `Whole.valueOf`
    * `Whole.Harmless`
    * `Whole.Offends`
    * `Whole.FirstOffence`
    * `Whole.IsNumeral`
    * `Whole.HasFault`

  Key theorems include:
    * `Whole.eq_zero_of_head?_digits`
    * `Whole.parseDigits_append`
    * `Whole.harmless_or_firstOffence`
    * `Whole.parse_eq_ok_iff`
    * `Whole.parse_eq_error_iff`

  A reader that goes from left to right keeps the value of
  the digits before it.  They are harmless as long as the
  value is within the limit, and the first character that
  makes them anything else decides the fault.
-/

namespace CollectionTree

namespace Whole

------------------------------------------------------------
-- Values of Digits
------------------------------------------------------------

/- The number that decimal digits stand for. -/
def valueOf
    (shown : List Char) : Nat :=
  Nat.ofDigitChars 10 shown 0

@[simp] theorem valueOf_digits
    (n : Nat) :
    valueOf (digits n) = n :=
  Nat.ofDigitChars_toDigits (by decide) (by decide)

theorem valueOf_concat
    (front : List Char)
    (c : Char) :
    valueOf (front ++ [c]) =
      10 * valueOf front + (c.toNat - '0'.toNat) := by
  unfold valueOf
  rw [Nat.ofDigitChars_append, Nat.ofDigitChars_cons]
  rfl

/- More digits never make a number smaller. -/
theorem valueOf_le_append
    (front more : List Char) :
    valueOf front ≤ valueOf (front ++ more) := by
  induction more using List.reverseRecOn with
  | nil => simp
  | append_singleton more c ih =>
      rw [← List.append_assoc, valueOf_concat]
      omega

theorem digits_ne_nil
    (n : Nat) :
    digits n ≠ [] :=
  List.ne_nil_of_length_pos Nat.length_toDigits_pos

/- A number starts with a digit. -/
theorem exists_digits_eq_cons
    (n : Nat) :
    ∃ c more, digits n = c :: more ∧ c.isDigit = true := by
  obtain ⟨c, more, hDigits⟩ :=
    List.exists_cons_of_ne_nil (digits_ne_nil n)
  exact
    ⟨c, more, hDigits,
      isDigit_of_mem_digits (hDigits ▸ List.mem_cons_self)⟩

/- Only zero is written with a zero in front. -/
theorem eq_zero_of_head?_digits
    {n : Nat}
    (hZero : (digits n).head? = some '0') :
    n = 0 := by
  induction n using Nat.strongRecOn with
  | ind n ih =>
      by_cases hSmall : n < 10
      · have hOne : digits n = [n.digitChar] :=
          Nat.toDigits_of_lt_base hSmall
        have hAll :
            ∀ m < 10, [m.digitChar].head? = some '0' →
              m = 0 := by
          decide
        exact hAll n hSmall (hOne ▸ hZero)
      · have hSplit :
            digits n =
              digits (n / 10) ++ [(n % 10).digitChar] :=
          Nat.toDigits_of_base_le (by decide)
            (Nat.le_of_not_lt hSmall)
        rw [hSplit,
          List.head?_append_of_ne_nil _
            (digits_ne_nil (n / 10))] at hZero
        have hTenth := ih (n / 10) (by omega) hZero
        omega

theorem isDigit_iff
    {c : Char} :
    c.isDigit = true ↔ '0' ≤ c ∧ c ≤ '9' := by
  unfold Char.isDigit
  rw [Bool.and_eq_true, decide_eq_true_eq, decide_eq_true_eq]
  exact Iff.rfl

theorem digit?_of_isDigit
    {c : Char}
    (hDigit : c.isDigit = true) :
    digit? c = some (c.toNat - '0'.toNat) :=
  if_pos (isDigit_iff.mp hDigit)

theorem digit?_eq_none
    {c : Char}
    (hOther : c.isDigit = false) :
    digit? c = none := by
  refine if_neg ?_
  intro hDigit
  rw [isDigit_iff.mpr hDigit] at hOther
  contradiction

------------------------------------------------------------
-- The First Character That Cannot Stand
------------------------------------------------------------

/- Digits of a number that is at most `limit`. -/
structure Harmless
    (limit : Nat)
    (shown : List Char) : Prop where
  isDigit : ∀ c ∈ shown, c.isDigit = true
  valueOf_le : valueOf shown ≤ limit

/-
  What is wrong with a character after some digits.  That it
  is not a digit is noticed before the number becomes too
  large.
-/
inductive Offends
    (limit : Nat)
    (front : List Char)
    (c : Char) : Fault → Prop
  | invalidDigit :
      c.isDigit = false → Offends limit front c .invalidDigit
  | tooLarge :
      c.isDigit = true →
        limit < valueOf (front ++ [c]) →
          Offends limit front c .tooLarge

/- The first character that cannot stand gives the fault. -/
def FirstOffence
    (limit : Nat)
    (shown : List Char)
    (fault : Fault) : Prop :=
  ∃ front c back,
    shown = front ++ c :: back ∧ Harmless limit front ∧
      Offends limit front c fault

theorem harmless_nil
    (limit : Nat) :
    Harmless limit [] where
  isDigit := fun _ hMem => absurd hMem List.not_mem_nil
  valueOf_le := Nat.zero_le limit

theorem Harmless.of_append
    {limit : Nat}
    {front more : List Char}
    (hHarmless : Harmless limit (front ++ more)) :
    Harmless limit front where
  isDigit := fun c hMem =>
    hHarmless.isDigit c (List.mem_append_left more hMem)
  valueOf_le :=
    Nat.le_trans (valueOf_le_append front more)
      hHarmless.valueOf_le

theorem harmless_digits
    {limit n : Nat}
    (hFits : n ≤ limit) :
    Harmless limit (digits n) where
  isDigit := fun _ => isDigit_of_mem_digits
  valueOf_le := by rwa [valueOf_digits]

theorem FirstOffence.append
    {limit : Nat}
    {shown : List Char}
    {fault : Fault}
    (hOffence : FirstOffence limit shown fault)
    (more : List Char) :
    FirstOffence limit (shown ++ more) fault := by
  rcases hOffence with
    ⟨front, c, back, rfl, hFront, hOffends⟩
  refine ⟨front, c, back ++ more, ?_, hFront, hOffends⟩
  rw [List.append_assoc, List.cons_append]

/- Whatever is not harmless has a first offence. -/
theorem harmless_or_firstOffence
    (limit : Nat)
    (shown : List Char) :
    Harmless limit shown ∨
      ∃ fault, FirstOffence limit shown fault := by
  induction shown using List.reverseRecOn with
  | nil => exact Or.inl (harmless_nil limit)
  | append_singleton front c ih =>
      rcases ih with hFront | ⟨fault, hOffence⟩
      · cases hDigit : c.isDigit with
        | false =>
            exact Or.inr
              ⟨.invalidDigit, front, c, [], rfl, hFront,
                .invalidDigit hDigit⟩
        | true =>
            by_cases hLarge :
                limit < valueOf (front ++ [c])
            · exact Or.inr
                ⟨.tooLarge, front, c, [], rfl, hFront,
                  .tooLarge hDigit hLarge⟩
            · refine Or.inl ⟨?_, Nat.le_of_not_lt hLarge⟩
              intro d hMem
              rcases List.mem_append.mp hMem with
                hOld | hNew
              · exact hFront.isDigit d hOld
              · rw [List.mem_singleton.mp hNew]
                exact hDigit
      · exact Or.inr ⟨fault, hOffence.append [c]⟩

------------------------------------------------------------
-- Reading Digits
------------------------------------------------------------

/-
  Harmless digits are passed over, and the reader goes on
  with their value.
-/
theorem parseDigits_append
    {limit : Nat}
    (front more : List Char)
    (hHarmless : Harmless limit (front ++ more))
    (rest : List Char) :
    parseDigits limit (valueOf front) (more ++ rest) =
      parseDigits limit (valueOf (front ++ more)) rest := by
  induction more generalizing front with
  | nil => rw [List.append_nil, List.nil_append]
  | cons c more ih =>
      have hSplit :
          front ++ c :: more = (front ++ [c]) ++ more := by
        simp
      rw [hSplit] at hHarmless ⊢
      have hDigit : c.isDigit = true :=
        hHarmless.isDigit c (by simp)
      have hFits : valueOf (front ++ [c]) ≤ limit :=
        hHarmless.of_append.valueOf_le
      rw [← ih (front ++ [c]) hHarmless, List.cons_append,
        parseDigits, digit?_of_isDigit hDigit]
      rw [valueOf_concat] at hFits ⊢
      exact if_pos hFits

theorem parseDigits_of_harmless
    {limit : Nat}
    {shown : List Char}
    (hHarmless : Harmless limit shown) :
    parseDigits limit 0 shown = .ok (valueOf shown) := by
  have hAll :=
    parseDigits_append [] shown hHarmless []
  rw [List.append_nil] at hAll
  exact hAll

theorem parseDigits_of_firstOffence
    {limit : Nat}
    {shown : List Char}
    {fault : Fault}
    (hOffence : FirstOffence limit shown fault) :
    parseDigits limit 0 shown = .error fault := by
  rcases hOffence with
    ⟨front, c, back, rfl, hFront, hOffends⟩
  have hStart :
      parseDigits limit 0 (front ++ c :: back) =
        parseDigits limit (valueOf front) (c :: back) :=
    parseDigits_append [] front hFront _
  rw [hStart, parseDigits]
  cases hOffends with
  | invalidDigit hOther =>
      rw [digit?_eq_none hOther]
  | tooLarge hDigit hLarge =>
      rw [valueOf_concat] at hLarge
      rw [digit?_of_isDigit hDigit]
      exact if_neg (Nat.not_le_of_lt hLarge)

theorem parseDigits_eq_ok_iff
    {limit n : Nat}
    {shown : List Char} :
    parseDigits limit 0 shown = .ok n ↔
      Harmless limit shown ∧ valueOf shown = n := by
  constructor
  · intro hRead
    rcases harmless_or_firstOffence limit shown with
      hHarmless | ⟨fault, hOffence⟩
    · rw [parseDigits_of_harmless hHarmless] at hRead
      exact ⟨hHarmless, Except.ok.inj hRead⟩
    · rw [parseDigits_of_firstOffence hOffence] at hRead
      contradiction
  · rintro ⟨hHarmless, rfl⟩
    exact parseDigits_of_harmless hHarmless

theorem parseDigits_eq_error_iff
    {limit : Nat}
    {shown : List Char}
    {fault : Fault} :
    parseDigits limit 0 shown = .error fault ↔
      FirstOffence limit shown fault := by
  constructor
  · intro hRead
    rcases harmless_or_firstOffence limit shown with
      hHarmless | ⟨other, hOffence⟩
    · rw [parseDigits_of_harmless hHarmless] at hRead
      contradiction
    · rw [parseDigits_of_firstOffence hOffence] at hRead
      exact Except.error.inj hRead ▸ hOffence
  · exact parseDigits_of_firstOffence

------------------------------------------------------------
-- Reading Numbers
------------------------------------------------------------

/-
  What has to consist of digits: the text after a plus sign,
  if anything follows the sign.
-/
def afterSign : List Char → List Char
  | '+' :: c :: rest => c :: rest
  | text => text

/- An optional plus sign and digits of a number in range. -/
def IsNumeral
    (limit : Nat)
    (text : List Char)
    (n : Nat) : Prop :=
  ∃ sign shown,
    (sign = [] ∨ sign = ['+']) ∧ text = sign ++ shown ∧
      shown ≠ [] ∧ (∀ c ∈ shown, c.isDigit = true) ∧
        valueOf shown = n ∧ n ≤ limit

/- What is wrong with a text that is not a number. -/
def HasFault
    (limit : Nat)
    (text : List Char)
    (fault : Fault) : Prop :=
  (text = [] ∧ fault = .empty) ∨
    FirstOffence limit (afterSign text) fault

theorem IsNumeral.le
    {limit n : Nat}
    {text : List Char}
    (hNumeral : IsNumeral limit text n) :
    n ≤ limit := by
  obtain ⟨_, _, _, _, _, _, _, hFits⟩ := hNumeral
  exact hFits

/- A number starts with a plus sign or a digit. -/
theorem IsNumeral.head?_ne
    {limit n : Nat}
    {text : List Char}
    (hNumeral : IsNumeral limit text n)
    {c : Char}
    (hSign : c ≠ '+')
    (hOther : c.isDigit = false) :
    text.head? ≠ some c := by
  obtain ⟨sign, shown, hSigns, rfl, hSome, hDigits, -, -⟩ :=
    hNumeral
  obtain ⟨d, rest, rfl⟩ := List.exists_cons_of_ne_nil hSome
  intro hHead
  rcases hSigns with rfl | rfl
  · have hDigit := hDigits d List.mem_cons_self
    rw [Option.some.inj hHead, hOther] at hDigit
    contradiction
  · exact hSign (Option.some.inj hHead).symm

/- All of a text without a sign has to consist of digits. -/
theorem afterSign_of_ne
    {text : List Char}
    (hOther : ∀ c rest, text ≠ '+' :: c :: rest) :
    afterSign text = text := by
  unfold afterSign
  split
  · exact absurd rfl (hOther _ _)
  · rfl

theorem parse_of_ne_nil
    {text : List Char}
    (hSome : text ≠ [])
    (limit : Nat) :
    parse limit text =
      parseDigits limit 0 (afterSign text) := by
  unfold parse
  split
  · contradiction
  · rfl
  · rename_i hOther
    rw [afterSign_of_ne hOther]

/- Nothing but a plus sign can stand before the digits. -/
theorem isNumeral_iff
    {limit n : Nat}
    {text : List Char} :
    IsNumeral limit text n ↔
      text ≠ [] ∧ Harmless limit (afterSign text) ∧
        valueOf (afterSign text) = n := by
  constructor
  · rintro
      ⟨sign, shown, hSign, rfl, hSome, hDigits, rfl, hFits⟩
    obtain ⟨c, rest, rfl⟩ := List.exists_cons_of_ne_nil hSome
    have hRest :
        afterSign (sign ++ c :: rest) = c :: rest := by
      rcases hSign with rfl | rfl
      · refine afterSign_of_ne ?_
        rintro d others hPlus
        have hDigit := hDigits c List.mem_cons_self
        rw [(List.cons.inj hPlus).1] at hDigit
        contradiction
      · rfl
    rw [hRest]
    exact
      ⟨List.append_ne_nil_of_right_ne_nil _ hSome,
        ⟨hDigits, hFits⟩, rfl⟩
  · rintro ⟨hSome, hHarmless, rfl⟩
    by_cases hSign : ∃ c rest, text = '+' :: c :: rest
    · rcases hSign with ⟨c, rest, rfl⟩
      exact
        ⟨['+'], c :: rest, Or.inr rfl, rfl,
          List.cons_ne_nil c rest, hHarmless.isDigit, rfl,
          hHarmless.valueOf_le⟩
    · have hAll : afterSign text = text :=
        afterSign_of_ne fun c rest hText =>
          hSign ⟨c, rest, hText⟩
      rw [hAll] at hHarmless ⊢
      exact
        ⟨[], text, Or.inl rfl, rfl, hSome,
          hHarmless.isDigit, rfl, hHarmless.valueOf_le⟩

/- A text is read as a number just if it is one. -/
theorem parse_eq_ok_iff
    {limit n : Nat}
    {text : List Char} :
    parse limit text = .ok n ↔ IsNumeral limit text n := by
  rw [isNumeral_iff]
  by_cases hSome : text = []
  · subst hSome
    constructor
    · intro hRead
      contradiction
    · rintro ⟨hNot, -⟩
      contradiction
  · rw [parse_of_ne_nil hSome, parseDigits_eq_ok_iff]
    exact (and_iff_right hSome).symm

/- The fault that is reported is the one of the text. -/
theorem parse_eq_error_iff
    {limit : Nat}
    {text : List Char}
    {fault : Fault} :
    parse limit text = .error fault ↔
      HasFault limit text fault := by
  by_cases hSome : text = []
  · subst hSome
    constructor
    · intro hRead
      exact Or.inl ⟨rfl, (Except.error.inj hRead).symm⟩
    · rintro (⟨-, rfl⟩ | ⟨front, c, back, hText, -⟩)
      · rfl
      · exact absurd hText.symm (by simp [afterSign])
  · rw [parse_of_ne_nil hSome, parseDigits_eq_error_iff]
    constructor
    · exact Or.inr
    · rintro (⟨hNone, -⟩ | hOffence)
      · contradiction
      · exact hOffence

/- Decimal notation is read as the number that it shows. -/
theorem isNumeral_digits
    {limit n : Nat}
    (hFits : n ≤ limit) :
    IsNumeral limit (digits n) n :=
  ⟨[], digits n, Or.inl rfl, rfl, digits_ne_nil n,
    fun _ => isDigit_of_mem_digits, valueOf_digits n, hFits⟩

end Whole

end CollectionTree
