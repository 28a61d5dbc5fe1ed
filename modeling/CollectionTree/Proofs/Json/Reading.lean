import CollectionTree.Json.Reader
import CollectionTree.Proofs.Numerals
import Mathlib.Data.List.TakeWhile

/-
  Texts that readers take for values, whatever white space
  is in them.

  Key definitions include:
    * `Json.Blank`
    * `Json.Ends`
    * `Json.Reads`

  Key theorems include:
    * `Json.Blank.skipSpace_eq`
    * `Json.parse_of_reads`
    * `Json.scanNumber_digits`
    * `Json.reads_readWhole`

  A reader is followed through a text one token at a time.
  What is still to be read is kept general, so that what is
  known of the parts of a text adds up.
-/

namespace CollectionTree

namespace Json

------------------------------------------------------------
-- White Space
------------------------------------------------------------

/- Nothing but white space. -/
def Blank
    (gap : List Char) : Prop :=
  ∀ c ∈ gap, isSpace c = true

instance
    (gap : List Char) :
    Decidable (Blank gap) :=
  List.decidableBAll (fun c => isSpace c = true) gap

theorem blank_nil :
    Blank [] :=
  fun _ hMem => absurd hMem List.not_mem_nil

theorem Blank.skipSpace_append
    {gap : List Char}
    (hBlank : Blank gap)
    (rest : List Char) :
    skipSpace (gap ++ rest) = skipSpace rest :=
  List.dropWhile_append_of_pos hBlank

theorem skipSpace_cons
    {c : Char}
    (hToken : isSpace c = false)
    (rest : List Char) :
    skipSpace (c :: rest) = c :: rest :=
  List.dropWhile_cons_of_neg (by simp [hToken])

/- The reader gets to the token after the white space. -/
theorem Blank.skipSpace_eq
    {gap : List Char}
    (hBlank : Blank gap)
    {c : Char}
    (hToken : isSpace c = false)
    (rest : List Char) :
    skipSpace (gap ++ c :: rest) = c :: rest :=
  (hBlank.skipSpace_append _).trans
    (skipSpace_cons hToken rest)

theorem Blank.skipSpace_eq_nil
    {gap : List Char}
    (hBlank : Blank gap) :
    skipSpace gap = [] :=
  List.dropWhile_eq_nil_iff.mpr hBlank

------------------------------------------------------------
-- Values and What Follows Them
------------------------------------------------------------

/-
  What may stand after a value: the end of the text, white
  space, or a sign that separates or closes.
-/
def Ends
    (rest : List Char) : Prop :=
  ∀ c ∈ rest.head?,
    isSpace c = true ∨ c = ',' ∨ c = ']' ∨ c = '\x7d'

theorem Blank.ends
    {gap : List Char}
    (hBlank : Blank gap) :
    Ends gap :=
  fun c hHead =>
    Or.inl (hBlank c (List.mem_of_mem_head? hHead))

theorem Blank.ends_append
    {gap : List Char}
    (hBlank : Blank gap)
    {c : Char}
    (hSign : c = ',' ∨ c = ']' ∨ c = '\x7d')
    (rest : List Char) :
    Ends (gap ++ c :: rest) := by
  intro d hHead
  cases gap with
  | nil => exact Or.inr (Option.some.inj hHead ▸ hSign)
  | cons space more =>
      rw [← Option.some.inj hHead]
      exact Or.inl (hBlank space List.mem_cons_self)

/-
  A reader takes a text for a value, whatever white space is
  before it and whatever comes after it.
-/
structure Reads
    {α : Type}
    (reader : Reader α)
    (text : List Char)
    (value : α) : Prop where
  token :
    ∃ c rest,
      text = c :: rest ∧ isSpace c = false ∧ c ≠ ']'
  read :
    ∀ {gap rest : List Char},
      Blank gap →
        Ends rest →
          reader (gap ++ (text ++ rest)) = .ok (value, rest)

/- What is read may be turned into something else. -/
theorem Reads.map
    {α β : Type}
    {reader : Reader α}
    {text : List Char}
    {value : α}
    (hReads : Reads reader text value)
    (f : α → β) :
    Reads
      (fun input => do
        let (value, rest) ← reader input
        pure (f value, rest))
      text (f value) where
  token := hReads.token
  read := fun hBlank hEnds => by
    rw [hReads.read hBlank hEnds]
    rfl

/- A text with one value and white space around it. -/
theorem parse_of_reads
    {α : Type}
    {reader : Reader α}
    {shown before after : List Char}
    {value : α}
    (hReads : Reads reader shown value)
    (hBefore : Blank before)
    (hAfter : Blank after)
    {text : String}
    (hText : text.toList = before ++ (shown ++ after)) :
    parse reader text = .ok value := by
  unfold parse
  rw [hText, hReads.read hBefore hAfter.ends]
  simp only [bind, Except.bind]
  rw [hAfter.skipSpace_eq_nil]

------------------------------------------------------------
-- Numbers
------------------------------------------------------------

theorem isSpace_of_isDigit
    {c : Char}
    (hDigit : c.isDigit = true) :
    isSpace c = false := by
  cases hSpace : isSpace c with
  | false => rfl
  | true =>
      simp only [isSpace, Bool.or_eq_true, beq_iff_eq]
        at hSpace
      rcases hSpace with ((rfl | rfl) | rfl) | rfl <;>
        contradiction

theorem Ends.head?_cases
    {rest : List Char}
    (hEnds : Ends rest) :
    rest = [] ∨
      ∃ c more,
        rest = c :: more ∧ c.isDigit = false ∧ c ≠ '.' ∧
          c ≠ 'e' ∧ c ≠ 'E' := by
  cases rest with
  | nil => exact Or.inl rfl
  | cons c more =>
      refine Or.inr ⟨c, more, rfl, ?_⟩
      rcases hEnds c rfl with hSpace | rfl | rfl | rfl
      · simp only [isSpace, Bool.or_eq_true, beq_iff_eq]
          at hSpace
        rcases hSpace with ((rfl | rfl) | rfl) | rfl <;>
          decide
      · decide
      · decide
      · decide

theorem Ends.startsWithDigit_eq
    {rest : List Char}
    (hEnds : Ends rest) :
    startsWithDigit rest = false := by
  rcases hEnds.head?_cases with
    rfl | ⟨c, more, rfl, hOther, -⟩
  · rfl
  · exact hOther

/- Digits are passed over as long as their value fits. -/
theorem scanDigits_append
    {limit : Nat}
    (front more : List Char)
    {rest : List Char}
    (hFits : Whole.Harmless limit (front ++ more))
    (hRest : startsWithDigit rest = false)
    (count : Nat) :
    scanDigits limit (Whole.valueOf front) count
        (more ++ rest) =
      (Whole.valueOf (front ++ more), count + more.length,
        rest) := by
  induction more generalizing front count with
  | nil =>
      rw [List.append_nil, List.nil_append]
      cases rest with
      | nil => rfl
      | cons c rest =>
          rw [scanDigits, Whole.digit?_eq_none hRest]
          rfl
  | cons c more ih =>
      have hSplit :
          front ++ c :: more = (front ++ [c]) ++ more := by
        simp
      rw [hSplit] at hFits ⊢
      have hDigit : c.isDigit = true :=
        hFits.isDigit c (by simp)
      have hLess : Whole.valueOf (front ++ [c]) ≤ limit :=
        hFits.of_append.valueOf_le
      have hNext := ih (front ++ [c]) hFits (count + 1)
      rw [Whole.valueOf_concat] at hLess hNext
      rw [List.cons_append, scanDigits,
        Whole.digit?_of_isDigit hDigit]
      dsimp only
      rw [if_pos hLess, hNext, List.length_cons]
      congr 2
      omega

/- A number that fits 64 bits is read from its digits. -/
theorem scanNumber_digits
    {n : Nat}
    (hFits : n ≤ significandLimit)
    {rest : List Char}
    (hEnds : Ends rest) :
    scanNumber false (Whole.digits n ++ rest) =
      .ok (.whole n, rest) := by
  have hScan :
      scanDigits significandLimit 0 0
          (Whole.digits n ++ rest) =
        (n, 0 + (Whole.digits n).length, rest) := by
    have hAll :=
      scanDigits_append [] (Whole.digits n)
        (Whole.harmless_digits hFits)
        hEnds.startsWithDigit_eq 0
    rw [List.nil_append, Whole.valueOf_digits] at hAll
    exact hAll
  obtain ⟨c, more, hDigits, hDigit⟩ :=
    Whole.exists_digits_eq_cons n
  -- A zero in front is the whole number.
  have hNoZero :
      ¬(c = '0' ∧ startsWithDigit (more ++ rest) = true) := by
    rintro ⟨rfl, hMore⟩
    have hZero : n = 0 :=
      Whole.eq_zero_of_head?_digits (by rw [hDigits]; rfl)
    subst hZero
    have hNone : more = [] := (List.cons.inj hDigits).2.symm
    rw [hNone, List.nil_append,
      hEnds.startsWithDigit_eq] at hMore
    contradiction
  rw [hDigits, List.cons_append] at hScan ⊢
  unfold scanNumber
  simp only [hDigit, hNoZero, hScan, Bool.not_true,
    Bool.false_eq_true, or_self, if_false,
    hEnds.startsWithDigit_eq]
  rcases hEnds.head?_cases with
    rfl | ⟨d, tail, rfl, -, hPoint, hSmall, hLarge⟩
  · rfl
  · split
    · exact absurd (List.cons.inj ‹_›).1 hPoint
    · exact absurd (List.cons.inj ‹_›).1 hSmall
    · exact absurd (List.cons.inj ‹_›).1 hLarge
    · rfl

theorem readNumber_digits
    {α : Type}
    {n : Nat}
    (hFits : n ≤ significandLimit)
    {accept : Number → Except Fault α}
    {value : α}
    (hAccept : accept (.whole n) = .ok value)
    (expected : String)
    {gap rest : List Char}
    (hBlank : Blank gap)
    (hEnds : Ends rest) :
    readNumber expected accept
        (gap ++ (Whole.digits n ++ rest)) =
      .ok (value, rest) := by
  have hScan := scanNumber_digits hFits hEnds
  obtain ⟨c, more, hDigits, hDigit⟩ :=
    Whole.exists_digits_eq_cons n
  have hStart :
      skipSpace (gap ++ c :: (more ++ rest)) =
        c :: (more ++ rest) :=
    hBlank.skipSpace_eq (isSpace_of_isDigit hDigit) _
  rw [hDigits, List.cons_append] at hScan ⊢
  unfold readNumber
  rw [hStart]
  split
  · contradiction
  · rename_i hMinus
    rw [(List.cons.inj hMinus).1] at hDigit
    contradiction
  · rename_i d tail _ hSame
    obtain ⟨rfl, rfl⟩ := List.cons.inj hSame
    simp only [hDigit, hScan, hAccept, bind, Except.bind,
      if_true]
    rfl

theorem reads_readWhole
    {n limit : Nat}
    (hFits : n ≤ limit)
    (hLimit : limit ≤ significandLimit)
    (expected : String) :
    Reads (readWhole expected limit) (Whole.digits n) n where
  token := by
    obtain ⟨c, more, hDigits, hDigit⟩ :=
      Whole.exists_digits_eq_cons n
    refine
      ⟨c, more, hDigits, isSpace_of_isDigit hDigit, ?_⟩
    rintro rfl
    contradiction
  read :=
    readNumber_digits (Nat.le_trans hFits hLimit)
      (if_pos hFits) expected

theorem reads_readUInt8
    {n : Nat}
    (hFits : n ≤ Nat.pow 2 8 - 1) :
    Reads readUInt8 (Whole.digits n) n.toUInt8 :=
  (reads_readWhole hFits (by decide) "u8").map Nat.toUInt8

theorem reads_readUInt64
    {n : Nat}
    (hFits : n ≤ Nat.pow 2 64 - 1) :
    Reads readUInt64 (Whole.digits n) n.toUInt64 :=
  (reads_readWhole hFits (Nat.le_refl _) "u64").map
    Nat.toUInt64

theorem reads_readSize
    {n : Nat}
    (hFits : n ≤ Nat.pow 2 64 - 1) :
    Reads readSize (Whole.digits n) n.toUInt64 :=
  (reads_readWhole hFits (Nat.le_refl _) "usize").map
    Nat.toUInt64

end Json

end CollectionTree
