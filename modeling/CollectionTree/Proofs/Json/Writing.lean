import CollectionTree.Json.Writer
import CollectionTree.Proofs.Json.Records

/-
  What is written has the form that readers take: elements
  with commas between them, and white space around them.

  Key theorems include:
    * `Json.inside_of_gaps`
    * `Json.Value.compact_list`
    * `Json.Value.compact_object`
    * `Json.Value.pretty_object`
    * `Json.isEntry_compact`
    * `Json.isEntry_pretty`

  The compact and the pretty form differ only in the gap in
  front of each element and the one after the last.
-/

namespace CollectionTree

namespace Json

------------------------------------------------------------
-- Gaps
------------------------------------------------------------

theorem intercalate_cons
    {α : Type}
    (separator first : List α)
    (rest : List (List α)) :
    separator.intercalate (first :: rest) =
      first ++ rest.flatMap (separator ++ ·) := by
  induction rest generalizing first with
  | nil => simp [List.intercalate]
  | cons second rest ih =>
      rw [List.intercalate_cons_cons, ih, List.flatMap_cons,
        List.append_assoc, List.append_assoc]

theorem followed_of_gaps
    {gap last : List Char}
    (hGap : Blank gap)
    (hLast : Blank last)
    (items : List (List Char)) :
    Followed items
      (items.flatMap (fun item => ',' :: (gap ++ item)) ++
        last) := by
  induction items with
  | nil => exact .last hLast
  | cons item items ih =>
      rw [List.flatMap_cons, List.append_assoc,
        List.cons_append, List.append_assoc]
      exact .next blank_nil hGap ih

/-
  Elements with the same gap in front of each, and another
  gap after the last.
-/
theorem inside_of_gaps
    {gap last : List Char}
    (hGap : Blank gap)
    (hLast : Blank last)
    (item : List Char)
    (items : List (List Char)) :
    Inside (item :: items)
      (gap ++
        (item ++
          (items.flatMap (fun item => ',' :: (gap ++ item)) ++
            last))) :=
  .some hGap (followed_of_gaps hGap hLast items)

theorem inside_intercalate
    (items : List (List Char)) :
    Inside items ([','].intercalate items) := by
  cases items with
  | nil => exact .none blank_nil
  | cons item items =>
      have hInside :=
        inside_of_gaps blank_nil blank_nil item items
      rw [List.nil_append, List.append_nil] at hInside
      rw [intercalate_cons]
      exact hInside

------------------------------------------------------------
-- Keys
------------------------------------------------------------

theorem encodeChar_of_plain
    {c : Char}
    (hPlain : c ≠ '"' ∧ c ≠ '\\' ∧ 32 ≤ c.toNat) :
    encodeChar c = [c] := by
  rcases hPlain with ⟨hQuote, hEscape, hVisible⟩
  have hOther
      (d : Char)
      (hControl : d.toNat < 32) :
      c ≠ d := by
    rintro rfl
    omega
  unfold encodeChar
  rw [if_neg hQuote, if_neg hEscape,
    if_neg (hOther _ (by decide)),
    if_neg (hOther _ (by decide)),
    if_neg (hOther _ (by decide)),
    if_neg (hOther _ (by decide)),
    if_neg (hOther _ (by decide)),
    if_neg (Nat.not_lt_of_le hVisible)]

theorem toList_encodeText
    {name : String}
    (hPlain : IsPlain name.toList) :
    (encodeText name).toList =
      '"' :: (name.toList ++ ['"']) := by
  have hSame :
      name.toList.flatMap encodeChar =
        name.toList.flatMap (fun c => [c]) :=
    List.flatMap_congr fun c hMem =>
      encodeChar_of_plain (hPlain c hMem)
  unfold encodeText
  rw [hSame, String.toList_ofList]
  simp

theorem isEntry_compact
    {name : String}
    (hPlain : IsPlain name.toList)
    (shown : String) :
    IsEntry name shown.toList
      (encodeText name ++ ":" ++ shown).toList := by
  refine ⟨[], [], blank_nil, blank_nil, ?_⟩
  simp [String.toList_append, toList_encodeText hPlain]

theorem isEntry_pretty
    {name : String}
    (hPlain : IsPlain name.toList)
    (shown : String) :
    IsEntry name shown.toList
      (encodeText name ++ ": " ++ shown).toList := by
  refine ⟨[], [' '], blank_nil, by decide, ?_⟩
  simp [String.toList_append, toList_encodeText hPlain]

------------------------------------------------------------
-- Lists and Objects
------------------------------------------------------------

namespace Value

theorem compact_list
    (items : List Value) :
    ∃ inner,
      (Value.list items).compact.toList =
          '[' :: (inner ++ [']']) ∧
        Inside ((compactItems items).map String.toList)
          inner := by
  refine ⟨_, ?_, inside_intercalate _⟩
  rw [compact]
  simp [String.toList_append, String.toList_intercalate]

theorem compact_object
    (entries : List (String × Value)) :
    ∃ inner,
      (Value.object entries).compact.toList =
          '\x7b' :: (inner ++ ['\x7d']) ∧
        Inside ((compactEntries entries).map String.toList)
          inner := by
  refine ⟨_, ?_, inside_intercalate _⟩
  rw [compact]
  simp [String.toList_append, String.toList_intercalate]

theorem blank_indentation
    (depth : Nat) :
    Blank (indentation depth).toList := by
  intro c hMem
  unfold indentation at hMem
  rw [String.toList_ofList] at hMem
  rw [List.eq_of_mem_replicate hMem]
  rfl

theorem pretty_object
    (entries : List (String × Value)) :
    ∃ inner,
      (Value.object entries).pretty.toList =
          '\x7b' :: (inner ++ ['\x7d']) ∧
        Inside ((prettyEntries 0 entries).map String.toList)
          inner := by
  have hLine
      (depth : Nat) :
      Blank ('\n' :: (indentation depth).toList) := by
    intro c hMem
    rcases List.mem_cons.mp hMem with rfl | hSpace
    · rfl
    · exact blank_indentation depth c hSpace
  unfold pretty
  rw [prettyAt]
  cases hLines : prettyEntries 0 entries with
  | nil => exact ⟨[], rfl, .none blank_nil⟩
  | cons line lines =>
      refine
        ⟨_, ?_,
          inside_of_gaps (hLine 1) (hLine 0) line.toList
            (lines.map String.toList)⟩
      unfold enclose
      simp [String.toList_append, String.toList_intercalate,
        intercalate_cons, List.flatMap_map, Function.comp_def]

end Value

end Json

end CollectionTree
