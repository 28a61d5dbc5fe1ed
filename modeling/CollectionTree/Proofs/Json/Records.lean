import CollectionTree.Proofs.Json.Reading

/-
  Lists and records are read from any text with their
  elements, whatever white space is between them.

  Key definitions include:
    * `Json.Followed`
    * `Json.Inside`
    * `Json.IsEntry`
    * `Json.Shape.Takes`
    * `Json.Shape.Keeps`

  Key theorems include:
    * `Json.readElements_followed`
    * `Json.reads_readArray`
    * `Json.length_of_readArray`
    * `Json.scanString_plain`
    * `Json.Shape.Takes.readEntries`
    * `Json.Shape.Takes.reads`
    * `Json.Shape.Keeps.read`

  The entries of a record may come in any order.  Each one
  changes the record under construction, and what holds of
  it at first and is kept by each field holds in the end.
-/

namespace CollectionTree

namespace Json

variable {α σ : Type}

------------------------------------------------------------
-- Elements with Commas
------------------------------------------------------------

/-
  What stands after an element, up to the closing bracket:
  the other elements with a comma before each.
-/
inductive Followed : List (List Char) → List Char → Prop
  | last {gap : List Char} :
      Blank gap → Followed [] gap
  | next
      {after before item more : List Char}
      {items : List (List Char)} :
      Blank after →
        Blank before →
          Followed items more →
            Followed (item :: items)
              (after ++ ',' :: (before ++ (item ++ more)))

/- What stands between brackets. -/
inductive Inside : List (List Char) → List Char → Prop
  | none {gap : List Char} :
      Blank gap → Inside [] gap
  | some
      {before item more : List Char}
      {items : List (List Char)} :
      Blank before →
        Followed items more →
          Inside (item :: items) (before ++ (item ++ more))

theorem Followed.ends
    {items : List (List Char)}
    {more : List Char}
    (hMore : Followed items more)
    {c : Char}
    (hClose : c = ']' ∨ c = '\x7d')
    (rest : List Char) :
    Ends (more ++ c :: rest) := by
  cases hMore with
  | last hGap => exact hGap.ends_append (Or.inr hClose) rest
  | next hAfter hBefore hMore =>
      rw [List.append_assoc, List.cons_append]
      exact hAfter.ends_append (Or.inl rfl) _

theorem Followed.length_le
    {items : List (List Char)}
    {more : List Char}
    (hMore : Followed items more) :
    items.length ≤ more.length := by
  induction hMore with
  | last hGap => exact Nat.zero_le _
  | next hAfter hBefore hMore ih =>
      simp only [List.length_append, List.length_cons]
      omega

------------------------------------------------------------
-- Lists
------------------------------------------------------------

theorem nextElement_first
    {before item : List Char}
    (hBefore : Blank before)
    (hToken :
      ∃ c tail,
        item = c :: tail ∧ isSpace c = false ∧ c ≠ ']')
    (rest : List Char) :
    nextElement true (before ++ (item ++ rest)) =
      .ok (some (item ++ rest)) := by
  rcases hToken with ⟨c, tail, rfl, hSpace, hOpen⟩
  unfold nextElement
  rw [List.cons_append, hBefore.skipSpace_eq hSpace]
  split
  · contradiction
  · exact absurd (List.cons.inj ‹_›).1 hOpen
  · rename_i hSame
    rw [← hSame]
    rfl

theorem nextElement_next
    {after before item : List Char}
    (hAfter : Blank after)
    (hBefore : Blank before)
    (hToken :
      ∃ c tail,
        item = c :: tail ∧ isSpace c = false ∧ c ≠ ']')
    (rest : List Char) :
    nextElement false
        (after ++ ',' :: (before ++ (item ++ rest))) =
      .ok (some (item ++ rest)) := by
  rcases hToken with ⟨c, tail, rfl, hSpace, hOpen⟩
  have hNext :
      skipSpace (before ++ ((c :: tail) ++ rest)) =
        c :: (tail ++ rest) :=
    hBefore.skipSpace_eq hSpace _
  have hComma :
      skipSpace
          (after ++ ',' :: (before ++ ((c :: tail) ++ rest))) =
        ',' :: (before ++ ((c :: tail) ++ rest)) :=
    hAfter.skipSpace_eq (by decide) _
  unfold nextElement
  rw [hComma]
  split
  · contradiction
  · exact absurd (List.cons.inj ‹_›).1 (by decide)
  · rename_i hSame
    obtain ⟨rfl, rfl⟩ := List.cons.inj hSame
    rw [if_neg Bool.false_ne_true, if_pos rfl, hNext]
    split
    · contradiction
    · exact absurd (List.cons.inj ‹_›).1 hOpen
    · rfl

theorem endList_blank
    {gap : List Char}
    (hGap : Blank gap)
    (rest : List Char) :
    endList (gap ++ ']' :: rest) = .ok rest := by
  unfold endList
  rw [hGap.skipSpace_eq (by decide)]
  rfl

/- The elements after the first one are read. -/
theorem readElements_followed
    {element : Reader α}
    {items : List (List Char)}
    {values : List α}
    (hReads : List.Forall₂ (Reads element) items values)
    {more : List Char}
    (hMore : Followed items more)
    (expected : String)
    (done : Nat)
    (rest : List Char) :
    readElements element expected (done + 1) values.length
        (more ++ ']' :: rest) =
      .ok (values, rest) := by
  induction hMore generalizing values done with
  | last hGap =>
      cases hReads
      rw [List.length_nil, readElements, endList_blank hGap]
      rfl
  | next hAfter hBefore hMore ih =>
      cases hReads with
      | cons hItem hItems =>
          have hNext
              (tail : List Char) :=
            nextElement_next hAfter hBefore hItem.token tail
          have hValue :=
            hItem.read blank_nil
              (hMore.ends (Or.inl rfl) rest)
          rw [List.nil_append] at hValue
          have hDone : (done + 1 == 0) = false := rfl
          rw [List.append_assoc, List.cons_append,
            List.append_assoc, List.append_assoc,
            List.length_cons, readElements, hDone, hNext]
          simp only [bind, Except.bind, hValue,
            ih hItems (done + 1)]
          rfl

/- A list of known length is read from its elements. -/
theorem reads_readArray
    {element : Reader α}
    {items : List (List Char)}
    {values : List α}
    (hReads : List.Forall₂ (Reads element) items values)
    {inner : List Char}
    (hInside : Inside items inner) :
    Reads (readArray values.length element)
      ('[' :: (inner ++ [']'])) values where
  token := ⟨'[', inner ++ [']'], rfl, rfl, by decide⟩
  read := by
    intro gap rest hBlank hEnds
    have hStart :
        readArray values.length element
            (gap ++ ('[' :: (inner ++ [']']) ++ rest)) =
          readElements element
            ("an array of length " ++
              Whole.text values.length)
            0 values.length (inner ++ ']' :: rest) := by
      unfold readArray
      rw [List.cons_append, hBlank.skipSpace_eq (by decide),
        List.append_assoc]
      rfl
    rw [hStart]
    cases hInside with
    | none hGap =>
        cases hReads
        rw [List.length_nil, readElements, endList_blank hGap]
        rfl
    | some hBefore hMore =>
        cases hReads with
        | cons hItem hItems =>
            have hFirst
                (tail : List Char) :=
              nextElement_first hBefore hItem.token tail
            have hValue :=
              hItem.read blank_nil
                (hMore.ends (Or.inl rfl) rest)
            rw [List.nil_append] at hValue
            rw [List.append_assoc, List.append_assoc,
              List.length_cons, readElements, beq_self_eq_true,
              hFirst]
            simp only [bind, Except.bind, hValue,
              readElements_followed hItems hMore]
            rfl

theorem exists_of_bind_eq_ok
    {α β : Type}
    {x : Except Fault α}
    {f : α → Except Fault β}
    {b : β}
    (hOk : x >>= f = .ok b) :
    ∃ a, x = .ok a ∧ f a = .ok b := by
  cases x with
  | error fault => contradiction
  | ok a => exact ⟨a, rfl, hOk⟩

theorem length_of_readElements
    {element : Reader α}
    {expected : String}
    {done missing : Nat}
    {input rest : List Char}
    {values : List α}
    (hRead :
      readElements element expected done missing input =
        .ok (values, rest)) :
    values.length = missing := by
  induction missing generalizing done input rest values with
  | zero =>
      rw [readElements] at hRead
      rcases exists_of_bind_eq_ok hRead with ⟨_, -, hValues⟩
      cases hValues
      rfl
  | succ missing ih =>
      rw [readElements] at hRead
      rcases exists_of_bind_eq_ok hRead with
        ⟨found, -, hFound⟩
      cases found with
      | none => contradiction
      | some next =>
          rcases exists_of_bind_eq_ok hFound with
            ⟨⟨value, later⟩, -, hLater⟩
          rcases exists_of_bind_eq_ok hLater with
            ⟨⟨others, tail⟩, hOthers, hValues⟩
          cases hValues
          rw [List.length_cons, ih hOthers]

/- No list of another length is read. -/
theorem length_of_readArray
    {element : Reader α}
    {length : Nat}
    {input rest : List Char}
    {values : List α}
    (hRead :
      readArray length element input = .ok (values, rest)) :
    values.length = length := by
  unfold readArray at hRead
  dsimp only at hRead
  split at hRead
  · contradiction
  · exact length_of_readElements hRead
  · contradiction

------------------------------------------------------------
-- Keys
------------------------------------------------------------

/- Nothing in a name has to be escaped. -/
def IsPlain
    (name : List Char) : Prop :=
  ∀ c ∈ name, c ≠ '"' ∧ c ≠ '\\' ∧ 32 ≤ c.toNat

instance
    (name : List Char) :
    Decidable (IsPlain name) :=
  List.decidableBAll
    (fun c => c ≠ '"' ∧ c ≠ '\\' ∧ 32 ≤ c.toNat) name

theorem scanStringFrom_plain
    {name : List Char}
    (hPlain : IsPlain name)
    (done rest : List Char) :
    scanStringFrom done none (name ++ '"' :: rest) =
      .ok (String.ofList (done.reverse ++ name), rest) := by
  induction name generalizing done with
  | nil => simp [scanStringFrom]
  | cons c name ih =>
      rcases hPlain c List.mem_cons_self with
        ⟨hQuote, hEscape, hVisible⟩
      have hRest : IsPlain name := fun d hMem =>
        hPlain d (List.mem_cons_of_mem c hMem)
      have hStep :
          scanStringFrom done none
              (c :: (name ++ '"' :: rest)) =
            scanStringFrom (c :: done) none
              (name ++ '"' :: rest) := by
        rw [scanStringFrom]
        · exact if_neg (Nat.not_lt_of_le hVisible)
        all_goals simp [hQuote, hEscape]
      rw [List.cons_append, hStep, ih hRest]
      simp

/- A key is read from its characters. -/
theorem scanString_plain
    {name : String}
    (hPlain : IsPlain name.toList)
    (rest : List Char) :
    scanString (name.toList ++ '"' :: rest) =
      .ok (name, rest) := by
  unfold scanString
  rw [scanStringFrom_plain hPlain]
  simp

/- A key and a value with a colon between them. -/
def IsEntry
    (name : String)
    (value item : List Char) : Prop :=
  ∃ between before,
    Blank between ∧ Blank before ∧
      item =
        '"' ::
          (name.toList ++
            '"' :: (between ++ ':' :: (before ++ value)))

namespace Shape

theorem nextKey_first
    {before : List Char}
    (hBefore : Blank before)
    (rest : List Char) :
    nextKey true (before ++ '"' :: rest) =
      .ok (some rest) := by
  unfold nextKey
  rw [hBefore.skipSpace_eq (by decide)]
  rfl

theorem nextKey_next
    {after before : List Char}
    (hAfter : Blank after)
    (hBefore : Blank before)
    (rest : List Char) :
    nextKey false
        (after ++ ',' :: (before ++ '"' :: rest)) =
      .ok (some rest) := by
  have hNext :
      skipSpace (before ++ '"' :: rest) = '"' :: rest :=
    hBefore.skipSpace_eq (by decide) rest
  have hComma :
      skipSpace (after ++ ',' :: (before ++ '"' :: rest)) =
        ',' :: (before ++ '"' :: rest) :=
    hAfter.skipSpace_eq (by decide) _
  unfold nextKey
  rw [hComma]
  split
  · contradiction
  · exact absurd (List.cons.inj ‹_›).1 (by decide)
  · rename_i hSame
    obtain ⟨rfl, rfl⟩ := List.cons.inj hSame
    rw [if_neg Bool.false_ne_true, if_pos rfl, hNext]
    rfl

theorem nextKey_last
    {gap : List Char}
    (hGap : Blank gap)
    (isFirst : Bool)
    (rest : List Char) :
    nextKey isFirst (gap ++ '\x7d' :: rest) = .ok none := by
  unfold nextKey
  rw [hGap.skipSpace_eq (by decide)]
  rfl

theorem endKey_colon
    {between : List Char}
    (hBetween : Blank between)
    (rest : List Char) :
    endKey (between ++ ':' :: rest) = .ok rest := by
  unfold endKey
  rw [hBetween.skipSpace_eq (by decide)]
  rfl

------------------------------------------------------------
-- Records
------------------------------------------------------------

/-
  The entries of an object, in any order, change a record
  one after the other.
-/
inductive Takes
    (shape : Shape σ) :
    List String → List (List Char) → σ → σ → Prop
  | nil {state : σ} : Takes shape [] [] state state
  | cons
      {name : String}
      {names : List String}
      {value item : List Char}
      {items : List (List Char)}
      {field : Field σ}
      {start next final : σ} :
      IsPlain name.toList →
        IsEntry name value item →
          shape.fields.find?
              (fun field => field.name == name) =
            some field →
            Reads (field.read start) value next →
              Takes shape names items next final →
                Takes shape (name :: names) (item :: items)
                  start final

variable {shape : Shape σ}

/- One entry of a known field that was not read before. -/
theorem readEntries_entry
    {name : String}
    {value body : List Char}
    {field : Field σ}
    {start next : σ}
    (hPlain : IsPlain name.toList)
    (hEntry : IsEntry name value ('"' :: body))
    (hField :
      shape.fields.find? (fun field => field.name == name) =
        some field)
    (hReads : Reads (field.read start) value next)
    {seen : List String}
    (hNew : name ∉ seen)
    {isFirst : Bool}
    {input rest : List Char}
    (hKey : nextKey isFirst input = .ok (some (body ++ rest)))
    (hEnds : Ends rest)
    (fuel : Nat) :
    shape.readEntries (fuel + 1) seen isFirst start input =
      shape.readEntries fuel (name :: seen) false next
        rest := by
  rcases hEntry with
    ⟨between, before, hBetween, hBefore, hItem⟩
  rw [(List.cons.inj hItem).2] at hKey
  have hName :=
    scanString_plain hPlain
      (between ++ ':' :: (before ++ (value ++ rest)))
  have hColon :=
    endKey_colon hBetween (before ++ (value ++ rest))
  have hValue := hReads.read hBefore hEnds
  have hUnseen : seen.contains name = false := by
    simpa using hNew
  simp only [List.append_assoc, List.cons_append] at hKey
  rw [readEntries]
  simp only [bind, Except.bind, hKey, hName, hField, hUnseen,
    Bool.false_eq_true, if_false, hColon, hValue]

/- The entries after the first one are read. -/
theorem Takes.readEntries
    {names : List String}
    {items : List (List Char)}
    {start final : σ}
    (hTakes : shape.Takes names items start final)
    {more : List Char}
    (hMore : Followed items more)
    {fuel : Nat}
    (hFuel : items.length < fuel)
    {seen : List String}
    (hNew : (names.reverse ++ seen).Nodup)
    (hComplete :
      shape.checkComplete (names.reverse ++ seen) = .ok ())
    (rest : List Char) :
    shape.readEntries fuel seen false start
        (more ++ '\x7d' :: rest) =
      .ok (final, rest) := by
  induction hTakes generalizing more fuel seen with
  | nil =>
      obtain ⟨fuel, rfl⟩ :=
        Nat.exists_eq_add_of_lt hFuel
      cases hMore with
      | last hGap =>
          rw [Shape.readEntries]
          simp only [bind, Except.bind, nextKey_last hGap]
          rw [show shape.checkComplete seen = .ok () from
              hComplete,
            hGap.skipSpace_eq (by decide)]
          rfl
  | cons hPlain hEntry hField hReads hTakes ih =>
      have hItem := hEntry
      rcases hItem with ⟨_, _, _, _, rfl⟩
      cases hMore with
      | next hAfter hBefore hMore =>
          obtain ⟨spare, rfl⟩ :=
            Nat.exists_eq_add_of_lt hFuel
          rw [List.reverse_cons, List.append_assoc,
            List.singleton_append] at hNew hComplete
          have hUnseen :=
            (List.nodup_cons.mp
              (List.nodup_append.mp hNew).2.1).1
          rw [List.append_assoc, List.cons_append,
            List.append_assoc, List.append_assoc,
            List.cons_append,
            readEntries_entry hPlain hEntry hField hReads
              hUnseen (nextKey_next hAfter hBefore _)
              (hMore.ends (Or.inr rfl) rest)]
          exact
            ih hMore (by rw [List.length_cons]; omega) hNew
              hComplete

/-
  A record is read from an object with all entries that are
  required.
-/
theorem Takes.reads
    {names : List String}
    {items : List (List Char)}
    {start final : σ}
    (hTakes : shape.Takes names items start final)
    {inner : List Char}
    (hInside : Inside items inner)
    (hNew : names.Nodup)
    (hComplete :
      shape.checkComplete names.reverse = .ok ()) :
    Reads (shape.read start) ('\x7b' :: (inner ++ ['\x7d']))
      final where
  token := ⟨'\x7b', inner ++ ['\x7d'], rfl, rfl, by decide⟩
  read := by
    intro gap rest hBlank hEnds
    have hStart :
        shape.read start
            (gap ++ ('\x7b' :: (inner ++ ['\x7d']) ++ rest)) =
          shape.readEntries
            ((inner ++ '\x7d' :: rest).length + 1) [] true
            start (inner ++ '\x7d' :: rest) := by
      unfold read
      rw [List.cons_append, hBlank.skipSpace_eq (by decide),
        List.append_assoc]
      rfl
    rw [hStart]
    cases hInside with
    | none hGap =>
        cases hTakes
        rw [Shape.readEntries]
        simp only [bind, Except.bind, nextKey_last hGap]
        rw [show shape.checkComplete [] = .ok () from
            hComplete,
          hGap.skipSpace_eq (by decide)]
        rfl
    | some hBefore hMore =>
        cases hTakes with
        | cons hPlain hEntry hField hReads hTakes =>
            have hItem := hEntry
            rcases hItem with ⟨_, _, _, _, rfl⟩
            have hLong := hMore.length_le
            rw [List.append_assoc, List.append_assoc,
              List.cons_append,
              readEntries_entry hPlain hEntry hField hReads
                List.not_mem_nil (nextKey_first hBefore _)
                (hMore.ends (Or.inr rfl) rest)]
            rw [List.reverse_cons] at hComplete
            refine
              hTakes.readEntries hMore ?_ ?_ hComplete rest
            · simp only [List.length_append,
                List.length_cons]
              omega
            · rw [← List.reverse_cons]
              exact (List.reverse_perm _).nodup_iff.mpr hNew

------------------------------------------------------------
-- What Holds of a Record
------------------------------------------------------------

/- Every field keeps what holds of the record. -/
def Keeps
    (shape : Shape σ)
    (P : σ → Prop) : Prop :=
  ∀ field ∈ shape.fields, ∀ state input next rest,
    P state →
      field.read state input = .ok (next, rest) → P next

theorem Keeps.readListed
    {P : σ → Prop}
    (hKeeps : shape.Keeps P)
    {fields : List (Field σ)}
    (hFields : ∀ field ∈ fields, field ∈ shape.fields)
    {done : Nat}
    {state final : σ}
    {input rest : List Char}
    (hState : P state)
    (hRead :
      shape.readListed done fields state input =
        .ok (final, rest)) :
    P final := by
  induction fields generalizing done state input with
  | nil =>
      rw [Shape.readListed] at hRead
      rcases exists_of_bind_eq_ok hRead with
        ⟨_, -, hFinal⟩
      cases hFinal
      exact hState
  | cons field fields ih =>
      rw [Shape.readListed] at hRead
      rcases exists_of_bind_eq_ok hRead with
        ⟨element, -, hElement⟩
      cases element with
      | none =>
          dsimp only at hElement
          split at hElement
          · contradiction
          · rcases exists_of_bind_eq_ok hElement with
              ⟨_, -, hFinal⟩
            cases hFinal
            exact hState
      | some next =>
          rcases exists_of_bind_eq_ok hElement with
            ⟨⟨changed, tail⟩, hField, hTail⟩
          exact
            ih
              (fun other hMem =>
                hFields other
                  (List.mem_cons_of_mem field hMem))
              (hKeeps field
                (hFields field List.mem_cons_self)
                state next changed tail hState hField)
              hTail

theorem Keeps.readEntries
    {P : σ → Prop}
    (hKeeps : shape.Keeps P)
    {fuel : Nat}
    {seen : List String}
    {isFirst : Bool}
    {state final : σ}
    {input rest : List Char}
    (hState : P state)
    (hRead :
      shape.readEntries fuel seen isFirst state input =
        .ok (final, rest)) :
    P final := by
  induction fuel generalizing seen isFirst state input with
  | zero =>
      rw [Shape.readEntries] at hRead
      contradiction
  | succ fuel ih =>
      rw [Shape.readEntries] at hRead
      rcases exists_of_bind_eq_ok hRead with
        ⟨key, -, hKey⟩
      cases key with
      | none =>
          rcases exists_of_bind_eq_ok hKey with
            ⟨_, -, hFinal⟩
          cases hFinal
          exact hState
      | some next =>
          rcases exists_of_bind_eq_ok hKey with
            ⟨⟨name, tail⟩, -, hName⟩
          dsimp only at hName
          split at hName
          · rename_i field hFind
            split at hName
            · contradiction
            · rcases exists_of_bind_eq_ok hName with
                ⟨value, -, hValue⟩
              rcases exists_of_bind_eq_ok hValue with
                ⟨⟨changed, later⟩, hField, hLater⟩
              exact
                ih
                  (hKeeps field
                    (List.mem_of_find?_eq_some hFind)
                    state value changed later hState hField)
                  hLater
          · rcases exists_of_bind_eq_ok hName with
              ⟨value, -, hValue⟩
            rcases exists_of_bind_eq_ok hValue with
              ⟨later, -, hLater⟩
            exact ih hState hLater

/- What is kept by each field holds of the record read. -/
theorem Keeps.read
    {P : σ → Prop}
    (hKeeps : shape.Keeps P)
    {initial final : σ}
    (hInitial : P initial)
    {input rest : List Char}
    (hRead :
      shape.read initial input = .ok (final, rest)) :
    P final := by
  unfold Shape.read at hRead
  split at hRead
  · contradiction
  · exact
      hKeeps.readListed (fun _ hMem => hMem) hInitial hRead
  · exact hKeeps.readEntries hInitial hRead
  · contradiction

end Shape

end Json

end CollectionTree
