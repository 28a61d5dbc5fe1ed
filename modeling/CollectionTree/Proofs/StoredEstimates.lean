import CollectionTree.LinkEstimate.Checked
import CollectionTree.LinkEstimate.File
import CollectionTree.Proofs.Json.Writing
import CollectionTree.Proofs.LinkHistory

/-
  Link estimates that are kept in a file and used again.

  Key definitions include:
    * `LinkEstimate.Stored`
    * `LinkEstimate.Use`
    * `LinkEstimate.usedFor?`
    * `LinkEstimate.Strays`
    * `LinkEstimate.Safe`

  Key theorems include:
    * `LinkEstimate.stored_of_ofJson`
    * `LinkEstimate.ofJson_toJson`
    * `LinkEstimate.Intact.usedFor?`
    * `LinkEstimate.usedFor?_eq_none_iff`
    * `LinkEstimate.stored_estimates_are_safe_iff`

  New estimates have their cursor at a slot, and recording
  keeps it there.  A file may give any word as the cursor:
  an estimate with a cursor past its slots lasts until a
  cost is recorded, unless it is reset before.
-/

namespace CollectionTree

namespace LinkEstimate

------------------------------------------------------------
-- Uses
------------------------------------------------------------

/- What an estimate is used for. -/
inductive Use
  | change (what : Change)
  | etx
  | costs
  deriving DecidableEq, Repr

/-
  The estimate after a use; nothing if a slot was looked for
  where there is none.
-/
def use?
    (e : LinkEstimate) : Use → Option LinkEstimate
  | .change (.success transmissions) =>
      e.record? transmissions
  | .change (.failure transmissions) =>
      e.record? (failureCost transmissions)
  | .change .reset => some fresh
  | .etx => some e
  | .costs => e.costs?.map (fun _ => e)

/- The estimate after some uses. -/
def usedFor?
    (e : LinkEstimate)
    (uses : List Use) : Option LinkEstimate :=
  uses.foldlM use? e

/- A use looks for slots where the cursor is. -/
def Strays
    (cursor : Nat) : Use → Prop
  | .change (.success _) => window ≤ cursor
  | .change (.failure _) => window ≤ cursor
  | .change .reset => False
  | .etx => False
  | .costs => window < cursor

/-
  Whatever an estimate is used for, its cursor is at one of
  the slots, and no use looks for a slot elsewhere.
-/
def Safe
    (e : LinkEstimate) : Prop :=
  ∀ uses, ∃ later,
    e.usedFor? uses = some later ∧
      later.history.cursor < window

theorem usedFor?_cons
    (e : LinkEstimate)
    (first : Use)
    (uses : List Use) :
    e.usedFor? (first :: uses) =
      (e.use? first).bind (fun next => next.usedFor? uses) :=
  List.foldlM_cons

------------------------------------------------------------
-- Intact Estimates
------------------------------------------------------------

theorem Intact.record?_eq
    {e : LinkEstimate}
    (hIntact : e.Intact)
    (cost : UInt8) :
    e.record? cost = some (e.record cost) :=
  if_pos hIntact.inBounds

/- A use of an intact estimate leaves it intact. -/
theorem Intact.use?
    {e : LinkEstimate}
    (hIntact : e.Intact)
    (use : Use) :
    ∃ next, e.use? use = some next ∧ next.Intact := by
  cases use with
  | change what =>
      cases what with
      | success n =>
          exact
            ⟨_, hIntact.record?_eq n, hIntact.record n⟩
      | failure n =>
          exact
            ⟨_, hIntact.record?_eq (failureCost n),
              hIntact.record (failureCost n)⟩
      | reset => exact ⟨fresh, rfl, intact_fresh⟩
  | etx => exact ⟨e, rfl, hIntact⟩
  | costs =>
      have hCosts : e.costs? = some e.costs :=
        if_pos (Nat.le_of_lt hIntact.inBounds)
      refine ⟨e, ?_, hIntact⟩
      rw [LinkEstimate.use?, hCosts]
      rfl

/- So do any number of uses. -/
theorem Intact.usedFor?
    {e : LinkEstimate}
    (hIntact : e.Intact)
    (uses : List Use) :
    ∃ later, e.usedFor? uses = some later ∧ later.Intact := by
  induction uses generalizing e with
  | nil => exact ⟨e, rfl, hIntact⟩
  | cons first uses ih =>
      rcases hIntact.use? first with ⟨next, hNext, hIntact⟩
      rw [usedFor?_cons, hNext]
      exact ih hIntact

------------------------------------------------------------
-- Cursors Past the Slots
------------------------------------------------------------

variable {e : LinkEstimate}

theorem record?_eq_none_iff
    (hFull : e.history.slots.length = window)
    (cost : UInt8) :
    e.record? cost = none ↔ window ≤ e.history.cursor := by
  unfold record?
  rw [ite_eq_right_iff, ← hFull, ← Nat.not_lt]
  simp [RingBuffer.InBounds]

theorem costs?_eq_none_iff
    (hFull : e.history.slots.length = window) :
    e.costs? = none ↔ window < e.history.cursor := by
  unfold costs?
  rw [ite_eq_right_iff, ← hFull, ← Nat.not_le]
  simp [RingBuffer.size]

theorem use?_eq_none_iff
    (hFull : e.history.slots.length = window)
    (use : Use) :
    e.use? use = none ↔ Strays e.history.cursor use := by
  cases use with
  | change what =>
      cases what with
      | success n => exact record?_eq_none_iff hFull n
      | failure n =>
          exact record?_eq_none_iff hFull (failureCost n)
      | reset => exact iff_of_false nofun id
  | etx => exact iff_of_false nofun id
  | costs =>
      rw [use?, Option.map_eq_none_iff]
      exact costs?_eq_none_iff hFull

/-
  While the cursor is past the slots, a use other than a
  reset changes nothing.
-/
theorem use?_of_past
    (hFull : e.history.slots.length = window)
    (hPast : window ≤ e.history.cursor)
    {use : Use}
    (hKept : use ≠ .change .reset)
    (hStays : ¬Strays e.history.cursor use) :
    e.use? use = some e := by
  cases use with
  | change what =>
      cases what with
      | success n => exact absurd hPast hStays
      | failure n => exact absurd hPast hStays
      | reset => exact absurd rfl hKept
  | etx => rfl
  | costs =>
      have hWithin : e.history.cursor ≤ e.history.size := by
        unfold RingBuffer.size
        rw [hFull]
        exact Nat.le_of_not_lt hStays
      have hCosts : e.costs? = some e.costs := if_pos hWithin
      rw [use?, hCosts]
      rfl

theorem not_strays
    {cursor : Nat}
    (hCursor : cursor < window)
    (use : Use) :
    ¬Strays cursor use := by
  cases use with
  | change what =>
      cases what with
      | success n => exact Nat.not_le_of_lt hCursor
      | failure n => exact Nat.not_le_of_lt hCursor
      | reset => exact id
  | etx => exact id
  | costs => exact Nat.not_lt_of_lt hCursor

/-
  Uses fail if one of them, before the first reset, looks
  for slots where the cursor was at first.
-/
theorem usedFor?_eq_none_iff
    (hFull : e.history.slots.length = window)
    (uses : List Use) :
    e.usedFor? uses = none ↔
      ∃ use ∈ uses.takeWhile (fun u => u ≠ .change .reset),
        Strays e.history.cursor use := by
  rcases Nat.lt_or_ge e.history.cursor window with
    hCursor | hPast
  · have hIntact : e.Intact := ⟨hFull, hCursor⟩
    rcases hIntact.usedFor? uses with ⟨later, hLater, -⟩
    rw [hLater]
    refine iff_of_false nofun ?_
    rintro ⟨use, -, hStrays⟩
    exact not_strays hCursor use hStrays
  · induction uses with
    | nil => exact iff_of_false nofun (by simp)
    | cons first uses ih =>
        rw [usedFor?_cons]
        by_cases hReset : first = .change .reset
        · rcases intact_fresh.usedFor? uses with
            ⟨later, hLater, -⟩
          subst hReset
          refine iff_of_false ?_ (by simp)
          rw [use?, Option.bind_some, hLater]
          exact nofun
        · rw [List.takeWhile_cons_of_pos (by simpa using hReset)]
          by_cases hStrays : Strays e.history.cursor first
          · rw [(use?_eq_none_iff hFull first).mpr hStrays]
            exact
              iff_of_true rfl
                ⟨first, List.mem_cons_self, hStrays⟩
          · rw [use?_of_past hFull hPast hReset hStrays,
              Option.bind_some, ih]
            simp [hStrays]

theorem safe_iff
    (hFull : e.history.slots.length = window) :
    e.Safe ↔ e.history.cursor < window := by
  constructor
  · intro hSafe
    rcases hSafe [] with ⟨_, hSame, hCursor⟩
    cases hSame
    exact hCursor
  · intro hCursor uses
    have hIntact : e.Intact := ⟨hFull, hCursor⟩
    rcases hIntact.usedFor? uses with ⟨later, hLater, hKept⟩
    exact ⟨later, hLater, hKept.cursor⟩

------------------------------------------------------------
-- Reading
------------------------------------------------------------

/- All slots are there, and the cursor is a word. -/
structure Stored
    (e : LinkEstimate) : Prop where
  full : e.history.slots.length = window
  cursor : e.history.cursor ≤ Nat.pow 2 64 - 1

theorem stored_fresh :
    fresh.Stored where
  full := intact_fresh.full
  cursor := Nat.zero_le _

theorem keeps_stored :
    shape.Keeps Stored := by
  intro field hMem e input next rest hStored hRead
  simp only [shape, List.mem_cons, List.not_mem_nil, or_false]
    at hMem
  rcases hMem with rfl | rfl
  · rcases Json.exists_of_bind_eq_ok hRead with
      ⟨⟨slots, _⟩, hSlots, hNext⟩
    cases hNext
    exact ⟨Json.length_of_readArray hSlots, hStored.cursor⟩
  · rcases Json.exists_of_bind_eq_ok hRead with
      ⟨⟨cursor, _⟩, -, hNext⟩
    cases hNext
    exact
      ⟨hStored.full, Nat.le_of_lt_succ (UInt64.toNat_lt cursor)⟩

/- What is read has all slots, and any cursor. -/
theorem stored_of_ofJson
    {text : String}
    (hRead : ofJson text = .ok e) :
    e.Stored := by
  unfold ofJson Json.parse at hRead
  rcases Json.exists_of_bind_eq_ok hRead with
    ⟨⟨found, rest⟩, hFound, hEnd⟩
  have hStored : found.Stored :=
    keeps_stored.read stored_fresh hFound
  dsimp only at hEnd
  split at hEnd
  · cases hEnd
    exact hStored
  · contradiction

------------------------------------------------------------
-- Writing
------------------------------------------------------------

theorem reads_costs
    (slots : List UInt8) :
    List.Forall₂ (Json.Reads Json.readUInt8)
      ((Json.Value.compactItems
        (slots.map (fun cost => .whole cost.toNat))).map
          String.toList)
      slots := by
  induction slots with
  | nil => exact .nil
  | cons cost slots ih =>
      have hCost :=
        Json.reads_readUInt8
          (Nat.le_of_lt_succ (UInt8.toNat_lt cost))
      rw [Nat.toUInt8_eq, UInt8.ofNat_toNat] at hCost
      refine .cons ?_ ih
      rw [Json.Value.compact, Whole.text, String.toList_ofList]
      exact hCost

/- The slots are read from what is written for them. -/
theorem reads_slots
    {slots : List UInt8}
    (hFull : slots.length = window) :
    Json.Reads (Json.readArray window Json.readUInt8)
      (Json.Value.list
        (slots.map
          (fun cost => .whole cost.toNat))).compact.toList
      slots := by
  rcases Json.Value.compact_list
      (slots.map (fun cost => .whole cost.toNat)) with
    ⟨inner, hText, hInside⟩
  rw [hText, ← hFull]
  exact Json.reads_readArray (reads_costs slots) hInside

theorem reads_cursor
    (start : LinkEstimate)
    {cursor : Nat}
    (hFits : cursor ≤ Nat.pow 2 64 - 1) :
    Json.Reads
      (fun input => do
        let (n, rest) ← Json.readSize input
        pure (start.withCursor n.toNat, rest))
      (Json.Value.whole cursor).compact.toList
      (start.withCursor cursor) := by
  have hSame : cursor.toUInt64.toNat = cursor :=
    UInt64.toNat_ofNat_of_lt' (Nat.lt_succ_of_le hFits)
  have hReads :=
    (Json.reads_readSize hFits).map
      (fun n => start.withCursor n.toNat)
  rw [hSame] at hReads
  rw [Json.Value.compact, Whole.text, String.toList_ofList]
  exact hReads

/- The entries of what is written make up the estimate. -/
theorem Stored.takes_entries
    (hStored : e.Stored) :
    shape.Takes ["history", "cursor"]
      ((Json.Value.compactEntries
        [ ("history",
            .list
              (e.history.slots.map
                (fun cost => .whole cost.toNat))),
          ("cursor", .whole e.history.cursor) ]).map
            String.toList)
      fresh e := by
  have hHistory : Json.IsPlain "history".toList := by decide
  have hCursor : Json.IsPlain "cursor".toList := by decide
  exact
    .cons hHistory (Json.isEntry_compact hHistory _) rfl
      ((reads_slots hStored.full).map fresh.withSlots)
      (.cons hCursor (Json.isEntry_compact hCursor _) rfl
        (reads_cursor (fresh.withSlots e.history.slots)
          hStored.cursor)
        .nil)

/- What is written is read as the same estimate. -/
theorem Stored.ofJson_toJson
    (hStored : e.Stored) :
    ofJson e.toJson = .ok e := by
  rcases Json.Value.compact_object
      [ ("history",
          .list
            (e.history.slots.map
              (fun cost => .whole cost.toNat))),
        ("cursor", .whole e.history.cursor) ] with
    ⟨inner, hText, hInside⟩
  have hReads :=
    hStored.takes_entries.reads hInside (by decide) rfl
  refine
    Json.parse_of_reads hReads Json.blank_nil
      Json.blank_nil ?_
  rw [List.nil_append, List.append_nil]
  exact hText

/-
  Whatever text an estimate is read from, all slots are
  there.  It is safe if the cursor is at one of them, and
  otherwise it fails with the first use that looks for slots
  at the cursor, unless it is reset before.  What is written
  for an estimate is read as the same estimate.
-/
theorem stored_estimates_are_safe_iff
    (e : LinkEstimate) :
    (∀ text, ofJson text = .ok e →
        e.Stored ∧
          (e.Safe ↔ e.history.cursor < window) ∧
            ∀ uses,
              e.usedFor? uses = none ↔
                ∃ use ∈
                    uses.takeWhile
                      (fun u => u ≠ .change .reset),
                  Strays e.history.cursor use) ∧
      (e.Stored → ofJson e.toJson = .ok e) := by
  refine ⟨?_, Stored.ofJson_toJson⟩
  intro text hRead
  have hStored := stored_of_ofJson hRead
  exact
    ⟨hStored, safe_iff hStored.full,
      usedFor?_eq_none_iff hStored.full⟩

/- A cursor right after the slots is read and has no slot. -/
theorem cursor_past_slots_is_read :
    ∃ e,
      ofJson
          "\x7b\"history\":[4,4,4,4,4,4,4,4,4,4,4,4,4,4,4,4],\"cursor\":16\x7d" =
        .ok e ∧
        e.usedFor? [.change (.success 1)] = none ∧
          ¬e.Safe := by
  refine
    ⟨⟨⟨List.replicate window initialCost, 16⟩⟩, rfl, rfl, ?_⟩
  rw [safe_iff rfl]
  exact Nat.lt_irrefl 16

end LinkEstimate

end CollectionTree
