import CollectionTree.Connection
import CollectionTree.Proofs.Json.Writing
import CollectionTree.Proofs.Settings
import Mathlib.Data.List.Nodup

/-
  Files with settings: what is written is read again, what
  is left out keeps its standard value, and nothing that
  fails the check is returned.  With what is returned, a
  connection fails only for lack of room for its tables.

  Key definitions include:
    * `Config.Key`
    * `Config.Given`
    * `Config.assign`
    * `Config.IsFile`
    * `Config.Replaces`

  Key theorems include:
    * `Config.takes_entries`
    * `Config.parse_of_isFile`
    * `Config.isFile_toJson`
    * `Config.entry_foldl_assign`
    * `Config.make_of_validate`
    * `Config.files_give_accepted_settings`

  A file gives some settings in any order, with any white
  space between its parts.  Each entry changes the standard
  settings at one place.
-/

namespace CollectionTree

namespace Config

------------------------------------------------------------
-- Settings in a File
------------------------------------------------------------

/- The settings that a file may give. -/
inductive Key
  | neighborCapacity
  | neighborLifetime
  | maxHopLimit
  | recentPackets
  | openListenBursts
  | noRouteListenBursts
  deriving DecidableEq, Repr

/- The name of a setting in a file. -/
def Key.name : Key → String
  | .neighborCapacity => "neighbor_capacity"
  | .neighborLifetime => "neighbor_lifetime_secs"
  | .maxHopLimit => "max_hop_limit"
  | .recentPackets => "recent_packets"
  | .openListenBursts => "open_listen_bursts"
  | .noRouteListenBursts => "no_route_listen_bursts"

/- The greatest value of a setting. -/
def Key.limit : Key → Nat
  | .neighborCapacity => Nat.pow 2 64 - 1
  | .neighborLifetime => Nat.pow 2 64 - 1
  | .maxHopLimit => Nat.pow 2 8 - 1
  | .recentPackets => Nat.pow 2 64 - 1
  | .openListenBursts => Nat.pow 2 8 - 1
  | .noRouteListenBursts => Nat.pow 2 8 - 1

/- All settings in the order in which they are written. -/
def Key.inOrder : List Key :=
  [.neighborCapacity, .neighborLifetime, .maxHopLimit,
    .recentPackets, .openListenBursts, .noRouteListenBursts]

/- What a setting is. -/
def entry
    (c : Config) : Key → Nat
  | .neighborCapacity => c.neighborCapacity.toNat
  | .neighborLifetime => c.neighborLifetime.toNat
  | .maxHopLimit => c.maxHopLimit.toNat
  | .recentPackets => c.recentPackets.toNat
  | .openListenBursts => c.openListenBursts.toNat
  | .noRouteListenBursts => c.noRouteListenBursts.toNat

/- A setting with a value in its range. -/
structure Given where
  key : Key
  value : Nat
  fits : value ≤ key.limit

/- The settings with one of them changed. -/
def assign
    (c : Config)
    (given : Given) : Config :=
  match given.key with
  | .neighborCapacity =>
      { c with neighborCapacity := given.value.toUInt64 }
  | .neighborLifetime =>
      { c with neighborLifetime := given.value.toUInt64 }
  | .maxHopLimit =>
      { c with maxHopLimit := given.value.toUInt8 }
  | .recentPackets =>
      { c with recentPackets := given.value.toUInt64 }
  | .openListenBursts =>
      { c with openListenBursts := given.value.toUInt8 }
  | .noRouteListenBursts =>
      { c with noRouteListenBursts := given.value.toUInt8 }

/-
  A text that gives some settings in their order, with white
  space wherever it may stand.
-/
def IsFile
    (given : List Given)
    (text : List Char) : Prop :=
  ∃ before after inner items,
    Json.Blank before ∧ Json.Blank after ∧
      text =
        before ++ (('\x7b' :: (inner ++ ['\x7d'])) ++ after) ∧
        Json.Inside items inner ∧
          List.Forall₂
            (fun (g : Given) item =>
              Json.IsEntry g.key.name (Whole.digits g.value)
                item)
            given items

/- What is given is replaced, and the rest is standard. -/
def Replaces
    (c : Config)
    (given : List Given) : Prop :=
  (∀ g ∈ given, c.entry g.key = g.value) ∧
    ∀ key, key ∉ given.map Given.key →
      c.entry key = standard.entry key

theorem Key.mem_inOrder
    (key : Key) :
    key ∈ Key.inOrder := by
  cases key <;> decide

theorem Key.isPlain_name
    (key : Key) :
    Json.IsPlain key.name.toList := by
  cases key <;> decide

theorem Key.name_injective :
    Function.Injective Key.name := by
  intro a b hSame
  have hAll :
      ∀ a ∈ Key.inOrder, ∀ b ∈ Key.inOrder,
        a.name = b.name → a = b := by
    decide
  exact hAll a a.mem_inOrder b b.mem_inOrder hSame

theorem entry_le
    (c : Config)
    (key : Key) :
    c.entry key ≤ key.limit := by
  have hWord
      (n : UInt64) :
      n.toNat ≤ Nat.pow 2 64 - 1 :=
    Nat.le_of_lt_succ (UInt64.toNat_lt n)
  have hByte
      (n : UInt8) :
      n.toNat ≤ Nat.pow 2 8 - 1 :=
    Nat.le_of_lt_succ (UInt8.toNat_lt n)
  cases key with
  | neighborCapacity => exact hWord c.neighborCapacity
  | neighborLifetime => exact hWord c.neighborLifetime
  | maxHopLimit => exact hByte c.maxHopLimit
  | recentPackets => exact hWord c.recentPackets
  | openListenBursts => exact hByte c.openListenBursts
  | noRouteListenBursts => exact hByte c.noRouteListenBursts

theorem toNat_word
    {n : Nat}
    (hFits : n ≤ Nat.pow 2 64 - 1) :
    n.toUInt64.toNat = n :=
  UInt64.toNat_ofNat_of_lt' (Nat.lt_succ_of_le hFits)

theorem toNat_byte
    {n : Nat}
    (hFits : n ≤ Nat.pow 2 8 - 1) :
    n.toUInt8.toNat = n :=
  UInt8.toNat_ofNat_of_lt' (Nat.lt_succ_of_le hFits)

------------------------------------------------------------
-- Reading
------------------------------------------------------------

/- Each setting has a field that reads its value. -/
theorem exists_field
    (given : Given) :
    ∃ field,
      shape.fields.find?
          (fun field => field.name == given.key.name) =
        some field ∧
        ∀ c : Config,
          Json.Reads (field.read c)
            (Whole.digits given.value) (c.assign given) := by
  rcases given with ⟨key, value, hFits⟩
  cases key with
  | neighborCapacity =>
      exact
        ⟨_, rfl, fun c =>
          (Json.reads_readSize hFits).map fun n =>
            { c with neighborCapacity := n }⟩
  | neighborLifetime =>
      exact
        ⟨_, rfl, fun c =>
          (Json.reads_readUInt64 hFits).map fun n =>
            { c with neighborLifetime := n }⟩
  | maxHopLimit =>
      exact
        ⟨_, rfl, fun c =>
          (Json.reads_readUInt8 hFits).map fun n =>
            { c with maxHopLimit := n }⟩
  | recentPackets =>
      exact
        ⟨_, rfl, fun c =>
          (Json.reads_readSize hFits).map fun n =>
            { c with recentPackets := n }⟩
  | openListenBursts =>
      exact
        ⟨_, rfl, fun c =>
          (Json.reads_readUInt8 hFits).map fun n =>
            { c with openListenBursts := n }⟩
  | noRouteListenBursts =>
      exact
        ⟨_, rfl, fun c =>
          (Json.reads_readUInt8 hFits).map fun n =>
            { c with noRouteListenBursts := n }⟩

/- The entries of a file are taken one after the other. -/
theorem takes_entries
    {given : List Given}
    {items : List (List Char)}
    (hItems :
      List.Forall₂
        (fun (g : Given) item =>
          Json.IsEntry g.key.name (Whole.digits g.value) item)
        given items)
    (c : Config) :
    shape.Takes (given.map fun g => g.key.name) items c
      (given.foldl assign c) := by
  induction hItems generalizing c with
  | nil => exact .nil
  | @cons g _ _ _ hItem hItems ih =>
      rcases exists_field g with ⟨field, hField, hReads⟩
      exact
        .cons g.key.isPlain_name hItem hField (hReads c)
          (ih (c.assign g))

/- A file changes the standard settings at what it gives. -/
theorem parse_of_isFile
    {given : List Given}
    (hOnce : (given.map Given.key).Nodup)
    {text : String}
    (hFile : IsFile given text.toList) :
    Json.parse read text = .ok (given.foldl assign standard) := by
  rcases hFile with
    ⟨before, after, inner, items, hBefore, hAfter, hText,
      hInside, hItems⟩
  have hNames : (given.map fun g => g.key.name).Nodup := by
    have hMapped := hOnce.map Key.name_injective
    rw [List.map_map] at hMapped
    exact hMapped
  have hReads :
      Json.Reads (shape.read standard)
        ('\x7b' :: (inner ++ ['\x7d']))
        (given.foldl assign standard) :=
    (takes_entries hItems standard).reads hInside hNames rfl
  exact Json.parse_of_reads hReads hBefore hAfter hText

theorem ofJson_of_parse
    {text : String}
    {c : Config}
    (hParse : Json.parse read text = .ok c) :
    ofJson text = c.accepted := by
  unfold ofJson accepted validate
  rw [hParse]
  dsimp only
  rw [check_eq]
  cases c.firstZero? with
  | none => rfl
  | some setting => rfl

/- Only accepted settings are returned. -/
theorem validate_of_ofJson
    {text : String}
    {c : Config}
    (hRead : ofJson text = .ok c) :
    c.validate = .ok () := by
  cases hParse : Json.parse read text with
  | error fault =>
      unfold ofJson at hRead
      rw [hParse] at hRead
      contradiction
  | ok d =>
      rw [ofJson_of_parse hParse] at hRead
      rcases accepted_eq_ok_iff.mp hRead with ⟨rfl, hValid⟩
      exact hValid

/- What is read from a file is read from its text. -/
theorem exists_ofJson_of_ofFile
    {content : Option ByteArray}
    {c : Config}
    (hRead : ofFile content = .ok c) :
    ∃ text, ofJson text = .ok c := by
  unfold ofFile at hRead
  split at hRead
  · contradiction
  · split at hRead
    · contradiction
    · exact ⟨_, hRead⟩

------------------------------------------------------------
-- Writing
------------------------------------------------------------

/- All settings of a connection. -/
def allGiven
    (c : Config) : List Given :=
  Key.inOrder.map fun key =>
    ⟨key, c.entry key, c.entry_le key⟩

theorem keys_allGiven
    (c : Config) :
    (c.allGiven.map Given.key) = Key.inOrder :=
  rfl

theorem entries_pretty
    (given : List Given) :
    List.Forall₂
      (fun (g : Given) item =>
        Json.IsEntry g.key.name (Whole.digits g.value) item)
      given
      ((Json.Value.prettyEntries 0
        (given.map fun g =>
          (g.key.name, .whole g.value))).map
            String.toList) := by
  induction given with
  | nil => exact .nil
  | cons g given ih =>
      have hEntry :=
        Json.isEntry_pretty g.key.isPlain_name
          (Whole.text g.value)
      rw [Whole.text, String.toList_ofList] at hEntry
      exact .cons hEntry ih

/- What is written is a file with all settings. -/
theorem isFile_toJson
    (c : Config) :
    IsFile c.allGiven c.toJson.toList := by
  rcases Json.Value.pretty_object
      (c.allGiven.map fun g =>
        (g.key.name, .whole g.value)) with
    ⟨inner, hText, hInside⟩
  refine
    ⟨[], [], inner, _, Json.blank_nil, Json.blank_nil, ?_,
      hInside, entries_pretty c.allGiven⟩
  rw [List.append_nil, List.nil_append]
  exact hText

theorem assign_allGiven
    (c : Config) :
    c.allGiven.foldl assign standard = c := by
  simp [allGiven, Key.inOrder, assign, entry]

------------------------------------------------------------
-- What Is Replaced
------------------------------------------------------------

/- A setting is assigned at its place and at no other. -/
theorem entry_assign
    (c : Config)
    (given : Given)
    (key : Key) :
    (c.assign given).entry key =
      if given.key = key then given.value else c.entry key := by
  rcases given with ⟨place, value, hFits⟩
  cases place with
  | neighborCapacity =>
      cases key <;> simp [assign, entry, toNat_word hFits]
  | neighborLifetime =>
      cases key <;> simp [assign, entry, toNat_word hFits]
  | maxHopLimit =>
      cases key <;> simp [assign, entry, toNat_byte hFits]
  | recentPackets =>
      cases key <;> simp [assign, entry, toNat_word hFits]
  | openListenBursts =>
      cases key <;> simp [assign, entry, toNat_byte hFits]
  | noRouteListenBursts =>
      cases key <;> simp [assign, entry, toNat_byte hFits]

theorem entry_foldl_assign
    {given : List Given}
    (hOnce : (given.map Given.key).Nodup)
    (c : Config) :
    (∀ g ∈ given,
        (given.foldl assign c).entry g.key = g.value) ∧
      ∀ key, key ∉ given.map Given.key →
        (given.foldl assign c).entry key = c.entry key := by
  induction given generalizing c with
  | nil => exact ⟨nofun, fun _ _ => rfl⟩
  | cons first given ih =>
      rcases List.nodup_cons.mp hOnce with ⟨hNew, hRest⟩
      rcases ih hRest (c.assign first) with ⟨hGiven, hOther⟩
      refine ⟨?_, ?_⟩
      · intro g hMem
        rcases List.mem_cons.mp hMem with rfl | hMem
        · rw [List.foldl_cons, hOther g.key hNew,
            entry_assign, if_pos rfl]
        · exact hGiven g hMem
      · intro key hAbsent
        rw [List.map_cons, List.mem_cons, not_or] at hAbsent
        rw [List.foldl_cons, hOther key hAbsent.2,
          entry_assign, if_neg (Ne.symm hAbsent.1)]

------------------------------------------------------------
-- Making a Connection
------------------------------------------------------------

/-
  With settings that pass the check, only the lack of room
  for a table keeps a connection from being made.
-/
theorem make_of_validate
    {c : Config}
    (hValid : c.validate = .ok ())
    (storage : Storage)
    (address : Address) :
    Connection.make storage address c =
      if storage.Holds c then
        .ok (Connection.withConfig address c)
      else
        .error .noRoom := by
  have hSome : c.recentPackets.toNat ≠ 0 :=
    check_eq_ok_iff.mp (validate_eq_ok_iff.mp hValid)
      .recentPackets
  have hPackets :
      max c.recentPackets.toNat 1 = c.recentPackets.toNat :=
    Nat.max_eq_left (Nat.one_le_iff_ne_zero.mpr hSome)
  unfold Connection.make NeighborTable.allocate?
    RecentPackets.allocate?
  rw [hValid, hPackets]
  dsimp only
  by_cases hNeighbors :
      c.neighborCapacity.toNat ≤ storage.neighbors
  · by_cases hRecent :
        c.recentPackets.toNat ≤ storage.packets
    · have hBoth : storage.Holds c := ⟨hNeighbors, hRecent⟩
      rw [if_pos hNeighbors, if_pos hRecent, if_pos hBoth]
      rfl
    · have hNone : ¬storage.Holds c :=
        fun hBoth => hRecent hBoth.2
      rw [if_pos hNeighbors, if_neg hRecent, if_neg hNone]
  · have hNone : ¬storage.Holds c :=
      fun hBoth => hNeighbors hBoth.1
    rw [if_neg hNeighbors, if_neg hNone]

/-
  Settings that are written and read again are the same if
  they pass the check, and fail with the first zero if not.
  A file with some settings, in any order, replaces those in
  the standard ones.  Whatever the text or the file, settings
  that are returned pass the check, so a connection accepts
  them as long as there is room for the tables.
-/
theorem files_give_accepted_settings :
    (∀ c : Config,
        ofJson c.toJson = c.accepted ∧
          (c.validate = .ok () ↔ c.firstZero? = none)) ∧
      (∀ (given : List Given) (text : String),
          (given.map Given.key).Nodup →
            IsFile given text.toList →
              ∃ c : Config,
                c.Replaces given ∧ ofJson text = c.accepted) ∧
        ∀ c : Config,
          (∃ text, ofJson text = .ok c) ∨
              (∃ content, ofFile content = .ok c) →
            c.validate = .ok () ∧
              ∀ storage address,
                Connection.make storage address c =
                  if storage.Holds c then
                    .ok (Connection.withConfig address c)
                  else
                    .error .noRoom := by
  refine ⟨?_, ?_, ?_⟩
  · intro c
    have hOnce : (c.allGiven.map Given.key).Nodup := by
      rw [keys_allGiven]
      decide
    have hParse := parse_of_isFile hOnce (isFile_toJson c)
    rw [assign_allGiven] at hParse
    exact ⟨ofJson_of_parse hParse, validate_eq_ok_iff_firstZero⟩
  · intro given text hOnce hFile
    exact
      ⟨given.foldl assign standard,
        entry_foldl_assign hOnce standard,
        ofJson_of_parse (parse_of_isFile hOnce hFile)⟩
  · intro c hRead
    have hJson : ∃ text, ofJson text = .ok c :=
      hRead.elim id fun ⟨_, hFile⟩ =>
        exists_ofJson_of_ofFile hFile
    rcases hJson with ⟨text, hText⟩
    have hValid := validate_of_ofJson hText
    exact ⟨hValid, make_of_validate hValid⟩

/- Two settings, in another order than they are written. -/
theorem files_give_accepted_settings_of_two :
    ∃ c : Config,
      c.Replaces
          [⟨.maxHopLimit, 3, by decide⟩,
            ⟨.neighborCapacity, 0, by decide⟩] ∧
        ofJson
            "\x7b \"max_hop_limit\" : 3,\n\"neighbor_capacity\":0\x7d" =
          c.accepted := by
  have hSpace : Json.Blank [' '] := by decide
  have hLine : Json.Blank ['\n'] := by decide
  have hInside :
      Json.Inside
        [ "\"max_hop_limit\" : 3".toList,
          "\"neighbor_capacity\":0".toList ]
        " \"max_hop_limit\" : 3,\n\"neighbor_capacity\":0".toList :=
    .some hSpace
      (.next Json.blank_nil hLine (.last Json.blank_nil))
  refine
    files_give_accepted_settings.2.1 _ _ (by decide)
      ⟨[], [], _, _, Json.blank_nil, Json.blank_nil, rfl,
        hInside, ?_⟩
  exact
    .cons ⟨[' '], [' '], hSpace, hSpace, rfl⟩
      (.cons ⟨[], [], Json.blank_nil, Json.blank_nil, rfl⟩
        .nil)

/-
  A table of the greatest capacity passes the check, and no
  machine has room for it.
-/
theorem vast_tables_find_no_room :
    ∃ c : Config,
      ofJson
            "\x7b\"neighbor_capacity\":18446744073709551615\x7d" =
          .ok c ∧
        c.validate = .ok () ∧
          ∀ storage address,
            Connection.make storage address c =
              .error .noRoom := by
  let vast : Given :=
    ⟨.neighborCapacity, 18446744073709551615, by decide⟩
  let c : Config := standard.assign vast
  have hInside :
      Json.Inside
        ["\"neighbor_capacity\":18446744073709551615".toList]
        "\"neighbor_capacity\":18446744073709551615".toList :=
    .some Json.blank_nil (.last Json.blank_nil)
  have hDigits :
      Whole.digits 18446744073709551615 =
        "18446744073709551615".toList := by
    decide
  have hEntry :
      Json.IsEntry "neighbor_capacity"
        (Whole.digits 18446744073709551615)
        "\"neighbor_capacity\":18446744073709551615".toList := by
    rw [hDigits]
    exact ⟨[], [], Json.blank_nil, Json.blank_nil, rfl⟩
  have hFile :
      IsFile [vast]
        "\x7b\"neighbor_capacity\":18446744073709551615\x7d".toList :=
    ⟨[], [], _, _, Json.blank_nil, Json.blank_nil, rfl,
      hInside, .cons hEntry .nil⟩
  have hValid : c.validate = .ok () :=
    validate_eq_ok_iff_firstZero.mpr (by decide)
  have hRead := ofJson_of_parse (parse_of_isFile (by simp) hFile)
  refine
    ⟨c, hRead.trans (accepted_eq_ok_iff.mpr ⟨rfl, hValid⟩),
      hValid, fun storage address => ?_⟩
  have hVast : Storage.largest < c.neighborCapacity.toNat := by
    decide
  have hNone : ¬storage.Holds c := fun hHolds =>
    absurd (hHolds.1.trans storage.neighbors_le) hVast.not_ge
  rw [make_of_validate hValid, if_neg hNone]

end Config

end CollectionTree
