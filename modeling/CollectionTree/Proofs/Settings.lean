import CollectionTree.Config.File

/-
  Which settings pass the check.

  Key definitions include:
    * `Config.Setting.inOrder`
    * `Config.valueOf`
    * `Config.firstZero?`
    * `Config.accepted`

  Key theorems include:
    * `Config.check_eq`
    * `Config.check_eq_ok_iff`
    * `Config.validate_eq_ok_iff`

  The check looks for the first setting that is zero.
-/

namespace CollectionTree

namespace Config

/- The settings that must not be zero, in their order. -/
def Setting.inOrder : List Setting :=
  [.neighborCapacity, .neighborLifetime, .recentPackets,
    .maxHopLimit]

/- The value of a setting. -/
def valueOf
    (c : Config) : Setting → Nat
  | .neighborCapacity => c.neighborCapacity.toNat
  | .neighborLifetime => c.neighborLifetime.toNat
  | .recentPackets => c.recentPackets.toNat
  | .maxHopLimit => c.maxHopLimit.toNat

/- The first setting that is zero and must not be. -/
def firstZero?
    (c : Config) : Option Setting :=
  Setting.inOrder.find? (fun setting => c.valueOf setting = 0)

/- The settings, unless one of them is a zero. -/
def accepted
    (c : Config) : Except Failure Config :=
  match c.firstZero? with
  | none => .ok c
  | some setting =>
      .error (.invalidConfig (.zeroSetting setting))

theorem check_eq
    (c : Config) :
    c.check =
      match c.firstZero? with
      | none => .ok ()
      | some setting => .error setting := by
  have hWord
      (n : UInt64) :
      n = 0 ↔ n.toNat = 0 :=
    UInt64.toNat_inj.symm
  have hByte
      (n : UInt8) :
      n = 0 ↔ n.toNat = 0 :=
    UInt8.toNat_inj.symm
  unfold check firstZero? Setting.inOrder
  simp only [List.find?_cons, valueOf, hWord, hByte]
  by_cases hCapacity : c.neighborCapacity.toNat = 0
  · simp [hCapacity]
  · by_cases hLifetime : c.neighborLifetime.toNat = 0
    · simp [hCapacity, hLifetime]
    · by_cases hRecent : c.recentPackets.toNat = 0
      · simp [hCapacity, hLifetime, hRecent]
      · by_cases hHops : c.maxHopLimit.toNat = 0
        · simp [hCapacity, hLifetime, hRecent, hHops]
        · simp [hCapacity, hLifetime, hRecent, hHops]

/- No setting is zero that must not be. -/
theorem check_eq_ok_iff
    {c : Config} :
    c.check = .ok () ↔ ∀ setting, c.valueOf setting ≠ 0 := by
  have hAll :
      ∀ setting, setting ∈ Setting.inOrder := by
    intro setting
    cases setting <;> decide
  rw [check_eq]
  constructor
  · intro hCheck setting
    split at hCheck
    · rename_i hNone
      have hNot :=
        List.find?_eq_none.mp hNone setting (hAll setting)
      simpa using hNot
    · contradiction
  · intro hSome
    have hNone : c.firstZero? = none :=
      List.find?_eq_none.mpr fun setting _ => by
        simpa using hSome setting
    rw [hNone]

theorem validate_eq_ok_iff
    {c : Config} :
    c.validate = .ok () ↔ c.check = .ok () := by
  unfold validate
  cases c.check with
  | ok done => simp
  | error setting => exact ⟨nofun, nofun⟩

theorem validate_eq_ok_iff_firstZero
    {c : Config} :
    c.validate = .ok () ↔ c.firstZero? = none := by
  rw [validate_eq_ok_iff, check_eq]
  cases c.firstZero? with
  | none => simp
  | some setting => exact ⟨nofun, nofun⟩

theorem accepted_eq_ok_iff
    {c d : Config} :
    c.accepted = .ok d ↔ c = d ∧ c.validate = .ok () := by
  rw [validate_eq_ok_iff_firstZero]
  unfold accepted
  cases c.firstZero? with
  | none => simp
  | some setting => exact ⟨nofun, nofun⟩

end Config

end CollectionTree
