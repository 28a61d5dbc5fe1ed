import CollectionTree.Simulation

/-
  Addresses and places of nodes.

  Key theorems include:
    * `Simulation.addressOf_inj`
    * `Simulation.indexOf?_eq_some_iff`
    * `Simulation.indexOf?_addressOf`

  The first byte of an address is one more than the index of
  its node, as long as that fits into a byte.
-/

namespace CollectionTree

theorem Setup.inRange_self
    (setup : Setup)
    (index : Nat) :
    setup.inRange index index = false := by
  simp [Setup.inRange]

namespace Simulation

variable {γ : Type}

theorem toNat_hi_addressOf
    {index : Nat}
    (hIndex : index < 255) :
    (addressOf index).hi.toNat = index + 1 := by
  unfold addressOf
  rw [Nat.toUInt8_eq, UInt8.toNat_ofNat']
  omega

/- Nodes have different addresses. -/
theorem addressOf_inj
    {a b : Nat}
    (hA : a < 255)
    (hB : b < 255)
    (hSame : addressOf a = addressOf b) :
    a = b := by
  have hNat : a + 1 = b + 1 := by
    rw [← toNat_hi_addressOf hA, hSame,
      toNat_hi_addressOf hB]
  exact Nat.succ.inj hNat

/- The index of a node is told by its address. -/
theorem indexOf?_eq_some_iff
    {s : Simulation γ}
    {a : Address}
    {index : Nat} :
    s.indexOf? a = some index ↔
      index < s.nodes.size ∧ index < 255 ∧
        a = addressOf index := by
  rcases a with ⟨hi, lo⟩
  have hByte : hi.toNat < 256 := UInt8.toNat_lt hi
  unfold indexOf?
  simp only
  constructor
  · intro hSome
    split at hSome
    next hFound =>
      rcases hFound with ⟨hHi, rfl, hSize⟩
      obtain rfl := Option.some.inj hSome
      have hPos : hi.toNat ≠ 0 := fun hZero =>
        hHi (UInt8.toNat_inj.mp hZero)
      have hFew : hi.toNat - 1 < 255 := by omega
      refine ⟨hSize, hFew, ?_⟩
      have hSame : hi = (addressOf (hi.toNat - 1)).hi := by
        rw [← UInt8.toNat_inj, toNat_hi_addressOf hFew]
        omega
      exact congrArg (Address.mk · 0) hSame
    next => contradiction
  · rintro ⟨hSize, hFew, hAddress⟩
    have hHi : hi.toNat = index + 1 :=
      (congrArg (fun a => a.hi.toNat) hAddress).trans
        (toNat_hi_addressOf hFew)
    have hLo : lo = 0 := congrArg Address.lo hAddress
    have hSome : hi ≠ 0 := by
      intro hZero
      rw [hZero] at hHi
      contradiction
    rw [hHi, Nat.add_sub_cancel]
    exact if_pos ⟨hSome, hLo, hSize⟩

/- Every address leads back to its node. -/
theorem indexOf?_addressOf
    {s : Simulation γ}
    (hSize : s.nodes.size ≤ 255)
    {index : Nat}
    (hIndex : index < s.nodes.size) :
    s.indexOf? (addressOf index) = some index :=
  indexOf?_eq_some_iff.mpr
    ⟨hIndex, Nat.lt_of_lt_of_le hIndex hSize, rfl⟩

end Simulation

end CollectionTree
