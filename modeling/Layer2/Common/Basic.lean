import Mathlib.Data.List.AList

/-! # Machine values

Go's `uint32` heights are `UInt32`, `common.Uint256` hashes are 256-bit vectors and
`[]byte` is a list of bytes. The lemmas below move `UInt32` comparisons and wrapping
arithmetic to `Nat`, where `omega` decides them.
-/

namespace Layer2

abbrev Bytes := List UInt8

abbrev Uint256 := BitVec 256

abbrev Address := BitVec 160

def UINT256_EMPTY : Uint256 := 0

/-- A Go `map` keyed by `K`, as an association list with distinct keys. -/
abbrev GoMap (K V : Type) := AList (fun _ : K => V)

theorem u32_le_iff (a b : UInt32) : a ≤ b ↔ a.toNat ≤ b.toNat := Iff.rfl

theorem u32_lt_iff (a b : UInt32) : a < b ↔ a.toNat < b.toNat := Iff.rfl

@[simp] theorem u32_toNat_add (a b : UInt32) :
    (a + b).toNat = (a.toNat + b.toNat) % 4294967296 := by
  show (a.toBitVec + b.toBitVec).toNat = _
  simp [BitVec.toNat_add]; rfl

@[simp] theorem u32_toNat_sub (a b : UInt32) :
    (a - b).toNat = (4294967296 - b.toNat + a.toNat) % 4294967296 := by
  show (a.toBitVec - b.toBitVec).toNat = _
  simp [BitVec.toNat_sub]; rfl

@[simp] theorem u32_toNat_ofNat (n : Nat) : (OfNat.ofNat n : UInt32).toNat = n % 4294967296 := rfl

@[simp] theorem u32_toNat_UInt32_ofNat (n : Nat) : (UInt32.ofNat n).toNat = n % 4294967296 := by
  show (BitVec.ofNat 32 n).toNat = _
  simp

@[simp] theorem u32_toNat_one : (1 : UInt32).toNat = 1 := rfl

theorem u32_eq_iff (a b : UInt32) : a = b ↔ a.toNat = b.toNat :=
  ⟨fun h => h ▸ rfl, UInt32.toNat.inj⟩

theorem u32_toNat_lt (a : UInt32) : a.toNat < 4294967296 := a.toNat_lt_size

theorem u32_toNat_succ {a : UInt32} (h : a.toNat < 4294967295) : (a + 1).toNat = a.toNat + 1 := by
  simp only [u32_toNat_add, u32_toNat_one]; omega

@[simp] theorem u32_add_one_sub_one (a : UInt32) : a + 1 - 1 = a :=
  (u32_eq_iff _ _).2 (by
    have := u32_toNat_lt a; simp only [u32_toNat_sub, u32_toNat_add, u32_toNat_one]; omega)

end Layer2
