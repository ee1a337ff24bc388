import Mathlib.Data.Nat.Bitwise
import Mathlib.Data.UInt

/-! Connection handles of a sharded server. The worker index sits in the upper
twelve bits, the slab slot in the lower twenty. -/

namespace Http3

def workerShift : UInt32 := 20
def workerMask : UInt32 := (1 <<< workerShift) - 1

/-- Extract the worker index from a global connection handle. -/
def workerIndex (connHandle : UInt32) : ℕ := (connHandle >>> workerShift).toNat

/-- Strip the worker bits to get the local slab handle. -/
def localConnHandle (connHandle : UInt32) : UInt32 := connHandle &&& workerMask

def handleOffset (workerIndex : UInt32) : UInt32 := workerIndex <<< workerShift

/-- The handle an event about slab slot `slot` has to carry. -/
def globalHandle (offset : UInt32) (slot : ℕ) : UInt32 := offset ||| UInt32.ofNat slot

section Routing

variable {w : UInt32} {slot : ℕ}

theorem toNat_handleOffset (hw : w.toNat < 2 ^ 12) :
    (handleOffset w).toNat = w.toNat <<< 20 := by
  simp only [handleOffset, workerShift, UInt32.toNat_shiftLeft]
  rw [Nat.mod_eq_of_lt]
  · rfl
  · have h : (20 : UInt32).toNat % 32 = 20 := rfl
    rw [h, Nat.shiftLeft_eq]
    omega

theorem toNat_globalHandle (hw : w.toNat < 2 ^ 12) (hs : slot < 2 ^ 20) :
    (globalHandle (handleOffset w) slot).toNat = w.toNat * 2 ^ 20 + slot := by
  have hm : slot % 2 ^ 32 = slot := Nat.mod_eq_of_lt (by omega)
  rw [globalHandle, UInt32.toNat_or, toNat_handleOffset hw, UInt32.toNat_ofNat', hm,
    ← Nat.shiftLeft_add_eq_or_of_lt hs, Nat.shiftLeft_eq]

theorem workerIndex_globalHandle (hw : w.toNat < 2 ^ 12) (hs : slot < 2 ^ 20) :
    workerIndex (globalHandle (handleOffset w) slot) = w.toNat := by
  have h : (20 : UInt32).toNat % 32 = 20 := rfl
  rw [workerIndex, workerShift, UInt32.toNat_shiftRight, toNat_globalHandle hw hs, h,
    Nat.shiftRight_eq_div_pow]
  omega

theorem localConnHandle_globalHandle (hw : w.toNat < 2 ^ 12) (hs : slot < 2 ^ 20) :
    (localConnHandle (globalHandle (handleOffset w) slot)).toNat = slot := by
  have h : workerMask.toNat = 2 ^ 20 - 1 := rfl
  rw [localConnHandle, UInt32.toNat_and, toNat_globalHandle hw hs, h,
    Nat.and_two_pow_sub_one_eq_mod]
  omega

theorem globalHandle_toNat (offset connHandle : UInt32) :
    globalHandle offset connHandle.toNat = offset ||| connHandle := by
  rw [globalHandle, UInt32.ofNat_toNat]

theorem globalHandle_injective {w : UInt32} {slot slot' : ℕ} (hw : w.toNat < 2 ^ 12)
    (hs : slot < 2 ^ 20) (hs' : slot' < 2 ^ 20)
    (h : globalHandle (handleOffset w) slot = globalHandle (handleOffset w) slot') :
    slot = slot' := by
  have := congrArg UInt32.toNat h
  rw [toNat_globalHandle hw hs, toNat_globalHandle hw hs'] at this
  omega

end Routing

end Http3
