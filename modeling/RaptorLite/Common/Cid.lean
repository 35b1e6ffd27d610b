import Mathlib.Data.Nat.Bitwise

/-! # Connection ids

The 64-bit connection id of `common/cid.h`: a 16-bit magic number, a 16-bit listening port and a 32-bit
user id (the slot index). The functions are written with the shifts and masks of the source; the
lemmas read them as arithmetic on the three fields, which is all that later modules use. -/

namespace RaptorLite

/-- `core::InvalidConnectionId`. -/
def invalidConnectionId : UInt64 := 0xffffffffffffffff

/-- `core::BuildConnectionId`. -/
def buildConnectionId (magic listenPort : UInt16) (uid : UInt32) : UInt64 :=
  let n : UInt32 := (magic.toUInt32 <<< 16) ||| listenPort.toUInt32
  (n.toUInt64 <<< 32) ||| uid.toUInt64

/-- `core::GetMagicNumber`. -/
def getMagicNumber (cid : UInt64) : UInt16 :=
  let n : UInt32 := (cid >>> 32).toUInt32
  (n >>> 16).toUInt16

/-- `core::GetUserId`. -/
def getUserId (cid : UInt64) : UInt32 := (cid &&& 0xffffffff).toUInt32

/-! ### The fields as arithmetic -/

/-- The number of a connection id: magic, port and user id one behind the other. -/
theorem toNat_buildConnectionId (magic listenPort : UInt16) (uid : UInt32) :
    (buildConnectionId magic listenPort uid).toNat =
      (magic.toNat * 2 ^ 16 + listenPort.toNat) * 2 ^ 32 + uid.toNat := by
  have hm : magic.toNat < 2 ^ 16 := magic.toNat_lt
  have hp : listenPort.toNat < 2 ^ 16 := listenPort.toNat_lt
  have hu : uid.toNat < 2 ^ 32 := uid.toNat_lt
  -- the lower operand of each `|` fits below the shift, so the `|` is a sum
  have hn : ((magic.toUInt32 <<< 16) ||| listenPort.toUInt32).toNat
      = magic.toNat * 2 ^ 16 + listenPort.toNat := by
    rw [UInt32.toNat_or, UInt32.toNat_shiftLeft]
    show magic.toNat <<< 16 % 2 ^ 32 ||| listenPort.toNat = _
    rw [Nat.mod_eq_of_lt (by rw [Nat.shiftLeft_eq]; omega), ← Nat.shiftLeft_add_eq_or_of_lt hp,
      Nat.shiftLeft_eq]
  rw [buildConnectionId, UInt64.toNat_or, UInt64.toNat_shiftLeft, UInt32.toNat_toUInt64,
    UInt32.toNat_toUInt64, hn]
  show (magic.toNat * 2 ^ 16 + listenPort.toNat) <<< 32 % 2 ^ 64 ||| uid.toNat = _
  rw [Nat.mod_eq_of_lt (by rw [Nat.shiftLeft_eq]; omega), ← Nat.shiftLeft_add_eq_or_of_lt hu,
    Nat.shiftLeft_eq]

/-- The user id is the low half of the id. -/
theorem toNat_getUserId (cid : UInt64) : (getUserId cid).toNat = cid.toNat % 2 ^ 32 := by
  rw [getUserId, UInt64.toNat_toUInt32, UInt64.toNat_and]
  show (cid.toNat &&& (2 ^ 32 - 1)) % 2 ^ 32 = _
  rw [Nat.and_two_pow_sub_one_eq_mod, Nat.mod_mod]

/-- The magic number is the high quarter of the id. -/
theorem toNat_getMagicNumber (cid : UInt64) : (getMagicNumber cid).toNat = cid.toNat / 2 ^ 48 := by
  have hlt : cid.toNat < 2 ^ 64 := cid.toNat_lt
  simp only [getMagicNumber, UInt32.toNat_toUInt16, UInt32.toNat_shiftRight, UInt64.toNat_toUInt32,
    UInt64.toNat_shiftRight]
  show ((cid.toNat >>> 32) % 2 ^ 32) >>> 16 % 2 ^ 16 = _
  rw [Nat.shiftRight_eq_div_pow, Nat.shiftRight_eq_div_pow]
  omega

/-- The user id of a built id is the index it was built from. -/
@[simp] theorem getUserId_buildConnectionId (magic listenPort : UInt16) (uid : UInt32) :
    getUserId (buildConnectionId magic listenPort uid) = uid := by
  have hu : uid.toNat < 2 ^ 32 := uid.toNat_lt
  apply UInt32.toNat_inj.mp
  rw [toNat_getUserId, toNat_buildConnectionId]
  omega

/-- The magic number of a built id is the one it was built from. -/
@[simp] theorem getMagicNumber_buildConnectionId (magic listenPort : UInt16) (uid : UInt32) :
    getMagicNumber (buildConnectionId magic listenPort uid) = magic := by
  have hp : listenPort.toNat < 2 ^ 16 := listenPort.toNat_lt
  have hu : uid.toNat < 2 ^ 32 := uid.toNat_lt
  apply UInt16.toNat_inj.mp
  rw [toNat_getMagicNumber, toNat_buildConnectionId]
  omega

end RaptorLite
