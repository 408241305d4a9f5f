import HuntersGuild.ExceptionRules
import HuntersGuild.KeyedTotals

/-!
Item data, as it is stored in inventories and banks.
-/

namespace HuntersGuild.Items

open HuntersGuild.ExceptionRules
open HuntersGuild.KeyedTotals

inductive Version where
  | pcPatch
  | bbPatch
  | dcNte
  | dc112000
  | dcV1
  | dcV2
  | pcNte
  | pcV2
  | gcNte
  | gcV3
  | gcEp3Nte
  | gcEp3
  | xbV3
  | bbV4
  | unknown
deriving DecidableEq

def isV4 (version : Version) : Bool := version = .bbV4

/-- The exceptions that item functions throw, with their texts. -/
inductive Exception where
  | outOfRange (what : String)
  | runtimeError (what : String)
deriving DecidableEq

structure StackLimits where
  version : Version
  maxToolStackSizesByData1_1 : List UInt8
  maxMesetaStackSize : UInt32

/-- The limit of an item class. The last entry of the table is for all the
subclasses after it; an empty table has no entry for any tool. -/
def StackLimits.get (self : StackLimits) (data1_0 data1_1 : UInt8) : Except Exception UInt8 :=
  if data1_0 = 4 then
    .ok self.maxMesetaStackSize.toUInt8
  else if data1_0 = 3 then
    let vec := self.maxToolStackSizesByData1_1
    match vec[min data1_1.toNat (vec.length - 1)]? with
    | some limit => .ok limit
    | none => .error (.outOfRange "vector::at")
  else
    .ok 1

def defaultToolLimitsV3V4 : List UInt8 :=
  [10, 10, 1, 10, 10, 10, 10, 10, 10, 1, 1, 1, 1, 1, 1, 1, 99, 1]

/-- The limits of a Blue Burst game that configures none. -/
def defaultLimits : StackLimits := ⟨.bbV4, defaultToolLimitsV3V4, 999999⟩

/-- The bytes of `data1`. One past the end reads as zero, so that an index needs no proof. -/
def Data1 := Vector UInt8 12
deriving DecidableEq

instance : GetElem Data1 Nat UInt8 fun _ _ => True where
  getElem self z _ := if h : z < 12 then Vector.get self ⟨z, h⟩ else 0

def Data1.set (self : Data1) (z : Nat) (v : UInt8) : Data1 := Vector.setIfInBounds self z v

def Data1.toList (self : Data1) : List UInt8 := Vector.toList self

instance neZero_twelve : NeZero 12 := ⟨by decide⟩

theorem Data1.getElem_eq (data1 : Data1) {z : Nat} (hz : z < 12) :
    data1[z] = Vector.get data1 ⟨z, hz⟩ :=
  dif_pos hz

theorem Data1.getElem_of_le (data1 : Data1) {z : Nat} (hz : 12 ≤ z) : data1[z] = 0 :=
  dif_neg (Nat.not_lt.mpr hz)

theorem Data1.ext {x y : Data1} (h : ∀ z, z < 12 → x[z] = y[z]) : x = y := by
  apply Vector.ext
  intro z hz
  exact (x.getElem_eq hz).symm.trans ((h z hz).trans (y.getElem_eq hz))

theorem Data1.getElem_set (data1 : Data1) {z : Nat} (hz : z < 12) (v : UInt8) (i : Nat) :
    (data1.set z v)[i] = if z = i then v else data1[i] := by
  by_cases hi : i < 12
  · rw [Data1.getElem_eq _ hi, Data1.getElem_eq _ hi]
    exact Vector.getElem_setIfInBounds hi
  · have hle : 12 ≤ i := Nat.le_of_not_lt hi
    rw [Data1.getElem_of_le _ hle, Data1.getElem_of_le _ hle, if_neg (by omega)]

theorem Data1.set_getElem_self (data1 : Data1) {z : Nat} (hz : z < 12) :
    data1.set z data1[z] = data1 := by
  apply Data1.ext
  intro i _
  rw [Data1.getElem_set _ hz]
  split
  · rename_i heq
    rw [heq]
  · rfl

@[simp] theorem Data1.length_toList (data1 : Data1) : data1.toList.length = 12 :=
  Vector.length_toList

theorem Data1.getElem?_toList (data1 : Data1) {z : Nat} (hz : z < 12) :
    data1.toList[z]? = some data1[z] := by
  rw [List.getElem?_eq_getElem (by rw [data1.length_toList]; exact hz), data1.getElem_eq hz]
  exact congrArg some (Vector.getElem_toList _)

/-- `data1`, `id` and `data2`, the last as one little-endian number. -/
structure ItemData where
  data1 : Data1
  id : UInt32
  data2d : UInt32
deriving DecidableEq

/-- The default value of an item. -/
def ItemData.cleared : ItemData := ⟨Vector.replicate 12 0, 0xFFFFFFFF, 0⟩

/-- An item of a class about which nothing else is set. -/
def ItemData.ofClass (data1_0 data1_1 : UInt8) (id : UInt32) : ItemData :=
  ⟨#v[data1_0, data1_1, 0, 0, 0, 0, 0, 0, 0, 0, 0, 0], id, 0⟩

def ItemData.isSRankWeapon (self : ItemData) : Bool :=
  self.data1[0] = 0 ∧
    (self.data1[1] > 0x6F ∧ self.data1[1] < 0x89 ∨ self.data1[1] > 0xA4 ∧ self.data1[1] < 0xAA)

def ItemData.primaryIdentifier (self : ItemData) : UInt32 :=
  if self.data1[0] = 4 then
    0x04000000
  else if self.data1[0] = 3 ∧ self.data1[1] = 2 then
    (0x03020000 : UInt32) ||| (self.data1[4].toUInt32 <<< 8) ||| self.data1[2].toUInt32
  else if self.data1[0] = 2 then
    (0x02000000 : UInt32) ||| (self.data1[1].toUInt32 <<< 16)
  else if self.isSRankWeapon then
    (self.data1[0].toUInt32 <<< 24) ||| (self.data1[1].toUInt32 <<< 16)
  else
    (self.data1[0].toUInt32 <<< 24) ||| (self.data1[1].toUInt32 <<< 16) |||
      (self.data1[2].toUInt32 <<< 8)

def ItemData.maxStackSize (limits : StackLimits) (self : ItemData) : Except Exception Nat := do
  return (← limits.get self.data1[0] self.data1[1]).toNat

def ItemData.isStackable (limits : StackLimits) (self : ItemData) : Except Exception Bool := do
  return 1 < (← self.maxStackSize limits)

def ItemData.stackSize (limits : StackLimits) (self : ItemData) : Except Exception Nat := do
  if 1 < (← self.maxStackSize limits) then
    return self.data1[5].toNat
  else
    return 1

def ItemData.withByte (self : ItemData) (z : Fin 12) (v : UInt8) : ItemData :=
  { self with data1 := self.data1.set z v }

/-- `std::clamp<uint8_t>` between one and the limit of a stack. -/
def clampCount (count : UInt8) (maxStackSize : Nat) : UInt8 :=
  if count < 1 then 1 else if maxStackSize < count.toNat then maxStackSize.toUInt8 else count

def ItemData.enforceStackSizeLimits (limits : StackLimits) (self : ItemData) :
    Except Exception ItemData := do
  if self.data1[0] = 3 then
    let maxStackSize ← self.maxStackSize limits
    if 1 < maxStackSize then
      return self.withByte 5 (clampCount self.data1[5] maxStackSize)
    else
      return self.withByte 5 0
  else
    return self

/-- Whether an item is a present. -/
def ItemData.isWrapped (limits : StackLimits) (self : ItemData) : Except Exception Bool := do
  if self.data1[0] = 0 ∨ self.data1[0] = 1 then
    return self.data1[4] &&& 0x40 ≠ 0
  else if self.data1[0] = 2 then
    return self.data2d &&& 0x00400000 ≠ 0
  else if self.data1[0] = 3 then
    return !(← self.isStackable limits) && self.data1[3] &&& 0x40 ≠ 0
  else if self.data1[0] = 4 then
    return false
  else
    throw (.runtimeError "invalid item data")

def ItemData.wrap (limits : StackLimits) (presentColor : UInt8) (self : ItemData) :
    Except Exception ItemData := do
  if self.data1[0] = 0 then
    return (self.withByte 4 (self.data1[4] ||| 0x40)).withByte 5
      ((self.data1[5] &&& 0xF0) ||| (presentColor &&& 0x0F))
  else if self.data1[0] = 1 then
    return self.withByte 4 ((self.data1[4] &&& 0xF0) ||| 0x40 ||| (presentColor &&& 0x0F))
  else if self.data1[0] = 2 then
    return { self with data2d := self.data2d ||| 0x00400000 }
  else if self.data1[0] = 3 then
    if ← self.isStackable limits then
      return self
    else
      return self.withByte 3 ((self.data1[3] &&& 0xF0) ||| 0x40 ||| (presentColor &&& 0x0F))
  else if self.data1[0] = 4 then
    return self
  else
    throw (.runtimeError "invalid item data")

inductive EquipSlot where
  | unknown
  | mag
  | armor
  | shield
  | weapon
  | unit1
  | unit2
  | unit3
  | unit4
  /-- a value that is not of the enumeration -/
  | undefined (value : UInt32)
deriving DecidableEq

def ItemData.isArmor (self : ItemData) : Bool := self.data1[0] = 1 ∧ self.data1[1] = 1

def ItemData.isShield (self : ItemData) : Bool := self.data1[0] = 1 ∧ self.data1[1] = 2

def ItemData.isUnit (self : ItemData) : Bool := self.data1[0] = 1 ∧ self.data1[1] = 3

def ItemData.defaultEquipSlot (self : ItemData) : Except Exception EquipSlot :=
  if self.data1[0] = 0 then
    .ok .weapon
  else if self.isArmor then
    .ok .armor
  else if self.isShield then
    .ok .shield
  else if self.isUnit then
    .ok .unit1
  else if self.data1[0] = 2 then
    .ok .mag
  else
    .error (.runtimeError "item cannot be equipped")

def ItemData.canBeEquippedInSlot (self : ItemData) : EquipSlot → Except Exception Bool
  | .mag => .ok (self.data1[0] = 2)
  | .armor => .ok self.isArmor
  | .shield => .ok self.isShield
  | .unit1 | .unit2 | .unit3 | .unit4 => .ok self.isUnit
  | .weapon => .ok (self.data1[0] = 0)
  | .unknown | .undefined _ => .error (.runtimeError "invalid equip slot")

/-! The class of an item, which its primary identifier determines. -/

theorem shiftLeft_or_shiftLeft (x y k : Nat) :
    x <<< (8 + k) ||| y <<< k = (x <<< 8 ||| y) <<< k := by
  rw [Nat.shiftLeft_or_distrib, ← Nat.shiftLeft_add]

theorem toNat_shiftLeft_byte (v : UInt8) (k : UInt32) (hk : k.toNat ≤ 24) :
    (v.toUInt32 <<< k).toNat = v.toNat <<< k.toNat := by
  have hlt : v.toNat <<< k.toNat < 2 ^ 32 := by
    rw [Nat.shiftLeft_eq]
    calc v.toNat * 2 ^ k.toNat < 2 ^ 8 * 2 ^ k.toNat :=
          Nat.mul_lt_mul_of_pos_right v.toNat_lt (Nat.two_pow_pos k.toNat)
      _ ≤ 2 ^ 8 * 2 ^ 24 := Nat.mul_le_mul_left (2 ^ 8) (Nat.pow_le_pow_right (by decide) hk)
      _ = 2 ^ 32 := rfl
  rw [UInt32.toNat_shiftLeft, UInt8.toNat_toUInt32,
    Nat.mod_eq_of_lt (show k.toNat < 32 by omega), Nat.mod_eq_of_lt hlt]

/-- Four bytes as one number. -/
def word (a b c d : UInt8) : UInt32 :=
  (a.toUInt32 <<< 24) ||| (b.toUInt32 <<< 16) ||| (c.toUInt32 <<< 8) ||| d.toUInt32

theorem toNat_word (a b c d : UInt8) :
    (word a b c d).toNat =
      a.toNat * 2 ^ 24 + b.toNat * 2 ^ 16 + c.toNat * 2 ^ 8 + d.toNat := by
  simp only [word, UInt32.toNat_or, UInt8.toNat_toUInt32]
  rw [toNat_shiftLeft_byte a 24 (by decide), toNat_shiftLeft_byte b 16 (by decide),
    toNat_shiftLeft_byte c 8 (by decide)]
  change a.toNat <<< (8 + 16) ||| b.toNat <<< 16 ||| c.toNat <<< 8 ||| d.toNat = _
  rw [shiftLeft_or_shiftLeft, ← Nat.shiftLeft_add_eq_or_of_lt b.toNat_lt]
  change (a.toNat <<< 8 + b.toNat) <<< (8 + 8) ||| c.toNat <<< 8 ||| d.toNat = _
  rw [shiftLeft_or_shiftLeft, ← Nat.shiftLeft_add_eq_or_of_lt c.toNat_lt,
    ← Nat.shiftLeft_add_eq_or_of_lt d.toNat_lt]
  simp only [Nat.shiftLeft_eq]
  omega

theorem word_inj {a b c d a' b' c' d' : UInt8} (h : word a b c d = word a' b' c' d') :
    a = a' ∧ b = b' := by
  have hnat := congrArg UInt32.toNat h
  simp only [toNat_word] at hnat
  have hc := c.toNat_lt
  have hd := d.toNat_lt
  have hc' := c'.toNat_lt
  have hd' := d'.toNat_lt
  have hb := b.toNat_lt
  have hb' := b'.toNat_lt
  constructor
  · exact UInt8.toNat_inj.mp (by omega)
  · exact UInt8.toNat_inj.mp (by omega)

theorem exists_primaryIdentifier_eq_word (d : ItemData) :
    ∃ b x y, d.primaryIdentifier = word d.data1[0] b x y ∧
      (d.data1[0] ≠ 4 → b = d.data1[1]) := by
  unfold ItemData.primaryIdentifier
  split
  · rename_i h
    exact ⟨0, 0, 0, by rw [h]; rfl, fun hne => absurd h hne⟩
  · split
    · rename_i h
      refine ⟨d.data1[1], d.data1[4], d.data1[2], ?_, fun _ => rfl⟩
      rw [h.1, h.2]
      rfl
    · split
      · rename_i h
        refine ⟨d.data1[1], 0, 0, ?_, fun _ => rfl⟩
        rw [h, show (0x02000000 : UInt32) = (2 : UInt8).toUInt32 <<< 24 from by decide]
        simp [word]
      · split
        · exact ⟨d.data1[1], 0, 0, by simp [word], fun _ => rfl⟩
        · exact ⟨d.data1[1], d.data1[2], 0, by simp [word], fun _ => rfl⟩

/-- Items with the same primary identifier are of the same class. -/
theorem class_of_primaryIdentifier_eq {x y : ItemData}
    (h : x.primaryIdentifier = y.primaryIdentifier) :
    x.data1[0] = y.data1[0] ∧ (x.data1[0] ≠ 4 → x.data1[1] = y.data1[1]) := by
  obtain ⟨b, c, d, hx, hb⟩ := exists_primaryIdentifier_eq_word x
  obtain ⟨b', c', d', hy, hb'⟩ := exists_primaryIdentifier_eq_word y
  obtain ⟨hclass, hsub⟩ := word_inj (hx.symm.trans (h.trans hy))
  refine ⟨hclass, fun hne => ?_⟩
  exact (hb hne).symm.trans (hsub.trans (hb' (hclass ▸ hne)))

theorem maxStackSize_of_primaryIdentifier_eq {x y : ItemData}
    (h : x.primaryIdentifier = y.primaryIdentifier) (limits : StackLimits) :
    x.maxStackSize limits = y.maxStackSize limits := by
  obtain ⟨hclass, hsub⟩ := class_of_primaryIdentifier_eq h
  unfold ItemData.maxStackSize
  rw [← hclass]
  by_cases hmeseta : x.data1[0] = 4
  · simp only [hmeseta, StackLimits.get, if_true]
  · rw [hsub hmeseta]

theorem getElem_withByte (d : ItemData) (z : Fin 12) (v : UInt8) (i : Nat) :
    (d.withByte z v).data1[i] = if z.val = i then v else d.data1[i] :=
  d.data1.getElem_set z.isLt v i

@[simp] theorem data1_withByte (d : ItemData) (z : Fin 12) (v : UInt8) (i : Nat) (hi : i < 12) :
    (d.withByte z v).data1[i] = if z = ⟨i, hi⟩ then v else d.data1[i] := by
  simp only [getElem_withByte, Fin.ext_iff]

theorem data1_withByte_five (d : ItemData) (v : UInt8) : (d.withByte 5 v).data1[5] = v := by
  simp

@[simp] theorem id_withByte (d : ItemData) (z : Fin 12) (v : UInt8) :
    (d.withByte z v).id = d.id := rfl

@[simp] theorem data2d_withByte (d : ItemData) (z : Fin 12) (v : UInt8) :
    (d.withByte z v).data2d = d.data2d := rfl

/-- Everything about an item that its primary identifier may depend on. -/
theorem primaryIdentifier_congr {x y : ItemData} (h0 : x.data1[0] = y.data1[0])
    (h1 : x.data1[1] = y.data1[1]) (h2 : x.data1[2] = y.data1[2])
    (h4 : x.data1[0] = 3 → x.data1[4] = y.data1[4]) :
    x.primaryIdentifier = y.primaryIdentifier := by
  have hsrank : x.isSRankWeapon = y.isSRankWeapon := by
    simp only [ItemData.isSRankWeapon, h0, h1]
  unfold ItemData.primaryIdentifier
  rw [← h0, ← h1, ← h2, ← hsrank]
  by_cases htech : x.data1[0] = 3 ∧ x.data1[1] = 2
  · rw [if_pos htech, if_pos htech, h4 htech.1]
  · rw [if_neg htech, if_neg htech]

/-- The count of a stack is not part of its primary identifier. -/
@[simp] theorem primaryIdentifier_withByte_five (d : ItemData) (v : UInt8) :
    (d.withByte 5 v).primaryIdentifier = d.primaryIdentifier := by
  apply primaryIdentifier_congr <;> simp

@[simp] theorem primaryIdentifier_withId (d : ItemData) (newId : UInt32) :
    ({ d with id := newId } : ItemData).primaryIdentifier = d.primaryIdentifier := rfl

/-- The equip slot of a unit is not part of its primary identifier. -/
theorem primaryIdentifier_withByte_four {d : ItemData} (h : d.data1[0] ≠ 3) (v : UInt8) :
    (d.withByte 4 v).primaryIdentifier = d.primaryIdentifier := by
  apply primaryIdentifier_congr
  · simp
  · simp
  · simp
  · intro h3
    rw [data1_withByte d 4 v 0 (by decide), if_neg (by decide)] at h3
    exact absurd h3 h

/-! How much of its kind an item is. -/

/-- The count of a stack, and one for an item that does not stack. -/
def ItemData.quantity (limits : StackLimits) (self : ItemData) : Nat :=
  match self.stackSize limits with
  | .ok n => n
  | .error _ => 1

/-- Whether the items of a class form stacks. -/
def ItemData.Stacks (limits : StackLimits) (self : ItemData) : Prop :=
  self.isStackable limits = .ok true

theorem stacks_iff {limits : StackLimits} {d : ItemData} :
    d.Stacks limits ↔ ∃ n, d.maxStackSize limits = .ok n ∧ 1 < n := by
  unfold ItemData.Stacks ItemData.isStackable
  cases d.maxStackSize limits with
  | error e => simp
  | ok n => simp

theorem stackSize_eq {limits : StackLimits} {d : ItemData} {n : Nat}
    (h : d.maxStackSize limits = .ok n) :
    d.stackSize limits = .ok (if 1 < n then d.data1[5].toNat else 1) := by
  unfold ItemData.stackSize
  rw [h, ok_bind]
  split <;> rfl

theorem quantity_of_stacks {limits : StackLimits} {d : ItemData} (h : d.Stacks limits) :
    d.quantity limits = d.data1[5].toNat := by
  obtain ⟨n, hn, hlt⟩ := stacks_iff.mp h
  simp only [ItemData.quantity, stackSize_eq hn, if_pos hlt]

theorem quantity_of_not_stacks {limits : StackLimits} {d : ItemData} (h : ¬ d.Stacks limits) :
    d.quantity limits = 1 := by
  unfold ItemData.quantity ItemData.stackSize
  rcases hmax : d.maxStackSize limits with e | n
  · rfl
  · have hle : ¬ 1 < n := fun hlt => h (stacks_iff.mpr ⟨n, hmax, hlt⟩)
    simp only [ok_bind, if_neg hle, pure_eq_ok]

theorem stacks_of_primaryIdentifier_eq {x y : ItemData}
    (h : x.primaryIdentifier = y.primaryIdentifier) (limits : StackLimits) :
    x.Stacks limits ↔ y.Stacks limits := by
  rw [stacks_iff, stacks_iff, maxStackSize_of_primaryIdentifier_eq h]

theorem quantity_congr {x y : ItemData} (hid : x.primaryIdentifier = y.primaryIdentifier)
    (hcount : x.data1[5] = y.data1[5]) (limits : StackLimits) :
    x.quantity limits = y.quantity limits := by
  by_cases h : x.Stacks limits
  · rw [quantity_of_stacks h, hcount,
      quantity_of_stacks ((stacks_of_primaryIdentifier_eq hid limits).mp h)]
  · rw [quantity_of_not_stacks h,
      quantity_of_not_stacks (mt (stacks_of_primaryIdentifier_eq hid limits).mpr h)]

/-- What an item adds to the quantity of a kind. -/
def amountOf (limits : StackLimits) (primaryIdentifier : UInt32) (self : ItemData) : Nat :=
  share ItemData.primaryIdentifier (ItemData.quantity limits) primaryIdentifier self

/-- How much of a kind there is among some items. -/
def held (limits : StackLimits) (primaryIdentifier : UInt32) (items : List ItemData) : Nat :=
  total ItemData.primaryIdentifier (ItemData.quantity limits) primaryIdentifier items

theorem amountOf_eq (limits : StackLimits) (k : UInt32) (d : ItemData) :
    amountOf limits k d = if d.primaryIdentifier = k then d.quantity limits else 0 := rfl

theorem amountOf_self (limits : StackLimits) (d : ItemData) :
    amountOf limits d.primaryIdentifier d = d.quantity limits := share_of_eq rfl

theorem amountOf_congr {x y : ItemData} (hid : x.primaryIdentifier = y.primaryIdentifier)
    (hcount : x.data1[5] = y.data1[5]) (limits : StackLimits) (k : UInt32) :
    amountOf limits k x = amountOf limits k y := by
  simp only [amountOf, share, hid, quantity_congr hid hcount]

/-- Only tools and meseta have limits of their own. -/
theorem maxStackSize_eq_one {limits : StackLimits} {d : ItemData} (htool : d.data1[0] ≠ 3)
    (hmeseta : d.data1[0] ≠ 4) : d.maxStackSize limits = .ok 1 := by
  unfold ItemData.maxStackSize StackLimits.get
  rw [if_neg hmeseta, if_neg htool]
  rfl

/-- Only a table without entries lacks the limit of an item. -/
theorem eq_nil_of_maxStackSize_error {limits : StackLimits} {d : ItemData} {e : Exception}
    (h : d.maxStackSize limits = .error e) : limits.maxToolStackSizesByData1_1 = [] := by
  unfold ItemData.maxStackSize StackLimits.get at h
  split at h
  · cases h
  · split at h
    · dsimp only at h
      split at h
      · cases h
      · rename_i hnone
        have hle := List.getElem?_eq_none_iff.mp hnone
        apply List.eq_nil_of_length_eq_zero
        omega
    · cases h

theorem maxStackSize_of_nil {limits : StackLimits} {d : ItemData}
    (hnil : limits.maxToolStackSizesByData1_1 = []) (htool : d.data1[0] = 3) :
    d.maxStackSize limits = .error (.outOfRange "vector::at") := by
  simp [ItemData.maxStackSize, StackLimits.get, htool, hnil]

theorem maxStackSize_lt {limits : StackLimits} {d : ItemData} {n : Nat}
    (h : d.maxStackSize limits = .ok n) : n < 256 := by
  obtain ⟨limit, -, hn⟩ := bind_eq_ok.mp h
  obtain rfl := Except.ok.inj hn
  exact limit.toNat_lt

theorem held_set (limits : StackLimits) {l : List ItemData} {i : Nat} {x : ItemData}
    (h : l[i]? = some x) (y : ItemData) (k : UInt32) :
    held limits k (l.set i y) + amountOf limits k x = held limits k l + amountOf limits k y := by
  obtain ⟨hi, rfl⟩ := List.getElem?_eq_some_iff.mp h
  exact total_set l i hi y

theorem held_eraseIdx (limits : StackLimits) {l : List ItemData} {i : Nat} {x : ItemData}
    (h : l[i]? = some x) (k : UInt32) :
    held limits k (l.eraseIdx i) + amountOf limits k x = held limits k l := by
  obtain ⟨hi, rfl⟩ := List.getElem?_eq_some_iff.mp h
  exact total_eraseIdx l i hi

theorem held_append_singleton (limits : StackLimits) (l : List ItemData) (x : ItemData)
    (k : UInt32) : held limits k (l ++ [x]) = held limits k l + amountOf limits k x := by
  refine (total_append l [x]).trans ?_
  rw [total_cons, total_nil]
  rfl

/-- What a stack with another count adds. -/
theorem amountOf_withByte_five {limits : StackLimits} {d : ItemData} (h : d.Stacks limits)
    (v : UInt8) (k : UInt32) :
    amountOf limits k (d.withByte 5 v) = if d.primaryIdentifier = k then v.toNat else 0 := by
  have hstacks : (d.withByte 5 v).Stacks limits :=
    (stacks_of_primaryIdentifier_eq (primaryIdentifier_withByte_five d v) limits).mpr h
  rw [amountOf, share, primaryIdentifier_withByte_five, quantity_of_stacks hstacks,
    data1_withByte_five]

theorem amountOf_of_stacks {limits : StackLimits} {d : ItemData} (h : d.Stacks limits)
    (k : UInt32) :
    amountOf limits k d = if d.primaryIdentifier = k then d.data1[5].toNat else 0 := by
  rw [amountOf, share, quantity_of_stacks h]

theorem toNat_toUInt8_of_le {n m : Nat} (h : n ≤ m) (hm : m < 256) : n.toUInt8.toNat = n := by
  rw [Nat.toUInt8_eq, UInt8.toNat_ofNat']
  exact Nat.mod_eq_of_lt (Nat.lt_of_le_of_lt h hm)

/-- A stack within its limit. -/
def WithinLimit (limits : StackLimits) (d : ItemData) : Prop :=
  ∀ n, d.maxStackSize limits = .ok n → 1 < n → d.data1[5].toNat ≤ n

/-- A stack that is nonempty and within its limit. -/
def FilledWithinLimit (limits : StackLimits) (d : ItemData) : Prop :=
  ∀ n, d.maxStackSize limits = .ok n → 1 < n → 0 < d.data1[5].toNat ∧ d.data1[5].toNat ≤ n

theorem FilledWithinLimit.withinLimit {limits : StackLimits} {d : ItemData}
    (h : FilledWithinLimit limits d) : WithinLimit limits d := fun n hmax hlt => (h n hmax hlt).2

/-- There is no empty entry. -/
theorem FilledWithinLimit.quantity_pos {limits : StackLimits} {d : ItemData}
    (h : FilledWithinLimit limits d) : 0 < d.quantity limits := by
  by_cases hstacks : d.Stacks limits
  · obtain ⟨n, hmax, hlt⟩ := stacks_iff.mp hstacks
    rw [quantity_of_stacks hstacks]
    exact (h n hmax hlt).1
  · rw [quantity_of_not_stacks hstacks]
    exact Nat.one_pos

instance (limits : StackLimits) (d : ItemData) : Decidable (WithinLimit limits d) :=
  match h : d.maxStackSize limits with
  | .error e => .isTrue fun n hn => by rw [h] at hn; cases hn
  | .ok m => decidable_of_iff (1 < m → d.data1[5].toNat ≤ m) (by
      unfold WithinLimit
      simp only [h, Except.ok.injEq, forall_eq'])

instance (limits : StackLimits) (d : ItemData) : Decidable (FilledWithinLimit limits d) :=
  match h : d.maxStackSize limits with
  | .error e => .isTrue fun n hn => by rw [h] at hn; cases hn
  | .ok m => decidable_of_iff (1 < m → 0 < d.data1[5].toNat ∧ d.data1[5].toNat ≤ m) (by
      unfold FilledWithinLimit
      simp only [h, Except.ok.injEq, forall_eq'])

/-! Stacks in a list of entries. -/

/-- The stack that an item with this limit is added to. -/
def findStack {α : Type} (dataOf : α → ItemData) (primaryIdentifier : UInt32)
    (combineMax : Nat) (entries : List α) : Option (Fin entries.length) :=
  if 1 < combineMax then
    entries.findFinIdx? fun i => (dataOf i).primaryIdentifier = primaryIdentifier
  else
    none

theorem findStack_eq_some {α : Type} {dataOf : α → ItemData} {primaryIdentifier : UInt32}
    {combineMax : Nat} {entries : List α} {y : Fin entries.length}
    (h : findStack dataOf primaryIdentifier combineMax entries = some y) :
    1 < combineMax ∧ (dataOf (entries.get y)).primaryIdentifier = primaryIdentifier := by
  unfold findStack at h
  split at h
  · rename_i hlt
    refine ⟨hlt, ?_⟩
    simpa using (List.findFinIdx?_eq_some_iff.mp h).1
  · cases h

/-- Whether only a part of a stack is removed; zero is for the whole stack. -/
def splits (amount : UInt32) (limits : StackLimits) (data : ItemData) :
    Except Exception Bool := do
  if amount = 0 then
    return false
  else
    return 1 < (← data.stackSize limits) && amount.toNat < data.data1[5].toNat

theorem splits_eq_true {amount : UInt32} {limits : StackLimits} {data : ItemData} :
    splits amount limits data = .ok true ↔
      data.Stacks limits ∧ 0 < amount.toNat ∧ amount.toNat < data.data1[5].toNat := by
  have hzero : amount = 0 ↔ amount.toNat = 0 := UInt32.toNat_inj.symm
  unfold splits
  by_cases hamount : amount = 0
  · simp [if_pos hamount, hzero.mp hamount]
  · rw [if_neg hamount]
    have hpos : 0 < amount.toNat := Nat.pos_of_ne_zero (mt hzero.mpr hamount)
    rcases hmax : data.maxStackSize limits with e | n
    · simp [ItemData.stackSize, hmax, stacks_iff]
    · rw [stackSize_eq hmax, stacks_iff]
      simp only [ok_bind, pure_eq_ok, Except.ok.injEq, Bool.and_eq_true, decide_eq_true_eq, hmax,
        exists_eq_left', hpos, true_and]
      by_cases hn : 1 < n
      · simp only [hn, if_true, true_and]
        omega
      · simp [hn]

theorem splits_of_not_stacks {amount : UInt32} {limits : StackLimits} {data : ItemData} {n : Nat}
    (hmax : data.maxStackSize limits = .ok n) (hn : ¬ 1 < n) :
    splits amount limits data = .ok false := by
  unfold splits
  split
  · rfl
  · rw [stackSize_eq hmax, if_neg hn]
    rfl

/-- A stack gains what an item of its kind has. -/
theorem held_merge {limits : StackLimits} {l : List ItemData} {y : Nat} {stack item : ItemData}
    (hstack : l[y]? = some stack) (hkind : stack.primaryIdentifier = item.primaryIdentifier)
    (hitem : item.Stacks limits) {v : UInt8}
    (hv : v.toNat = stack.data1[5].toNat + item.data1[5].toNat) (k : UInt32) :
    held limits k (l.set y (stack.withByte 5 v)) = held limits k l + amountOf limits k item := by
  have hstacks := (stacks_of_primaryIdentifier_eq hkind limits).mpr hitem
  have hset := held_set limits hstack (stack.withByte 5 v) k
  rw [amountOf_withByte_five hstacks, amountOf_of_stacks hstacks, hkind, hv] at hset
  rw [amountOf_of_stacks hitem]
  by_cases hk : item.primaryIdentifier = k
  · simp only [if_pos hk] at hset ⊢
    omega
  · simp only [if_neg hk] at hset ⊢
    omega

theorem clampCount_eq_self_iff {count : UInt8} {n : Nat} (hn : n < 256) :
    clampCount count n = count ↔ ¬ (count.toNat = 0 ∨ n < count.toNat) := by
  have hone : count < 1 ↔ count.toNat = 0 := by
    rw [UInt8.lt_iff_toNat_lt, show (1 : UInt8).toNat = 1 from rfl, Nat.lt_one_iff]
  unfold clampCount
  by_cases hzero : count.toNat = 0
  · rw [if_pos (hone.mpr hzero)]
    refine iff_of_false (fun h => ?_) (fun h => h (.inl hzero))
    rw [← h] at hzero
    cases hzero
  · rw [if_neg (mt hone.mp hzero)]
    by_cases hlarge : n < count.toNat
    · rw [if_pos hlarge]
      refine iff_of_false (fun h => ?_) (fun h => h (.inr hlarge))
      have hcount := toNat_toUInt8_of_le (Nat.le_refl n) hn
      rw [h] at hcount
      omega
    · rw [if_neg hlarge]
      exact iff_of_true rfl (by omega)

theorem toNat_part_taken {limits : StackLimits} {stack : ItemData} {amount : UInt32}
    (hpart : splits amount limits stack = .ok true) : amount.toUInt8.toNat = amount.toNat := by
  obtain ⟨-, -, hless⟩ := splits_eq_true.mp hpart
  rw [UInt32.toNat_toUInt8]
  exact Nat.mod_eq_of_lt (Nat.lt_trans hless (UInt8.toNat_lt _))

theorem toNat_part_left {limits : StackLimits} {stack : ItemData} {amount : UInt32}
    (hpart : splits amount limits stack = .ok true) :
    (stack.data1[5] - amount.toUInt8).toNat = stack.data1[5].toNat - amount.toNat := by
  have hbyte := toNat_part_taken hpart
  obtain ⟨-, -, hless⟩ := splits_eq_true.mp hpart
  rw [UInt8.toNat_sub_of_le _ _ (UInt8.le_iff_toNat_le.mpr (by omega)), hbyte]

/-- A stack loses the part that is split off. -/
theorem held_split {limits : StackLimits} {l : List ItemData} {x : Nat} {stack : ItemData}
    {amount : UInt32} (hstack : l[x]? = some stack) (hpart : splits amount limits stack = .ok true)
    (k : UInt32) :
    held limits k (l.set x (stack.withByte 5 (stack.data1[5] - amount.toUInt8))) +
        amountOf limits k (stack.withByte 5 amount.toUInt8) =
      held limits k l := by
  obtain ⟨hstacks, hpos, hless⟩ := splits_eq_true.mp hpart
  have hbyte := toNat_part_taken hpart
  have hleft := toNat_part_left hpart
  have hset := held_set limits hstack (stack.withByte 5 (stack.data1[5] - amount.toUInt8)) k
  rw [amountOf_withByte_five hstacks, amountOf_of_stacks hstacks, hleft] at hset
  rw [amountOf_withByte_five hstacks, hbyte]
  by_cases hk : stack.primaryIdentifier = k
  · simp only [if_pos hk] at hset ⊢
    omega
  · simp only [if_neg hk] at hset ⊢
    omega

/-- Whether `count` more of an item find a place among entries with room for
`capacity` of them. -/
def Accepts {α : Type} (dataOf : α → ItemData) (capacity : Nat) (limits : StackLimits)
    (item : ItemData) (count : Nat) (entries : List α) : Prop :=
  ∃ combineMax, item.maxStackSize limits = .ok combineMax ∧
    match findStack dataOf item.primaryIdentifier combineMax entries with
    | some y => (dataOf (entries.get y)).data1[5].toNat + count ≤ combineMax
    | none => entries.length < capacity

/-- How many units a request is for: the whole entry if the amount is zero or
at least what there is. -/
def requested (limits : StackLimits) (amount : UInt32) (data : ItemData) : Nat :=
  if amount = 0 ∨ data.quantity limits ≤ amount.toNat then data.quantity limits
  else amount.toNat

/-- What is taken from an entry, as a part of its stack or as a whole. -/
structure Taken (amount : UInt32) (limits : StackLimits) (data ret : ItemData) (part : Bool) :
    Prop where
  splits_eq : splits amount limits data = .ok part
  primaryIdentifier_eq : ret.primaryIdentifier = data.primaryIdentifier
  count_eq : ret.data1[5].toNat = if part then amount.toNat else data.data1[5].toNat
  data2d_eq : ret.data2d = data.data2d

theorem requested_eq {limits : StackLimits} {amount : UInt32} {data : ItemData} {part : Bool}
    (h : splits amount limits data = .ok part) :
    requested limits amount data = if part then amount.toNat else data.quantity limits := by
  have hzero : amount = 0 ↔ amount.toNat = 0 := UInt32.toNat_inj.symm
  cases part with
  | true =>
      obtain ⟨hstacks, hpos, hless⟩ := splits_eq_true.mp h
      rw [requested, if_neg, if_pos rfl]
      rw [quantity_of_stacks hstacks, hzero]
      omega
  | false =>
      have hwhole : ¬ splits amount limits data = .ok true := by simp [h]
      rw [requested, if_pos, if_neg Bool.false_ne_true]
      rw [splits_eq_true] at hwhole
      by_cases hstacks : data.Stacks limits
      · rw [quantity_of_stacks hstacks, hzero]
        by_contra hless
        exact hwhole ⟨hstacks, by omega, by omega⟩
      · rw [quantity_of_not_stacks hstacks, hzero]
        omega

theorem requested_eq_zero {limits : StackLimits} {amount : UInt32} {data : ItemData} :
    requested limits amount data = 0 ↔ data.quantity limits = 0 := by
  have hzero : amount = 0 ↔ amount.toNat = 0 := UInt32.toNat_inj.symm
  unfold requested
  split
  · rfl
  · rename_i hpart
    rw [hzero] at hpart
    omega

theorem Taken.quantity_eq {limits : StackLimits} {amount : UInt32} {data ret : ItemData}
    {part : Bool} (h : Taken amount limits data ret part) :
    ret.quantity limits = requested limits amount data := by
  have hcount := h.count_eq
  rw [requested_eq h.splits_eq]
  cases part with
  | true =>
      obtain ⟨hstacks, -, -⟩ := splits_eq_true.mp h.splits_eq
      have hret := (stacks_of_primaryIdentifier_eq h.primaryIdentifier_eq limits).mpr hstacks
      rw [quantity_of_stacks hret, hcount, if_pos rfl, if_pos rfl]
  | false => exact quantity_congr h.primaryIdentifier_eq (UInt8.toNat_inj.mp hcount) limits

theorem Taken.amountOf_eq {limits : StackLimits} {amount : UInt32} {data ret : ItemData}
    {part : Bool} (h : Taken amount limits data ret part) (k : UInt32) :
    amountOf limits k ret =
      if data.primaryIdentifier = k then requested limits amount data else 0 := by
  rw [amountOf, share, h.quantity_eq, h.primaryIdentifier_eq]

theorem amountOf_withId (limits : StackLimits) (d : ItemData) (newId k : UInt32) :
    amountOf limits k { d with id := newId } = amountOf limits k d := amountOf_congr rfl rfl limits k

theorem accepts_congr {α : Type} {dataOf : α → ItemData} {capacity : Nat} {limits : StackLimits}
    {x y : ItemData} (h : x.primaryIdentifier = y.primaryIdentifier) (count : Nat)
    (entries : List α) :
    Accepts dataOf capacity limits x count entries ↔
      Accepts dataOf capacity limits y count entries := by
  unfold Accepts
  rw [maxStackSize_of_primaryIdentifier_eq h, h]

/-- An item that does not stack takes an entry, whatever it counts. -/
theorem accepts_count_congr {α : Type} {dataOf : α → ItemData} {capacity : Nat}
    {limits : StackLimits} {item : ItemData} {n : Nat} (hmax : item.maxStackSize limits = .ok n)
    (hn : ¬ 1 < n) (count count' : Nat) (entries : List α) :
    Accepts dataOf capacity limits item count entries ↔
      Accepts dataOf capacity limits item count' entries := by
  have hnew : ∀ m, item.maxStackSize limits = .ok m →
      findStack dataOf item.primaryIdentifier m entries = none := by
    intro m hm
    obtain rfl := Except.ok.inj (hmax.symm.trans hm)
    exact if_neg hn
  refine exists_congr fun m => and_congr_right fun hm => ?_
  rw [hnew m hm]

end HuntersGuild.Items
