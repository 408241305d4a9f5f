import HuntersGuild.Items
import HuntersGuild.StatefulPrograms

/-!
Turning an item into another one of its class.
-/

namespace HuntersGuild.PrimaryIdentifiers

open HuntersGuild.ExceptionRules
open HuntersGuild.Items
open HuntersGuild.StatefulPrograms

/-- The class is read at bit 18 of the identifier, six bits below the place
where it is. -/
def changePrimaryIdentifier (primaryIdentifier : UInt32) : EStateM Exception ItemData PUnit := do
  let self ← get
  if (primaryIdentifier >>> 18).toUInt8 ≠ self.data1[0] then
    throw (.runtimeError "cannot change item class via change_primary_identifier")
  else if self.data1[0] = 0 then
    modify (·.withByte 1 (primaryIdentifier >>> 16).toUInt8)
    if !(← get).isSRankWeapon then
      modify (·.withByte 2 (primaryIdentifier >>> 8).toUInt8)
    else if !self.isSRankWeapon then
      modify (·.withByte 2 0)
  else if self.data1[0] = 1 then
    modify (·.withByte 1 (primaryIdentifier >>> 16).toUInt8)
    modify (·.withByte 2 (primaryIdentifier >>> 8).toUInt8)
  else if self.data1[0] = 2 then
    modify (·.withByte 1 (primaryIdentifier >>> 16).toUInt8)
  else if self.data1[0] = 3 then
    modify (·.withByte 1 (primaryIdentifier >>> 16).toUInt8)
    if (primaryIdentifier >>> 16).toUInt8 = 2 then
      modify (·.withByte 4 (primaryIdentifier >>> 8).toUInt8)
      modify (·.withByte 2 primaryIdentifier.toUInt8)
    else
      modify (·.withByte 2 (primaryIdentifier >>> 8).toUInt8)
  else if self.data1[0] ≠ 4 then
    throw (.runtimeError "invalid item class")

/-- The class of the items that have this identifier. -/
def classOf (primaryIdentifier : UInt32) : UInt8 := (primaryIdentifier >>> 24).toUInt8

/-- The identifiers of the items of a class. -/
def Identifies (data1_0 : UInt8) (primaryIdentifier : UInt32) : Prop :=
  ∃ item : ItemData, item.data1[0] = data1_0 ∧ item.primaryIdentifier = primaryIdentifier

/-- The bytes of an item that its primary identifier is made of. -/
def TakesPart (self : ItemData) (z : Fin 12) : Prop :=
  z = 0 ∨ z = 1 ∧ self.data1[0] ≠ 4 ∨
    z = 2 ∧ self.data1[0] ≠ 4 ∧ self.data1[0] ≠ 2 ∧ self.isSRankWeapon = false ∨
    z = 4 ∧ self.data1[0] = 3 ∧ self.data1[1] = 2

/-- An item with another identifier, and with everything else as it was. A
weapon that becomes an S-rank weapon loses its special. -/
structure Changed (primaryIdentifier : UInt32) (before after : ItemData) : Prop where
  primaryIdentifier : after.primaryIdentifier = primaryIdentifier
  id : after.id = before.id
  data2d : after.data2d = before.data2d
  data1 : ∀ z : Fin 12, ¬ TakesPart after z → after.data1[z] = before.data1[z] ∨
    z = 2 ∧ before.isSRankWeapon = false ∧ after.isSRankWeapon = true ∧ after.data1[z] = 0

/-- An identifier of the item's class is taken over, and one of another class
is refused. -/
def Mirrors (self : ItemData) (primaryIdentifier : UInt32) : Prop :=
  (classOf primaryIdentifier = self.data1[0] → Identifies self.data1[0] primaryIdentifier →
    ∃ after, (changePrimaryIdentifier primaryIdentifier).run self = .ok ⟨⟩ after ∧
      Changed primaryIdentifier self after) ∧
  (classOf primaryIdentifier ≠ self.data1[0] →
    ∃ e, (changePrimaryIdentifier primaryIdentifier).run self = .error e self)

/-- In the item's class only the first four kinds of weapons are not refused,
and in another class only what shows the item's class at bit 18 is not. -/
def SetterAgrees (self : ItemData) (primaryIdentifier : UInt32) : Prop :=
  (classOf primaryIdentifier = self.data1[0] → Identifies self.data1[0] primaryIdentifier →
    self.data1[0] = 0 ∧ (primaryIdentifier >>> 16).toUInt8 < 4) ∧
  (classOf primaryIdentifier ≠ self.data1[0] →
    (primaryIdentifier >>> 18).toUInt8 ≠ self.data1[0] ∨ self.data1[0] > 4)

variable {self : ItemData} {p : UInt32}

/-! The bytes of an identifier. -/

theorem toNat_byteAt (p k : UInt32) (hk : k < 32) :
    ((p >>> k).toUInt8).toNat = p.toNat / 2 ^ k.toNat % 256 := by
  have hk' : k.toNat < 32 := hk
  rw [UInt32.toNat_toUInt8, UInt32.toNat_shiftRight, Nat.mod_eq_of_lt hk',
    Nat.shiftRight_eq_div_pow]

/-- What the setter takes for the class, from the class and the byte after it. -/
theorem toNat_shifted (p : UInt32) :
    ((p >>> 18).toUInt8).toNat = (classOf p).toNat % 4 * 64 + (p >>> 16).toUInt8.toNat / 4 := by
  rw [classOf, toNat_byteAt p 18 (by decide), toNat_byteAt p 24 (by decide),
    toNat_byteAt p 16 (by decide)]
  change p.toNat / 2 ^ 18 % 256 = p.toNat / 2 ^ 24 % 256 % 4 * 64 + p.toNat / 2 ^ 16 % 256 / 4
  omega

theorem bytes_of_eq_word {a b c d : UInt8} (h : p = word a b c d) :
    (p >>> 16).toUInt8 = b ∧ (p >>> 8).toUInt8 = c := by
  have ha := a.toNat_lt
  have hb := b.toNat_lt
  have hc := c.toNat_lt
  have hd := d.toNat_lt
  have hnat := toNat_word a b c d
  rw [← h] at hnat
  constructor
  · rw [← UInt8.toNat_inj, toNat_byteAt p 16 (by decide)]
    change p.toNat / 2 ^ 16 % 256 = b.toNat
    omega
  · rw [← UInt8.toNat_inj, toNat_byteAt p 8 (by decide)]
    change p.toNat / 2 ^ 8 % 256 = c.toNat
    omega

theorem isSRankWeapon_of_lt (h : self.data1[1] < 4) : self.isSRankWeapon = false := by
  have hlt : self.data1[1].toNat < 4 := h
  simp only [ItemData.isSRankWeapon, decide_eq_false_iff_not, not_and_or, not_or,
    UInt8.lt_iff_toNat_lt, gt_iff_lt]
  right
  constructor
  · left
    change ¬ 0x6F < _
    omega
  · left
    change ¬ 0xA4 < _
    omega

/-! What the setter does. -/

theorem run_of_shifted_ne (h : (p >>> 18).toUInt8 ≠ self.data1[0]) :
    ∃ e, (changePrimaryIdentifier p).run self = .error e self := by
  unfold changePrimaryIdentifier
  rw [run_get_bind, if_pos h]
  exact ⟨_, rfl⟩

theorem run_of_invalid (h : self.data1[0] > 4) :
    ∃ e, (changePrimaryIdentifier p).run self = .error e self := by
  by_cases hshifted : (p >>> 18).toUInt8 ≠ self.data1[0]
  · exact run_of_shifted_ne hshifted
  have hclass : ∀ c : UInt8, c ≤ 4 → self.data1[0] ≠ c := by
    rintro c hc rfl
    exact absurd h (UInt8.not_lt.mpr hc)
  unfold changePrimaryIdentifier
  rw [run_get_bind, if_neg hshifted, if_neg (hclass 0 (by decide)), if_neg (hclass 1 (by decide)),
    if_neg (hclass 2 (by decide)), if_neg (hclass 3 (by decide)), if_pos (hclass 4 (by decide))]
  exact ⟨_, rfl⟩

/-- Whatever is let through is applied. -/
theorem run_of_shifted_eq (h : (p >>> 18).toUInt8 = self.data1[0]) (hclass : self.data1[0] ≤ 4) :
    ∃ after, (changePrimaryIdentifier p).run self = .ok ⟨⟩ after := by
  unfold changePrimaryIdentifier
  rw [run_get_bind, if_neg (not_not.mpr h)]
  split
  · rw [run_modify_bind, run_get_bind]
    split
    · exact ⟨_, rfl⟩
    · split <;> exact ⟨_, rfl⟩
  · split
    · exact ⟨_, rfl⟩
    · split
      · exact ⟨_, rfl⟩
      · split
        · rw [run_modify_bind]
          split <;> exact ⟨_, rfl⟩
        · split
          · have h4 : self.data1[0] = 4 := by
              simp only [UInt8.le_iff_toNat_le, ← UInt8.toNat_inj] at *
              simp only [UInt8.reduceToNat] at *
              omega
            contradiction
          · exact ⟨_, rfl⟩

/-- A kind of weapon that is let through is applied in two bytes. -/
theorem run_of_weapon (hclass : self.data1[0] = 0) (hshifted : (p >>> 18).toUInt8 = self.data1[0])
    (hkind : (p >>> 16).toUInt8 < 4) :
    (changePrimaryIdentifier p).run self = .ok ⟨⟩
      ((self.withByte 1 (p >>> 16).toUInt8).withByte 2 (p >>> 8).toUInt8) := by
  have hnormal : (self.withByte 1 (p >>> 16).toUInt8).isSRankWeapon = false :=
    isSRankWeapon_of_lt (by simpa using hkind)
  unfold changePrimaryIdentifier
  rw [run_get_bind, if_neg (not_not.mpr hshifted), if_pos hclass, run_modify_bind, run_get_bind,
    hnormal]
  rfl

theorem changed_weapon (hclass : self.data1[0] = 0) (hkind : (p >>> 16).toUInt8 < 4)
    (h : Identifies 0 p) :
    Changed p self ((self.withByte 1 (p >>> 16).toUInt8).withByte 2 (p >>> 8).toUInt8) := by
  obtain ⟨item, hitem, rfl⟩ := h
  have hword : ∃ c, item.primaryIdentifier = word 0 item.data1[1] c 0 ∧
      (item.isSRankWeapon = false → c = item.data1[2]) := by
    unfold ItemData.primaryIdentifier
    rw [if_neg (by simp [hitem]), if_neg (by simp [hitem]), if_neg (by simp [hitem]), hitem]
    split
    · rename_i hsrank
      exact ⟨0, by simp [word], fun hnormal => by rw [hsrank] at hnormal; cases hnormal⟩
    · exact ⟨item.data1[2], by simp [word], fun _ => rfl⟩
  obtain ⟨c, hp, hc⟩ := hword
  obtain ⟨hb, hc'⟩ := bytes_of_eq_word hp
  rw [hb] at hkind
  obtain rfl := hc (isSRankWeapon_of_lt hkind)
  rw [hb, hc']
  refine ⟨?_, rfl, rfl, fun z hz => .inl ?_⟩
  · apply primaryIdentifier_congr
    · simpa [hitem] using hclass
    · simp
    · simp
    · intro h3
      simp [hclass] at h3
  · have hnormal : ((self.withByte 1 item.data1[1]).withByte 2 item.data1[2]).isSRankWeapon =
        false := isSRankWeapon_of_lt (by simpa using hkind)
    have h1 : ¬ z = 1 := fun h => hz (.inr (.inl ⟨h, by simp [hclass]⟩))
    have h2 : ¬ z = 2 :=
      fun h => hz (.inr (.inr (.inl ⟨h, by simp [hclass], by simp [hclass], hnormal⟩)))
    simp [Ne.symm h1, Ne.symm h2]

/-! When the class that the setter sees is the class of the item. -/

theorem weapon_of_shifted_eq (hclass : classOf p = self.data1[0])
    (hid : Identifies self.data1[0] p) (hshifted : (p >>> 18).toUInt8 = self.data1[0])
    (hvalid : self.data1[0] ≤ 4) : self.data1[0] = 0 ∧ (p >>> 16).toUInt8 < 4 := by
  have hsum := toNat_shifted p
  rw [hshifted, hclass] at hsum
  have hle : self.data1[0].toNat ≤ 4 := hvalid
  have hcases : self.data1[0].toNat = 0 ∨ self.data1[0].toNat = 4 := by omega
  obtain h0 | h4 := hcases
  · refine ⟨UInt8.toNat_inj.mp h0, ?_⟩
    change (p >>> 16).toUInt8.toNat < 4
    omega
  · -- meseta has one identifier only, which shows class zero
    obtain ⟨item, hitem, rfl⟩ := hid
    have hmeseta : item.data1[0] = 4 := hitem.trans (UInt8.toNat_inj.mp h4)
    have hzero : (item.primaryIdentifier >>> 16).toUInt8.toNat = 0 := by
      unfold ItemData.primaryIdentifier
      rw [if_pos hmeseta]
      decide
    omega

theorem le_four_or_gt (x : UInt8) : x ≤ 4 ∨ x > 4 := by
  rcases Nat.lt_or_ge 4 x.toNat with h | h
  · exact .inr h
  · exact .inl h

theorem shifted_eq_of_run_ok {after : ItemData}
    (h : (changePrimaryIdentifier p).run self = .ok ⟨⟩ after) :
    (p >>> 18).toUInt8 = self.data1[0] ∧ self.data1[0] ≤ 4 := by
  constructor
  · by_contra hne
    obtain ⟨e, he⟩ := run_of_shifted_ne hne
    cases h.symm.trans he
  · obtain hle | hgt := le_four_or_gt self.data1[0]
    · exact hle
    · obtain ⟨e, he⟩ := run_of_invalid (p := p) hgt
      cases h.symm.trans he

/-- For which items and identifiers the setter is the inverse of the getter. -/
theorem mirrors_iff (self : ItemData) (p : UInt32) : Mirrors self p ↔ SetterAgrees self p := by
  refine and_congr (forall₂_congr fun hclass hid => ?_) (forall_congr' fun hclass => ?_)
  · constructor
    · rintro ⟨after, hrun, -⟩
      obtain ⟨hshifted, hvalid⟩ := shifted_eq_of_run_ok hrun
      exact weapon_of_shifted_eq hclass hid hshifted hvalid
    · rintro ⟨hweapon, hkind⟩
      have hshifted : (p >>> 18).toUInt8 = self.data1[0] := by
        have hlt : (p >>> 16).toUInt8.toNat < 4 := hkind
        rw [← UInt8.toNat_inj, toNat_shifted, hclass, hweapon]
        change 0 % 4 * 64 + (p >>> 16).toUInt8.toNat / 4 = 0
        omega
      exact ⟨_, run_of_weapon hweapon hshifted hkind, changed_weapon hweapon hkind (hweapon ▸ hid)⟩
  · constructor
    · rintro ⟨e, he⟩
      obtain hle | hgt := le_four_or_gt self.data1[0]
      · left
        intro hshifted
        obtain ⟨after, hok⟩ := run_of_shifted_eq hshifted hle
        cases he.symm.trans hok
      · exact .inr hgt
    · rintro (hne | hgt)
      · exact run_of_shifted_ne hne
      · exact run_of_invalid hgt

/-- A weapon cannot be made one of the kinds from the fourth on, nor an armor
another armor. -/
theorem not_mirrors :
    ¬ ∀ (self : ItemData) (primaryIdentifier : UInt32), Mirrors self primaryIdentifier := by
  intro h
  obtain ⟨after, hrun, -⟩ := (h (.ofClass 0 1 1) 0x00040000).1 (by decide)
    ⟨.ofClass 0 4 1, by decide, by decide⟩
  obtain ⟨e, he⟩ : ∃ e, (changePrimaryIdentifier 0x00040000).run (.ofClass 0 1 1) =
      .error e (.ofClass 0 1 1) := ⟨_, rfl⟩
  cases hrun.symm.trans he

end HuntersGuild.PrimaryIdentifiers
