import HuntersGuild.ShopDraws

/-!
What a weapon shop offers, for all tables and all random streams.
-/

namespace HuntersGuild.WeaponShopLegality

open HuntersGuild.ByteStreams
open HuntersGuild.ItemParameters
open HuntersGuild.Items (ItemData data1_withByte)
open HuntersGuild.RandomPrograms
open HuntersGuild.ShopDraws
open HuntersGuild.StatefulPrograms
open HuntersGuild.WeaponShops
open HuntersGuild.WeaponShops.ItemCreator

/-! ## What is to hold -/

structure LegalItem (creator : ItemCreator) (item : ItemData) : Prop where
  isWeapon : item.data1[0] = 0
  grind : ∃ weaponDef, creator.weaponDef (item.data1[1], item.data1[2]) = .ok weaponDef ∧
    item.data1[3] ≤ weaponDef.maxGrind
  bonus1 : item.data1[6] = 0 → item.data1[7] = 0
  bonus2 : item.data1[8] = 0 → item.data1[9] = 0
  bonus3 : item.data1[10] = 0 → item.data1[11] = 0
  types : item.data1[6] = item.data1[8] → item.data1[6] = 0

/-- A shop that may still be filled. -/
structure LegalPart (creator : ItemCreator) (playerLevel : Nat) (shop : List ItemData) : Prop where
  length : shop.length ≤ numItems playerLevel
  nodup : shop.Nodup
  similar : ∀ data1_1 : UInt8, shop.countP (fun item => item.data1[1] = data1_1) ≤ 2
  items : ∀ item ∈ shop, LegalItem creator item

structure Legal (creator : ItemCreator) (playerLevel : Nat) (shop : List ItemData) : Prop
    extends LegalPart creator playerLevel shop where
  full : shop.length = numItems playerLevel
  sorted : shop.Pairwise fun a b => compareForSort b a = false

/-- On every random stream the shop is legal, or the call throws. -/
def IsLegal (creator : ItemCreator) (playerLevel : Nat) : Prop :=
  Yields (creator.generateWeaponShopContents playerLevel) (Legal creator playerLevel) (· ≠ .undefined)

/-! ## When that is so -/

/-- A value that may be drawn from a table. -/
def Drawn (table : Except Exception (ProbabilityTable UInt8 100)) (value : UInt8) : Prop :=
  ∃ pt, table = .ok pt ∧ value ∈ pt.items

variable {creator : ItemCreator} {playerLevel : Nat}

/-- A weapon that may be drawn, with its grind range and its definition. -/
structure WeaponDrawn (creator : ItemCreator) (playerLevel : Nat) (kind : UInt8 × UInt8)
    (range : RangeTableEntry) (weaponDef : WeaponV4) : Prop where
  drawn : ∃ which, Drawn (creator.typeTable playerLevel) which ∧ creator.weaponKind which = .ok kind
  grindRange : creator.grindRange playerLevel kind.1 = .ok range
  definition : creator.weaponDef kind = .ok weaponDef

/-- A special mode that leads to a special. -/
def SpecialDrawn (creator : ItemCreator) (playerLevel : Nat) : Prop :=
  Drawn (creator.specialTable playerLevel) 0 ∨
    (Drawn (creator.specialTable playerLevel) 1 ∧ ∃ number < 8, ∃ special, creator.specialFor 0 number = .ok special) ∨
    (Drawn (creator.specialTable playerLevel) 2 ∧ ∃ number < 10, ∃ special, creator.specialFor 1 number = .ok special)

/-- A type of the first bonus that leads to an amount. -/
def Bonus1Drawn (creator : ItemCreator) (playerLevel : Nat) (type : UInt8) : Prop :=
  Drawn (creator.bonusTable 0 (bonus1Index playerLevel)) type ∧
    (type ≠ 0 → ∃ range, creator.weaponRandomSet.getBonusRange 0 (bonus1Index playerLevel) = .ok range ∧
      range.min.toNat < bonusValues.length)

/-- The ranges that may be used have an end that can be counted up to, and no
weapon has a least grind above its greatest one. -/
structure RangesDefined (creator : ItemCreator) (playerLevel : Nat) : Prop where
  grind : ∀ kind range weaponDef, WeaponDrawn creator playerLevel kind range weaponDef →
    range.max ≠ 0xFFFFFFFF ∧ range.min.toUInt8 ≤ weaponDef.maxGrind
  bonus1 : (∃ kind range weaponDef, WeaponDrawn creator playerLevel kind range weaponDef) →
    SpecialDrawn creator playerLevel →
    ∀ type range, Drawn (creator.bonusTable 0 (bonus1Index playerLevel)) type → type ≠ 0 →
      creator.weaponRandomSet.getBonusRange 0 (bonus1Index playerLevel) = .ok range →
      range.max ≠ 0xFFFFFFFF
  bonus2 : (∃ kind range weaponDef, WeaponDrawn creator playerLevel kind range weaponDef) →
    SpecialDrawn creator playerLevel → ∀ type1, Bonus1Drawn creator playerLevel type1 →
    ∀ type range, Drawn (creator.bonusTable 1 (bonus2Index playerLevel)) type → type ≠ 0 → type ≠ type1 →
      creator.weaponRandomSet.getBonusRange 1 (bonus2Index playerLevel) = .ok range →
      range.max ≠ 0xFFFFFFFF

/-! ## The parts of a weapon on every stream -/

theorem endpoint_ne_zero {max : UInt32} (h : max ≠ 0xFFFFFFFF) : (max + 1).toUInt64 ≠ 0 := by
  intro hzero
  have hnat : (max + 1).toNat = 0 := by
    rw [← UInt32.toNat_toUInt64, hzero]
    rfl
  rw [UInt32.toNat_add] at hnat
  have hlt := max.toNat_lt
  refine h (UInt32.toNat_inj.mp ?_)
  change max.toNat = 4294967295
  change (max.toNat + 1) % 2 ^ 32 = 0 at hnat
  omega

theorem clamp_of_le {v lo hi : UInt8} (h : lo ≤ hi) : ∃ grind, clamp v lo hi = .ok grind ∧ grind ≤ hi := by
  unfold clamp
  rw [if_neg (UInt8.not_lt.mpr h)]
  refine ⟨_, rfl, ?_⟩
  split_ifs with hlo hhi
  · exact h
  · exact UInt8.le_refl hi
  · exact UInt8.not_lt.mp hhi

theorem clamp_of_lt {v lo hi : UInt8} (h : hi < lo) : clamp v lo hi = .error .undefined := if_pos h

section Every

variable {item : ItemData} {which : Nat} {tableIndex : Nat}

theorem yields_grind
    (h : ∀ range weaponDef, creator.grindRange playerLevel item.data1[1] = .ok range →
      creator.weaponDef (item.data1[1], item.data1[2]) = .ok weaponDef →
      range.max ≠ 0xFFFFFFFF ∧ range.min.toUInt8 ≤ weaponDef.maxGrind) :
    Yields (creator.generateWeaponShopItemGrind playerLevel item)
      (fun item' => ∃ grind range weaponDef, item' = item.withByte 3 grind ∧
        creator.grindRange playerLevel item.data1[1] = .ok range ∧
        creator.weaponDef (item.data1[1], item.data1[2]) = .ok weaponDef ∧ grind ≤ weaponDef.maxGrind)
      (· ≠ .undefined) := by
  refine (yields_proper (proper_grindRange _)).bind fun range hrange => ?_
  refine (yields_proper (proper_weaponDef _)).bind fun weaponDef hdef => ?_
  obtain ⟨hmax, hmin⟩ := h range weaponDef hrange hdef
  refine (yields_randInt (endpoint_ne_zero hmax)).bind fun r _ => ?_
  obtain ⟨grind, hclamp, hle⟩ := clamp_of_le (v := r.toUInt8) hmin
  rw [hclamp]
  exact yields_pure ⟨grind, range, weaponDef, rfl, hrange, hdef, hle⟩

theorem yields_chooseWeaponSpecial (det : Nat) {max : UInt64} (hmax : specialMaxes[det]? = some max)
    (hne : max ≠ 0) :
    Yields (creator.chooseWeaponSpecial det)
      (fun special => ∃ number < max.toNat, creator.specialFor det number = .ok special)
      (· ≠ .undefined) := by
  unfold ItemCreator.chooseWeaponSpecial
  rw [hmax]
  refine (yields_randInt hne).bind fun r hr => ?_
  refine (yields_proper (proper_findSpecial _ _ _ _)).mono fun special hspecial => ?_
  refine ⟨_, ?_, hspecial⟩
  rw [UInt32.toNat_toUInt8]
  exact Nat.lt_of_le_of_lt (Nat.mod_le _ _) hr

theorem yields_special :
    Yields (creator.generateWeaponShopItemSpecial playerLevel item)
      (fun item' => SpecialDrawn creator playerLevel ∧ ∃ special, item' = item.withByte 4 special)
      (· ≠ .undefined) := by
  refine (yields_proper proper_specialTable).bind fun pt hpt => yields_sample.bind fun mode hmode => ?_
  have hdrawn : Drawn (creator.specialTable playerLevel) mode := ⟨pt, hpt, hmode⟩
  split_ifs with h0 h1 h2
  · subst h0
    exact yields_pure ⟨.inl hdrawn, 0, rfl⟩
  · subst h1
    refine (yields_chooseWeaponSpecial 0 rfl (by decide)).bind fun special hspecial => ?_
    obtain ⟨number, hlt, hfound⟩ := hspecial
    exact yields_pure ⟨.inr (.inl ⟨hdrawn, number, hlt, special, hfound⟩), special, rfl⟩
  · subst h2
    refine (yields_chooseWeaponSpecial 1 rfl (by decide)).bind fun special hspecial => ?_
    obtain ⟨number, hlt, hfound⟩ := hspecial
    exact yields_pure ⟨.inr (.inr ⟨hdrawn, number, hlt, special, hfound⟩), special, rfl⟩
  · exact yields_throw (by simp)

theorem yields_bonusAmount
    (h : ∀ range, creator.weaponRandomSet.getBonusRange which tableIndex = .ok range →
      range.max ≠ 0xFFFFFFFF) :
    Yields (creator.bonusAmount which tableIndex)
      (fun _ => ∃ range, creator.weaponRandomSet.getBonusRange which tableIndex = .ok range ∧
        range.min.toNat < bonusValues.length)
      (· ≠ .undefined) := by
  refine (yields_proper (proper_getRange _ _ _)).bind fun range hrange => ?_
  refine (yields_randInt (endpoint_ne_zero (h range hrange))).bind fun r _ => ?_
  refine (yields_proper (proper_at? _ _)).bind fun value hvalue => yields_pure ⟨range, hrange, ?_⟩
  unfold at? at hvalue
  rcases hget : bonusValues[max r.toNat range.min.toNat]? with _ | v
  · rw [hget] at hvalue
    cases hvalue
  · have hlt := (List.getElem?_eq_some_iff.mp hget).1
    exact Nat.lt_of_le_of_lt (Nat.le_max_right _ _) hlt

theorem yields_bonus1
    (h : ∀ type range, Drawn (creator.bonusTable 0 (bonus1Index playerLevel)) type → type ≠ 0 →
      creator.weaponRandomSet.getBonusRange 0 (bonus1Index playerLevel) = .ok range →
      range.max ≠ 0xFFFFFFFF) :
    Yields (creator.generateWeaponShopItemBonus1 playerLevel item)
      (fun item' => ∃ type value, Bonus1Drawn creator playerLevel type ∧ (type = 0 → value = 0) ∧
        item' = (item.withByte 6 type).withByte 7 value)
      (· ≠ .undefined) := by
  refine (yields_proper (proper_bonusTable _ _)).bind fun pt hpt => yields_sample.bind fun type htype => ?_
  have hdrawn : Drawn (creator.bonusTable 0 (bonus1Index playerLevel)) type := ⟨pt, hpt, htype⟩
  split_ifs with hzero
  · exact yields_pure ⟨type, 0, ⟨hdrawn, fun hne => absurd hzero hne⟩, fun _ => rfl, rfl⟩
  · refine (yields_bonusAmount fun range hrange => h type range hdrawn hzero hrange).bind ?_
    intro value hrange
    exact yields_pure ⟨type, value, ⟨hdrawn, fun _ => hrange⟩, fun h0 => absurd h0 hzero, rfl⟩

theorem popOtherType_eq_ok {otherType type : UInt8} {pops : List UInt8}
    (h : popOtherType otherType pops = .ok type) : type ∈ pops ∧ (type = otherType → type = 0) := by
  induction pops with
  | nil => cases h
  | cons first pops ih =>
      unfold popOtherType at h
      split_ifs at h with hsame
      · obtain ⟨hmem, htype⟩ := ih h
        exact ⟨List.mem_cons_of_mem _ hmem, htype⟩
      · obtain rfl := Except.ok.inj h
        refine ⟨List.mem_cons_self, fun heq => ?_⟩
        by_contra hne
        exact hsame ⟨hne, heq⟩

theorem yields_bonus2
    (h : ∀ type range, Drawn (creator.bonusTable 1 (bonus2Index playerLevel)) type → type ≠ 0 →
      type ≠ item.data1[6] →
      creator.weaponRandomSet.getBonusRange 1 (bonus2Index playerLevel) = .ok range →
      range.max ≠ 0xFFFFFFFF) :
    Yields (creator.generateWeaponShopItemBonus2 playerLevel item)
      (fun item' => ∃ type value, (type = item.data1[6] → type = 0) ∧ (type = 0 → value = 0) ∧
        item' = (item.withByte 8 type).withByte 9 value)
      (· ≠ .undefined) := by
  refine (yields_proper (proper_bonusTable _ _)).bind fun pt hpt => ?_
  refine yields_shuffle.bind fun shuffled hperm => ?_
  refine (yields_proper (proper_popOtherType _ _)).bind fun type hpop => ?_
  obtain ⟨hmem, hother⟩ := popOtherType_eq_ok hpop
  have hdrawn : Drawn (creator.bonusTable 1 (bonus2Index playerLevel)) type :=
    ⟨pt, hpt, hperm.mem_iff.mp (List.mem_reverse.mp hmem)⟩
  split_ifs with hzero
  · exact yields_pure ⟨type, 0, hother, fun _ => rfl, rfl⟩
  · refine (yields_bonusAmount fun range hrange =>
      h type range hdrawn hzero (fun heq => hzero (hother heq)) hrange).bind ?_
    intro value _
    exact yields_pure ⟨type, value, hother, fun h0 => absurd h0 hzero, rfl⟩

theorem yields_weapon (h : RangesDefined creator playerLevel) {which : UInt8}
    (hwhich : Drawn (creator.typeTable playerLevel) which) :
    Yields (creator.generateWeapon playerLevel which) (LegalItem creator) (· ≠ .undefined) := by
  refine (yields_proper (proper_weaponKind _)).bind fun kind hkind => ?_
  have hdata1 : (((ItemData.cleared.withByte 0 0).withByte 1 kind.1).withByte 2 kind.2).data1[1] = kind.1 := by
    simp
  have hdata2 : (((ItemData.cleared.withByte 0 0).withByte 1 kind.1).withByte 2 kind.2).data1[2] = kind.2 := by
    simp
  have hdata0 : (((ItemData.cleared.withByte 0 0).withByte 1 kind.1).withByte 2 kind.2).data1[0] = 0 := by
    simp
  generalize ((ItemData.cleared.withByte 0 0).withByte 1 kind.1).withByte 2 kind.2 = item
    at hdata0 hdata1 hdata2
  refine (yields_grind fun range weaponDef hrange hdef => ?_).bind ?_
  · rw [hdata1] at hrange hdef
    rw [hdata2] at hdef
    exact h.grind kind range weaponDef ⟨⟨which, hwhich, hkind⟩, hrange, hdef⟩
  · rintro _ ⟨grind, range, weaponDef, rfl, hrange, hdef, hgrind⟩
    have hweapon : ∃ kind range weaponDef, WeaponDrawn creator playerLevel kind range weaponDef := by
      rw [hdata1] at hrange hdef
      rw [hdata2] at hdef
      exact ⟨kind, range, weaponDef, ⟨which, hwhich, hkind⟩, hrange, hdef⟩
    refine yields_special.bind ?_
    rintro _ ⟨hspecial, special, rfl⟩
    refine (yields_bonus1 (h.bonus1 hweapon hspecial)).bind ?_
    rintro _ ⟨type1, value1, hbonus1, hvalue1, rfl⟩
    refine (yields_bonus2 ?_).bind ?_
    · intro type range' hdrawn hne hother
      exact h.bonus2 hweapon hspecial type1 hbonus1 type range' hdrawn hne (by simpa using hother)
    · rintro _ ⟨type2, value2, hother, hvalue2, rfl⟩
      refine yields_pure ⟨?_, ⟨weaponDef, ?_, ?_⟩, ?_, ?_, ?_, ?_⟩
      · simpa using hdata0
      · simpa using hdef
      · simpa using hgrind
      · simpa using hvalue1
      · simpa using hvalue2
      · simp
      · intro heq
        have htypes : type1 = type2 := by simpa using heq
        have hzero : type2 = 0 := hother (by simpa using htypes.symm)
        simpa [htypes] using hzero

end Every

/-! ## The shop on every stream -/

theorem LegalPart.add {shop : List ItemData} {item : ItemData} (h : LegalPart creator playerLevel shop)
    (hlength : shop.length < numItems playerLevel) (hitem : LegalItem creator item)
    (hcheck : shopDoesNotContainDuplicateOrTooManySimilarWeapons shop item = true) :
    LegalPart creator playerLevel (shop ++ [item]) := by
  unfold shopDoesNotContainDuplicateOrTooManySimilarWeapons at hcheck
  rw [Bool.and_eq_true, List.all_eq_true, decide_eq_true_eq] at hcheck
  obtain ⟨hne, hcount⟩ := hcheck
  refine ⟨?_, ?_, fun data1_1 => ?_, ?_⟩
  · rw [List.length_append]
    exact hlength
  · refine List.nodup_append.mpr ⟨h.nodup, List.nodup_singleton item, ?_⟩
    intro a ha b hb heq
    obtain rfl := List.mem_singleton.mp hb
    exact of_decide_eq_true (hne a ha) heq
  · rw [List.countP_append, List.countP_singleton]
    split_ifs with hclass
    · have hsame : shop.countP (fun shopItem => shopItem.data1[1] = data1_1) =
          shop.countP (fun shopItem =>
            shopItem.data1[0] = item.data1[0] ∧ shopItem.data1[1] = item.data1[1]) := by
        refine List.countP_congr fun shopItem hmem => ?_
        rw [decide_eq_true_eq, decide_eq_true_eq, (h.items shopItem hmem).isWeapon, hitem.isWeapon,
          of_decide_eq_true hclass]
        exact (and_iff_right rfl).symm
      omega
    · exact h.similar data1_1
  · intro a ha
    rcases List.mem_append.mp ha with ha | ha
    · exact h.items a ha
    · obtain rfl := List.mem_singleton.mp ha
      exact hitem

theorem yields_fillShop (hdefined : RangesDefined creator playerLevel) (pops : List UInt8)
    (hpops : ∀ which ∈ pops, Drawn (creator.typeTable playerLevel) which) (shop : List ItemData)
    (h : LegalPart creator playerLevel shop) :
    Yields (creator.fillShop playerLevel pops shop)
      (fun shop' => LegalPart creator playerLevel shop' ∧ shop'.length = numItems playerLevel)
      (· ≠ .undefined) := by
  induction pops generalizing shop with
  | nil =>
      unfold ItemCreator.fillShop
      split_ifs with hlength
      · exact yields_throw (by simp)
      · exact yields_pure ⟨h, Nat.le_antisymm h.length (Nat.not_lt.mp hlength)⟩
  | cons which pops ih =>
      obtain ⟨hwhich, hpops⟩ := List.forall_mem_cons.mp hpops
      unfold ItemCreator.fillShop
      split_ifs with hlength
      · refine (yields_weapon hdefined hwhich).bind fun item hitem => ih hpops _ ?_
        split_ifs with hcheck
        · exact h.add hlength hitem hcheck
        · exact h
      · exact yields_pure ⟨h, Nat.le_antisymm h.length (Nat.not_lt.mp hlength)⟩

theorem compareBytes_asymm (as bs : List UInt8) (h : compareBytes as bs = true) :
    compareBytes bs as = false := by
  induction as generalizing bs with
  | nil => cases h
  | cons a as ih =>
      cases bs with
      | nil => cases h
      | cons b bs =>
          unfold compareBytes at h ⊢
          grind

theorem compareBytes_trans {as bs cs : List UInt8} (hab : as.length = bs.length)
    (hbc : bs.length = cs.length) (hba : compareBytes bs as = false)
    (hcb : compareBytes cs bs = false) : compareBytes cs as = false := by
  induction as generalizing bs cs with
  | nil =>
      obtain rfl := List.length_eq_zero_iff.mp hab.symm
      obtain rfl := List.length_eq_zero_iff.mp hbc.symm
      rfl
  | cons a as ih =>
      cases bs with
      | nil => cases hab
      | cons b bs =>
          cases cs with
          | nil => cases hbc
          | cons c cs =>
              have hrest := @ih bs cs (Nat.succ.inj hab) (Nat.succ.inj hbc)
              unfold compareBytes at hba hcb ⊢
              grind

theorem length_sortBytes (item : ItemData) : (sortBytes item).length = 16 := by
  simp [sortBytes]

instance : Std.Total fun a b : ItemData => compareForSort b a = false where
  total a b := by
    rcases hab : compareForSort a b with _ | _
    · exact .inr rfl
    · exact .inl (compareBytes_asymm _ _ hab)

instance : IsTrans ItemData fun a b => compareForSort b a = false where
  trans a b c hba hcb := compareBytes_trans (by rw [length_sortBytes, length_sortBytes])
    (by rw [length_sortBytes, length_sortBytes]) hba hcb

theorem LegalPart.perm {shop shop' : List ItemData} (h : LegalPart creator playerLevel shop)
    (hperm : shop'.Perm shop) : LegalPart creator playerLevel shop' where
  length := hperm.length_eq.trans_le h.length
  nodup := hperm.nodup_iff.mpr h.nodup
  similar data1_1 := (hperm.countP_eq _).trans_le (h.similar data1_1)
  items item hitem := h.items item (hperm.mem_iff.mp hitem)

theorem isLegal_of_rangesDefined (h : RangesDefined creator playerLevel) :
    IsLegal creator playerLevel := by
  refine (yields_proper proper_typeTable).bind fun pt hpt => ?_
  refine yields_shuffle.bind fun shuffled hperm => ?_
  have hpops (which : UInt8) (hwhich : which ∈ shuffled.pops) :
      Drawn (creator.typeTable playerLevel) which :=
    ⟨pt, hpt, hperm.mem_iff.mp (List.mem_reverse.mp hwhich)⟩
  have hempty : LegalPart creator playerLevel [] :=
    ⟨Nat.zero_le _, List.nodup_nil, fun _ => Nat.zero_le _, fun item hitem => nomatch hitem⟩
  refine (yields_fillShop h _ hpops [] hempty).bind ?_
  rintro shop ⟨hpart, hfull⟩
  have hsorted := List.perm_insertionSort (fun a b => compareForSort b a = false) shop
  exact yields_pure ⟨hpart.perm hsorted, hsorted.length_eq.trans hfull,
    List.pairwise_insertionSort _ shop⟩

/-! ## The parts of a weapon on some stream -/

section Some

variable {item : ItemData} {which tableIndex : Nat} {kind : UInt8 × UInt8} {range : RangeTableEntry}
  {weaponDef : WeaponV4}

theorem endpoint_eq_zero {max : UInt32} (h : max = 0xFFFFFFFF) : (max + 1).toUInt64 = 0 := by
  subst h
  rfl

theorem can_randInt_zero {max : UInt32} (h : max ≠ 0xFFFFFFFF) : Can (randInt (max + 1).toUInt64) 0 :=
  can_randInt (Nat.pos_of_ne_zero fun hzero => endpoint_ne_zero h (UInt64.toNat_inj.mp hzero))

theorem can_grind (hrange : creator.grindRange playerLevel item.data1[1] = .ok range)
    (hdef : creator.weaponDef (item.data1[1], item.data1[2]) = .ok weaponDef)
    (hmax : range.max ≠ 0xFFFFFFFF) (hmin : range.min.toUInt8 ≤ weaponDef.maxGrind) :
    ∃ grind, Can (creator.generateWeaponShopItemGrind playerLevel item) (item.withByte 3 grind) := by
  obtain ⟨grind, hclamp, -⟩ := clamp_of_le (v := (0 : UInt32).toUInt8) hmin
  refine ⟨grind, (can_fromExcept hrange).bind ((can_fromExcept hdef).bind ?_)⟩
  exact (can_randInt_zero hmax).bind ((can_fromExcept hclamp).bind (can_pure _))

theorem canThrow_grind (hrange : creator.grindRange playerLevel item.data1[1] = .ok range)
    (hdef : creator.weaponDef (item.data1[1], item.data1[2]) = .ok weaponDef)
    (hbad : ¬ (range.max ≠ 0xFFFFFFFF ∧ range.min.toUInt8 ≤ weaponDef.maxGrind)) :
    CanThrow (creator.generateWeaponShopItemGrind playerLevel item) .undefined := by
  refine (can_fromExcept hrange).bind_throw ((can_fromExcept hdef).bind_throw ?_)
  by_cases hmax : range.max = 0xFFFFFFFF
  · rw [endpoint_eq_zero hmax]
    exact canThrow_randInt.bind
  · have hmin : weaponDef.maxGrind < range.min.toUInt8 :=
      UInt8.not_le.mp fun hmin => hbad ⟨hmax, hmin⟩
    refine (can_randInt_zero hmax).bind_throw ?_
    exact (canThrow_fromExcept (clamp_of_lt hmin)).bind

theorem can_chooseWeaponSpecial {det number : Nat} {max : UInt64} {special : UInt8}
    (hmax : specialMaxes[det]? = some max) (hnumber : number < max.toNat) (hsmall : number < 256)
    (h : creator.specialFor det number = .ok special) :
    Can (creator.chooseWeaponSpecial det) special := by
  unfold ItemCreator.chooseWeaponSpecial
  rw [hmax]
  have hnat : (UInt32.ofNat number).toNat = number := UInt32.toNat_ofNat_of_lt' (by
    change number < 2 ^ 32
    omega)
  refine (can_randInt (r := .ofNat number) (by rw [hnat]; exact hnumber)).bind ?_
  rw [UInt32.toNat_toUInt8, hnat, Nat.mod_eq_of_lt hsmall]
  exact can_fromExcept h

theorem can_special (h : SpecialDrawn creator playerLevel) :
    ∃ special, Can (creator.generateWeaponShopItemSpecial playerLevel item)
      (item.withByte 4 special) := by
  rcases h with ⟨pt, hpt, hmem⟩ | ⟨⟨pt, hpt, hmem⟩, number, hlt, special, hfound⟩ |
    ⟨⟨pt, hpt, hmem⟩, number, hlt, special, hfound⟩
  · refine ⟨0, (can_fromExcept hpt).bind ((can_sample (by decide) hmem).bind ?_)⟩
    exact can_pure _
  · refine ⟨special, (can_fromExcept hpt).bind ((can_sample (by decide) hmem).bind ?_)⟩
    exact (can_chooseWeaponSpecial rfl hlt (by omega) hfound).bind (can_pure _)
  · refine ⟨special, (can_fromExcept hpt).bind ((can_sample (by decide) hmem).bind ?_)⟩
    exact (can_chooseWeaponSpecial rfl hlt (by omega) hfound).bind (can_pure _)

theorem can_bonusAmount (hrange : creator.weaponRandomSet.getBonusRange which tableIndex = .ok range)
    (hmax : range.max ≠ 0xFFFFFFFF) (hmin : range.min.toNat < bonusValues.length) :
    ∃ value, Can (creator.bonusAmount which tableIndex) value := by
  have hvalue : at? bonusValues (max (0 : UInt32).toNat range.min.toNat) = .ok bonusValues[range.min.toNat] := by
    unfold at?
    rw [UInt32.toNat_zero, Nat.zero_max, List.getElem?_eq_getElem hmin]
  refine ⟨bonusValues[range.min.toNat].toUInt8,
    (can_fromExcept hrange).bind ((can_randInt_zero hmax).bind ?_)⟩
  exact (can_fromExcept hvalue).bind (can_pure _)

theorem canThrow_bonusAmount
    (hrange : creator.weaponRandomSet.getBonusRange which tableIndex = .ok range)
    (hmax : range.max = 0xFFFFFFFF) : CanThrow (creator.bonusAmount which tableIndex) .undefined := by
  refine (can_fromExcept hrange).bind_throw ?_
  rw [endpoint_eq_zero hmax]
  exact canThrow_randInt.bind

theorem can_bonus1 {type : UInt8} (h : Bonus1Drawn creator playerLevel type)
    (hmax : ∀ range, type ≠ 0 →
      creator.weaponRandomSet.getBonusRange 0 (bonus1Index playerLevel) = .ok range →
      range.max ≠ 0xFFFFFFFF) :
    ∃ value, Can (creator.generateWeaponShopItemBonus1 playerLevel item)
      ((item.withByte 6 type).withByte 7 value) := by
  obtain ⟨⟨pt, hpt, hmem⟩, hamount⟩ := h
  by_cases hzero : type = 0
  · refine ⟨0, (can_fromExcept hpt).bind ((can_sample (by decide) hmem).bind ?_)⟩
    rw [if_pos hzero]
    exact can_pure _
  · obtain ⟨range, hrange, hmin⟩ := hamount hzero
    obtain ⟨value, hvalue⟩ := can_bonusAmount hrange (hmax range hzero hrange) hmin
    refine ⟨value, (can_fromExcept hpt).bind ((can_sample (by decide) hmem).bind ?_)⟩
    rw [if_neg hzero]
    exact hvalue.bind (can_pure _)

theorem canThrow_bonus1 {type : UInt8}
    (hdrawn : Drawn (creator.bonusTable 0 (bonus1Index playerLevel)) type) (hne : type ≠ 0)
    (hrange : creator.weaponRandomSet.getBonusRange 0 (bonus1Index playerLevel) = .ok range)
    (hmax : range.max = 0xFFFFFFFF) :
    CanThrow (creator.generateWeaponShopItemBonus1 playerLevel item) .undefined := by
  obtain ⟨pt, hpt, hmem⟩ := hdrawn
  refine (can_fromExcept hpt).bind_throw ((can_sample (by decide) hmem).bind_throw ?_)
  rw [if_neg hne]
  exact (canThrow_bonusAmount hrange hmax).bind

theorem popOtherType_of_ne {otherType type : UInt8} (hne : type ≠ otherType) {pops : List UInt8}
    (h : pops.head? = some type) : popOtherType otherType pops = .ok type := by
  obtain ⟨rest, rfl⟩ := List.head?_eq_some_iff.mp h
  exact if_neg fun hsame => hne hsame.2

theorem canThrow_bonus2 {type : UInt8}
    (hdrawn : Drawn (creator.bonusTable 1 (bonus2Index playerLevel)) type) (hne : type ≠ 0)
    (hother : type ≠ item.data1[6])
    (hrange : creator.weaponRandomSet.getBonusRange 1 (bonus2Index playerLevel) = .ok range)
    (hmax : range.max = 0xFFFFFFFF) :
    CanThrow (creator.generateWeaponShopItemBonus2 playerLevel item) .undefined := by
  obtain ⟨pt, hpt, hmem⟩ := hdrawn
  obtain ⟨shuffled, hshuffle, hhead⟩ := can_shuffle (by decide) hmem
  refine (can_fromExcept hpt).bind_throw (hshuffle.bind_throw ?_)
  refine (can_fromExcept (popOtherType_of_ne hother hhead)).bind_throw ?_
  rw [if_neg hne]
  exact (canThrow_bonusAmount hrange hmax).bind

/-- Each weapon may be the first one in the shop. -/
theorem canThrow_shop {which : UInt8} (hwhich : Drawn (creator.typeTable playerLevel) which)
    (h : CanThrow (creator.generateWeapon playerLevel which) .undefined) :
    CanThrow (creator.generateWeaponShopContents playerLevel) .undefined := by
  obtain ⟨pt, hpt, hmem⟩ := hwhich
  obtain ⟨shuffled, hshuffle, hhead⟩ := can_shuffle (by decide) hmem
  refine (can_fromExcept hpt).bind_throw (hshuffle.bind_throw ?_)
  obtain ⟨rest, hpops⟩ := List.head?_eq_some_iff.mp hhead
  rw [hpops]
  unfold ItemCreator.fillShop
  have hpos : ([] : List ItemData).length < numItems playerLevel := by
    unfold numItems
    split_ifs <;> decide
  rw [if_pos hpos]
  exact h.bind.bind

/-- The item that a weapon starts as. -/
def blankWeapon (kind : UInt8 × UInt8) : ItemData :=
  ((ItemData.cleared.withByte 0 0).withByte 1 kind.1).withByte 2 kind.2

theorem WeaponDrawn.blank (h : WeaponDrawn creator playerLevel kind range weaponDef) :
    creator.grindRange playerLevel (blankWeapon kind).data1[1] = .ok range ∧
      creator.weaponDef ((blankWeapon kind).data1[1], (blankWeapon kind).data1[2]) = .ok weaponDef := by
  have hdata1 : (blankWeapon kind).data1[1] = kind.1 := by simp [blankWeapon]
  have hdata2 : (blankWeapon kind).data1[2] = kind.2 := by simp [blankWeapon]
  rw [hdata1, hdata2]
  exact ⟨h.grindRange, h.definition⟩

theorem rangesDefined_of_isLegal (h : IsLegal creator playerLevel) :
    RangesDefined creator playerLevel := by
  have hnever (hthrow : CanThrow (creator.generateWeaponShopContents playerLevel) .undefined) :
      False := hthrow.of_yields h rfl
  have hgrind (kind range weaponDef) (hdrawn : WeaponDrawn creator playerLevel kind range weaponDef) :
      range.max ≠ 0xFFFFFFFF ∧ range.min.toUInt8 ≤ weaponDef.maxGrind := by
    by_contra hbad
    obtain ⟨which, hwhich, hkind⟩ := hdrawn.drawn
    obtain ⟨hrange, hdef⟩ := hdrawn.blank
    refine hnever (canThrow_shop hwhich ((can_fromExcept hkind).bind_throw ?_))
    exact (canThrow_grind hrange hdef hbad).bind
  -- a weapon and a special that can be drawn lead up to the bonuses
  have hbonuses {kind range weaponDef} (hdrawn : WeaponDrawn creator playerLevel kind range weaponDef)
      (hspecial : SpecialDrawn creator playerLevel)
      (hthrow : ∀ item, CanThrow (do
        let item ← creator.generateWeaponShopItemBonus1 playerLevel item
        let item ← creator.generateWeaponShopItemBonus2 playerLevel item
        return (item.withByte 10 0).withByte 11 0) .undefined) : False := by
    obtain ⟨which, hwhich, hkind⟩ := hdrawn.drawn
    obtain ⟨hrange, hdef⟩ := hdrawn.blank
    obtain ⟨hmax, hmin⟩ := hgrind kind range weaponDef hdrawn
    obtain ⟨grind, hcanGrind⟩ := can_grind hrange hdef hmax hmin
    obtain ⟨special, hcanSpecial⟩ := @can_special _ _ ((blankWeapon kind).withByte 3 grind) hspecial
    refine hnever (canThrow_shop hwhich ((can_fromExcept hkind).bind_throw ?_))
    exact hcanGrind.bind_throw (hcanSpecial.bind_throw (hthrow _))
  have hbonus1 (hweapon : ∃ kind range weaponDef, WeaponDrawn creator playerLevel kind range weaponDef)
      (hspecial : SpecialDrawn creator playerLevel) (type range)
      (hdrawn : Drawn (creator.bonusTable 0 (bonus1Index playerLevel)) type) (hne : type ≠ 0)
      (hrange : creator.weaponRandomSet.getBonusRange 0 (bonus1Index playerLevel) = .ok range) :
      range.max ≠ 0xFFFFFFFF := by
    intro hmax
    obtain ⟨kind, grindRange, weaponDef, hweapon⟩ := hweapon
    exact hbonuses hweapon hspecial fun item => (canThrow_bonus1 hdrawn hne hrange hmax).bind
  refine ⟨hgrind, hbonus1, ?_⟩
  intro hweapon hspecial type1 htype1 type range hdrawn hne hother hrange hmax
  obtain ⟨kind, grindRange, weaponDef, hdrawnWeapon⟩ := hweapon
  refine hbonuses hdrawnWeapon hspecial fun item => ?_
  obtain ⟨value, hcan⟩ := @can_bonus1 _ _ item _ htype1 fun range1 hne1 hrange1 =>
    hbonus1 ⟨kind, grindRange, weaponDef, hdrawnWeapon⟩ hspecial type1 range1 htype1.1 hne1 hrange1
  refine hcan.bind_throw (CanThrow.bind ?_)
  refine canThrow_bonus2 hdrawn hne ?_ hrange hmax
  simpa using hother

end Some

/-- The shop is legal on every random stream exactly when the ranges that may be
used are ones that the calls are defined for. -/
theorem isLegal_iff : IsLegal creator playerLevel ↔ RangesDefined creator playerLevel :=
  ⟨rangesDefined_of_isLegal, isLegal_of_rangesDefined⟩

/-- A table with one weapon type, and a grind range from five to five. -/
def sampleSet : WeaponRandomSet :=
  ⟨[0, 0, 0, 8, 1, 0, 0, 0] ++ [0, 1, 0, 0, 0, 0, 0, 0] ++ [0, 0, 0, 5, 0, 0, 0, 5] ++
    List.replicate 24 0 ++ [0, 0, 0, 16] ++ [0, 0, 0, 16] ++ [0, 0, 0, 24] ++ List.replicate 12 0,
    0, 0, 0, 0, 0, 0, 16, 16⟩

/-- A table with one weapon, which cannot be ground. -/
def sampleTable : ItemParameterTable :=
  ⟨.bbV4, List.replicate 8 0 ++ [1, 0, 0, 0] ++ [16, 0, 0, 0] ++ List.replicate 0x2C 0 ++
    List.replicate 0x5C 0 ++ [60, 0, 0, 0] ++ List.replicate 12 0, .v4, ⟨0, 0, 0, 0, 0, 0, 0⟩,
    0xED, 0x1B, 0x29⟩

def sampleCreator : ItemCreator := ⟨.normal, 0, sampleSet, sampleTable⟩

theorem IsLegal.outcome_ne (h : IsLegal creator playerLevel) (s : Stream' UInt32) :
    outcome ((creator.generateWeaponShopContents playerLevel).run s) ≠ .error .undefined := by
  have hs := h s
  rcases hrun : (creator.generateWeaponShopContents playerLevel).run s with ⟨shop, s'⟩ | ⟨e, s'⟩
  · exact fun heq => nomatch heq
  · rw [hrun] at hs
    exact fun heq => hs (Except.error.inj heq)

/-- The least grind in the range is above what the weapon can have. -/
theorem sampleCreator_not_isLegal :
    WeaponRandomSet.load sampleSet.data = .ok sampleSet ∧
      (ItemParameterTable.load sampleTable.data .bbV4).isOk ∧ ¬ IsLegal sampleCreator 1 := by
  refine ⟨by decide +kernel, by decide +kernel, fun h => h.outcome_ne (Stream'.const 0) ?_⟩
  decide +kernel

end HuntersGuild.WeaponShopLegality
