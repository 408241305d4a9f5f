import HuntersGuild.ItemParameters

/-!
What an item parameter lookup gives after other lookups, compared with the
entry in the table.
-/

namespace HuntersGuild.ItemParameterHistory

open HuntersGuild.Items (Version)
open HuntersGuild.ExceptionRules
open HuntersGuild.ByteStreams
open HuntersGuild.StatefulPrograms
open HuntersGuild.LazyCaches
open HuntersGuild.ItemParameters

/-- Exceptions of the same class. -/
def SameKind : Exception → Exception → Prop
  | .runtimeError _, .runtimeError _ => True
  | .logicError _, .logicError _ => True
  | .outOfRange _, .outOfRange _ => True
  | .invalidArgument _, .invalidArgument _ => True
  | .undefined, .undefined => True
  | .nonterminating, .nonterminating => True
  | _, _ => False

theorem sameKind_refl (e : Exception) : SameKind e e := by
  cases e <;> exact trivial

theorem sameKind_symm (e f : Exception) (h : SameKind e f) : SameKind f e := by
  cases e <;> cases f <;> first | exact trivial | exact h.elim

theorem sameKind_trans (e f g : Exception) (hef : SameKind e f) (hfg : SameKind f g) :
    SameKind e g := by
  cases e <;> cases f <;> first | exact hef.elim | (cases g <;> exact hfg)

/-! ## Reads of the table -/

variable {α : Type}

/-- A table of entries: what can be read comes first, and the rest is out of
range. -/
structure Tabular (read : Nat → Except Exception α) : Prop where
  initial : Initial read
  outOfRange : ∀ i e, read i = .error e → ∃ what, e = .outOfRange what

theorem Tabular.sameKind {read : Nat → Except Exception α} (h : Tabular read) (i j : Nat)
    (e f : Exception) (he : read i = .error e) (hf : read j = .error f) : SameKind e f := by
  obtain ⟨_, rfl⟩ := h.outOfRange i e he
  obtain ⟨_, rfl⟩ := h.outOfRange j f hf
  exact trivial

theorem pget_of_le {data : List UInt8} {offset size : Nat} (h : offset + size ≤ data.length) :
    pget data offset size = .ok ((data.drop offset).take size) := if_pos h

theorem pget_of_not_le {data : List UInt8} {offset size : Nat}
    (h : ¬ offset + size ≤ data.length) :
    pget data offset size = .error (.outOfRange "end of string") := if_neg h

theorem tabular_pget {data : List UInt8} {offset size : Nat} {convert : List UInt8 → α} :
    Tabular fun index => do
      let entry ← pget data (offset + size * index) size
      return convert entry := by
  constructor
  · intro i j a hij hj
    by_cases hin : offset + size * j + size ≤ data.length
    · have hmul := Nat.mul_le_mul_left size hij
      exact ⟨_, bind_of_ok (pget_of_le (by omega)) rfl⟩
    · dsimp only at hj
      rw [pget_of_not_le hin] at hj
      cases hj
  · intro i e he
    by_cases hin : offset + size * i + size ≤ data.length
    · rw [pget_of_le hin] at he
      cases he
    · rw [pget_of_not_le hin] at he
      cases he
      exact ⟨_, rfl⟩

/-- The array that a reference in the table describes has this entry, and the
data contains it. -/
def HasEntry (table : ItemParameterTable) (rootOffset : UInt32) (coIndex size itemIndex : Nat) :
    Prop :=
  rootOffset.toNat + 8 * coIndex + 8 ≤ table.data.length ∧
    itemIndex < (u32 table.layout.bigEndian
      ((table.data.drop (rootOffset.toNat + 8 * coIndex)).take 8) 0).toNat ∧
    (u32 table.layout.bigEndian
      ((table.data.drop (rootOffset.toNat + 8 * coIndex)).take 8) 4).toNat + size * itemIndex +
        size ≤ table.data.length

theorem indirectLookup2d_cases (table : ItemParameterTable) (rootOffset : UInt32)
    (coIndex size : Nat) (convert : List UInt8 → α) (itemIndex : Nat) :
    (HasEntry table rootOffset coIndex size itemIndex ∧
        ∃ a, table.indirectLookup2d rootOffset coIndex size convert itemIndex = .ok a) ∨
      (¬ HasEntry table rootOffset coIndex size itemIndex ∧
        ∃ what, table.indirectLookup2d rootOffset coIndex size convert itemIndex =
          .error (.outOfRange what)) := by
  unfold ItemParameterTable.indirectLookup2d
  by_cases hroot : rootOffset.toNat + 8 * coIndex + 8 ≤ table.data.length
  · rw [pget_of_le hroot, ok_bind]
    split
    · next hcount => exact .inr ⟨fun h => absurd h.2.1 (Nat.not_lt.mpr hcount), _, rfl⟩
    · next hcount =>
      by_cases hin : (u32 table.layout.bigEndian
          ((table.data.drop (rootOffset.toNat + 8 * coIndex)).take 8) 4).toNat +
            size * itemIndex + size ≤ table.data.length
      · refine .inl ⟨⟨hroot, Nat.lt_of_not_le hcount, hin⟩, ?_⟩
        rw [pget_of_le hin]
        exact ⟨_, rfl⟩
      · refine .inr ⟨fun h => hin h.2.2, ?_⟩
        rw [pget_of_not_le hin]
        exact ⟨_, rfl⟩
  · rw [pget_of_not_le hroot]
    exact .inr ⟨fun h => hroot h.1, _, rfl⟩

theorem exists_indirectLookup2d_iff (table : ItemParameterTable) (rootOffset : UInt32)
    (coIndex size : Nat) (convert : List UInt8 → α) (itemIndex : Nat) :
    (∃ a, table.indirectLookup2d rootOffset coIndex size convert itemIndex = .ok a) ↔
      HasEntry table rootOffset coIndex size itemIndex := by
  rcases indirectLookup2d_cases table rootOffset coIndex size convert itemIndex with
    ⟨h, hok⟩ | ⟨h, what, herror⟩
  · exact iff_of_true hok h
  · refine iff_of_false ?_ h
    rintro ⟨a, ha⟩
    rw [herror] at ha
    cases ha

theorem tabular_indirectLookup2d (table : ItemParameterTable) (rootOffset : UInt32)
    (coIndex size : Nat) (convert : List UInt8 → α) :
    Tabular (table.indirectLookup2d rootOffset coIndex size convert) := by
  constructor
  · intro i j a hij hj
    obtain ⟨hroot, hcount, hin⟩ :=
      (exists_indirectLookup2d_iff table rootOffset coIndex size convert j).mp ⟨a, hj⟩
    have hmul := Nat.mul_le_mul_left size hij
    exact (exists_indirectLookup2d_iff table rootOffset coIndex size convert i).mpr
      ⟨hroot, by omega, by omega⟩
  · intro i e he
    rcases indirectLookup2d_cases table rootOffset coIndex size convert i with
      ⟨-, a, hok⟩ | ⟨-, what, herror⟩
    · rw [hok] at he
      cases he
    · rw [herror] at he
      cases he
      exact ⟨what, rfl⟩

/-! The sizes of the structures that are in vectors. -/

def armorOrShieldSize : Layout → Nat
  | .dcProtos => 0x14
  | .v1V2 => 0x18
  | .gcNte | .v3Le | .v3Be => 0x1C
  | .v4 => 0x20

def unitSize : Layout → Nat
  | .dcProtos => 0x08
  | .v1V2 => 0x0C
  | .gcNte | .v3Le | .v3Be => 0x10
  | .v4 => 0x14

def magSize (version : Version) : Layout → Nat
  | .dcProtos => 0x10
  | .v1V2 => if isV1 version then 0x10 else 0x14
  | .gcNte | .v3Le | .v3Be => 0x18
  | .v4 => 0x1C

def convertArmorOrShield : Layout → List UInt8 → ArmorOrShieldV4
  | .dcProtos => armorOrShieldDCProtos
  | .v1V2 => armorOrShieldV1V2
  | .gcNte | .v3Be => armorOrShieldV3 true
  | .v3Le => armorOrShieldV3 false
  | .v4 => armorOrShieldV4

def convertUnit : Layout → List UInt8 → UnitV4
  | .dcProtos => unitDCProtos
  | .v1V2 => unitV1V2
  | .gcNte | .v3Be => unitV3 true
  | .v3Le => unitV3 false
  | .v4 => unitV4

def convertMag (version : Version) : Layout → List UInt8 → MagV4
  | .dcProtos => magV1
  | .v1V2 => if isV1 version then magV1 else magV2
  | .gcNte | .v3Be => magV3 true
  | .v3Le => magV3 false
  | .v4 => magV4

theorem armorOrShieldEntry_eq (table : ItemParameterTable) (data1_1 : UInt8) :
    table.armorOrShieldEntry data1_1 =
      table.indirectLookup2d table.offsets.armorTable (data1_1.toNat - 1)
        (armorOrShieldSize table.layout) (convertArmorOrShield table.layout) := by
  funext index
  unfold ItemParameterTable.armorOrShieldEntry
  cases table.layout <;> rfl

theorem unitEntry_eq (table : ItemParameterTable) :
    table.unitEntry = table.indirectLookup2d table.offsets.unitTable 0 (unitSize table.layout)
      (convertUnit table.layout) := by
  funext index
  unfold ItemParameterTable.unitEntry
  cases table.layout <;> rfl

theorem magEntry_eq (table : ItemParameterTable) :
    table.magEntry = table.indirectLookup2d table.offsets.magTable 0
      (magSize table.version table.layout) (convertMag table.version table.layout) := by
  funext index
  unfold ItemParameterTable.magEntry
  cases table.layout with
  | v1V2 =>
      unfold magSize convertMag
      cases isV1 table.version <;> rfl
  | dcProtos => rfl
  | gcNte => rfl
  | v3Le => rfl
  | v3Be => rfl
  | v4 => rfl

theorem toNat_cacheKey (a b : UInt8) : (cacheKey a b).toNat = a.toNat * 256 + b.toNat := by
  have ha := a.toNat_lt
  have hb := b.toNat_lt
  have hshift : a.toNat <<< 8 % 2 ^ 16 = a.toNat <<< 8 := by
    rw [Nat.shiftLeft_eq]
    omega
  unfold cacheKey
  rw [UInt16.toNat_or, UInt16.toNat_shiftLeft, UInt8.toNat_toUInt16, UInt8.toNat_toUInt16]
  change (a.toNat <<< 8 % 2 ^ 16) ||| b.toNat = _
  rw [hshift, Nat.or_comm, two_bytes_or hb]

theorem cacheKey_high (a b : UInt8) : (cacheKey a b >>> 8).toUInt8 = a := by
  have ha := a.toNat_lt
  have hb := b.toNat_lt
  apply UInt8.toNat_inj.mp
  rw [UInt16.toNat_toUInt8, UInt16.toNat_shiftRight, toNat_cacheKey]
  change (a.toNat * 256 + b.toNat) >>> 8 % 256 = _
  rw [Nat.shiftRight_eq_div_pow]
  omega

theorem cacheKey_low (a b : UInt8) : (cacheKey a b).toUInt8 = b := by
  have hb := b.toNat_lt
  apply UInt8.toNat_inj.mp
  rw [UInt16.toNat_toUInt8, toNat_cacheKey]
  omega

/-! ## Sequences of lookups -/

inductive Call where
  | getWeapon (data1_1 data1_2 : UInt8)
  | getArmorOrShield (data1_1 data1_2 : UInt8)
  | getUnit (data1_2 : UInt8)
  | getMag (data1_1 : UInt8)
  | getTool (data1_1 data1_2 : UInt8)
  | getSpecial (special : UInt8)
  | getStatBoost (entryIndex : UInt8)

def Call.Result : Call → Type
  | .getWeapon _ _ => WeaponV4
  | .getArmorOrShield _ _ => ArmorOrShieldV4
  | .getUnit _ => UnitV4
  | .getMag _ => MagV4
  | .getTool _ _ => ToolV4
  | .getSpecial _ => Special
  | .getStatBoost _ => StatBoost

def perform (table : ItemParameterTable) : (call : Call) → Lookup call.Result
  | .getWeapon data1_1 data1_2 => table.getWeapon data1_1 data1_2
  | .getArmorOrShield data1_1 data1_2 => table.getArmorOrShield data1_1 data1_2
  | .getUnit data1_2 => table.getUnit data1_2
  | .getMag data1_1 => table.getMag data1_1
  | .getTool data1_1 data1_2 => table.getTool data1_1 data1_2
  | .getSpecial special => table.getSpecial special
  | .getStatBoost entryIndex => table.getStatBoost entryIndex

/-- The converted table entry that a call is about. -/
def entry (table : ItemParameterTable) : (call : Call) → Except Exception call.Result
  | .getWeapon data1_1 data1_2 =>
      if table.numWeaponClasses ≤ data1_1.toNat then
        .error (.outOfRange "weapon ID out of range")
      else table.weaponEntry data1_1 data1_2
  | .getArmorOrShield data1_1 data1_2 =>
      if data1_1 < 1 ∨ 2 < data1_1 then
        .error (.outOfRange "armor/shield class ID out of range")
      else table.armorOrShieldEntry data1_1 data1_2.toNat
  | .getUnit data1_2 => table.unitEntry data1_2.toNat
  | .getMag data1_1 => table.magEntry data1_1.toNat
  | .getTool data1_1 data1_2 =>
      if table.numToolClasses ≤ data1_1.toNat then
        .error (.outOfRange "tool class ID out of range")
      else table.toolEntry data1_1 data1_2
  | .getSpecial special =>
      if table.numSpecials ≤ (special &&& 0x3F).toNat then
        .error (.outOfRange "invalid special index")
      else table.specialEntry (special &&& 0x3F).toNat
  | .getStatBoost entryIndex => table.statBoostEntry entryIndex.toNat

/-- What the table has parsed after some calls, whether they throw or not. -/
def after (table : ItemParameterTable) (calls : List Call) : Parsed :=
  calls.foldl (fun parsed call => finalState ((perform table call).run parsed)) .empty

/-- The vector of armors or that of shields. -/
def parsedVector (data1_1 : UInt8) (parsed : Parsed) : List ArmorOrShieldV4 :=
  if data1_1 = 2 then parsed.shields else parsed.armors

/-- Earlier lookups have left nothing wrong at the place that a call uses. -/
def Untouched (table : ItemParameterTable) (parsed : Parsed) : Call → Prop
  | .getWeapon _ _ | .getTool _ _ | .getStatBoost _ => True
  | .getArmorOrShield data1_1 data1_2 =>
      table.layout = .v4 ∨ (data1_1 < 1 ∨ 2 < data1_1) ∨
        HasEntry table table.offsets.armorTable (data1_1.toNat - 1)
          (armorOrShieldSize table.layout) data1_2.toNat ∨
        (parsedVector data1_1 parsed).length ≤ data1_2.toNat
  | .getUnit data1_2 =>
      table.layout = .v4 ∨
        HasEntry table table.offsets.unitTable 0 (unitSize table.layout) data1_2.toNat ∨
        parsed.units.length ≤ data1_2.toNat
  | .getMag data1_1 =>
      table.layout = .v4 ∨
        HasEntry table table.offsets.magTable 0 (magSize table.version table.layout)
          data1_1.toNat ∨
        parsed.mags.length ≤ data1_1.toNat
  | .getSpecial special =>
      table.layout.bigEndian = false ∨ table.numSpecials ≤ (special &&& 0x3F).toNat ∨
        ∀ x, parsed.specials[(special &&& 0x3F).toNat]? = some x → x.type = 0xFFFF →
          table.specialEntry (special &&& 0x3F).toNat = .ok x

def weaponContent (table : ItemParameterTable) (key : UInt16) : Except Exception WeaponV4 :=
  table.weaponEntry (key >>> 8).toUInt8 key.toUInt8

def toolContent (table : ItemParameterTable) (key : UInt16) : Except Exception ToolV4 :=
  table.toolEntry (key >>> 8).toUInt8 key.toUInt8

/-- What a table has parsed is right wherever the table has an entry, except
for specials. -/
structure Reliable (table : ItemParameterTable) (parsed : Parsed) : Prop where
  weapons : Backed (weaponContent table) parsed.weapons
  armors : Faithful (table.armorOrShieldEntry 1) parsed.armors
  shields : Faithful (table.armorOrShieldEntry 2) parsed.shields
  units : Faithful table.unitEntry parsed.units
  mags : Faithful table.magEntry parsed.mags
  tools : Backed (toolContent table) parsed.tools
  statBoosts : Exact table.statBoostEntry parsed.statBoosts

theorem reliable_empty (table : ItemParameterTable) : Reliable table .empty where
  weapons := fun _ _ h => nomatch h
  armors := fun _ _ _ h => nomatch h
  shields := fun _ _ _ h => nomatch h
  units := fun _ _ _ h => nomatch h
  mags := fun _ _ _ h => nomatch h
  tools := fun _ _ h => nomatch h
  statBoosts := fun _ _ h => nomatch h

theorem weaponContent_cacheKey (table : ItemParameterTable) (data1_1 data1_2 : UInt8) :
    weaponContent table (cacheKey data1_1 data1_2) = table.weaponEntry data1_1 data1_2 := by
  rw [weaponContent, cacheKey_high, cacheKey_low]

theorem toolContent_cacheKey (table : ItemParameterTable) (data1_1 data1_2 : UInt8) :
    toolContent table (cacheKey data1_1 data1_2) = table.toolEntry data1_1 data1_2 := by
  rw [toolContent, cacheKey_high, cacheKey_low]

theorem keeps_lookupDefinition {base : α → ItemBaseV4} {blank : α}
    {read : Nat → Except Exception α} {index : Nat} :
    Keeps (Faithful read)
      (ItemParameterTable.lookupDefinition base blank read index) :=
  keeps_lookup_faithful

theorem keeps_perform (table : ItemParameterTable) (call : Call) :
    Keeps (Reliable table) (perform table call) := by
  cases call with
  | getWeapon data1_1 data1_2 =>
      simp only [perform, ItemParameterTable.getWeapon]
      split_ifs
      · exact (readOnly_throw _).keeps
      · exact (readOnly_fromExcept _).keeps
      · rw [← weaponContent_cacheKey]
        exact (keeps_lookupKeyed _).zoom (fun _ h => h.weapons)
          fun _ _ h hweapons => { h with weapons := hweapons }
  | getArmorOrShield data1_1 data1_2 =>
      simp only [perform, ItemParameterTable.getArmorOrShield]
      split_ifs
      · exact (readOnly_throw _).keeps
      · exact (readOnly_fromExcept _).keeps
      · exact keeps_lookupDefinition.zoom (fun _ h => h.shields)
          fun _ _ h hshields => { h with shields := hshields }
      · exact keeps_lookupDefinition.zoom (fun _ h => h.armors)
          fun _ _ h harmors => { h with armors := harmors }
  | getUnit data1_2 =>
      simp only [perform, ItemParameterTable.getUnit]
      split_ifs
      · exact (readOnly_fromExcept _).keeps
      · exact keeps_lookupDefinition.zoom (fun _ h => h.units)
          fun _ _ h hunits => { h with units := hunits }
  | getMag data1_1 =>
      simp only [perform, ItemParameterTable.getMag]
      split_ifs
      · exact (readOnly_fromExcept _).keeps
      · exact keeps_lookupDefinition.zoom (fun _ h => h.mags)
          fun _ _ h hmags => { h with mags := hmags }
  | getTool data1_1 data1_2 =>
      simp only [perform, ItemParameterTable.getTool]
      split_ifs
      · exact (readOnly_throw _).keeps
      · exact (readOnly_fromExcept _).keeps
      · rw [← toolContent_cacheKey]
        exact (keeps_lookupKeyed _).zoom (fun _ h => h.tools)
          fun _ _ h htools => { h with tools := htools }
  | getSpecial special =>
      simp only [perform, ItemParameterTable.getSpecial]
      split_ifs
      · exact (readOnly_throw _).keeps
      · have hany : Keeps (fun _ : List Special => True) (lookupResizing table.specialEntry {}
            (fun entry => entry.type != 0xFFFF) (special &&& 0x3F).toNat) := fun _ h => h
        exact hany.zoom (fun _ _ => trivial) fun _ _ h _ => { h with }
      · exact (readOnly_fromExcept _).keeps
  | getStatBoost entryIndex =>
      simp only [perform, ItemParameterTable.getStatBoost]
      split_ifs
      · exact keeps_lookup_exact.zoom (fun _ h => h.statBoosts)
          fun _ _ h hstatBoosts => { h with statBoosts := hstatBoosts }
      · exact (readOnly_fromExcept _).keeps

theorem reliable_after (table : ItemParameterTable) (calls : List Call) :
    Reliable table (after table calls) := by
  apply List.foldlRecOn calls _ (motive := Reliable table)
  · exact reliable_empty table
  · intro parsed h call _
    exact keeps_perform table call parsed h

/-! ## What one call gives -/

theorem tabular_armorOrShieldEntry (table : ItemParameterTable) (data1_1 : UInt8) :
    Tabular (table.armorOrShieldEntry data1_1) := by
  rw [armorOrShieldEntry_eq]
  exact tabular_indirectLookup2d table _ _ _ _

theorem tabular_unitEntry (table : ItemParameterTable) : Tabular table.unitEntry := by
  rw [unitEntry_eq]
  exact tabular_indirectLookup2d table _ _ _ _

theorem tabular_magEntry (table : ItemParameterTable) : Tabular table.magEntry := by
  rw [magEntry_eq]
  exact tabular_indirectLookup2d table _ _ _ _

theorem outcome_fromExcept (x : Except Exception α) (parsed : Parsed) :
    outcome ((fromExcept x : Lookup α).run parsed) = x := by
  cases x <;> rfl

theorem agree_self (x : Except Exception α) : Agree SameKind x x :=
  agree_refl fun e _ => sameKind_refl e

theorem agree_fromExcept (x : Except Exception α) (parsed : Parsed) :
    Agree SameKind (outcome ((fromExcept x : Lookup α).run parsed)) x := by
  rw [outcome_fromExcept]
  exact agree_self x

theorem agree_lookupDefinition_iff {read : Nat → Except Exception α} (hread : Tabular read)
    {base : α → ItemBaseV4} {blank : α} {part : Parsed → List α}
    {replace : List α → Parsed → Parsed} {parsed : Parsed} (h : Faithful read (part parsed))
    {index : Nat} :
    Agree SameKind (outcome ((zoom part replace
        (ItemParameterTable.lookupDefinition base blank read index)).run parsed)) (read index) ↔
      (∃ a, read index = .ok a) ∨ (part parsed).length ≤ index := by
  rw [outcome_zoom]
  exact agree_lookup_iff hread.initial hread.sameKind h

theorem agree_getWeapon {table : ItemParameterTable} {parsed : Parsed}
    (h : Backed (weaponContent table) parsed.weapons) (data1_1 data1_2 : UInt8) :
    Agree SameKind (outcome ((table.getWeapon data1_1 data1_2).run parsed))
      (if table.numWeaponClasses ≤ data1_1.toNat then
        .error (.outOfRange "weapon ID out of range")
      else table.weaponEntry data1_1 data1_2) := by
  unfold ItemParameterTable.getWeapon
  split_ifs
  · exact agree_self _
  · exact agree_fromExcept _ _
  · rw [outcome_zoom, ← weaponContent_cacheKey, outcome_lookupKeyed h]
    exact agree_self _

theorem agree_getTool {table : ItemParameterTable} {parsed : Parsed}
    (h : Backed (toolContent table) parsed.tools) (data1_1 data1_2 : UInt8) :
    Agree SameKind (outcome ((table.getTool data1_1 data1_2).run parsed))
      (if table.numToolClasses ≤ data1_1.toNat then
        .error (.outOfRange "tool class ID out of range")
      else table.toolEntry data1_1 data1_2) := by
  unfold ItemParameterTable.getTool
  split_ifs
  · exact agree_self _
  · exact agree_fromExcept _ _
  · rw [outcome_zoom, ← toolContent_cacheKey, outcome_lookupKeyed h]
    exact agree_self _

theorem agree_getArmorOrShield_iff {table : ItemParameterTable} {parsed : Parsed}
    (harmors : Faithful (table.armorOrShieldEntry 1) parsed.armors)
    (hshields : Faithful (table.armorOrShieldEntry 2) parsed.shields) (data1_1 data1_2 : UInt8) :
    Agree SameKind (outcome ((table.getArmorOrShield data1_1 data1_2).run parsed))
        (if data1_1 < 1 ∨ 2 < data1_1 then
          .error (.outOfRange "armor/shield class ID out of range")
        else table.armorOrShieldEntry data1_1 data1_2.toNat) ↔
      Untouched table parsed (.getArmorOrShield data1_1 data1_2) := by
  unfold ItemParameterTable.getArmorOrShield
  by_cases hclass : data1_1 < 1 ∨ 2 < data1_1
  · rw [if_pos hclass, if_pos hclass]
    exact iff_of_true (agree_self _) (.inr (.inl hclass))
  · rw [if_neg hclass, if_neg hclass]
    by_cases hlayout : table.layout = .v4
    · rw [if_pos hlayout]
      exact iff_of_true (agree_fromExcept _ _) (.inl hlayout)
    · rw [if_neg hlayout]
      simp only [Untouched, hlayout, hclass, false_or, parsedVector]
      by_cases hshield : data1_1 = 2
      · obtain rfl := hshield
        rw [if_pos rfl, if_pos rfl,
          agree_lookupDefinition_iff (tabular_armorOrShieldEntry table 2) hshields,
          armorOrShieldEntry_eq, exists_indirectLookup2d_iff]
      · have hrange : 1 ≤ data1_1.toNat ∧ data1_1.toNat ≤ 2 := by
          rw [not_or, UInt8.not_lt, UInt8.not_lt] at hclass
          exact hclass
        have hne : data1_1.toNat ≠ 2 := fun h => hshield (UInt8.toNat_inj.mp h)
        obtain rfl : data1_1 = 1 := UInt8.toNat_inj.mp (show data1_1.toNat = 1 by omega)
        rw [if_neg hshield, if_neg hshield,
          agree_lookupDefinition_iff (tabular_armorOrShieldEntry table 1) harmors,
          armorOrShieldEntry_eq, exists_indirectLookup2d_iff]

theorem agree_getUnit_iff {table : ItemParameterTable} {parsed : Parsed}
    (h : Faithful table.unitEntry parsed.units) (data1_2 : UInt8) :
    Agree SameKind (outcome ((table.getUnit data1_2).run parsed)) (table.unitEntry data1_2.toNat) ↔
      Untouched table parsed (.getUnit data1_2) := by
  simp only [ItemParameterTable.getUnit, Untouched]
  split_ifs with hlayout
  · exact iff_of_true (agree_fromExcept _ _) (.inl hlayout)
  · rw [agree_lookupDefinition_iff (tabular_unitEntry table) h, unitEntry_eq,
      exists_indirectLookup2d_iff]
    simp only [hlayout, false_or]

theorem agree_getMag_iff {table : ItemParameterTable} {parsed : Parsed}
    (h : Faithful table.magEntry parsed.mags) (data1_1 : UInt8) :
    Agree SameKind (outcome ((table.getMag data1_1).run parsed)) (table.magEntry data1_1.toNat) ↔
      Untouched table parsed (.getMag data1_1) := by
  simp only [ItemParameterTable.getMag, Untouched]
  split_ifs with hlayout
  · exact iff_of_true (agree_fromExcept _ _) (.inl hlayout)
  · rw [agree_lookupDefinition_iff (tabular_magEntry table) h, magEntry_eq,
      exists_indirectLookup2d_iff]
    simp only [hlayout, false_or]

theorem agree_getSpecial_iff (table : ItemParameterTable) (parsed : Parsed) (special : UInt8) :
    Agree SameKind (outcome ((table.getSpecial special).run parsed))
        (if table.numSpecials ≤ (special &&& 0x3F).toNat then
          .error (.outOfRange "invalid special index")
        else table.specialEntry (special &&& 0x3F).toNat) ↔
      Untouched table parsed (.getSpecial special) := by
  simp only [ItemParameterTable.getSpecial, Untouched]
  split_ifs with hcount hbig
  · exact iff_of_true (agree_self _) (.inr (.inl hcount))
  · rw [outcome_zoom, agree_lookupResizing_iff fun e _ => sameKind_refl e]
    simp only [hbig, hcount, Bool.true_eq_false, false_or, bne_eq_false_iff_eq]
  · exact iff_of_true (agree_fromExcept _ _) (.inl (Bool.eq_false_iff.mpr hbig))

theorem agree_getStatBoost {table : ItemParameterTable} {parsed : Parsed}
    (h : Exact table.statBoostEntry parsed.statBoosts) (entryIndex : UInt8) :
    Agree SameKind (outcome ((table.getStatBoost entryIndex).run parsed))
      (table.statBoostEntry entryIndex.toNat) := by
  have htabular : Tabular table.statBoostEntry := tabular_pget
  unfold ItemParameterTable.getStatBoost
  split_ifs
  · rw [outcome_zoom]
    exact agree_lookup_of_exact htabular.initial htabular.sameKind h
  · exact agree_fromExcept _ _

theorem agree_entry_iff {table : ItemParameterTable} {parsed : Parsed} (h : Reliable table parsed)
    (call : Call) :
    Agree SameKind (outcome ((perform table call).run parsed)) (entry table call) ↔
      Untouched table parsed call := by
  cases call with
  | getWeapon data1_1 data1_2 =>
      exact iff_of_true (agree_getWeapon h.weapons data1_1 data1_2) trivial
  | getArmorOrShield data1_1 data1_2 =>
      exact agree_getArmorOrShield_iff h.armors h.shields data1_1 data1_2
  | getUnit data1_2 => exact agree_getUnit_iff h.units data1_2
  | getMag data1_1 => exact agree_getMag_iff h.mags data1_1
  | getTool data1_1 data1_2 => exact iff_of_true (agree_getTool h.tools data1_1 data1_2) trivial
  | getSpecial special => exact agree_getSpecial_iff table parsed special
  | getStatBoost entryIndex =>
      exact iff_of_true (agree_getStatBoost h.statBoosts entryIndex) trivial

theorem untouched_empty (table : ItemParameterTable) (call : Call) :
    Untouched table .empty call := by
  cases call with
  | getWeapon data1_1 data1_2 => exact trivial
  | getArmorOrShield data1_1 data1_2 =>
      refine .inr (.inr (.inr ?_))
      unfold parsedVector
      split <;> exact Nat.zero_le _
  | getUnit data1_2 => exact .inr (.inr (Nat.zero_le _))
  | getMag data1_1 => exact .inr (.inr (Nat.zero_le _))
  | getTool data1_1 data1_2 => exact trivial
  | getSpecial special => exact .inr (.inr fun _ h => nomatch h)
  | getStatBoost entryIndex => exact trivial

/-- After any lookups, a lookup gives the table's entry, as on a fresh table,
exactly when the earlier ones have left nothing wrong at its place. -/
theorem agree_after_iff (table : ItemParameterTable) (calls : List Call) (call : Call) :
    (Agree SameKind (outcome ((perform table call).run (after table calls))) (entry table call) ∧
        Agree SameKind (outcome ((perform table call).run (after table calls)))
          (outcome ((perform table call).run .empty))) ↔
      Untouched table (after table calls) call := by
  have hiff := agree_entry_iff (reliable_after table calls) call
  have hfresh := (agree_entry_iff (reliable_empty table) call).mpr (untouched_empty table call)
  constructor
  · rintro ⟨hentry, -⟩
    exact hiff.mp hentry
  · intro huntouched
    have hentry := hiff.mpr huntouched
    exact ⟨hentry, hentry.trans sameKind_trans (hfresh.symm sameKind_symm)⟩

/-- The data of a table all of whose numbers are zero. -/
def blankData : List UInt8 := List.replicate 0x6C 0

def blankTable : ItemParameterTable :=
  ⟨.gcV3, blankData, .v3Be, ⟨0, 0, 0, 0, 0, 0, 0⟩, 0xAA, 0x18, 0x29⟩

set_option maxRecDepth 4000 in
/-- Looking up a special leaves the ones before it unread. -/
theorem getSpecial_after_getSpecial :
    ItemParameterTable.load blankData .gcV3 = .ok blankTable ∧
      outcome ((blankTable.getSpecial 0).run .empty) = .ok ⟨0, 0⟩ ∧
      ¬ (Agree SameKind (outcome ((perform blankTable (.getSpecial 0)).run
            (after blankTable [.getSpecial 1]))) (entry blankTable (.getSpecial 0)) ∧
          Agree SameKind (outcome ((perform blankTable (.getSpecial 0)).run
            (after blankTable [.getSpecial 1])))
              (outcome ((perform blankTable (.getSpecial 0)).run .empty))) := by
  have hwrong : outcome ((blankTable.getSpecial 0).run (after blankTable [.getSpecial 1])) =
      .ok ⟨0xFFFF, 0⟩ := rfl
  have hentry : entry blankTable (.getSpecial 0) = .ok (⟨0, 0⟩ : Special) := rfl
  refine ⟨rfl, rfl, ?_⟩
  rintro ⟨hagree, -⟩
  rw [hentry] at hagree
  change Agree SameKind (outcome ((blankTable.getSpecial 0).run
    (after blankTable [.getSpecial 1]))) _ at hagree
  rw [hwrong] at hagree
  exact absurd hagree (show ¬ (⟨0xFFFF, 0⟩ : Special) = ⟨0, 0⟩ by decide)

end HuntersGuild.ItemParameterHistory
