import HuntersGuild.WeaponShops

/-!
What the tables, the shuffles and the parts of a weapon give on every random
stream, and on some.
-/

namespace HuntersGuild.ShopDraws

open HuntersGuild.ByteStreams
open HuntersGuild.ExceptionRules
open HuntersGuild.ItemParameters
open HuntersGuild.Items (ItemData)
open HuntersGuild.RandomPrograms
open HuntersGuild.StatefulPrograms
open HuntersGuild.WeaponShops
open HuntersGuild.WeaponShops.ItemCreator

/-! ## Lookups that throw in the usual ways only -/

variable {α β : Type}

def Proper (r : Except Exception α) : Prop := r ≠ .error .undefined

theorem proper_ok (a : α) : Proper (.ok a) := fun h => nomatch h

theorem proper_error {e : Exception} (h : e ≠ .undefined) : Proper (.error e : Except Exception α) :=
  fun heq => h (Except.error.inj heq)

theorem Proper.bind {r : Except Exception α} {f : α → Except Exception β} (h : Proper r)
    (hf : ∀ a, Proper (f a)) : Proper (r >>= f) := by
  cases r with
  | error e => exact fun heq => h (congrArg Except.error (Except.error.inj heq))
  | ok a => exact hf a

theorem proper_at? (items : List α) (index : Nat) : Proper (at? items index) := by
  unfold at?
  cases items[index]? with
  | none => exact proper_error (by simp)
  | some item => exact proper_ok item

theorem proper_pget (data : List UInt8) (offset size : Nat) : Proper (pget data offset size) := by
  unfold pget
  split_ifs
  · exact proper_ok _
  · exact proper_error (by simp)

theorem proper_foldlM {f : β → α → Except Exception β} (h : ∀ b a, Proper (f b a)) (items : List α)
    (b : β) : Proper (items.foldlM f b) := by
  induction items generalizing b with
  | nil => exact proper_ok b
  | cons item items ih =>
      rw [List.foldlM_cons]
      exact (h b item).bind ih

theorem proper_pushWeights (entries : List WeightTableEntry) : Proper (pushWeights entries) := by
  refine proper_foldlM (fun pt e => proper_foldlM (fun pt value => ?_) _ pt) _ _
  unfold ProbabilityTable.push
  split_ifs
  · exact proper_ok _
  · exact proper_error (by simp)

theorem proper_getRange (set : WeaponRandomSet) (baseOffset : UInt32) (index : Nat) :
    Proper (set.getRange baseOffset index) :=
  (proper_pget _ _ _).bind fun _ => proper_ok _

variable {self : ItemCreator} {playerLevel : Nat} {item : ItemData}

theorem proper_weaponKind (which : UInt8) : Proper (self.weaponKind which) := by
  unfold ItemCreator.weaponKind
  split_ifs <;> exact proper_at? _ _

theorem proper_indirectLookup2d {table : ItemParameterTable} (rootOffset : UInt32)
    (coIndex size : Nat) (convert : List UInt8 → α) (itemIndex : Nat) :
    Proper (table.indirectLookup2d rootOffset coIndex size convert itemIndex) := by
  refine (proper_pget _ _ _).bind fun co => ?_
  split_ifs
  · exact proper_error (by simp)
  · exact (proper_pget _ _ _).bind fun _ => proper_ok _

theorem proper_weaponEntry (table : ItemParameterTable) (data1_1 data1_2 : UInt8) :
    Proper (table.weaponEntry data1_1 data1_2) := by
  unfold ItemParameterTable.weaponEntry
  cases table.layout <;> exact proper_indirectLookup2d _ _ _ _ _

theorem proper_weaponDef (kind : UInt8 × UInt8) : Proper (self.weaponDef kind) := by
  change Proper (if self.itemParameterTable.numWeaponClasses ≤ kind.1.toNat then
    .error (.outOfRange "weapon ID out of range")
    else self.itemParameterTable.weaponEntry kind.1 kind.2)
  split_ifs
  · exact proper_error (by simp)
  · exact proper_weaponEntry _ _ _

theorem proper_grindRange (data1_1 : UInt8) : Proper (self.grindRange playerLevel data1_1) := by
  refine (proper_at? _ _).bind fun favoredWeapon => ?_
  split_ifs <;> exact proper_getRange _ _ _

theorem proper_getSpecialStars (table : ItemParameterTable) (special : UInt8) :
    Proper (getSpecialStars table special) := by
  unfold getSpecialStars
  split_ifs
  · refine Proper.bind (Proper.bind (proper_pget _ _ _) fun _ =>
      (proper_pget _ _ _).bind fun _ => proper_ok _) fun baseOffset => ?_
    dsimp only
    split_ifs
    · exact (proper_pget _ _ _).bind fun _ => proper_ok _
    · exact proper_ok _
  · exact proper_ok _

theorem proper_findSpecial (table : ItemParameterTable) (stars : Nat) (zs : List Nat)
    (number : Nat) : Proper (findSpecial table stars zs number) := by
  induction zs generalizing number with
  | nil => exact proper_ok _
  | cons z zs ih =>
      refine (proper_getSpecialStars _ _).bind fun found => ?_
      split_ifs
      · cases number with
        | zero => exact proper_ok _
        | succ number => exact ih number
      · exact ih number

theorem proper_specialTable : Proper (self.specialTable playerLevel) :=
  Proper.bind ((proper_pget _ _ _).bind fun _ => proper_ok _) proper_pushWeights

theorem proper_bonusTable (which tableIndex : Nat) : Proper (self.bonusTable which tableIndex) :=
  Proper.bind ((proper_pget _ _ _).bind fun _ => proper_ok _) proper_pushWeights

theorem proper_typeTable : Proper (self.typeTable playerLevel) :=
  Proper.bind ((proper_pget _ _ _).bind fun _ => (proper_pget _ _ _).bind fun _ => proper_ok _)
    proper_pushWeights

theorem proper_popOtherType (otherType : UInt8) (pops : List UInt8) :
    Proper (popOtherType otherType pops) := by
  induction pops with
  | nil => exact proper_error (by simp)
  | cons type pops ih =>
      unfold popOtherType
      split_ifs
      · exact ih
      · exact proper_ok _

theorem yields_proper {r : Except Exception α} (h : Proper r) :
    Yields (fromExcept r : Program α) (fun a => r = .ok a) (· ≠ .undefined) :=
  yields_fromExcept (fun _ h => h) fun _ heq hundefined => h (heq.trans (congrArg _ hundefined))

/-! ## Draws -/

theorem toNat_remainder (r : UInt32) (max : UInt64) :
    (r.toUInt64 % max).toUInt32.toNat = r.toNat % max.toNat := by
  have hmod : (r.toUInt64 % max).toNat = r.toNat % max.toNat := UInt64.toNat_mod _ _
  rw [UInt64.toNat_toUInt32, hmod]
  exact Nat.mod_eq_of_lt (Nat.lt_of_le_of_lt (Nat.mod_le _ _) r.toNat_lt)

theorem yields_randInt {max : UInt64} (h : max ≠ 0) :
    Yields (randInt max) (fun r => r.toNat < max.toNat) (· ≠ .undefined) := by
  refine yields_next.bind fun r _ => ?_
  rw [if_neg h]
  refine yields_pure ?_
  rw [toNat_remainder]
  exact Nat.mod_lt _ (Nat.pos_of_ne_zero fun hzero => h (UInt64.toNat_inj.mp hzero))

theorem can_randInt {max : UInt64} {r : UInt32} (h : r.toNat < max.toNat) : Can (randInt max) r := by
  have hmax : max ≠ 0 := by
    rintro rfl
    exact Nat.not_lt_zero _ h
  refine (can_next r).bind ?_
  rw [if_neg hmax]
  have hself : (r.toUInt64 % max).toUInt32 = r := by
    refine UInt32.toNat_inj.mp ?_
    rw [toNat_remainder, Nat.mod_eq_of_lt h]
  rw [hself]
  exact can_pure r

theorem canThrow_randInt : CanThrow (randInt 0) .undefined :=
  (can_next 0).bind_throw (canThrow_throw _)

variable {maxCount : Nat} {pt : ProbabilityTable α maxCount}

theorem swapItems_perm (z otherZ : Nat) (items : List α) :
    (ProbabilityTable.swapItems z otherZ items).Perm items := by
  unfold ProbabilityTable.swapItems
  split
  case h_1 t other ht hother =>
      obtain ⟨hz, rfl⟩ := List.getElem?_eq_some_iff.mp ht
      obtain ⟨ho, rfl⟩ := List.getElem?_eq_some_iff.mp hother
      exact List.set_set_perm hz ho
  case h_2 => exact .refl _

theorem yields_shuffle : Yields pt.shuffle (fun pt' => pt'.items.Perm pt.items) (· ≠ .undefined) := by
  unfold ProbabilityTable.shuffle
  generalize List.range' 1 (pt.items.length - 1) = zs
  induction zs generalizing pt with
  | nil => exact yields_pure (.refl _)
  | cons z zs ih =>
      rw [List.foldlM_cons]
      have hstep : Yields (pt.shuffleStep z) (fun pt' => pt'.items.Perm pt.items) (· ≠ .undefined) :=
        yields_next.bind fun r _ => yields_pure (swapItems_perm _ _ _)
      exact hstep.bind fun mid hmid => ih.mono fun pt' hpt' => hpt'.trans hmid

theorem yields_sample : Yields pt.sample (· ∈ pt.items) (· ≠ .undefined) := by
  unfold ProbabilityTable.sample
  rcases hitems : pt.items with _ | ⟨item, _ | ⟨second, rest⟩⟩
  · exact yields_throw (by simp)
  · exact yields_pure List.mem_cons_self
  · refine yields_next.bind fun r _ => yields_pure ?_
    have hlt : r.toNat % ((second :: rest).length + 1) < (item :: second :: rest).length :=
      Nat.mod_lt _ (Nat.succ_pos _)
    rw [List.getD_eq_getElem _ _ hlt]
    exact List.getElem_mem hlt

theorem can_sample {t : α} (hcount : maxCount < 2 ^ 32) (h : t ∈ pt.items) : Can pt.sample t := by
  have hle := pt.count_le
  unfold ProbabilityTable.sample
  rcases hitems : pt.items with _ | ⟨item, _ | ⟨second, rest⟩⟩
  · rw [hitems] at h
    exact absurd h List.not_mem_nil
  · rw [hitems] at h
    obtain rfl := List.mem_singleton.mp h
    exact can_pure t
  · rw [hitems] at h hle
    obtain ⟨i, hi, rfl⟩ := List.getElem_of_mem h
    refine (can_next (.ofNat i)).bind ?_
    have hsmall : (UInt32.ofNat i).toNat = i := UInt32.toNat_ofNat_of_lt' (by
      change i < 2 ^ 32
      omega)
    have hmod : i % ((second :: rest).length + 1) = i := Nat.mod_eq_of_lt hi
    rw [hsmall, hmod, List.getD_eq_getElem _ _ hi]
    exact can_pure _

theorem swapItems_self (z : Nat) (items : List α) : ProbabilityTable.swapItems z z items = items := by
  unfold ProbabilityTable.swapItems
  split
  case h_1 t other ht hother =>
      obtain rfl := Option.some.inj (ht.symm.trans hother)
      obtain ⟨hz, rfl⟩ := List.getElem?_eq_some_iff.mp ht
      rw [List.set_getElem_self, List.set_getElem_self]
  case h_2 => rfl

theorem can_shuffleStep {z otherZ : Nat} (hz : z < 2 ^ 32) (hother : otherZ ≤ z) :
    ∃ pt', Can (pt.shuffleStep z) pt' ∧
      pt'.items = ProbabilityTable.swapItems z otherZ pt.items := by
  have hsmall : (UInt32.ofNat otherZ).toNat = otherZ := UInt32.toNat_ofNat_of_lt' (by
    change otherZ < 2 ^ 32
    omega)
  refine ⟨_, (can_next (.ofNat otherZ)).bind (can_pure _), ?_⟩
  change ProbabilityTable.swapItems z ((UInt32.ofNat otherZ).toNat % (z + 1)) pt.items = _
  rw [hsmall, Nat.mod_eq_of_lt (Nat.lt_succ_of_le hother)]

/-- Rounds that swap nothing. -/
theorem can_shuffleSteps (zs : List Nat) (h : ∀ z ∈ zs, z < 2 ^ 32) :
    Can (zs.foldlM ProbabilityTable.shuffleStep pt) pt := by
  induction zs with
  | nil => exact can_pure pt
  | cons z zs ih =>
      rw [List.foldlM_cons]
      obtain ⟨hz, hzs⟩ := List.forall_mem_cons.mp h
      obtain ⟨pt', hstep, hitems⟩ : ∃ pt', Can (pt.shuffleStep z) pt' ∧
          pt'.items = ProbabilityTable.swapItems z z pt.items :=
        can_shuffleStep hz (Nat.le_refl z)
      rw [swapItems_self] at hitems
      obtain rfl : pt' = pt := by
        cases pt
        cases pt'
        cases hitems
        rfl
      exact hstep.bind (ih hzs)

/-- Each item may be the first one to be popped after a shuffle. -/
theorem can_shuffle {t : α} (hcount : maxCount < 2 ^ 32) (h : t ∈ pt.items) :
    ∃ pt', Can pt.shuffle pt' ∧ pt'.pops.head? = some t := by
  have hle := pt.count_le
  obtain ⟨i, hi, rfl⟩ := List.getElem_of_mem h
  unfold ProbabilityTable.shuffle
  unfold ProbabilityTable.pops
  simp only [List.head?_reverse]
  by_cases hone : pt.items.length = 1
  · refine ⟨pt, ?_, ?_⟩
    · rw [hone]
      exact can_pure pt
    · obtain rfl : i = 0 := by omega
      rw [List.getLast?_eq_getElem?, hone, List.getElem?_eq_getElem hi]
  · obtain ⟨n, hn⟩ : ∃ n, pt.items.length = n + 2 := ⟨pt.items.length - 2, by omega⟩
    have hsmall : n + 1 < 2 ^ 32 := by omega
    have hother : i ≤ n + 1 := by omega
    obtain ⟨pt', hstep, hitems⟩ : ∃ pt', Can (pt.shuffleStep (n + 1)) pt' ∧
        pt'.items = ProbabilityTable.swapItems (n + 1) i pt.items :=
      can_shuffleStep hsmall hother
    refine ⟨pt', ?_, ?_⟩
    · have hrange : List.range' 1 (pt.items.length - 1) = List.range' 1 n ++ [n + 1] := by
        rw [hn, Nat.add_succ_sub_one, List.range'_concat, Nat.one_mul, Nat.add_comm 1 n]
      rw [hrange, List.foldlM_append]
      refine (can_shuffleSteps _ ?_).bind ?_
      · intro z hz
        have := List.mem_range'_1.mp hz
        omega
      · rw [List.foldlM_cons]
        exact hstep.bind (can_pure pt')
    · have hlast : pt.items.length - 1 = n + 1 := by omega
      rw [hitems, List.getLast?_eq_getElem?, ProbabilityTable.length_swapItems, hlast]
      unfold ProbabilityTable.swapItems
      have hn1 : n + 1 < pt.items.length := by omega
      rw [List.getElem?_eq_getElem hn1, List.getElem?_eq_getElem hi]
      dsimp only
      by_cases heq : i = n + 1
      · subst heq
        rw [List.getElem?_set_self (by rw [List.length_set]; exact hi)]
      · rw [List.getElem?_set_ne heq, List.getElem?_set_self hn1]

end HuntersGuild.ShopDraws
