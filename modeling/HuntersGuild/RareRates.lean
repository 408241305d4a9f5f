import HuntersGuild.BinaryScales
import HuntersGuild.RareItemSets

/-!
The rates of the byte codes form a binary scale, and the code that is found for a
probability rounds it down on that scale.
-/

namespace HuntersGuild.RareRates

open HuntersGuild.BinaryScales
open HuntersGuild.RareItemSets

/-! The rates. -/

theorem toNat_expandRate (pc : UInt8) :
    (expandRate pc).toNat = (pc.toNat % 8 + 7) * 2 ^ (pc.toNat / 8 - 4 + 1) := by
  have hall : ∀ n < 256, (expandRate (UInt8.ofNat n)).toNat = (n % 8 + 7) * 2 ^ (n / 8 - 4 + 1) := by
    decide +kernel
  have hpc := hall pc.toNat pc.toNat_lt
  rwa [UInt8.ofNat_toNat] at hpc

/-- The numbers that are rates. -/
abbrev IsRate : Nat → Prop := OnScale 7 1 28

theorem isRate_expandRate (pc : UInt8) : IsRate (expandRate pc).toNat := by
  have hpc := pc.toNat_lt
  exact ⟨pc.toNat % 8 + 7, pc.toNat / 8 - 4 + 1, by omega, by omega, by omega, by omega,
    toNat_expandRate pc⟩

theorem exists_expandRate {r : Nat} (h : IsRate r) : ∃ pc, (expandRate pc).toNat = r := by
  obtain ⟨v, j, hlow, hhigh, hone, hmost, rfl⟩ := h
  rcases Nat.lt_or_ge v 15 with hv | hv
  · refine ⟨UInt8.ofNat (8 * (j + 3) + (v - 7)), ?_⟩
    rw [toNat_expandRate, UInt8.toNat_ofNat_of_lt' (show 8 * (j + 3) + (v - 7) < 256 by omega),
      show (8 * (j + 3) + (v - 7)) % 8 + 7 = v by omega,
      show (8 * (j + 3) + (v - 7)) / 8 - 4 + 1 = j by omega]
  · omega

theorem rate_bounds {r : Nat} (h : IsRate r) : 14 ≤ r ∧ r ≤ 14 * 2 ^ 28 := by
  obtain ⟨v, j, hlow, hhigh, hone, hmost, rfl⟩ := h
  constructor
  · calc 14 = 7 * 2 ^ 1 := rfl
      _ ≤ v * 2 ^ j := Nat.mul_le_mul hlow (Nat.pow_le_pow_right (by omega) hone)
  · exact Nat.mul_le_mul hhigh (Nat.pow_le_pow_right (by omega) hmost)

/-! The two entries between which a probability lies. -/

theorem lt_of_mem_takeWhile {m : List (UInt32 × UInt8)} {p : UInt32} {entry : UInt32 × UInt8}
    (h : entry ∈ m.takeWhile (·.1 < p)) : entry.1 < p := by
  induction m with
  | nil => cases h
  | cons first m ih =>
      rw [List.takeWhile_cons] at h
      split_ifs at h with hfirst
      · rcases List.mem_cons.mp h with rfl | h
        · exact of_decide_eq_true hfirst
        · exact ih h
      · cases h

theorem le_of_mem_dropWhile {m : List (UInt32 × UInt8)} (hm : m.Pairwise (·.1 < ·.1)) {p : UInt32}
    {entry : UInt32 × UInt8} (h : entry ∈ m.dropWhile (·.1 < p)) : p ≤ entry.1 := by
  induction m with
  | nil => cases h
  | cons first m ih =>
      obtain ⟨hfirst, hm⟩ := List.pairwise_cons.mp hm
      rw [List.dropWhile_cons] at h
      split_ifs at h with hskip
      · exact ih hm h
      · have hle : p ≤ first.1 := UInt32.not_lt.mp fun hlt => hskip (decide_eq_true hlt)
        rcases List.mem_cons.mp h with rfl | h
        · exact hle
        · exact UInt32.le_trans hle (UInt32.le_of_lt (hfirst entry h))

/-- The entries of the map on the two sides of a probability. -/
structure Between (p : UInt32) (before after : List (UInt32 × UInt8)) : Prop where
  expands : ∀ entry ∈ before ++ after, expandRate entry.2 = entry.1
  below : ∀ entry ∈ before, entry.1 < p
  above : ∀ entry ∈ after, p ≤ entry.1
  sorted : (before ++ after).Pairwise (·.1 < ·.1)
  complete : ∀ pc, ∃ entry ∈ before ++ after, entry.1 = expandRate pc

theorem between_inverseMap (p : UInt32) :
    Between p (inverseMap.takeWhile (·.1 < p)) (inverseMap.dropWhile (·.1 < p)) := by
  have hsplit : inverseMap.takeWhile (·.1 < p) ++ inverseMap.dropWhile (·.1 < p) = inverseMap :=
    List.takeWhile_append_dropWhile
  refine ⟨?_, fun entry => lt_of_mem_takeWhile,
    fun entry => le_of_mem_dropWhile inverse_inverseMap.sorted, ?_, fun pc => ?_⟩
  · rw [hsplit]
    exact inverse_inverseMap.expands
  · rw [hsplit]
    exact inverse_inverseMap.sorted
  · rw [hsplit]
    obtain ⟨entry, hmem, heq⟩ := List.mem_map.mp (expandRate_mem_keys pc)
    exact ⟨entry, hmem, heq⟩

variable {p : UInt32} {before after : List (UInt32 × UInt8)} {prev it : UInt32 × UInt8}

theorem Between.le_prev (h : Between p before after) (hprev : before.getLast? = some prev) {pc : UInt8}
    (hpc : expandRate pc < p) : expandRate pc ≤ prev.1 := by
  obtain ⟨init, rfl⟩ := List.getLast?_eq_some_iff.mp hprev
  obtain ⟨entry, hmem, hkey⟩ := h.complete pc
  rw [← hkey] at hpc ⊢
  rcases List.mem_append.mp hmem with hbefore | hafter
  · rcases List.mem_append.mp hbefore with hinit | hlast
    · have hsorted := (List.pairwise_append.mp (List.pairwise_append.mp h.sorted).1).2.2
      exact UInt32.le_of_lt (hsorted entry hinit prev (List.mem_singleton.mpr rfl))
    · rw [List.mem_singleton.mp hlast]
      exact UInt32.le_refl _
  · exact absurd hpc (UInt32.not_lt.mpr (h.above entry hafter))

theorem Between.it_le (h : Between p before (it :: after)) {pc : UInt8} (hpc : p ≤ expandRate pc) :
    it.1 ≤ expandRate pc := by
  obtain ⟨entry, hmem, hkey⟩ := h.complete pc
  rw [← hkey] at hpc ⊢
  rcases List.mem_append.mp hmem with hbefore | hafter
  · exact absurd (h.below entry hbefore) (UInt32.not_lt.mpr hpc)
  · rcases List.mem_cons.mp hafter with rfl | hafter
    · exact UInt32.le_refl _
    · have hsorted := (List.pairwise_cons.mp (List.pairwise_append.mp h.sorted).2.1).1
      exact UInt32.le_of_lt (hsorted entry hafter)

theorem Between.expands_prev (h : Between p before after) (hprev : before.getLast? = some prev) :
    expandRate prev.2 = prev.1 :=
  h.expands prev (List.mem_append_left after (List.mem_of_getLast? hprev))

theorem Between.expands_it (h : Between p before (it :: after)) : expandRate it.2 = it.1 :=
  h.expands it (List.mem_append_right before List.mem_cons_self)

/-- The differences fit the signed type, and only the second one is positive. -/
theorem toInt32_sub_lt {low high : UInt32} (hlow : low < p) (hhigh : p < high)
    (hbelow : p.toNat - low.toNat < 2 ^ 31) (habove : high.toNat - p.toNat < 2 ^ 31) :
    (low - p).toInt32 < (high - p).toInt32 := by
  have hlow := UInt32.lt_iff_toNat_lt.mp hlow
  have hhigh := UInt32.lt_iff_toNat_lt.mp hhigh
  have hp := p.toNat_lt
  have hmax := high.toNat_lt
  have htoInt (x : UInt32) :
      x.toInt32.toInt = if 2 * x.toNat < 2 ^ 32 then (x.toNat : Int) else (x.toNat : Int) - (2 ^ 32 : Nat) :=
    BitVec.toInt_eq_toNat_cond x.toBitVec
  have hfirst : (low - p).toInt32.toInt < 0 := by
    rw [htoInt, UInt32.toNat_sub]
    split_ifs <;> omega
  have hsecond : 0 ≤ (high - p).toInt32.toInt := by
    rw [htoInt, UInt32.toNat_sub]
    split_ifs <;> omega
  exact Int32.lt_iff_toInt_lt.mpr (Int.lt_of_lt_of_le hfirst hsecond)

/-- Around a probability the rates are at most 2^28 apart. -/
theorem step_le (hlow : 14 ≤ p.toNat) (hhigh : p.toNat < 14 * 2 ^ 28) : step 7 p.toNat ≤ 2 ^ 28 :=
  Nat.pow_le_pow_right (by omega)
    (@exponent_bounds 7 1 28 p.toNat (by decide) hlow (by omega)).2

/-- The two entries are so close that their signed differences tell them apart, and
the smaller difference is always that of the lower one. -/
theorem Between.toInt32_sub_lt (h : Between p before (it :: after)) (hprev : before.getLast? = some prev)
    (hne : it.1 ≠ p) : (prev.1 - p).toInt32 < (it.1 - p).toInt32 := by
  have hbelow := UInt32.lt_iff_toNat_lt.mp (h.below prev (List.mem_of_getLast? hprev))
  have habove : p < it.1 := UInt32.lt_of_le_of_ne (h.above it List.mem_cons_self) hne.symm
  have hhigh := UInt32.lt_iff_toNat_lt.mp habove
  have hprevrate := rate_bounds (isRate_expandRate prev.2)
  have hitrate := rate_bounds (isRate_expandRate it.2)
  rw [h.expands_prev hprev] at hprevrate
  rw [h.expands_it] at hitrate
  have hlow : 14 ≤ p.toNat := by omega
  have hmost : p.toNat < 14 * 2 ^ 28 := by omega
  have hstep := step_le hlow hmost
  have hfloor := @floor_le 7 p.toNat
  have hceil := @lt_floor_add 7 p.toNat
  obtain ⟨pcFloor, hpcFloor⟩ := exists_expandRate (@onScale_floor 7 1 28 p.toNat (by decide) hlow (by omega))
  obtain ⟨pcCeil, hpcCeil⟩ := exists_expandRate (@onScale_ceil 7 1 28 p.toNat (by decide) hlow (by omega))
  have hit := UInt32.le_iff_toNat_le.mp
    (h.it_le (UInt32.le_iff_toNat_le.mpr (show p.toNat ≤ (expandRate pcCeil).toNat by omega)))
  have hlt : expandRate pcFloor < p := by
    refine UInt32.not_le.mp fun hle => ?_
    have hitle := UInt32.le_iff_toNat_le.mp (h.it_le hle)
    omega
  have hprevle := UInt32.le_iff_toNat_le.mp (h.le_prev hprev hlt)
  exact RareRates.toInt32_sub_lt (UInt32.lt_iff_toNat_lt.mpr hbelow) habove (by omega) (by omega)

/-! The code that is found. -/

/-- A probability is rounded down to a rate. -/
theorem compressRate_of_le {pc : UInt8} (hpc : expandRate pc ≤ p) :
    expandRate (compressRate p) ≤ p ∧
      ∀ pc, expandRate pc ≤ p → expandRate pc ≤ expandRate (compressRate p) := by
  have h := between_inverseMap p
  unfold compressRate
  dsimp only
  generalize inverseMap.takeWhile (·.1 < p) = before at h ⊢
  generalize inverseMap.dropWhile (·.1 < p) = after at h ⊢
  cases after with
  | nil =>
      cases hlast : before.getLast? with
      | none =>
          obtain ⟨entry, hmem, -⟩ := h.complete pc
          rw [List.getLast?_eq_none_iff.mp hlast] at hmem
          cases hmem
      | some prev =>
          change expandRate prev.2 ≤ p ∧ ∀ pc, expandRate pc ≤ p → expandRate pc ≤ expandRate prev.2
          rw [h.expands_prev hlast]
          refine ⟨UInt32.le_of_lt (h.below prev (List.mem_of_getLast? hlast)), fun pc _ => ?_⟩
          obtain ⟨entry, hmem, hkey⟩ := h.complete pc
          rw [List.append_nil] at hmem
          exact h.le_prev hlast (hkey ▸ h.below entry hmem)
  | cons it after =>
      cases hlast : before.getLast? with
      | none =>
          change expandRate it.2 ≤ p ∧ ∀ pc, expandRate pc ≤ p → expandRate pc ≤ expandRate it.2
          have hit : it.1 = p := by
            obtain ⟨entry, hmem, hkey⟩ := h.complete pc
            rw [List.getLast?_eq_none_iff.mp hlast] at hmem
            have habove := h.above entry hmem
            rw [hkey] at habove
            exact UInt32.le_antisymm (UInt32.le_trans (h.it_le habove) hpc)
              (h.above it List.mem_cons_self)
          rw [h.expands_it, hit]
          exact ⟨UInt32.le_refl p, fun pc hle => hle⟩
      | some prev =>
          dsimp only
          by_cases heq : it.1 = p
          · rw [if_pos heq, h.expands_it, heq]
            exact ⟨UInt32.le_refl p, fun pc hle => hle⟩
          · rw [if_neg heq, if_pos (h.toInt32_sub_lt hlast heq), h.expands_prev hlast]
            refine ⟨UInt32.le_of_lt (h.below prev (List.mem_of_getLast? hlast)), fun pc hle => ?_⟩
            refine h.le_prev hlast (UInt32.lt_of_le_of_ne hle fun hpc => ?_)
            have hitle := h.it_le (UInt32.le_of_eq hpc.symm)
            rw [hpc] at hitle
            exact heq (UInt32.le_antisymm hitle (h.above it List.mem_cons_self))

/-- Below all rates the code of the lowest one is found. -/
theorem compressRate_of_lt (hp : ∀ pc, p < expandRate pc) (pc : UInt8) :
    expandRate (compressRate p) ≤ expandRate pc := by
  have h := between_inverseMap p
  unfold compressRate
  dsimp only
  generalize inverseMap.takeWhile (·.1 < p) = before at h ⊢
  generalize inverseMap.dropWhile (·.1 < p) = after at h ⊢
  have hbefore : before = [] := by
    refine List.eq_nil_iff_forall_not_mem.mpr fun entry hmem => ?_
    have hbelow := h.below entry hmem
    rw [← h.expands entry (List.mem_append_left after hmem)] at hbelow
    exact UInt32.lt_irrefl p (UInt32.lt_trans (hp entry.2) hbelow)
  subst hbefore
  cases after with
  | nil =>
      obtain ⟨entry, hmem, -⟩ := h.complete pc
      cases hmem
  | cons it after =>
      change expandRate it.2 ≤ expandRate pc
      rw [h.expands_it]
      exact h.it_le (UInt32.le_of_lt (hp pc))

/-! Which probabilities are rounded to the nearest rate. -/

/-- No code has a rate that is closer to the probability. -/
def Nearest (probability : UInt32) (code : UInt8) : Prop :=
  ∀ pc, Nat.dist (expandRate code).toNat probability.toNat ≤
    Nat.dist (expandRate pc).toNat probability.toNat

theorem nearest_iff_isNearest {code : UInt8} :
    Nearest p code ↔ IsNearest IsRate p.toNat (expandRate code).toNat := by
  constructor
  · intro h r hr
    obtain ⟨pc, rfl⟩ := exists_expandRate hr
    exact h pc
  · intro h pc
    exact h _ (isRate_expandRate pc)

theorem toNat_compressRate (hlow : 14 ≤ p.toNat) (hhigh : p.toNat < 14 * 2 ^ 28) :
    (expandRate (compressRate p)).toNat = floor 7 p.toNat := by
  have hfloor := @floor_le 7 p.toNat
  obtain ⟨pc, hpc⟩ := exists_expandRate (@onScale_floor 7 1 28 p.toNat (by decide) hlow (by omega))
  have hle : expandRate pc ≤ p := UInt32.le_iff_toNat_le.mpr (hpc ▸ hfloor)
  obtain ⟨hbelow, hgreatest⟩ := compressRate_of_le hle
  have hbelow := UInt32.le_iff_toNat_le.mp hbelow
  have hgreatest := UInt32.le_iff_toNat_le.mp (hgreatest pc hle)
  have hceil := @lt_floor_add 7 p.toNat
  rcases le_floor_or_ge (by decide) (show 7 ≤ p.toNat by omega) (isRate_expandRate (compressRate p)) with h | h
  · omega
  · omega

theorem nearest_of_lt (hlow : p.toNat < 14) : Nearest p (compressRate p) := by
  intro pc
  have hall : ∀ pc, p < expandRate pc := fun pc =>
    UInt32.lt_iff_toNat_lt.mpr (Nat.lt_of_lt_of_le hlow (rate_bounds (isRate_expandRate pc)).1)
  have hleast := UInt32.le_iff_toNat_le.mp (compressRate_of_lt hall pc)
  have hcode := UInt32.lt_iff_toNat_lt.mp (hall (compressRate p))
  have hpc := UInt32.lt_iff_toNat_lt.mp (hall pc)
  rw [Nat.dist_eq_sub_of_le_right hcode.le, Nat.dist_eq_sub_of_le_right hpc.le]
  omega

theorem nearest_of_ge (hhigh : 14 * 2 ^ 28 ≤ p.toNat) : Nearest p (compressRate p) := by
  intro pc
  have hall : ∀ pc, expandRate pc ≤ p := fun pc =>
    UInt32.le_iff_toNat_le.mpr ((rate_bounds (isRate_expandRate pc)).2.trans hhigh)
  have hgreatest := UInt32.le_iff_toNat_le.mp ((compressRate_of_le (hall pc)).2 pc (hall pc))
  have hcode := UInt32.le_iff_toNat_le.mp (hall (compressRate p))
  have hpc := UInt32.le_iff_toNat_le.mp (hall pc)
  rw [Nat.dist_eq_sub_of_le hcode, Nat.dist_eq_sub_of_le hpc]
  omega

/-- A probability between two rates comes to the nearest one only in the lower half
of the step between them; a rate itself comes back. -/
theorem nearest_compressRate_iff (p : UInt32) :
    (Nearest p (compressRate p) ↔ p.toNat < 14 ∨ 14 * 2 ^ 28 ≤ p.toNat ∨
      2 * (p.toNat % step 7 p.toNat) ≤ step 7 p.toNat) ∧
    ∀ pc, expandRate (compressRate (expandRate pc)) = expandRate pc := by
  refine ⟨?_, expandRate_compressRate⟩
  rcases Nat.lt_or_ge p.toNat 14 with hlow | hlow
  · exact iff_of_true (nearest_of_lt hlow) (.inl hlow)
  · rcases Nat.lt_or_ge p.toNat (14 * 2 ^ 28) with hhigh | hhigh
    · rw [nearest_iff_isNearest, toNat_compressRate hlow hhigh,
        isNearest_floor_iff (by decide) hlow (by omega)]
      omega
    · exact iff_of_true (nearest_of_ge hhigh) (.inr (.inl hhigh))

/-- 31 is next to the rate 32, and gets the code of the rate 28. -/
theorem not_nearest_31 : ¬ ∀ p, Nearest p (compressRate p) := by
  intro h
  have hdist := h 31 41
  have hcode : (expandRate (compressRate 31)).toNat = 28 :=
    toNat_compressRate (by decide) (by decide)
  rw [hcode] at hdist
  revert hdist
  decide

end HuntersGuild.RareRates
