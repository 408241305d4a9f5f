import Mathlib.Data.Nat.Dist
import Mathlib.Tactic.Ring

/-!
Scales of numbers with a short mantissa: the multiples `v * 2 ^ j` with
`b ≤ v ≤ 2 * b`. Between two powers of two times `b` they are evenly spaced.
-/

namespace HuntersGuild.BinaryScales

/-- The numbers on a scale whose exponents go from `lo` to `hi`. -/
def OnScale (b lo hi r : Nat) : Prop :=
  ∃ v j, b ≤ v ∧ v ≤ 2 * b ∧ lo ≤ j ∧ j ≤ hi ∧ r = v * 2 ^ j

/-- The distance of the numbers on a scale around `p`. -/
def step (b p : Nat) : Nat := 2 ^ (p / b).log2

/-- The number on a scale up to which one has to go down from `p`. -/
def floor (b p : Nat) : Nat := p / step b p * step b p

variable {b lo hi p r : Nat}

theorem step_pos : 0 < step b p := Nat.two_pow_pos _

theorem mul_step_le (hb : 0 < b) (hp : b ≤ p) : b * step b p ≤ p := by
  have hquotient : p / b ≠ 0 := (Nat.div_pos hp hb).ne'
  calc b * step b p ≤ b * (p / b) := Nat.mul_le_mul_left b (Nat.log2_self_le hquotient)
    _ ≤ p := Nat.mul_div_le p b

theorem lt_mul_step (hb : 0 < b) : p < 2 * b * step b p := by
  have hquotient : p / b < 2 ^ ((p / b).log2 + 1) := Nat.lt_log2_self
  have hp := (Nat.div_lt_iff_lt_mul hb).mp hquotient
  rw [Nat.pow_succ] at hp
  calc p < step b p * 2 * b := hp
    _ = 2 * b * step b p := by ring

theorem floor_le : floor b p ≤ p := Nat.div_mul_le_self p _

theorem lt_floor_add : p < floor b p + step b p := by
  have hdiv := Nat.div_add_mod' p (step b p)
  have hmod := Nat.mod_lt p (step_pos (b := b) (p := p))
  unfold floor
  omega

theorem sub_floor : p - floor b p = p % step b p := by
  have hdiv := Nat.div_add_mod' p (step b p)
  unfold floor
  omega

theorem mantissa_bounds (hb : 0 < b) (hp : b ≤ p) : b ≤ p / step b p ∧ p / step b p < 2 * b :=
  ⟨(Nat.le_div_iff_mul_le step_pos).mpr (mul_step_le hb hp),
    (Nat.div_lt_iff_lt_mul step_pos).mpr (lt_mul_step hb)⟩

/-- The exponent at which `p` lies is one of the scale's. -/
theorem exponent_bounds (hb : 0 < b) (hlow : b * 2 ^ lo ≤ p) (hhigh : p < 2 * b * 2 ^ hi) :
    lo ≤ (p / b).log2 ∧ (p / b).log2 ≤ hi := by
  have hle : 2 ^ lo ≤ p / b := (Nat.le_div_iff_mul_le hb).mpr (by rwa [Nat.mul_comm])
  have hquotient : p / b ≠ 0 := fun hzero => by
    rw [hzero] at hle
    exact Nat.not_lt.mpr hle (Nat.two_pow_pos lo)
  have hlt : p / b < 2 ^ (hi + 1) := by
    refine (Nat.div_lt_iff_lt_mul hb).mpr ?_
    calc p < 2 * b * 2 ^ hi := hhigh
      _ = 2 ^ (hi + 1) * b := by ring
  exact ⟨(Nat.le_log2 hquotient).mpr hle, Nat.lt_succ_iff.mp ((Nat.log2_lt hquotient).mpr hlt)⟩

theorem le_of_mul_pow_le (hlow : b * 2 ^ lo ≤ p) : b ≤ p :=
  (Nat.le_mul_of_pos_right b (Nat.two_pow_pos lo)).trans hlow

theorem onScale_floor (hb : 0 < b) (hlow : b * 2 ^ lo ≤ p) (hhigh : p < 2 * b * 2 ^ hi) :
    OnScale b lo hi (floor b p) := by
  obtain ⟨hle, hlt⟩ := mantissa_bounds hb (le_of_mul_pow_le hlow)
  obtain ⟨hlo, hhi⟩ := exponent_bounds hb hlow hhigh
  exact ⟨p / step b p, (p / b).log2, hle, hlt.le, hlo, hhi, rfl⟩

theorem onScale_ceil (hb : 0 < b) (hlow : b * 2 ^ lo ≤ p) (hhigh : p < 2 * b * 2 ^ hi) :
    OnScale b lo hi (floor b p + step b p) := by
  obtain ⟨hle, hlt⟩ := mantissa_bounds hb (le_of_mul_pow_le hlow)
  obtain ⟨hlo, hhi⟩ := exponent_bounds hb hlow hhigh
  refine ⟨p / step b p + 1, (p / b).log2, Nat.le_succ_of_le hle, hlt, hlo, hhi, ?_⟩
  rw [floor, Nat.add_mul, Nat.one_mul]
  rfl

/-- Nothing on the scale lies between the floor and the next number: a number with a
smaller exponent is not above the floor, and the others are multiples of the step. -/
theorem le_floor_or_ge (hb : 0 < b) (hp : b ≤ p) (hr : OnScale b lo hi r) :
    r ≤ floor b p ∨ floor b p + step b p ≤ r := by
  obtain ⟨v, j, -, hv, -, -, rfl⟩ := hr
  obtain ⟨hle, -⟩ := mantissa_bounds hb hp
  rcases Nat.lt_or_ge j (p / b).log2 with hlt | hge
  · refine .inl ?_
    calc v * 2 ^ j ≤ 2 * b * 2 ^ j := Nat.mul_le_mul_right _ hv
      _ = b * 2 ^ (j + 1) := by ring
      _ ≤ b * step b p := Nat.mul_le_mul_left b (Nat.pow_le_pow_right (by omega) hlt)
      _ ≤ floor b p := Nat.mul_le_mul_right _ hle
  · have hmultiple : v * 2 ^ j = v * 2 ^ (j - (p / b).log2) * step b p := by
      rw [step, Nat.mul_assoc, ← Nat.pow_add, Nat.sub_add_cancel hge]
    rw [hmultiple, floor, ← Nat.succ_mul]
    rcases Nat.lt_or_ge (p / step b p) (v * 2 ^ (j - (p / b).log2)) with habove | hbelow
    · exact .inr (Nat.mul_le_mul_right _ habove)
    · exact .inl (Nat.mul_le_mul_right _ hbelow)

/-- A number is nearest on a scale when no other one is closer. -/
def IsNearest (onScale : Nat → Prop) (p r : Nat) : Prop :=
  ∀ r', onScale r' → Nat.dist r p ≤ Nat.dist r' p

/-- Rounding down is rounding to the nearest in the lower half of a step. -/
theorem isNearest_floor_iff (hb : 0 < b) (hlow : b * 2 ^ lo ≤ p) (hhigh : p < 2 * b * 2 ^ hi) :
    IsNearest (OnScale b lo hi) p (floor b p) ↔ 2 * (p % step b p) ≤ step b p := by
  have hfloor := floor_le (b := b) (p := p)
  have hceil := lt_floor_add (b := b) (p := p)
  have hsub := sub_floor (b := b) (p := p)
  constructor
  · intro h
    have hdist := h _ (onScale_ceil hb hlow hhigh)
    rw [Nat.dist_eq_sub_of_le hfloor, Nat.dist_eq_sub_of_le_right hceil.le, hsub] at hdist
    omega
  · intro h r hr
    rw [Nat.dist_eq_sub_of_le hfloor, hsub]
    rcases le_floor_or_ge hb (le_of_mul_pow_le hlow) hr with hle | hge
    · rw [Nat.dist_eq_sub_of_le (hle.trans hfloor)]
      omega
    · rw [Nat.dist_eq_sub_of_le_right (hceil.le.trans hge)]
      omega

end HuntersGuild.BinaryScales
