import HuntersGuild.ShopDraws
import HuntersGuild.WeightedChoice

/-!
`ItemCreator::get_rand_from_weighted_tables`, with which the parts of dropped
items are drawn.
-/

namespace HuntersGuild.WeightedTables

open HuntersGuild.ByteStreams
open HuntersGuild.RandomPrograms
open HuntersGuild.ShopDraws
open HuntersGuild.StatefulPrograms
open HuntersGuild.WeaponShops
open HuntersGuild.WeightedChoice
open Stream'

/-- The types of the weights in the tables. -/
inductive IntT where
  | uint8
  | uint16

def IntT.bits : IntT → Nat
  | .uint8 => 8
  | .uint16 => 16

/-- The values of the type, which are weights and indexes of weights. -/
abbrev IntT.Value (t : IntT) : Type :=
  BitVec t.bits

section

/- The memory that `tables` points to, and what is read from it. -/
variable {t : IntT} (tables : Nat → t.Value) (offset : Nat) (numValues : Nat) (stride : Nat)

def weight (z : Nat) : t.Value :=
  tables (z * stride + offset)

/-- `rand_max` -/
def randMax : UInt64 :=
  (List.range numValues).foldl
    (fun sum x => sum + UInt64.ofNat (weight tables offset stride x).toNat) 0

/-- The second loop, from the index `z` on. -/
def select : Nat → Nat → UInt32 → Except Exception t.Value
  | _, 0, _ => .error (.logicError "selector was not less than rand_max")
  | z, n + 1, x =>
    let tableValue := weight tables offset stride z
    if x.toNat < tableValue.toNat then .ok (BitVec.ofNat t.bits z)
    else select (z + 1) n (x - UInt32.ofNat tableValue.toNat)

def getRandFromWeightedTables : Program t.Value := do
  let randMax := randMax tables offset numValues stride
  if randMax = 0 then
    throw (.runtimeError "weighted table is empty")
  else
    let x ← randInt randMax
    fromExcept (select tables offset stride 0 numValues x)

end

section

variable {t : IntT} {tables : Nat → t.Value} {offset numValues stride : Nat}

/-- The weights from the index `z` on. -/
def weights (tables : Nat → t.Value) (offset stride z n : Nat) : List Nat :=
  (List.range' z n).map fun z => (weight tables offset stride z).toNat

theorem IntT.bits_le (t : IntT) : t.bits ≤ 16 := by
  cases t <;> decide

variable (tables offset stride) in
theorem weight_lt (z : Nat) : (weight tables offset stride z).toNat < 2 ^ 16 :=
  (weight tables offset stride z).isLt.trans_le (Nat.pow_le_pow_right (by decide) t.bits_le)

theorem weights_succ (z n : Nat) : weights tables offset stride z (n + 1) =
    (weight tables offset stride z).toNat :: weights tables offset stride (z + 1) n := by
  rw [weights, List.range'_succ, List.map_cons, weights]

/-- The 32-bit subtractions do not wrap, since only smaller weights are subtracted. -/
theorem select_of_choose {z n k : Nat} {x : UInt32}
    (h : choose (weights tables offset stride z n) x.toNat = some k) :
    select tables offset stride z n x = .ok (BitVec.ofNat t.bits (z + k)) := by
  induction n generalizing z k x with
  | zero => exact absurd h (by simp [weights, choose])
  | succ n ih =>
      rw [weights_succ, choose] at h
      rw [select]
      split_ifs at h ⊢ with hselect
      · rw [← Option.some.inj h, Nat.add_zero]
      · rcases Option.map_eq_some_iff.mp h with ⟨k', hchoose, rfl⟩
        have hlt := weight_lt tables offset stride z
        have hweight : (UInt32.ofNat (weight tables offset stride z).toNat).toNat =
            (weight tables offset stride z).toNat :=
          UInt32.toNat_ofNat_of_lt' (hlt.trans (by decide))
        have hsub : (x - UInt32.ofNat (weight tables offset stride z).toNat).toNat =
            x.toNat - (weight tables offset stride z).toNat := by
          rw [UInt32.toNat_sub_of_le, hweight]
          rw [UInt32.le_iff_toNat_le, hweight]
          exact Nat.not_lt.mp hselect
        rw [ih (by rw [hsub]; exact hchoose)]
        congr 2
        omega

variable (tables offset stride) in
theorem toNat_randMax {n : Nat} (hn : n ≤ 2 ^ 16) :
    (randMax tables offset n stride).toNat = (weights tables offset stride 0 n).sum ∧
      (weights tables offset stride 0 n).sum ≤ n * 2 ^ 16 := by
  induction n with
  | zero => exact ⟨rfl, Nat.le_refl _⟩
  | succ n ih =>
      rcases ih (Nat.le_of_succ_le hn) with ⟨hsum, hle⟩
      have hlt := weight_lt tables offset stride n
      have hweight : (UInt64.ofNat (weight tables offset stride n).toNat).toNat =
          (weight tables offset stride n).toNat :=
        UInt64.toNat_ofNat_of_lt' (hlt.trans (by decide))
      have hsucc : (weights tables offset stride 0 (n + 1)).sum =
          (weights tables offset stride 0 n).sum + (weight tables offset stride n).toNat := by
        rw [weights, List.range'_concat, List.map_append, List.sum_append, weights]
        simp
      rw [hsucc]
      constructor
      · unfold randMax at hsum ⊢
        rw [List.range_succ, List.foldl_append, List.foldl_cons, List.foldl_nil, UInt64.toNat_add,
          hsum, hweight]
        apply Nat.mod_eq_of_lt
        omega
      · omega

theorem run_randInt {max : UInt64} (h : max ≠ 0) (s : Stream' UInt32) :
    (randInt max).run s = .ok (s.head.toUInt64 % max).toUInt32 s.tail := by
  have hnext : (next : Program UInt32).run s = .ok s.head s.tail := rfl
  unfold randInt
  rw [run_bind_of_ok hnext, if_neg h]
  rfl

/-- The tables are drawn from as their weights say, for every stream of random
words, and for each random number as often as for any other. -/
structure FollowsWeights (tables : Nat → t.Value) (offset numValues stride : Nat) : Prop where
  returns : ∀ s : Stream' UInt32, ∃ z : t.Value, z.toNat < numValues ∧
    (getRandFromWeightedTables tables offset numValues stride).run s = .ok z s.tail
  draws : ∀ z < numValues, ∀ rest : Stream' UInt32,
    (List.range (randMax tables offset numValues stride).toNat).countP (fun r =>
      ((getRandFromWeightedTables tables offset numValues stride).run'
        (Stream'.cons (UInt32.ofNat r) rest)).map BitVec.toNat = some z) =
      (weight tables offset stride z).toNat

theorem run_of_choose (h : randMax tables offset numValues stride ≠ 0) {s : Stream' UInt32} {k : Nat}
    (hchoose : choose (weights tables offset stride 0 numValues)
      (s.head.toNat % (randMax tables offset numValues stride).toNat) = some k) :
    (getRandFromWeightedTables tables offset numValues stride).run s =
      .ok (BitVec.ofNat t.bits k) s.tail := by
  rw [← toNat_remainder] at hchoose
  unfold getRandFromWeightedTables
  dsimp only
  rw [if_neg h, run_bind_of_ok (run_randInt h s), select_of_choose hchoose, Nat.zero_add]
  rfl

theorem length_weights (z n : Nat) : (weights tables offset stride z n).length = n := by
  rw [weights, List.length_map, List.length_range']

theorem getD_weights {z : Nat} (hz : z < numValues) :
    (weights tables offset stride 0 numValues).getD z 0 = (weight tables offset stride z).toNat := by
  rw [weights, List.getD_eq_getElem?_getD, List.getElem?_map, List.getElem?_range' hz]
  simp

theorem followsWeights (hsum : randMax tables offset numValues stride ≠ 0)
    (hfits : numValues ≤ 2 ^ t.bits) : FollowsWeights tables offset numValues stride := by
  have hn : numValues ≤ 2 ^ 16 := hfits.trans (Nat.pow_le_pow_right (by decide) t.bits_le)
  rcases toNat_randMax tables offset stride hn with ⟨htotal, hle⟩
  have hpos : 0 < (randMax tables offset numValues stride).toNat :=
    Nat.pos_of_ne_zero fun hzero => hsum (UInt64.toNat_inj.mp hzero)
  have hindex {k : Nat} (hk : k < numValues) : (BitVec.ofNat t.bits k).toNat = k := by
    rw [BitVec.toNat_ofNat, Nat.mod_eq_of_lt (hk.trans_le hfits)]
  have hchosen (ticket : Nat) (h : ticket < (randMax tables offset numValues stride).toNat) :
      ∃ k < numValues, choose (weights tables offset stride 0 numValues) ticket = some k := by
    rw [htotal] at h
    rcases exists_choose h with ⟨k, hk, hchoose⟩
    rw [length_weights] at hk
    exact ⟨k, hk, hchoose⟩
  constructor
  · intro s
    rcases hchosen _ (Nat.mod_lt s.head.toNat hpos) with ⟨k, hk, hchoose⟩
    exact ⟨BitVec.ofNat t.bits k, by rwa [hindex hk], run_of_choose hsum hchoose⟩
  · intro z hz rest
    rw [← getD_weights hz, ← countP_choose, ← htotal]
    apply List.countP_congr
    intro r hr
    rw [List.mem_range] at hr
    rcases hchosen r hr with ⟨k, hk, hchoose⟩
    have hhead : (Stream'.cons (UInt32.ofNat r) rest).head.toNat %
        (randMax tables offset numValues stride).toNat = r := by
      have hr32 : r < 2 ^ 32 := by omega
      rw [Stream'.head_cons, UInt32.toNat_ofNat_of_lt' hr32, Nat.mod_eq_of_lt hr]
    have hrun := run_of_choose hsum (hhead.symm ▸ hchoose)
    have hvalue : (getRandFromWeightedTables tables offset numValues stride).run'
        (Stream'.cons (UInt32.ofNat r) rest) = some (BitVec.ofNat t.bits k) := by
      unfold EStateM.run'
      rw [hrun]
    rw [hvalue, Option.map_some, hindex hk, hchoose]

theorem followsWeights_pair :
    (randMax (t := .uint8) (fun i => if i = 0 then 40 else 80) 0 2 1 ≠ 0 ∧ 2 ≤ 2 ^ 8) ∧
      FollowsWeights (t := .uint8) (fun i => if i = 0 then 40 else 80) 0 2 1 :=
  ⟨⟨by decide, by decide⟩, followsWeights (by decide) (by decide)⟩

/-- The index 256 does not fit in an 8-bit result. -/
theorem not_followsWeights_long :
    randMax (t := .uint8) (fun i => if i = 256 then 1 else 0) 0 257 1 = 1 ∧
      ¬ FollowsWeights (t := .uint8) (fun i => if i = 256 then 1 else 0) 0 257 1 := by
  constructor
  · decide +kernel
  · intro h
    have hdraws := h.draws 0 (by decide) (Stream'.const 0)
    exact absurd hdraws (by decide +kernel)

end

end HuntersGuild.WeightedTables
