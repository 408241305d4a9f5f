import Mathlib.Data.Fintype.Card
import Mathlib.Data.List.ProdSigma
import Mathlib.Logic.Equiv.Basic
import HuntersGuild.PsoLfgEncryption
import HuntersGuild.ScatteredWrites

/-!
`ShuffleTables`: the order of the bytes in an encrypted section of a save file.
-/

namespace HuntersGuild.SaveShuffles

open HuntersGuild.PsoLfgEncryption
open HuntersGuild.ScatteredWrites

/-- `std::logic_error` -/
structure LogicError where
  what : String
  deriving DecidableEq

/-- 0x100 bytes, which a byte is an index of. -/
abbrev Table : Type :=
  Vector UInt8 0x100

def Table.read (table : Table) (z : UInt8) : UInt8 :=
  table.get ⟨z.toNat, z.toNat_lt⟩

def Table.write (table : Table) (z value : UInt8) : Table :=
  table.set z.toNat value z.toNat_lt

structure ShuffleTables where
  forwardTable : Table
  reverseTable : Table

namespace ShuffleTables

def pseudorand (crypt : PSOLFGEncryption) (prev : UInt32) : UInt32 × PSOLFGEncryption :=
  let (word, crypt) := crypt.next
  ((((prev &&& (0xFFFF : UInt32)) * ((word >>> 16) &&& (0xFFFF : UInt32))) >>> 16) &&&
    (0xFFFF : UInt32), crypt)

/-- What a round of the constructor does, after its check; `r31` points to the
entry `r28` of the forward table. -/
def exchange (self : ShuffleTables) (r3 r28 : UInt8) : ShuffleTables :=
  let t := self.forwardTable.read r3
  let forwardTable := self.forwardTable.write r3 (self.forwardTable.read r28)
  let forwardTable := forwardTable.write r28 t
  { forwardTable, reverseTable := self.reverseTable.write t r28 }

/-- The loop of the constructor, with `r28 + 1` for the number of rounds that
are left. -/
def fill : Nat → ShuffleTables → PSOLFGEncryption → Except LogicError (ShuffleTables × PSOLFGEncryption)
  | 0, self, crypt => return (self, crypt)
  | r28 + 1, self, crypt => do
    let (r3, crypt) := pseudorand crypt (UInt32.ofNat (r28 + 1))
    if r3 ≥ 0x100 then
      throw { what := "bad r3" }
    else
      fill r28 (self.exchange r3.toUInt8 (UInt8.ofNat r28)) crypt

/-- The constructor; `reverseTable` is what the memory holds before. -/
def new (reverseTable : Table) (crypt : PSOLFGEncryption) :
    Except LogicError (ShuffleTables × PSOLFGEncryption) :=
  fill 0x100 { forwardTable := Vector.ofFn fun x => UInt8.ofNat x, reverseTable } crypt

/-- `size` is a 64-bit value, and the mask is a 32-bit one. -/
def shuffle (self : ShuffleTables) (dest src : List UInt8) (size : Nat) (reverse : Bool) :
    List UInt8 :=
  let table := if reverse then self.reverseTable else self.forwardTable
  let blocks := size &&& 0xFFFFFF00
  let dest := (List.range' 0 (blocks / 0x100) 0x100).foldl (fun dest blockOffset =>
    (List.range 0x100).foldl (fun dest z =>
      dest.set (blockOffset + (table.read (UInt8.ofNat z)).toNat) (src.getD (blockOffset + z) 0))
      dest) dest
  -- the bytes that do not fill a block
  (List.range (size &&& 0xFF)).foldl (fun dest z =>
    dest.set (blocks + z) (src.getD (blocks + z) 0)) dest

end ShuffleTables

section Tables

variable {table : Table} {z w : UInt8}

theorem Table.read_write (value : UInt8) :
    (table.write z value).read w = if z = w then value else table.read w := by
  refine (Vector.getElem_set z.toNat_lt w.toNat_lt).trans ?_
  simp only [UInt8.toNat_inj]
  rfl

theorem Table.read_ofFn (f : Fin 0x100 → UInt8) :
    Table.read (Vector.ofFn f) z = f ⟨z.toNat, z.toNat_lt⟩ :=
  Vector.getElem_ofFn z.toNat_lt

end Tables

namespace ShuffleTables

variable {self : ShuffleTables}

/-- The entries of the forward table are different, and those from `n` on are in
the reverse table. -/
structure Filled (n : Nat) (tables : ShuffleTables) : Prop where
  injective : Function.Injective tables.forwardTable.read
  recorded : ∀ z : UInt8, n ≤ z.toNat → tables.reverseTable.read (tables.forwardTable.read z) = z

theorem read_exchange (r3 r28 : UInt8) :
    (self.exchange r3 r28).forwardTable.read = self.forwardTable.read ∘ Equiv.swap r3 r28 := by
  funext z
  unfold exchange
  dsimp only [Function.comp_apply]
  rw [Table.read_write, Table.read_write, Equiv.swap_apply_def]
  rcases eq_or_ne r28 z with rfl | hr28
  · rw [if_pos rfl, if_pos rfl]
    split_ifs with heq
    · rw [heq]
    · rfl
  · rw [if_neg hr28]
    rcases eq_or_ne r3 z with rfl | hr3
    · rw [if_pos rfl, if_pos rfl]
    · rw [if_neg hr3, if_neg hr3.symm, if_neg hr28.symm]

theorem reverseTable_exchange (r3 r28 : UInt8) :
    (self.exchange r3 r28).reverseTable =
      self.reverseTable.write (self.forwardTable.read r3) r28 :=
  rfl

/-- The entry `r28` does not move in later rounds. -/
theorem Filled.exchange {n : Nat} {r3 r28 : UInt8} (h : Filled (n + 1) self)
    (hr28 : r28.toNat = n) (hr3 : r3.toNat ≤ n) : Filled n (self.exchange r3 r28) := by
  constructor
  · rw [read_exchange]
    exact h.injective.comp (Equiv.swap r3 r28).injective
  · intro z hz
    rw [read_exchange, reverseTable_exchange, Function.comp_apply, Table.read_write]
    rcases eq_or_ne z r28 with rfl | hne
    · rw [Equiv.swap_apply_right, if_pos rfl]
    · have hlt : n + 1 ≤ z.toNat := by
        refine lt_of_le_of_ne hz ?_
        rw [← hr28]
        exact fun heq => hne (UInt8.toNat_inj.mp heq).symm
      have hner3 : z ≠ r3 := by
        rintro rfl
        omega
      rw [Equiv.swap_apply_of_ne_of_ne hner3 hne, if_neg (h.injective.ne hner3.symm)]
      exact h.recorded z hlt

theorem toNat_pseudorand_lt (crypt : PSOLFGEncryption) (prev : UInt32) (hpos : 0 < prev.toNat)
    (hle : prev.toNat ≤ 0x100) : (pseudorand crypt prev).1.toNat < prev.toNat := by
  have hmask (x : UInt32) : (x &&& 0xFFFF).toNat = x.toNat % 0x10000 :=
    (UInt32.toNat_and _ _).trans (Nat.and_two_pow_sub_one_eq_mod x.toNat 16)
  unfold pseudorand
  dsimp only
  have hword : (crypt.next.1 >>> 16 &&& 0xFFFF).toNat < 0x10000 := by
    rw [hmask]
    exact Nat.mod_lt _ (by decide)
  have hprod : prev.toNat * (crypt.next.1 >>> 16 &&& 0xFFFF).toNat < 0x10000 * prev.toNat := by
    rw [Nat.mul_comm]
    exact Nat.mul_lt_mul_of_pos_right hword hpos
  have hsmall : prev.toNat * (crypt.next.1 >>> 16 &&& 0xFFFF).toNat < 2 ^ 32 := by omega
  rw [hmask, UInt32.toNat_shiftRight, UInt32.toNat_mul, hmask prev,
    Nat.mod_eq_of_lt (a := prev.toNat) (by omega), Nat.mod_eq_of_lt hsmall,
    Nat.shiftRight_eq_div_pow]
  exact (Nat.mod_le _ _).trans_lt (Nat.div_lt_of_lt_mul hprod)

theorem filled_start (reverseTable : Table) :
    Filled 0x100 { forwardTable := Vector.ofFn fun x => UInt8.ofNat x, reverseTable } := by
  constructor
  · intro z w hzw
    dsimp only at hzw
    rwa [Table.read_ofFn, Table.read_ofFn, UInt8.ofNat_toNat, UInt8.ofNat_toNat] at hzw
  · intro z hz
    exact absurd z.toNat_lt (not_lt.mpr hz)

theorem exists_fill {n : Nat} (hn : n ≤ 0x100) (h : Filled n self) (crypt : PSOLFGEncryption) :
    ∃ tables crypt', fill n self crypt = .ok (tables, crypt') ∧ Filled 0 tables := by
  induction n generalizing self crypt with
  | zero => exact ⟨self, crypt, rfl, h⟩
  | succ n ih =>
      have hprev : (UInt32.ofNat (n + 1)).toNat = n + 1 :=
        UInt32.toNat_ofNat_of_lt' (by unfold UInt32.size; omega)
      have hr3 := toNat_pseudorand_lt crypt (UInt32.ofNat (n + 1)) (by omega) (by omega)
      rw [hprev] at hr3
      have hcheck : ¬ (pseudorand crypt (UInt32.ofNat (n + 1))).1 ≥ 0x100 := by
        rw [ge_iff_le, UInt32.le_iff_toNat_le]
        exact not_le.mpr (hr3.trans_le hn)
      rw [fill]
      dsimp only
      rw [if_neg hcheck]
      apply ih (by omega)
      apply h.exchange
      · rw [UInt8.toNat_ofNat_of_lt' (by unfold UInt8.size; omega)]
      · rw [UInt32.toNat_toUInt8]
        exact (Nat.mod_le _ _).trans (Nat.lt_succ_iff.mp hr3)

/-- The two tables are permutations of the bytes, and inverses of each other. -/
structure Inverse (tables : ShuffleTables) : Prop where
  left : Function.LeftInverse tables.reverseTable.read tables.forwardTable.read
  right : Function.RightInverse tables.reverseTable.read tables.forwardTable.read

theorem Filled.inverse (h : Filled 0 self) : self.Inverse := by
  have hleft : Function.LeftInverse self.reverseTable.read self.forwardTable.read :=
    fun z => h.recorded z (Nat.zero_le _)
  have hbytes : Finite UInt8 :=
    .of_injective UInt8.toFin fun _ _ => UInt8.toFin_inj.mp
  refine ⟨hleft, ?_⟩
  exact hleft.rightInverse_of_surjective (Finite.surjective_of_injective h.injective)

theorem exists_new (reverseTable : Table) (crypt : PSOLFGEncryption) :
    ∃ tables crypt', new reverseTable crypt = .ok (tables, crypt') ∧ tables.Inverse := by
  rcases exists_fill (Nat.le_refl _) (filled_start reverseTable) crypt with
    ⟨tables, crypt', hnew, hfilled⟩
  exact ⟨tables, crypt', hnew, hfilled.inverse⟩

/-- The table that a direction of `shuffle` uses. -/
def table (self : ShuffleTables) (reverse : Bool) : Table :=
  if reverse then self.reverseTable else self.forwardTable

theorem Inverse.read_read (h : self.Inverse) (reverse : Bool) (z : UInt8) :
    (self.table (!reverse)).read ((self.table reverse).read z) = z := by
  cases reverse with
  | false => exact h.left z
  | true => exact h.right z

theorem Inverse.injective (h : self.Inverse) (reverse : Bool) :
    Function.Injective (self.table reverse).read :=
  Function.LeftInverse.injective (h.read_read reverse)

section Buffers

variable {dest : List UInt8} (src : List UInt8) {size : Nat} (reverse : Bool)

theorem blocks_eq (hsize : size < 2 ^ 32) : size &&& 0xFFFFFF00 = 0x100 * (size / 0x100) := by
  have hmask : 0xFFFFFF00 = (2 ^ 24 - 1) <<< 8 := by decide
  have hquot : 0x100 * (size / 0x100) = (size >>> 8) <<< 8 := by
    rw [Nat.shiftLeft_eq, Nat.shiftRight_eq_div_pow, Nat.mul_comm]
  rw [hmask, hquot]
  apply Nat.eq_of_testBit_eq
  intro i
  rw [Nat.testBit_and, Nat.testBit_shiftLeft, Nat.testBit_shiftLeft, Nat.testBit_two_pow_sub_one,
    Nat.testBit_shiftRight]
  rcases Nat.lt_or_ge i 8 with hi | hi
  · rw [decide_eq_false (not_le.mpr hi), Bool.false_and, Bool.and_false, Bool.false_and]
  · rw [decide_eq_true hi, Bool.true_and, Bool.true_and, Nat.add_sub_cancel' hi]
    rcases Nat.lt_or_ge i 32 with hlt | hge
    · rw [decide_eq_true (by omega), Bool.and_true]
    · rw [Nat.testBit_lt_two_pow (hsize.trans_le (Nat.pow_le_pow_right (by decide) hge)),
        Bool.false_and]

/-- The places of the bytes that are in blocks. -/
def blockBytes (size : Nat) : List (Nat × Nat) :=
  List.range' 0 (size / 0x100) 0x100 ×ˢ List.range 0x100

theorem shuffle_eq (hsize : size < 2 ^ 32) :
    self.shuffle dest src size reverse =
      scatter (fun z => 0x100 * (size / 0x100) + z)
        (fun z => src.getD (0x100 * (size / 0x100) + z) 0) (List.range (size % 0x100))
        (scatter (fun k => k.1 + ((self.table reverse).read (UInt8.ofNat k.2)).toNat)
          (fun k => src.getD (k.1 + k.2) 0) (blockBytes size) dest) := by
  have hrest : size &&& 0xFF = size % 0x100 := Nat.and_two_pow_sub_one_eq_mod size 8
  unfold shuffle blockBytes scatter
  dsimp only [SProd.sprod, List.product]
  rw [blocks_eq hsize, hrest, List.foldl_flatMap, Nat.mul_div_cancel_left _ (by decide)]
  simp only [List.foldl_map]
  rfl

theorem mem_blockBytes {k : Nat × Nat} :
    k ∈ blockBytes size ↔ (∃ q < size / 0x100, k.1 = 0x100 * q) ∧ k.2 < 0x100 := by
  rcases k with ⟨blockOffset, z⟩
  rw [blockBytes, List.mem_product, List.mem_range', List.mem_range]
  simp only [Nat.zero_add]

theorem getElem?_shuffle_block (h : self.Inverse) (hsize : size < 2 ^ 32)
    (hdest : size ≤ dest.length) {q : Nat} (hq : q < size / 0x100) (z : UInt8) :
    (self.shuffle dest src size reverse)[0x100 * q + ((self.table reverse).read z).toNat]? =
      some (src.getD (0x100 * q + z.toNat) 0) := by
  have hread := ((self.table reverse).read z).toNat_lt
  rw [shuffle_eq src reverse hsize, getElem?_scatter_of_ne]
  · apply getElem?_scatter_of_eq
    · intro k hk hkp
      rcases mem_blockBytes.mp hk with ⟨⟨q', hq', hkq⟩, hkz⟩
      have hread' := ((self.table reverse).read (UInt8.ofNat k.2)).toNat_lt
      have hqq : q' = q := by omega
      have hzz : UInt8.ofNat k.2 = z := by
        apply h.injective reverse
        apply UInt8.toNat_inj.mp
        omega
      rw [hkq, hqq, ← hzz, UInt8.toNat_ofNat_of_lt' hkz]
    · omega
    · right
      refine ⟨(0x100 * q, z.toNat), mem_blockBytes.mpr ⟨⟨q, hq, rfl⟩, z.toNat_lt⟩, ?_⟩
      rw [UInt8.ofNat_toNat]
  · intro k _
    omega

theorem getElem?_shuffle_rest (hsize : size < 2 ^ 32) (hdest : size ≤ dest.length) {p : Nat}
    (hle : 0x100 * (size / 0x100) ≤ p) (hlt : p < size) :
    (self.shuffle dest src size reverse)[p]? = some (src.getD p 0) := by
  rw [shuffle_eq src reverse hsize]
  apply getElem?_scatter_of_eq
  · intro k _ hkp
    rw [hkp]
  · rw [length_scatter]
    exact hlt.trans_le hdest
  · right
    exact ⟨p - 0x100 * (size / 0x100), List.mem_range.mpr (by omega), by omega⟩

/-- The bytes after the first `size` ones are not written. -/
theorem getElem?_shuffle_of_le (hsize : size < 2 ^ 32) {p : Nat} (hle : size ≤ p) :
    (self.shuffle dest src size reverse)[p]? = dest[p]? := by
  rw [shuffle_eq src reverse hsize, getElem?_scatter_of_ne, getElem?_scatter_of_ne]
  · intro k hk
    rcases mem_blockBytes.mp hk with ⟨⟨q, hq, hkq⟩, -⟩
    have hread := ((self.table reverse).read (UInt8.ofNat k.2)).toNat_lt
    omega
  · intro k hk
    have hlt := List.mem_range.mp hk
    omega

variable {src}

/-- Each direction of `shuffle` undoes the other one. -/
theorem shuffle_shuffle (h : self.Inverse) (hsize : size < 2 ^ 32) {dest' : List UInt8}
    (hsrc : size ≤ src.length) (hdest : size ≤ dest.length) (hdest' : size ≤ dest'.length) :
    (self.shuffle dest' (self.shuffle dest src size reverse) size (!reverse)).take size =
      src.take size := by
  apply List.ext_getElem?
  intro p
  rcases Nat.lt_or_ge p size with hlt | hge
  · rw [List.getElem?_take_of_lt hlt, List.getElem?_take_of_lt hlt,
      List.getElem?_eq_getElem (hlt.trans_le hsrc)]
    rcases Nat.lt_or_ge p (0x100 * (size / 0x100)) with hblock | hrest
    · have hq : p / 0x100 < size / 0x100 := Nat.div_lt_of_lt_mul hblock
      have hz : (UInt8.ofNat (p % 0x100)).toNat = p % 0x100 :=
        UInt8.toNat_ofNat_of_lt' (Nat.mod_lt _ (by decide))
      have hfirst := getElem?_shuffle_block src reverse h hsize hdest hq (UInt8.ofNat (p % 0x100))
      have hsecond := getElem?_shuffle_block (self.shuffle dest src size reverse) (!reverse) h hsize
        hdest' hq ((self.table reverse).read (UInt8.ofNat (p % 0x100)))
      rw [hz, Nat.div_add_mod] at hfirst
      rw [h.read_read, hz, Nat.div_add_mod, List.getD_eq_getElem?_getD, hfirst] at hsecond
      rw [hsecond, Option.getD_some, List.getD_eq_getElem _ _ (hlt.trans_le hsrc)]
    · rw [getElem?_shuffle_rest _ _ hsize hdest' hrest hlt, List.getD_eq_getElem?_getD,
        getElem?_shuffle_rest _ _ hsize hdest hrest hlt, Option.getD_some,
        List.getD_eq_getElem _ _ (hlt.trans_le hsrc)]
  · have hnone (l : List UInt8) : (l.take size)[p]? = none :=
      List.getElem?_eq_none ((List.length_take_le size l).trans hge)
    rw [hnone, hnone]

end Buffers

/-- The constructor succeeds for every state of the cipher, with tables that are
permutations and with which `shuffle` is undone. -/
theorem new_inverts (reverseTable : Table) (crypt : PSOLFGEncryption) :
    ∃ tables crypt', new reverseTable crypt = .ok (tables, crypt') ∧
      Function.Bijective tables.forwardTable.read ∧ tables.Inverse ∧
      ∀ (dest dest' src : List UInt8) (size : Nat) (reverse : Bool), size < 2 ^ 32 →
        size ≤ src.length → size ≤ dest.length → size ≤ dest'.length →
          (tables.shuffle dest' (tables.shuffle dest src size reverse) size (!reverse)).take size =
            src.take size := by
  rcases exists_new reverseTable crypt with ⟨tables, crypt', hnew, hinverse⟩
  refine ⟨tables, crypt', hnew, ⟨hinverse.injective false, ?_⟩, hinverse, ?_⟩
  · exact hinverse.right.surjective
  · intro dest dest' src size reverse hsize hsrc hdest hdest'
    exact shuffle_shuffle reverse hinverse hsize hsrc hdest hdest'

end ShuffleTables

end HuntersGuild.SaveShuffles
