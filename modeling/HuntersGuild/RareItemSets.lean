import HuntersGuild.ByteStreams
import HuntersGuild.Items
import HuntersGuild.WordBytes

/-!
The specifications of a rare item table, and the byte in which a drop rate is
stored.
-/

namespace HuntersGuild.Items

open HuntersGuild.WordBytes

/-- The words of `data1` and `data2` as the bytes they are made of. -/
def ItemData.bytes (self : ItemData) : List UInt8 :=
  self.data1.toList ++ littleEndian 4 self.data2d.toNat

def ItemData.empty (self : ItemData) : Bool :=
  self.data1.toList.all (· == 0) && self.data2d == 0

/-- The words `data1d[1]` and `data1d[2]` are the last eight bytes of `data1`. -/
def ItemData.canBeEncodedInRelRareTable (self : ItemData) : Bool :=
  (self.data1.toList.drop 3).all (· == 0) && self.data2d == 0

/-- `std::format("{:02X}")` of a byte. -/
def hexByte (v : UInt8) : List Char :=
  [Nat.digitChar (v.toNat / 16), Nat.digitChar (v.toNat % 16)].map Char.toUpper

/-- All the digits up to the last one that is not zero, in whole bytes, and at
least three bytes. -/
def ItemData.shortHex (self : ItemData) : String :=
  let ret := self.bytes.flatMap hexByte
  match (ret.reverse.dropWhile (· == '0')).length with
  | 0 => String.ofList ret
  | offset + 1 =>
    let offset := if offset % 2 = 1 then offset + 1 else offset + 2
    String.ofList (ret.take (max offset 6))

end HuntersGuild.Items

namespace HuntersGuild.RareItemSets

open HuntersGuild.Items (ItemData)

structure ExpandedDrop where
  probability : UInt32 := 0
  data : ItemData := .cleared
  deriving DecidableEq

structure SpecCollection where
  rtIndexToSpecs : List (List ExpandedDrop) := []
  boxAreaNormToSpecs : List (List ExpandedDrop) := []
  deriving DecidableEq

/-! ## Drop rates -/

/-- The subtraction stops at zero, as the clamped `shift` does. The product of
the two highest shifts is taken modulo 2^32. -/
def expandRate (pc : UInt8) : UInt32 :=
  let shift := ((pc >>> 3) &&& 0x1F).toNat - 4
  ((2 : UInt32) <<< UInt32.ofNat shift) * ((pc &&& 7).toUInt32 + 7)

/-- `emplace` of a `std::map`, whose entries are in the order of their keys: a
key that is there keeps its value. -/
def emplace (key : UInt32) (value : UInt8) :
    List (UInt32 × UInt8) → List (UInt32 × UInt8)
  | [] => [(key, value)]
  | entry :: entries =>
    if entry.1 < key then entry :: emplace key value entries
    else if entry.1 = key then entry :: entries
    else (key, value) :: entry :: entries

def inverseMap : List (UInt32 × UInt8) :=
  (List.range 0x100).foldl (fun m z => emplace (expandRate (.ofNat z)) (.ofNat z) m) []

/-- The first case is `end()`, the third one `begin()`. -/
def compressRate (probability : UInt32) : UInt8 :=
  let before := inverseMap.takeWhile (·.1 < probability)
  match inverseMap.dropWhile (·.1 < probability), before.getLast? with
  | [], last => (last.map (·.2)).getD 0
  | it :: _, none => it.2
  | it :: _, some prev =>
    if it.1 = probability then it.2
    else if (prev.1 - probability).toInt32 < (it.1 - probability).toInt32 then prev.2
    else it.2

/-! The map holds every rate, in order. -/

/-- What holds of the map while it is filled. -/
structure Inverse (m : List (UInt32 × UInt8)) : Prop where
  sorted : m.Pairwise (·.1 < ·.1)
  expands : ∀ entry ∈ m, expandRate entry.2 = entry.1

theorem mem_emplace {key : UInt32} {value : UInt8} {m : List (UInt32 × UInt8)}
    {entry : UInt32 × UInt8} (h : entry ∈ emplace key value m) :
    entry = (key, value) ∨ entry ∈ m := by
  induction m with
  | nil => exact .inl (List.mem_singleton.mp h)
  | cons first m ih =>
      unfold emplace at h
      split_ifs at h
      · rcases List.mem_cons.mp h with rfl | h
        · exact .inr List.mem_cons_self
        · exact (ih h).imp_right (List.mem_cons_of_mem first)
      · exact .inr h
      · exact List.mem_cons.mp h

theorem mem_keys_emplace {key : UInt32} {value : UInt8} {m : List (UInt32 × UInt8)} {k : UInt32} :
    k ∈ (emplace key value m).map (·.1) ↔ k = key ∨ k ∈ m.map (·.1) := by
  induction m with
  | nil => simp [emplace]
  | cons first m ih =>
      unfold emplace
      split_ifs with hlt heq
      · rw [List.map_cons, List.mem_cons, ih, List.map_cons, List.mem_cons]
        exact or_left_comm
      · subst heq
        rw [List.map_cons, List.mem_cons]
        exact (or_self_left).symm
      · rw [List.map_cons, List.mem_cons]

theorem sorted_emplace {key : UInt32} {value : UInt8} {m : List (UInt32 × UInt8)}
    (h : m.Pairwise (·.1 < ·.1)) : (emplace key value m).Pairwise (·.1 < ·.1) := by
  induction m with
  | nil => exact List.pairwise_singleton _ _
  | cons first m ih =>
      obtain ⟨hfirst, hm⟩ := List.pairwise_cons.mp h
      unfold emplace
      split_ifs with hlt heq
      · refine List.pairwise_cons.mpr ⟨fun entry hentry => ?_, ih hm⟩
        rcases mem_emplace hentry with rfl | hentry
        · exact hlt
        · exact hfirst entry hentry
      · exact h
      · have hkey : key < first.1 :=
          UInt32.lt_of_le_of_ne (UInt32.not_lt.mp hlt) (Ne.symm heq)
        refine List.pairwise_cons.mpr ⟨fun entry hentry => ?_, h⟩
        rcases List.mem_cons.mp hentry with rfl | hentry
        · exact hkey
        · exact UInt32.lt_trans hkey (hfirst entry hentry)

theorem Inverse.emplace {m : List (UInt32 × UInt8)} (h : Inverse m) (z : UInt8) :
    Inverse (emplace (expandRate z) z m) where
  sorted := sorted_emplace h.sorted
  expands := by
    intro entry hentry
    rcases mem_emplace hentry with rfl | hentry
    · rfl
    · exact h.expands entry hentry

theorem inverse_foldl {m : List (UInt32 × UInt8)} (h : Inverse m) (zs : List Nat) :
    Inverse (zs.foldl (fun m z => RareItemSets.emplace (expandRate (.ofNat z)) (.ofNat z) m) m) := by
  induction zs generalizing m with
  | nil => exact h
  | cons z zs ih => exact ih (h.emplace (.ofNat z))

theorem inverse_inverseMap : Inverse inverseMap :=
  inverse_foldl ⟨.nil, fun _ h => nomatch h⟩ (List.range 0x100)

theorem mem_keys_foldl {m : List (UInt32 × UInt8)} {zs : List Nat} {k : UInt32} :
    k ∈ (zs.foldl (fun m z => emplace (expandRate (.ofNat z)) (.ofNat z) m) m).map (·.1) ↔
      (∃ z ∈ zs, k = expandRate (.ofNat z)) ∨ k ∈ m.map (·.1) := by
  induction zs generalizing m with
  | nil => simp
  | cons z zs ih =>
      rw [List.foldl_cons, ih, mem_keys_emplace]
      simp only [List.mem_cons, exists_eq_or_imp, or_assoc]
      exact or_left_comm

theorem expandRate_mem_keys (pc : UInt8) : expandRate pc ∈ inverseMap.map (·.1) := by
  refine mem_keys_foldl.mpr (.inl ⟨pc.toNat, List.mem_range.mpr pc.toNat_lt, ?_⟩)
  rw [UInt8.ofNat_toNat]

/-- The lower bound of a key that is there is its entry. -/
theorem dropWhile_eq_cons {m : List (UInt32 × UInt8)} (h : m.Pairwise (·.1 < ·.1)) {k : UInt32}
    (hk : k ∈ m.map (·.1)) :
    ∃ entry rest, m.dropWhile (·.1 < k) = entry :: rest ∧ entry.1 = k ∧ entry ∈ m := by
  induction m with
  | nil => exact absurd hk List.not_mem_nil
  | cons first m ih =>
      obtain ⟨hfirst, hm⟩ := List.pairwise_cons.mp h
      rcases List.mem_cons.mp hk with rfl | hk
      · refine ⟨first, m, ?_, rfl, List.mem_cons_self⟩
        rw [List.dropWhile_cons_of_neg]
        simp
      · obtain ⟨entry, rest, hdrop, hkey, hmem⟩ := ih hm hk
        obtain ⟨entry', hentry', rfl⟩ := List.mem_map.mp hk
        refine ⟨entry, rest, ?_, hkey, List.mem_cons_of_mem first hmem⟩
        rw [List.dropWhile_cons_of_pos (by simpa using hfirst entry' hentry'), hdrop]

/-- A rate that has a code comes back from the code that is found for it. -/
theorem expandRate_compressRate (pc : UInt8) :
    expandRate (compressRate (expandRate pc)) = expandRate pc := by
  obtain ⟨entry, rest, hdrop, hkey, hmem⟩ :=
    dropWhile_eq_cons inverse_inverseMap.sorted (expandRate_mem_keys pc)
  have hexpands := (inverse_inverseMap.expands entry hmem).trans hkey
  unfold compressRate
  dsimp only
  rw [hdrop]
  cases (inverseMap.takeWhile (·.1 < expandRate pc)).getLast? with
  | none => exact hexpands
  | some prev =>
      dsimp only
      rw [if_pos hkey, hexpands]

end HuntersGuild.RareItemSets
