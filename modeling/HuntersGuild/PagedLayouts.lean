import Mathlib.Algebra.Group.Nat.Defs
import Mathlib.Data.List.Forall2
import HuntersGuild.ExceptionRules
import HuntersGuild.KeyedLists

/-!
Pieces that are laid out one after another, each of which is filled up to a whole number of
pages, and the table of their offsets. A pool holds each of its pieces once.
-/

namespace HuntersGuild.PagedLayouts

open HuntersGuild.ExceptionRules
open HuntersGuild.KeyedLists

universe u v

variable {α : Type u}

/-- The list is made as long as this, if it is shorter. -/
def extendTo (fill : α) (size : Nat) (w : List α) : List α :=
  w ++ List.replicate (size - w.length) fill

/-- The first multiple of the page size from `n` on. -/
def alignUp (page n : Nat) : Nat := (n + (page - 1)) / page * page

/-- A piece comes behind what is there. -/
def put (fill : α) (page : Nat) (w piece : List α) : List α :=
  extendTo fill (alignUp page (w ++ piece).length) (w ++ piece)

/-- Where pieces of these sizes begin. -/
def offsets (page : Nat) : Nat → List Nat → List Nat
  | _, [] => []
  | start, size :: sizes => start :: offsets page (alignUp page (start + size)) sizes

/-- The offsets as 32 bits hold them. -/
def wordOffsets (page : Nat) : UInt32 → List Nat → List UInt32
  | _, [] => []
  | start, size :: sizes => start :: wordOffsets page (.ofNat (alignUp page (start.toNat + size))) sizes

/-- A piece is at this offset. -/
def HasAt (w : List α) (offset : Nat) (piece : List α) : Prop :=
  ∃ before rest, before.length = offset ∧ w = before ++ (piece ++ rest)

variable {fill : α} {page : Nat} {w piece rest : List α} {offset : Nat}

theorem le_alignUp (hpage : 0 < page) (n : Nat) : n ≤ alignUp page n := by
  have hlt := Nat.lt_div_mul_add hpage (a := n + (page - 1))
  rw [alignUp]
  omega

theorem alignUp_le (page n : Nat) : alignUp page n ≤ n + (page - 1) := Nat.div_mul_le_self _ _

theorem dvd_alignUp (page n : Nat) : page ∣ alignUp page n := Nat.dvd_mul_left _ _

theorem HasAt.mono (h : HasAt w offset piece) {w' : List α} (hgrows : w <+: w') : HasAt w' offset piece := by
  obtain ⟨before, rest, hbefore, rfl⟩ := h
  obtain ⟨more, rfl⟩ := hgrows
  exact ⟨before, rest ++ more, hbefore, by rw [List.append_assoc, List.append_assoc]⟩

theorem HasAt.take_drop (h : HasAt w offset piece) : (w.drop offset).take piece.length = piece := by
  obtain ⟨before, rest, rfl, rfl⟩ := h
  rw [List.drop_left, List.take_left]

theorem HasAt.le_length (h : HasAt w offset piece) : offset + piece.length ≤ w.length := by
  obtain ⟨before, rest, rfl, rfl⟩ := h
  rw [List.length_append, List.length_append]
  omega

theorem length_extendTo {size : Nat} (h : w.length ≤ size) : (extendTo fill size w).length = size := by
  rw [extendTo, List.length_append, List.length_replicate, Nat.add_sub_cancel' h]

theorem length_put (hpage : 0 < page) :
    (put fill page w piece).length = alignUp page (w.length + piece.length) := by
  rw [put, length_extendTo (le_alignUp hpage _), List.length_append]

theorem prefix_put : w ++ piece <+: put fill page w piece := List.prefix_append _ _

theorem hasAt_put : HasAt (put fill page w piece) w.length piece :=
  HasAt.mono ⟨w, [], rfl, by rw [List.append_nil]⟩ prefix_put

theorem prefix_foldl_put (pieces : List (List α)) : w <+: pieces.foldl (put fill page) w := by
  induction pieces generalizing w with
  | nil => exact List.prefix_rfl
  | cons piece pieces ih => exact ((List.prefix_append w piece).trans prefix_put).trans ih

/-- Every piece is where the table says. -/
theorem forall₂_foldl_put (hpage : 0 < page) (pieces : List (List α)) :
    List.Forall₂ (HasAt (pieces.foldl (put fill page) w))
      (offsets page w.length (pieces.map List.length)) pieces := by
  induction pieces generalizing w with
  | nil => exact .nil
  | cons piece pieces ih =>
      have hrest := ih (w := put fill page w piece)
      rw [length_put hpage] at hrest
      exact .cons (hasAt_put.mono (prefix_foldl_put pieces)) hrest

@[simp] theorem length_wordOffsets (page : Nat) (start : UInt32) (sizes : List Nat) :
    (wordOffsets page start sizes).length = sizes.length := by
  induction sizes generalizing start with
  | nil => rfl
  | cons size sizes ih => rw [wordOffsets, List.length_cons, ih, List.length_cons]

/-- The words hold the offsets, as long as these fit. -/
theorem map_wordOffsets {start : UInt32} {sizes : List Nat}
    (h : ∀ offset ∈ offsets page start.toNat sizes, offset < 2 ^ 32) :
    (wordOffsets page start sizes).map UInt32.toNat = offsets page start.toNat sizes := by
  induction sizes generalizing start with
  | nil => rfl
  | cons size sizes ih =>
      rw [offsets, List.forall_mem_cons] at h
      rw [wordOffsets, offsets, List.map_cons]
      cases sizes with
      | nil => rfl
      | cons next sizes =>
          have hfits : alignUp page (start.toNat + size) < 2 ^ 32 := h.2 _ List.mem_cons_self
          have hstart : (UInt32.ofNat (alignUp page (start.toNat + size))).toNat =
              alignUp page (start.toNat + size) := by
            rw [UInt32.toNat_ofNat', Nat.mod_eq_of_lt hfits]
          have hrest := @ih (.ofNat (alignUp page (start.toNat + size)))
          rw [hstart] at hrest
          rw [hrest h.2]

/-- Every piece is where the words say. -/
theorem forall₂_wordOffsets (hpage : 0 < page) {start : UInt32} (hstart : w.length = start.toNat)
    {pieces : List (List α)} (h : ∀ offset ∈ offsets page start.toNat (pieces.map List.length), offset < 2 ^ 32) :
    List.Forall₂ (fun word piece => HasAt (pieces.foldl (put fill page) w) word.toNat piece)
      (wordOffsets page start (pieces.map List.length)) pieces := by
  have hpieces : List.Forall₂ (HasAt (pieces.foldl (put fill page) w))
      (offsets page w.length (pieces.map List.length)) pieces := forall₂_foldl_put hpage pieces
  rwa [hstart, ← map_wordOffsets h, List.forall₂_map_left_iff] at hpieces

/-- The offsets are bounded by what the pieces take at most. -/
theorem offsets_le {start bound : Nat} {sizes : List Nat}
    (hadd : ∀ size ∈ sizes, size + (page - 1) ≤ bound) :
    ∀ offset ∈ offsets page start sizes, offset ≤ start + sizes.length * bound := by
  induction sizes generalizing start with
  | nil => intro offset h; cases h
  | cons size sizes ih =>
      rw [List.forall_mem_cons] at hadd
      rw [offsets, List.forall_mem_cons, List.length_cons, Nat.succ_mul]
      refine ⟨Nat.le_add_right _ _, fun offset hoffset => ?_⟩
      have hle := ih hadd.2 offset hoffset
      have hnext := alignUp_le page (start + size)
      omega

theorem dvd_of_mem_offsets {start : Nat} (hstart : page ∣ start) {sizes : List Nat} :
    ∀ offset ∈ offsets page start sizes, page ∣ offset := by
  induction sizes generalizing start with
  | nil => intro offset h; cases h
  | cons size sizes ih =>
      rw [offsets, List.forall_mem_cons]
      exact ⟨hstart, ih (dvd_alignUp page _)⟩

theorem HasAt.shift (h : HasAt w offset piece) (before : List α) :
    HasAt (before ++ w) (before.length + offset) piece := by
  obtain ⟨before', rest, rfl, rfl⟩ := h
  exact ⟨before ++ before', rest, List.length_append, by rw [List.append_assoc]⟩

theorem dvd_length_put (hpage : 0 < page) : page ∣ (put fill page w piece).length := by
  rw [length_put hpage]
  exact dvd_alignUp page _

/-! Pools. -/

variable {κ : Type u} [DecidableEq κ] {ε : Type v}

/-- The pieces that stand for some keys, and where each of them begins. -/
structure Pool (κ α : Type u) where
  table : List (κ × Nat)
  bytes : List α

namespace Pool

def empty : Pool κ α := ⟨[], []⟩

def offset? (k : κ) (pool : Pool κ α) : Option Nat := (lookup Prod.fst pool.table k).map Prod.snd

/-- The piece of a key that is not there yet comes behind the others. -/
def intern (encode : κ → Except ε (List α)) (fill : α) (page : Nat) (pool : Pool κ α) (k : κ) :
    Except ε (Pool κ α) :=
  match pool.offset? k with
  | some _ => .ok pool
  | none => do
    let piece ← encode k
    return ⟨pool.table ++ [(k, pool.bytes.length)], put fill page pool.bytes piece⟩

/-- A key is interned, and its offset is put behind those of the keys before it. -/
def refer (encode : κ → Except ε (List α)) (fill : α) (page : Nat) (st : Pool κ α × List Nat) (k : κ) :
    Except ε (Pool κ α × List Nat) := do
  let pool ← st.1.intern encode fill page k
  return (pool, st.2 ++ [(pool.offset? k).getD 0])

/-- Every key has its piece at its offset. -/
structure Sound (encode : κ → Except ε (List α)) (page : Nat) (pool : Pool κ α) : Prop where
  hasAt : ∀ k offset, pool.offset? k = some offset → ∃ piece, encode k = .ok piece ∧ HasAt pool.bytes offset piece
  aligned : ∀ k offset, pool.offset? k = some offset → page ∣ offset
  length : page ∣ pool.bytes.length

/-- A pool that grew out of another. -/
structure Extends (pool pool' : Pool κ α) : Prop where
  bytes : pool.bytes <+: pool'.bytes
  offset? : ∀ k offset, pool.offset? k = some offset → pool'.offset? k = some offset

variable {encode : κ → Except ε (List α)} {pool pool' pool'' : Pool κ α} {k : κ} {ks : List κ}

theorem Extends.refl (pool : Pool κ α) : pool.Extends pool := ⟨List.prefix_rfl, fun _ _ => id⟩

theorem Extends.trans (h : pool.Extends pool') (h' : pool'.Extends pool'') : pool.Extends pool'' :=
  ⟨h.bytes.trans h'.bytes, fun k offset hk => h'.offset? k offset (h.offset? k offset hk)⟩

theorem sound_empty (encode : κ → Except ε (List α)) (page : Nat) : (empty : Pool κ α).Sound encode page :=
  ⟨fun _ _ h => (by cases h), fun _ _ h => (by cases h), Nat.dvd_zero page⟩

theorem offset?_append (hnone : pool.offset? k = none) (bytes : List α) (offset : Nat) (k' : κ) :
    (Pool.mk (pool.table ++ [(k, offset)]) bytes).offset? k' = if k' = k then some offset else pool.offset? k' := by
  have hk : lookup Prod.fst pool.table k = none := Option.map_eq_none_iff.mp hnone
  rw [Pool.offset?, Pool.offset?, lookup, List.find?_append]
  by_cases heq : k' = k
  · subst heq
    have hfind : [(k', offset)].find? (fun x => decide (x.1 = k')) = some (k', offset) := by simp
    rw [if_pos rfl, show pool.table.find? (fun x => x.1 = k') = none from hk, Option.none_or, hfind]
    rfl
  · rw [if_neg heq, List.find?_cons_of_neg (by simpa using Ne.symm heq), List.find?_nil, Option.or_none]
    rfl

/-- One key more. -/
theorem Sound.intern (h : pool.Sound encode page) (hpage : 0 < page) {piece : List α} (hpiece : encode k = .ok piece)
    (fill : α) : ∃ pool', pool.intern encode fill page k = .ok pool' ∧ pool'.Sound encode page ∧
      pool.Extends pool' ∧ (pool'.offset? k).isSome := by
  cases hk : pool.offset? k with
  | some offset =>
      refine ⟨pool, ?_, h, .refl pool, hk ▸ rfl⟩
      rw [Pool.intern, hk]
  | none =>
      have hoffset := offset?_append hk (put fill page pool.bytes piece) pool.bytes.length
      have hgrows : pool.bytes <+: put fill page pool.bytes piece := (List.prefix_append _ _).trans prefix_put
      refine ⟨⟨pool.table ++ [(k, pool.bytes.length)], put fill page pool.bytes piece⟩, ?_, ⟨?_, ?_, ?_⟩, ⟨hgrows, ?_⟩,
        ?_⟩
      · rw [Pool.intern, hk]
        dsimp only
        rw [hpiece]
        rfl
      · intro k' offset hk'
        rw [hoffset] at hk'
        split_ifs at hk' with heq
        · obtain rfl := Option.some.inj hk'
          exact ⟨piece, heq ▸ hpiece, hasAt_put⟩
        · obtain ⟨piece', hpiece', hat⟩ := h.hasAt k' offset hk'
          exact ⟨piece', hpiece', hat.mono hgrows⟩
      · intro k' offset hk'
        rw [hoffset] at hk'
        split_ifs at hk' with heq
        · exact Option.some.inj hk' ▸ h.length
        · exact h.aligned k' offset hk'
      · exact dvd_length_put hpage
      · intro k' offset hk'
        rw [hoffset, if_neg fun heq => by rw [heq, hk] at hk'; cases hk']
        exact hk'
      · rw [hoffset, if_pos rfl]
        rfl

/-- Interning and referring to the keys one by one gives the offsets in the final pool. -/
theorem Sound.referAll (h : pool.Sound encode page) (hpage : 0 < page)
    (hpieces : ∀ k ∈ ks, ∃ piece, encode k = .ok piece) (fill : α) (before : List Nat) :
    ∃ pool', ks.foldlM (refer encode fill page) (pool, before) =
        .ok (pool', before ++ ks.map fun k => (pool'.offset? k).getD 0) ∧ pool'.Sound encode page ∧
      pool.Extends pool' ∧ ∀ k ∈ ks, (pool'.offset? k).isSome := by
  induction ks generalizing pool before with
  | nil =>
      refine ⟨pool, ?_, h, .refl pool, fun k hk => absurd hk List.not_mem_nil⟩
      rw [List.map_nil, List.append_nil]
      rfl
  | cons k ks ih =>
      rw [List.forall_mem_cons] at hpieces
      obtain ⟨piece, hpiece⟩ := hpieces.1
      obtain ⟨mid, hmid, hsound, hextends, hk⟩ := h.intern hpage hpiece fill
      obtain ⟨offset, hoffset⟩ := Option.isSome_iff_exists.mp hk
      obtain ⟨pool', hpool', hsound', hextends', hks⟩ := ih hsound hpieces.2 (before ++ [(mid.offset? k).getD 0])
      have hfinal := hextends'.offset? k offset hoffset
      refine ⟨pool', ?_, hsound', hextends.trans hextends', List.forall_mem_cons.mpr ⟨hfinal ▸ rfl, hks⟩⟩
      rw [List.foldlM_cons, refer, hmid, ok_bind]
      change ks.foldlM (refer encode fill page) (mid, before ++ [(mid.offset? k).getD 0]) = _
      rw [hpool', hoffset, List.map_cons, hfinal, List.append_assoc]
      rfl

theorem internAll_of_referAll {before after : List Nat}
    (hrun : ks.foldlM (refer encode fill page) (pool, before) = .ok (pool', after)) :
    ks.foldlM (Pool.intern encode fill page) pool = .ok pool' := by
  induction ks generalizing pool before with
  | nil =>
      obtain ⟨rfl, -⟩ := Prod.mk.inj (Except.ok.inj hrun)
      rfl
  | cons k ks ih =>
      rw [List.foldlM_cons] at hrun
      obtain ⟨⟨mid, offsets⟩, hmid, hrest⟩ := bind_eq_ok.mp hrun
      obtain ⟨pool₁, hpool₁, hmid⟩ := bind_eq_ok.mp hmid
      obtain ⟨rfl, -⟩ := Prod.mk.inj (Except.ok.inj hmid)
      rw [List.foldlM_cons, hpool₁, ok_bind]
      exact ih hrest

/-- A piece that cannot be encoded is noticed. -/
theorem encode_of_internAll (hrun : ks.foldlM (Pool.intern encode fill page) pool = .ok pool')
    (h : ∀ k offset, pool.offset? k = some offset → ∃ piece, encode k = .ok piece) :
    ∀ k ∈ ks, ∃ piece, encode k = .ok piece := by
  induction ks generalizing pool with
  | nil => exact fun k hk => absurd hk List.not_mem_nil
  | cons k ks ih =>
      rw [List.foldlM_cons] at hrun
      obtain ⟨mid, hmid, hrest⟩ := bind_eq_ok.mp hrun
      have hk : ∃ piece, encode k = .ok piece := by
        rw [Pool.intern] at hmid
        cases hoffset : pool.offset? k with
        | some offset => exact h k offset hoffset
        | none =>
            rw [hoffset] at hmid
            obtain ⟨piece, hpiece, -⟩ := bind_eq_ok.mp hmid
            exact ⟨piece, hpiece⟩
      refine List.forall_mem_cons.mpr ⟨hk, ih hrest fun k' offset hk' => ?_⟩
      rw [Pool.intern] at hmid
      cases hoffset : pool.offset? k with
      | some _ =>
          rw [hoffset] at hmid
          exact h k' offset (Except.ok.inj hmid ▸ hk')
      | none =>
          rw [hoffset] at hmid
          obtain ⟨piece, hpiece, hmid⟩ := bind_eq_ok.mp hmid
          obtain rfl := Except.ok.inj hmid
          rw [offset?_append hoffset] at hk'
          split_ifs at hk' with heq
          · exact heq ▸ ⟨piece, hpiece⟩
          · exact h k' offset hk'

end Pool

end HuntersGuild.PagedLayouts
