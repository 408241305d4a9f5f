import Mathlib.Algebra.Order.Ring.Rat
import HuntersGuild.ByteStreams
import HuntersGuild.EditScripts

/-!
How a supermap matches the entries of a floor with those of an earlier version: the
cheapest path of edits, and the earlier entries that it keeps.
-/

namespace HuntersGuild.EditPaths

open HuntersGuild.ByteStreams
open HuntersGuild.EditScripts
open HuntersGuild.ExceptionRules

universe u v

inductive EditAction where
  | stop
  | add
  | edit
  | delete
  deriving DecidableEq

/-! ## The matrix -/

structure Entry where
  cost : ℚ
  action : EditAction
  deriving DecidableEq

/-- The rows of a matrix, one after another. -/
structure Matrix (width height : Nat) where
  entries : List Entry
  size : entries.length = width * height

namespace Matrix

variable {width height : Nat}

def ofSize (width height : Nat) : Matrix width height :=
  ⟨List.replicate (width * height) ⟨0, .stop⟩, List.length_replicate⟩

/-- `Matrix::at`. -/
def entryAt (mtx : Matrix width height) (x y : Nat) : Except Exception Entry :=
  if width ≤ x then .error (.outOfRange "x coordinate out of range")
  else
    match mtx.entries[y * width + x]? with
    | some e => .ok e
    | none => .error (.outOfRange "vector::at")

/-- An assignment through the reference that `Matrix::at` returns. -/
def set (mtx : Matrix width height) (x y : Nat) (e : Entry) :
    Except Exception (Matrix width height) :=
  if width ≤ x then .error (.outOfRange "x coordinate out of range")
  else if y * width + x < mtx.entries.length then
    .ok ⟨mtx.entries.set (y * width + x) e, by rw [List.length_set, mtx.size]⟩
  else .error (.outOfRange "vector::at")

theorem index_lt {x y : Nat} (hx : x < width) (hy : y < height) :
    y * width + x < width * height := by
  calc
    y * width + x < y * width + width := Nat.add_lt_add_left hx _
    _ = (y + 1) * width := (Nat.succ_mul y width).symm
    _ ≤ height * width := Nat.mul_le_mul_right width hy
    _ = width * height := Nat.mul_comm height width

theorem index_inj {x y x' y' : Nat} (hx : x < width) (hx' : x' < width)
    (h : y * width + x = y' * width + x') : x = x' ∧ y = y' := by
  have hmod := congrArg (· % width) h
  have hdiv := congrArg (· / width) h
  have hwidth : 0 < width := Nat.zero_lt_of_lt hx
  simp only [Nat.mul_add_mod_self_right, Nat.mod_eq_of_lt hx, Nat.mod_eq_of_lt hx'] at hmod
  simp only [Nat.mul_comm _ width, Nat.mul_add_div hwidth, Nat.div_eq_of_lt hx,
    Nat.div_eq_of_lt hx', Nat.add_zero] at hdiv
  exact ⟨hmod, hdiv⟩

theorem exists_set (mtx : Matrix width height) {x y : Nat} (hx : x < width) (hy : y < height)
    (e : Entry) :
    ∃ mtx', mtx.set x y e = .ok mtx' ∧ mtx'.entryAt x y = .ok e ∧
      ∀ x' y', ¬(x' = x ∧ y' = y) → mtx'.entryAt x' y' = mtx.entryAt x' y' := by
  have hindex : y * width + x < mtx.entries.length := by
    rw [mtx.size]
    exact index_lt hx hy
  refine ⟨⟨mtx.entries.set (y * width + x) e, by rw [List.length_set, mtx.size]⟩, ?_, ?_, ?_⟩
  · rw [set, if_neg (Nat.not_le_of_lt hx), if_pos hindex]
  · unfold entryAt
    rw [if_neg (Nat.not_le_of_lt hx), List.getElem?_set_self hindex]
  · intro x' y' hne
    unfold entryAt
    by_cases hx' : width ≤ x'
    · rw [if_pos hx', if_pos hx']
    · have hother : y * width + x ≠ y' * width + x' := by
        intro h
        obtain ⟨rfl, rfl⟩ := index_inj hx (Nat.lt_of_not_le hx') h
        exact hne ⟨rfl, rfl⟩
      rw [if_neg hx', if_neg hx', List.getElem?_set_ne hother]

theorem entryAt_ofSize {x y : Nat} (hx : x < width) (hy : y < height) :
    (ofSize width height).entryAt x y = .ok ⟨0, .stop⟩ := by
  unfold entryAt ofSize
  rw [if_neg (Nat.not_le_of_lt hx), List.getElem?_replicate, if_pos (index_lt hx hy)]

end Matrix

/-! ## The edit path -/

section Code

variable {Entity : Type u} {width height : Nat}
variable (getAddCost getDeleteCost : Entity → ℚ) (getEditCost : Entity → Entity → ℚ)

/-- The top edge from `x` on, for the entries that are left. -/
def fillTop : List Entity → Nat → Matrix width height → Except Exception (Matrix width height)
  | [], _, mtx => .ok mtx
  | c :: curr, x, mtx => do
      let left ← mtx.entryAt (x - 1) 0
      let mtx ← mtx.set x 0 ⟨left.cost + getAddCost c, .add⟩
      fillTop curr (x + 1) mtx

def fillLeft : List Entity → Nat → Matrix width height → Except Exception (Matrix width height)
  | [], _, mtx => .ok mtx
  | p :: prev, y, mtx => do
      let above ← mtx.entryAt 0 (y - 1)
      let mtx ← mtx.set 0 y ⟨above.cost + getDeleteCost p, .delete⟩
      fillLeft prev (y + 1) mtx

def bestEntry (addCost deleteCost editCost : ℚ) : Entry :=
  if editCost ≤ addCost then
    if editCost ≤ deleteCost then ⟨editCost, .edit⟩ else ⟨deleteCost, .delete⟩
  else
    if addCost ≤ deleteCost then ⟨addCost, .add⟩ else ⟨deleteCost, .delete⟩

/-- The row `y` from `x` on. -/
def fillRow (p : Entity) (y : Nat) :
    List Entity → Nat → Matrix width height → Except Exception (Matrix width height)
  | [], _, mtx => .ok mtx
  | c :: curr, x, mtx => do
      let left ← mtx.entryAt (x - 1) y
      let above ← mtx.entryAt x (y - 1)
      let diagonal ← mtx.entryAt (x - 1) (y - 1)
      let mtx ← mtx.set x y (bestEntry (left.cost + getAddCost c)
        (above.cost + getDeleteCost p) (diagonal.cost + getEditCost p c))
      fillRow p y curr (x + 1) mtx

def fillRows (curr : List Entity) :
    List Entity → Nat → Matrix width height → Except Exception (Matrix width height)
  | [], _, mtx => .ok mtx
  | p :: prev, y, mtx => do
      let mtx ← fillRow getAddCost getDeleteCost getEditCost p y curr 1 mtx
      fillRows curr prev (y + 1) mtx

/-- A coordinate below 0 wraps, and is out of range at the next round. -/
def decrement : Nat → Except Exception Nat
  | 0 => .error (.outOfRange "x coordinate out of range")
  | x + 1 => .ok x

/-- The reverse path from a cell. Every round moves left or up. -/
def tracePath (mtx : Matrix width height) :
    Nat → Nat → Nat → Except Exception (List EditAction)
  | 0, _, _ => .error .nonterminating
  | fuel + 1, x, y =>
    if 0 < x ∨ 0 < y then do
      let e ← mtx.entryAt x y
      match e.action with
      | .stop => throw (.logicError "STOP action left after edit distance computation")
      | .add => do
          let x ← decrement x
          let reversePath ← tracePath mtx fuel x y
          return .add :: reversePath
      | .edit => do
          let x ← decrement x
          let y ← decrement y
          let reversePath ← tracePath mtx fuel x y
          return .edit :: reversePath
      | .delete => do
          let y ← decrement y
          let reversePath ← tracePath mtx fuel x y
          return .delete :: reversePath
    else .ok []

def computeEditPath (prev curr : List Entity) : Except Exception (List EditAction) := do
  let mtx := Matrix.ofSize (curr.length + 1) (prev.length + 1)
  let mtx ← fillTop getAddCost curr 1 mtx
  let mtx ← fillLeft getDeleteCost prev 1 mtx
  let mtx ← fillRows getAddCost getDeleteCost getEditCost curr prev 1 mtx
  let reversePath ← tracePath mtx (curr.length + prev.length + 1) curr.length prev.length
  return reversePath.reverse

/-- The entities of an earlier version that a path keeps; an added entry has none. -/
def computePrevEntities {Entity : Type v} (existingPrevEntities : List Entity) :
    Nat → List EditAction → Except Exception (List (Option Entity))
  | _, [] => .ok []
  | prevEntitiesOffset, .add :: editPath => do
      let ret ← computePrevEntities existingPrevEntities prevEntitiesOffset editPath
      return none :: ret
  | prevEntitiesOffset, .delete :: editPath =>
      computePrevEntities existingPrevEntities (prevEntitiesOffset + 1) editPath
  | prevEntitiesOffset, .edit :: editPath =>
    match existingPrevEntities[prevEntitiesOffset]? with
    | none => .error (.outOfRange "vector::at")
    | some entity => do
        let ret ← computePrevEntities existingPrevEntities (prevEntitiesOffset + 1) editPath
        return some entity :: ret
  | _, .stop :: _ => .error (.logicError "invalid edit path action")

end Code

/-! ## What the cells hold -/

section Cells

variable {Entity : Type u} {costs : Costs Entity Entity ℚ}

/-- A cell with the least cost for the entries before it, and an action that leads
there from a least cost. The entries are in reverse. -/
inductive Best (costs : Costs Entity Entity ℚ) : List Entity → List Entity → Entry → Prop where
  | stop : Best costs [] [] ⟨0, .stop⟩
  | add {source target : List Entity} {c : Entity} {cost : ℚ}
      (h : IsLeast (totals costs source target) cost)
      (hleast : IsLeast (totals costs source (c :: target)) (cost + costs.insert c)) :
      Best costs source (c :: target) ⟨cost + costs.insert c, .add⟩
  | edit {source target : List Entity} {p c : Entity} {cost : ℚ}
      (h : IsLeast (totals costs source target) cost)
      (hleast : IsLeast (totals costs (p :: source) (c :: target)) (cost + costs.substitute p c)) :
      Best costs (p :: source) (c :: target) ⟨cost + costs.substitute p c, .edit⟩
  | delete {source target : List Entity} {p : Entity} {cost : ℚ}
      (h : IsLeast (totals costs source target) cost)
      (hleast : IsLeast (totals costs (p :: source) target) (cost + costs.delete p)) :
      Best costs (p :: source) target ⟨cost + costs.delete p, .delete⟩

theorem Best.isLeast {source target : List Entity} {e : Entry} (h : Best costs source target e) :
    IsLeast (totals costs source target) e.cost := by
  cases h with
  | stop => exact isLeast_nil
  | add _ hleast => exact hleast
  | edit _ hleast => exact hleast
  | delete _ hleast => exact hleast

theorem Best.top {target : List Entity} {e : Entry} (h : Best costs [] target e) (c : Entity) :
    Best costs [] (c :: target) ⟨e.cost + costs.insert c, .add⟩ :=
  .add h.isLeast (isLeast_insert h.isLeast)

theorem Best.left {source : List Entity} {e : Entry} (h : Best costs source [] e) (p : Entity) :
    Best costs (p :: source) [] ⟨e.cost + costs.delete p, .delete⟩ :=
  .delete h.isLeast (isLeast_delete h.isLeast)

/-- Whatever way ties are broken, the chosen action leads to the least of the three sums. -/
theorem Best.inner {source target : List Entity} {p c : Entity} {left above diagonal : Entry}
    (hleft : Best costs (p :: source) target left)
    (habove : Best costs source (c :: target) above)
    (hdiagonal : Best costs source target diagonal) :
    Best costs (p :: source) (c :: target) (bestEntry (left.cost + costs.insert c)
      (above.cost + costs.delete p) (diagonal.cost + costs.substitute p c)) := by
  have hleast := fun least => @isLeast_cons _ _ _ _ _ costs source target _ p c _ _ _ least
    hleft.isLeast habove.isLeast hdiagonal.isLeast
  simp only [List.mem_cons, List.not_mem_nil, or_false, forall_eq_or_imp, forall_eq] at hleast
  obtain ⟨hleastAdd, hleastDelete, hleastEdit⟩ := hleast
  unfold bestEntry
  split
  · case isTrue hadd =>
      split
      · case isTrue hdelete =>
          exact .edit hdiagonal.isLeast (hleastEdit ⟨hadd, hdelete, le_rfl⟩)
      · case isFalse hdelete =>
          have hlt := le_of_not_ge hdelete
          exact .delete habove.isLeast (hleastDelete ⟨hlt.trans hadd, le_rfl, hlt⟩)
  · case isFalse hadd =>
      have hlt := le_of_not_ge hadd
      split
      · case isTrue hdelete =>
          exact .add hleft.isLeast (hleastAdd ⟨le_rfl, hdelete, hlt⟩)
      · case isFalse hdelete =>
          have hlt' := le_of_not_ge hdelete
          exact .delete habove.isLeast (hleastDelete ⟨hlt', le_rfl, hlt'.trans hlt⟩)

theorem reverse_take_succ {l : List Entity} {i : Nat} {a : Entity} {rest : List Entity}
    (h : l.drop i = a :: rest) : (l.take (i + 1)).reverse = a :: (l.take i).reverse := by
  have ha : l[i]? = some a := by
    rw [← List.head?_drop, h]
    rfl
  rw [List.take_add_one, ha, List.reverse_append]
  rfl

theorem drop_succ {l : List Entity} {i : Nat} {a : Entity} {rest : List Entity}
    (h : l.drop i = a :: rest) : l.drop (i + 1) = rest := by
  rw [← List.drop_drop, h]
  rfl

theorem lt_length_of_drop {l : List Entity} {i : Nat} {a : Entity} {rest : List Entity}
    (h : l.drop i = a :: rest) : i < l.length := by
  apply Nat.lt_of_not_le
  intro hle
  rw [List.drop_eq_nil_of_le hle] at h
  exact nomatch h

end Cells

/-! ## Filling the matrix -/

section Filling

variable {Entity : Type u} {costs : Costs Entity Entity ℚ} {prev curr : List Entity}
  {known known' : Nat → Nat → Prop}

/-- Every cell of a region holds its least cost. -/
def Known (costs : Costs Entity Entity ℚ) (prev curr : List Entity)
    (mtx : Matrix (curr.length + 1) (prev.length + 1)) (known : Nat → Nat → Prop) : Prop :=
  ∀ x y, known x y →
    ∃ e, mtx.entryAt x y = .ok e ∧ Best costs (prev.take y).reverse (curr.take x).reverse e

variable {mtx : Matrix (curr.length + 1) (prev.length + 1)}

theorem Known.mono (h : Known costs prev curr mtx known) (hknown : ∀ x y, known' x y → known x y) :
    Known costs prev curr mtx known' := by
  intro x y hxy
  exact h x y (hknown x y hxy)

theorem Known.set (h : Known costs prev curr mtx known) {x y : Nat} {e : Entry}
    (hx : x ≤ curr.length) (hy : y ≤ prev.length)
    (hbest : Best costs (prev.take y).reverse (curr.take x).reverse e) :
    ∃ mtx', mtx.set x y e = .ok mtx' ∧
      Known costs prev curr mtx' fun x' y' => known x' y' ∨ x' = x ∧ y' = y := by
  obtain ⟨mtx', hset, hself, hother⟩ :=
    mtx.exists_set (Nat.lt_succ_of_le hx) (Nat.lt_succ_of_le hy) e
  refine ⟨mtx', hset, ?_⟩
  intro x' y' hxy
  by_cases heq : x' = x ∧ y' = y
  · obtain ⟨rfl, rfl⟩ := heq
    exact ⟨e, hself, hbest⟩
  · rw [hother x' y' heq]
    exact h x' y' (hxy.resolve_right heq)

theorem known_ofSize (costs : Costs Entity Entity ℚ) (prev curr : List Entity) :
    Known costs prev curr (.ofSize _ _) fun x y => x = 0 ∧ y = 0 := by
  rintro x y ⟨rfl, rfl⟩
  exact ⟨_, Matrix.entryAt_ofSize (Nat.succ_pos _) (Nat.succ_pos _), .stop⟩

theorem Known.fillTop {rest : List Entity} {x : Nat} (hrest : curr.drop x = rest)
    (h : Known costs prev curr mtx fun x' y' => x' ≤ x ∧ y' = 0) :
    ∃ mtx', fillTop costs.insert rest (x + 1) mtx = .ok mtx' ∧
      Known costs prev curr mtx' fun x' y' => x' ≤ curr.length ∧ y' = 0 := by
  induction rest generalizing x mtx with
  | nil =>
      have hx := List.drop_eq_nil_iff.mp hrest
      exact ⟨mtx, rfl, h.mono fun x' y' => by omega⟩
  | cons c rest ih =>
      have hx := lt_length_of_drop hrest
      obtain ⟨left, hleft, hbest⟩ := h x 0 ⟨Nat.le_refl x, rfl⟩
      have hcell : Best costs (prev.take 0).reverse (curr.take (x + 1)).reverse
          ⟨left.cost + costs.insert c, .add⟩ := by
        rw [reverse_take_succ hrest]
        exact hbest.top c
      obtain ⟨mtx', hset, hknown⟩ := h.set hx (Nat.zero_le _) hcell
      obtain ⟨mtx'', hfill, hknown'⟩ := ih (drop_succ hrest) (hknown.mono fun x' y' => by omega)
      refine ⟨mtx'', ?_, hknown'⟩
      rw [EditPaths.fillTop, Nat.add_sub_cancel, hleft, ok_bind, hset]
      exact hfill

theorem Known.fillLeft {rest : List Entity} {y : Nat} (hrest : prev.drop y = rest)
    (h : Known costs prev curr mtx fun x' y' =>
      x' ≤ curr.length ∧ y' = 0 ∨ x' = 0 ∧ y' ≤ y) :
    ∃ mtx', fillLeft costs.delete rest (y + 1) mtx = .ok mtx' ∧
      Known costs prev curr mtx' fun x' y' =>
        x' ≤ curr.length ∧ y' = 0 ∨ x' = 0 ∧ y' ≤ prev.length := by
  induction rest generalizing y mtx with
  | nil =>
      have hy := List.drop_eq_nil_iff.mp hrest
      exact ⟨mtx, rfl, h.mono fun x' y' => by omega⟩
  | cons p rest ih =>
      have hy := lt_length_of_drop hrest
      obtain ⟨above, habove, hbest⟩ := h 0 y (.inr ⟨rfl, Nat.le_refl y⟩)
      have hcell : Best costs (prev.take (y + 1)).reverse (curr.take 0).reverse
          ⟨above.cost + costs.delete p, .delete⟩ := by
        rw [reverse_take_succ hrest]
        exact hbest.left p
      obtain ⟨mtx', hset, hknown⟩ := h.set (Nat.zero_le _) hy hcell
      obtain ⟨mtx'', hfill, hknown'⟩ := ih (drop_succ hrest) (hknown.mono fun x' y' => by omega)
      refine ⟨mtx'', ?_, hknown'⟩
      rw [EditPaths.fillLeft, Nat.add_sub_cancel, habove, ok_bind, hset]
      exact hfill

/-- The rows above `y + 1`, the left edge and the cells of the row up to `x`. -/
theorem Known.fillRow {p : Entity} {below rest : List Entity} {x y : Nat}
    (hprev : prev.drop y = p :: below) (hrest : curr.drop x = rest)
    (h : Known costs prev curr mtx fun x' y' =>
      x' ≤ curr.length ∧ y' ≤ y ∨ x' = 0 ∧ y' ≤ prev.length ∨ x' ≤ x ∧ y' = y + 1) :
    ∃ mtx', fillRow costs.insert costs.delete costs.substitute p (y + 1) rest (x + 1) mtx =
        .ok mtx' ∧
      Known costs prev curr mtx' fun x' y' =>
        x' ≤ curr.length ∧ y' ≤ y + 1 ∨ x' = 0 ∧ y' ≤ prev.length := by
  induction rest generalizing x mtx with
  | nil =>
      have hx := List.drop_eq_nil_iff.mp hrest
      exact ⟨mtx, rfl, h.mono fun x' y' => by omega⟩
  | cons c rest ih =>
      have hx := lt_length_of_drop hrest
      have hy := lt_length_of_drop hprev
      obtain ⟨left, hleft, hbestLeft⟩ := h x (y + 1) (by omega)
      obtain ⟨above, habove, hbestAbove⟩ := h (x + 1) y (by omega)
      obtain ⟨diagonal, hdiagonal, hbestDiagonal⟩ := h x y (by omega)
      rw [reverse_take_succ hprev] at hbestLeft
      rw [reverse_take_succ hrest] at hbestAbove
      have hcell := Best.inner hbestLeft hbestAbove hbestDiagonal
      rw [← reverse_take_succ hprev, ← reverse_take_succ hrest] at hcell
      obtain ⟨mtx', hset, hknown⟩ := h.set hx hy hcell
      obtain ⟨mtx'', hfill, hknown'⟩ := ih (drop_succ hrest) (hknown.mono fun x' y' => by omega)
      refine ⟨mtx'', ?_, hknown'⟩
      rw [EditPaths.fillRow, Nat.add_sub_cancel, Nat.add_sub_cancel, hleft, ok_bind, habove,
        ok_bind, hdiagonal, ok_bind, hset]
      exact hfill

theorem Known.fillRows {rest : List Entity} {y : Nat} (hrest : prev.drop y = rest)
    (h : Known costs prev curr mtx fun x' y' =>
      x' ≤ curr.length ∧ y' ≤ y ∨ x' = 0 ∧ y' ≤ prev.length) :
    ∃ mtx', fillRows costs.insert costs.delete costs.substitute curr rest (y + 1) mtx =
        .ok mtx' ∧
      Known costs prev curr mtx' fun x' y' => x' ≤ curr.length ∧ y' ≤ prev.length := by
  induction rest generalizing y mtx with
  | nil =>
      have hy := List.drop_eq_nil_iff.mp hrest
      exact ⟨mtx, rfl, h.mono fun x' y' => by omega⟩
  | cons p rest ih =>
      have hy := lt_length_of_drop hrest
      obtain ⟨mtx', hrow, hknown⟩ :=
        Known.fillRow hrest (show curr.drop 0 = curr from rfl) (h.mono fun x' y' => by omega)
      obtain ⟨mtx'', hfill, hknown'⟩ := ih (drop_succ hrest) hknown
      refine ⟨mtx'', ?_, hknown'⟩
      rw [EditPaths.fillRows, hrow]
      exact hfill

end Filling

/-! ## The way back -/

section Tracing

variable {Entity : Type u} {costs : Costs Entity Entity ℚ} {prev curr : List Entity}

def actionOf : Edit → EditAction
  | .insert => .add
  | .substitute => .edit
  | .delete => .delete

theorem reverse_take_pred {l : List Entity} {i : Nat} {a : Entity} {rest : List Entity}
    (h : (l.take i).reverse = a :: rest) (hi : i ≤ l.length) :
    ∃ j, i = j + 1 ∧ j ≤ l.length ∧ (l.take j).reverse = rest := by
  have hlength := congrArg List.length h
  rw [List.length_reverse, List.length_take, Nat.min_eq_left hi, List.length_cons] at hlength
  refine ⟨rest.length, hlength, by omega, ?_⟩
  have hlt : rest.length < l.length := by omega
  rw [hlength, reverse_take_succ (List.drop_eq_getElem_cons hlt)] at h
  exact (List.cons.inj h).2

theorem Known.tracePath {mtx : Matrix (curr.length + 1) (prev.length + 1)}
    (hknown : Known costs prev curr mtx fun x y => x ≤ curr.length ∧ y ≤ prev.length)
    {fuel x y : Nat} {e : Entry} (hx : x ≤ curr.length) (hy : y ≤ prev.length)
    (hfuel : x + y < fuel) (he : mtx.entryAt x y = .ok e) :
    ∃ edits, tracePath mtx fuel x y = .ok (edits.map actionOf) ∧
      Script costs edits (prev.take y).reverse (curr.take x).reverse e.cost := by
  induction fuel generalizing x y e with
  | zero => exact absurd hfuel (Nat.not_lt_zero _)
  | succ fuel ih =>
      obtain ⟨_, he', hbest⟩ := hknown x y ⟨hx, hy⟩
      cases he.symm.trans he'
      generalize hsource : (prev.take y).reverse = source at hbest ⊢
      generalize htarget : (curr.take x).reverse = target at hbest ⊢
      cases hbest with
      | stop =>
          obtain rfl : x = 0 := by
            have h := congrArg List.length htarget
            rwa [List.length_reverse, List.length_take, Nat.min_eq_left hx] at h
          obtain rfl : y = 0 := by
            have h := congrArg List.length hsource
            rwa [List.length_reverse, List.length_take, Nat.min_eq_left hy] at h
          exact ⟨[], rfl, .nil⟩
      | add h _ =>
          obtain ⟨x, rfl, hx', htarget'⟩ := reverse_take_pred htarget hx
          obtain ⟨left, hleft, hbest⟩ := hknown x y ⟨hx', hy⟩
          obtain ⟨edits, htrace, hscript⟩ := ih hx' hy (by omega) hleft
          have hleast := hbest.isLeast
          rw [hsource, htarget'] at hscript hleast
          cases hleast.unique h
          refine ⟨.insert :: edits, ?_, hscript.insert _⟩
          rw [EditPaths.tracePath, if_pos (by omega), he, ok_bind]
          change (EditPaths.tracePath mtx fuel x y >>= _) = _
          rw [htrace]
          rfl
      | edit h _ =>
          obtain ⟨x, rfl, hx', htarget'⟩ := reverse_take_pred htarget hx
          obtain ⟨y, rfl, hy', hsource'⟩ := reverse_take_pred hsource hy
          obtain ⟨diagonal, hdiagonal, hbest⟩ := hknown x y ⟨hx', hy'⟩
          obtain ⟨edits, htrace, hscript⟩ := ih hx' hy' (by omega) hdiagonal
          have hleast := hbest.isLeast
          rw [hsource', htarget'] at hscript hleast
          cases hleast.unique h
          refine ⟨.substitute :: edits, ?_, hscript.substitute _ _⟩
          rw [EditPaths.tracePath, if_pos (by omega), he, ok_bind]
          change (EditPaths.tracePath mtx fuel x y >>= _) = _
          rw [htrace]
          rfl
      | delete h _ =>
          obtain ⟨y, rfl, hy', hsource'⟩ := reverse_take_pred hsource hy
          obtain ⟨above, habove, hbest⟩ := hknown x y ⟨hx, hy'⟩
          obtain ⟨edits, htrace, hscript⟩ := ih hx hy' (by omega) habove
          have hleast := hbest.isLeast
          rw [hsource', htarget] at hscript hleast
          cases hleast.unique h
          refine ⟨.delete :: edits, ?_, hscript.delete _⟩
          rw [EditPaths.tracePath, if_pos (by omega), he, ok_bind]
          change (EditPaths.tracePath mtx fuel x y >>= _) = _
          rw [htrace]
          rfl

theorem exists_computeEditPath (costs : Costs Entity Entity ℚ) (prev curr : List Entity) :
    ∃ edits total,
      computeEditPath costs.insert costs.delete costs.substitute prev curr =
        .ok (edits.map actionOf) ∧
      Script costs edits prev curr total ∧ IsLeast (totals costs prev curr) total := by
  obtain ⟨top, htop, hknownTop⟩ := Known.fillTop (show curr.drop 0 = curr from rfl)
    ((known_ofSize costs prev curr).mono fun x y => by omega)
  obtain ⟨left, hleft, hknownLeft⟩ := Known.fillLeft (show prev.drop 0 = prev from rfl)
    (hknownTop.mono fun x y => by omega)
  obtain ⟨mtx, hmtx, hknown⟩ := Known.fillRows (show prev.drop 0 = prev from rfl)
    (hknownLeft.mono fun x y => by omega)
  obtain ⟨e, he, hbest⟩ := hknown curr.length prev.length ⟨Nat.le_refl _, Nat.le_refl _⟩
  obtain ⟨edits, htrace, hscript⟩ :=
    hknown.tracePath (Nat.le_refl _) (Nat.le_refl _) (Nat.lt_succ_self _) he
  have hleast := hbest.isLeast
  rw [List.take_length, List.take_length] at hscript hleast
  rw [totals_reverse] at hleast
  refine ⟨edits.reverse, e.cost, ?_, ?_, hleast⟩
  · unfold computeEditPath
    dsimp only
    rw [htop, ok_bind, hleft, ok_bind, hmtx, ok_bind, htrace, List.map_reverse]
    rfl
  · have hreverse := hscript.reverse
    rwa [List.reverse_reverse, List.reverse_reverse] at hreverse

end Tracing

/-! ## The path that is found -/

section Paths

variable {Entity : Type u} {costs : Costs Entity Entity ℚ} {prev curr : List Entity}

/-- A path of edits from one number of entries to another. -/
structure IsEditPath (path : List EditAction) (prevCount currCount : Nat) : Prop where
  notStop : .stop ∉ path
  curr : path.count .add + path.count .edit = currCount
  prev : path.count .delete + path.count .edit = prevCount

/-- What a path of edits costs. -/
def totalCost (getAddCost getDeleteCost : Entity → ℚ) (getEditCost : Entity → Entity → ℚ) :
    List EditAction → List Entity → List Entity → ℚ
  | .add :: path, prev, c :: curr =>
      getAddCost c + totalCost getAddCost getDeleteCost getEditCost path prev curr
  | .edit :: path, p :: prev, c :: curr =>
      getEditCost p c + totalCost getAddCost getDeleteCost getEditCost path prev curr
  | .delete :: path, p :: prev, curr =>
      getDeleteCost p + totalCost getAddCost getDeleteCost getEditCost path prev curr
  | _, _, _ => 0

/-- The entries that a path edits, with what they become. -/
def edited : List EditAction → List Entity → List Entity → List (Entity × Entity)
  | .add :: path, prev, _ :: curr => edited path prev curr
  | .edit :: path, p :: prev, c :: curr => (p, c) :: edited path prev curr
  | .delete :: path, _ :: prev, curr => edited path prev curr
  | _, _, _ => []

theorem isEditPath_nil {prevCount currCount : Nat} :
    IsEditPath [] prevCount currCount ↔ prevCount = 0 ∧ currCount = 0 := by
  constructor
  · rintro ⟨_, hcurr, hprev⟩
    exact ⟨hprev.symm, hcurr.symm⟩
  · rintro ⟨rfl, rfl⟩
    exact ⟨List.not_mem_nil, rfl, rfl⟩

theorem isEditPath_add {path : List EditAction} {prevCount currCount : Nat} :
    IsEditPath (.add :: path) prevCount currCount ↔
      ∃ rest, currCount = rest + 1 ∧ IsEditPath path prevCount rest := by
  constructor
  · rintro ⟨hstop, hcurr, hprev⟩
    simp at hstop hcurr hprev
    exact ⟨_, by omega, hstop, rfl, hprev⟩
  · rintro ⟨rest, rfl, hstop, hcurr, hprev⟩
    constructor
    · simpa using hstop
    · simp [← hcurr]
      omega
    · simpa using hprev

theorem isEditPath_edit {path : List EditAction} {prevCount currCount : Nat} :
    IsEditPath (.edit :: path) prevCount currCount ↔
      ∃ prevRest currRest, prevCount = prevRest + 1 ∧ currCount = currRest + 1 ∧
        IsEditPath path prevRest currRest := by
  constructor
  · rintro ⟨hstop, hcurr, hprev⟩
    simp at hstop hcurr hprev
    exact ⟨_, _, by omega, by omega, hstop, rfl, rfl⟩
  · rintro ⟨prevRest, currRest, rfl, rfl, hstop, hcurr, hprev⟩
    constructor
    · simpa using hstop
    · simp [← hcurr]
      omega
    · simp [← hprev]
      omega

theorem isEditPath_delete {path : List EditAction} {prevCount currCount : Nat} :
    IsEditPath (.delete :: path) prevCount currCount ↔
      ∃ rest, prevCount = rest + 1 ∧ IsEditPath path rest currCount := by
  constructor
  · rintro ⟨hstop, hcurr, hprev⟩
    simp at hstop hcurr hprev
    exact ⟨_, by omega, hstop, hcurr, rfl⟩
  · rintro ⟨rest, rfl, hstop, hcurr, hprev⟩
    constructor
    · simpa using hstop
    · simpa using hcurr
    · simp [← hprev]
      omega

theorem isEditPath_of_script {edits : List Edit} {total : ℚ}
    (h : Script costs edits prev curr total) :
    IsEditPath (edits.map actionOf) prev.length curr.length := by
  induction h with
  | nil => exact isEditPath_nil.mpr ⟨rfl, rfl⟩
  | insert b _ ih => exact isEditPath_add.mpr ⟨_, rfl, ih⟩
  | substitute a b _ ih => exact isEditPath_edit.mpr ⟨_, _, rfl, rfl, ih⟩
  | delete a _ ih => exact isEditPath_delete.mpr ⟨_, rfl, ih⟩

theorem totalCost_of_script {edits : List Edit} {total : ℚ}
    (h : Script costs edits prev curr total) :
    totalCost costs.insert costs.delete costs.substitute (edits.map actionOf) prev curr =
      total := by
  induction h with
  | nil => rfl
  | insert b _ ih => rw [add_comm, ← ih]; rfl
  | substitute a b _ ih => rw [add_comm, ← ih]; rfl
  | delete a _ ih => rw [add_comm, ← ih]; rfl

theorem edited_of_script {edits : List Edit} {total : ℚ}
    (h : Script costs edits prev curr total) :
    edited (edits.map actionOf) prev curr = pairs edits prev curr := by
  induction h with
  | nil => rfl
  | insert b _ ih => exact ih
  | substitute a b _ ih => exact congrArg ((a, b) :: ·) ih
  | delete a _ ih => exact ih

theorem exists_script (costs : Costs Entity Entity ℚ) {path : List EditAction}
    (h : IsEditPath path prev.length curr.length) :
    ∃ edits total, path = edits.map actionOf ∧ Script costs edits prev curr total := by
  induction path generalizing prev curr with
  | nil =>
      obtain ⟨hprev, hcurr⟩ := isEditPath_nil.mp h
      obtain rfl := List.eq_nil_of_length_eq_zero hprev
      obtain rfl := List.eq_nil_of_length_eq_zero hcurr
      exact ⟨[], 0, rfl, .nil⟩
  | cons action path ih =>
      cases action with
      | stop => exact absurd List.mem_cons_self h.notStop
      | add =>
          obtain ⟨_, hcurr, hpath⟩ := isEditPath_add.mp h
          obtain ⟨c, curr, rfl⟩ := List.exists_cons_of_length_eq_add_one hcurr
          cases hcurr
          obtain ⟨edits, total, rfl, hscript⟩ := ih hpath
          exact ⟨.insert :: edits, _, rfl, hscript.insert c⟩
      | edit =>
          obtain ⟨_, _, hprev, hcurr, hpath⟩ := isEditPath_edit.mp h
          obtain ⟨p, prev, rfl⟩ := List.exists_cons_of_length_eq_add_one hprev
          obtain ⟨c, curr, rfl⟩ := List.exists_cons_of_length_eq_add_one hcurr
          cases hprev
          cases hcurr
          obtain ⟨edits, total, rfl, hscript⟩ := ih hpath
          exact ⟨.substitute :: edits, _, rfl, hscript.substitute p c⟩
      | delete =>
          obtain ⟨_, hprev, hpath⟩ := isEditPath_delete.mp h
          obtain ⟨p, prev, rfl⟩ := List.exists_cons_of_length_eq_add_one hprev
          cases hprev
          obtain ⟨edits, total, rfl, hscript⟩ := ih hpath
          exact ⟨.delete :: edits, _, rfl, hscript.delete p⟩

/-- One slot for each entry, where the slots that are not empty hold entities from
`offset` on, in strictly increasing order. -/
def KeepsInOrder {Entity : Type v} (existing : List Entity) (offset prevCount currCount : Nat)
    (slots : List (Option Entity)) : Prop :=
  ∃ indexes : List (Option Nat), indexes.length = currCount ∧
    slots = indexes.map (fun index => index.bind (existing[·]?)) ∧
    (∀ index, some index ∈ indexes → offset ≤ index ∧ index < offset + prevCount) ∧
    (indexes.filterMap id).Pairwise (· < ·)

theorem computePrevEntities_of_script {Entity' : Type v} {existing : List Entity'}
    {edits : List Edit} {total : ℚ} (h : Script costs edits prev curr total) {offset : Nat}
    (hexisting : offset + prev.length ≤ existing.length) :
    computePrevEntities existing offset (edits.map actionOf) =
      .ok ((origins edits offset).map fun index => index.bind (existing[·]?)) := by
  induction h generalizing offset with
  | nil => rfl
  | insert b _ ih =>
      change (computePrevEntities existing offset _ >>= _) = _
      rw [ih hexisting]
      rfl
  | substitute a b _ ih =>
      rw [List.length_cons] at hexisting
      have hentity : existing[offset]? = some existing[offset] :=
        List.getElem?_eq_getElem (by omega)
      rw [List.map_cons, actionOf, computePrevEntities, hentity]
      change (computePrevEntities existing (offset + 1) _ >>= _) = _
      rw [ih (by omega), origins, List.map_cons, Option.bind_some, hentity]
      rfl
  | delete a _ ih =>
      rw [List.length_cons] at hexisting
      exact ih (by omega)

end Paths

/-- A path of edits is found, no path costs less, no entries are edited that are cheaper
to delete and add, and the entities that the path keeps stay in order. -/
theorem computeEditPath_optimal {Entity : Type u} (getAddCost getDeleteCost : Entity → ℚ)
    (getEditCost : Entity → Entity → ℚ) (prev curr : List Entity) :
    ∃ path, computeEditPath getAddCost getDeleteCost getEditCost prev curr = .ok path ∧
      IsEditPath path prev.length curr.length ∧
      (∀ other, IsEditPath other prev.length curr.length →
        totalCost getAddCost getDeleteCost getEditCost path prev curr ≤
          totalCost getAddCost getDeleteCost getEditCost other prev curr) ∧
      (∀ p c, (p, c) ∈ edited path prev curr →
        getEditCost p c ≤ getDeleteCost p + getAddCost c) ∧
      ∀ (MapEntity : Type v) (existing : List MapEntity) (offset : Nat),
        offset + prev.length ≤ existing.length →
          ∃ slots, computePrevEntities existing offset path = .ok slots ∧
            KeepsInOrder existing offset prev.length curr.length slots := by
  obtain ⟨edits, total, hpath, hscript, hleast⟩ :=
    exists_computeEditPath ⟨getAddCost, getDeleteCost, getEditCost⟩ prev curr
  have htotal := totalCost_of_script hscript
  refine ⟨_, hpath, isEditPath_of_script hscript, ?_, ?_, ?_⟩
  · intro other hother
    obtain ⟨otherEdits, otherTotal, rfl, hotherScript⟩ :=
      exists_script ⟨getAddCost, getDeleteCost, getEditCost⟩ hother
    have hotherTotal := totalCost_of_script hotherScript
    rw [htotal, hotherTotal]
    exact hleast.2 ⟨otherEdits, hotherScript⟩
  · intro p c hpair
    rw [edited_of_script hscript] at hpair
    exact hscript.substitute_le_of_isLeast hleast hpair
  · intro MapEntity existing offset hexisting
    refine ⟨_, computePrevEntities_of_script hscript hexisting, origins edits offset, ?_, rfl, ?_, ?_⟩
    · exact hscript.length_origins offset
    · intro index hindex
      exact hscript.mem_origins hindex
    · exact hscript.pairwise_origins offset

end HuntersGuild.EditPaths
