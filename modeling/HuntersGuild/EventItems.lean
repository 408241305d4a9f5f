import HuntersGuild.Items

/-!
What a present holds: the event items of a table, one of which is chosen with a
random number, and how often each of them is chosen.
-/

namespace HuntersGuild.EventItems

open HuntersGuild.Items

structure EventItem where
  item : Vector UInt8 3
  probability : UInt8
deriving DecidableEq

/-- The loop that adds up the probabilities. -/
def probabilitySum (table : List EventItem) : Nat :=
  table.foldl (fun sum entry => sum + entry.probability.toNat) 0

/-- The loop that chooses an entry. -/
def chooseEntry : List EventItem → Nat → Option Nat
  | [], _ => none
  | entry :: entries, det =>
    if entry.probability.toNat < det then
      (chooseEntry entries (det - entry.probability.toNat)).map (· + 1)
    else some 0

/-- The item of a present becomes what the entry says. -/
def EventItem.into (entry : EventItem) (data : ItemData) : ItemData :=
  { data with
    data1 := #v[entry.item.get 0, entry.item.get 1, entry.item.get 2, 0, 0, 0, 0, 0, 0, 0, 0, 0]
    data2d := 0 }

/-- What `player_use_item` does with a present: the item that takes its place, or
`none` when the present is to be deleted. -/
def unwrapPresent (table : List EventItem) (random : UInt32) (data : ItemData) :
    Except Exception (Option ItemData) :=
  let sum := probabilitySum table
  if sum = 0 then
    .error (.runtimeError "no unwrap results available for event")
  else
    .ok (((chooseEntry table (random.toNat % sum)).bind fun z => table[z]?).map (·.into data))

/-! The sum. -/

theorem foldl_probability (entries : List EventItem) (sum : Nat) :
    entries.foldl (fun sum entry => sum + entry.probability.toNat) sum =
      sum + probabilitySum entries := by
  induction entries generalizing sum with
  | nil => rfl
  | cons entry entries ih =>
      rw [probabilitySum, List.foldl_cons, List.foldl_cons, ih, ih (0 + entry.probability.toNat),
        Nat.zero_add, Nat.add_assoc]

theorem probabilitySum_cons (entry : EventItem) (entries : List EventItem) :
    probabilitySum (entry :: entries) = entry.probability.toNat + probabilitySum entries := by
  rw [probabilitySum, List.foldl_cons, foldl_probability, Nat.zero_add]

theorem probabilitySum_eq_zero_iff {entries : List EventItem} :
    probabilitySum entries = 0 ↔ ∀ entry ∈ entries, entry.probability = 0 := by
  induction entries with
  | nil => exact iff_of_true rfl nofun
  | cons entry entries ih =>
      rw [probabilitySum_cons, Nat.add_eq_zero_iff, ih, List.forall_mem_cons, ← UInt8.toNat_inj]
      rfl

/-! The choice. -/

/-- Some entry is always chosen. -/
theorem exists_chooseEntry {table : List EventItem} {det : Nat} (h : det < probabilitySum table) :
    ∃ z entry, chooseEntry table det = some z ∧ table[z]? = some entry := by
  induction table generalizing det with
  | nil => exact absurd h (Nat.not_lt_zero det)
  | cons entry entries ih =>
      rw [probabilitySum_cons] at h
      rw [chooseEntry]
      split_ifs with hskip
      · obtain ⟨z, found, hchoose, hfound⟩ := @ih (det - entry.probability.toNat) (by omega)
        exact ⟨z + 1, found, congrArg (Option.map (· + 1)) hchoose, hfound⟩
      · exact ⟨0, entry, rfl, rfl⟩

/-- A present is never deleted in vain: an item of the table takes its place. -/
theorem exists_unwrapPresent {table : List EventItem} (h : 0 < probabilitySum table) (random : UInt32)
    (data : ItemData) : ∃ z entry, table[z]? = some entry ∧
      chooseEntry table (random.toNat % probabilitySum table) = some z ∧
        unwrapPresent table random data = .ok (some (entry.into data)) := by
  obtain ⟨z, entry, hchoose, hentry⟩ := exists_chooseEntry (Nat.mod_lt random.toNat h)
  refine ⟨z, entry, hentry, hchoose, ?_⟩
  rw [unwrapPresent, if_neg (Nat.pos_iff_ne_zero.mp h), hchoose, Option.bind_some, hentry]
  rfl

theorem chooseEntry_eq_zero_iff {entry : EventItem} {entries : List EventItem} {det : Nat} :
    chooseEntry (entry :: entries) det = some 0 ↔ det ≤ entry.probability.toNat := by
  rw [chooseEntry]
  split_ifs with hskip
  · refine iff_of_false ?_ (Nat.not_le.mpr hskip)
    intro h
    obtain ⟨z, -, hz⟩ := Option.map_eq_some_iff.mp h
    exact Nat.succ_ne_zero z hz
  · exact iff_of_true rfl (Nat.not_lt.mp hskip)

/-- With how many of the random numbers an entry is chosen. -/
def chances (table : List EventItem) (z : Nat) : Nat :=
  (List.range (probabilitySum table)).countP fun det => chooseEntry table det = some z

theorem countP_le_range (n bound : Nat) :
    (List.range n).countP (fun det => det ≤ bound) = min n (bound + 1) := by
  induction n with
  | zero => rw [List.range_zero, List.countP_nil, Nat.zero_min]
  | succ n ih =>
      rw [List.range_succ, List.countP_append, ih, List.countP_singleton]
      simp only [decide_eq_true_eq]
      split_ifs <;> omega

/-- The first entry gets one number more than its probability, if there is one. -/
theorem chances_zero (entry : EventItem) (entries : List EventItem) :
    chances (entry :: entries) 0 =
      min (probabilitySum (entry :: entries)) (entry.probability.toNat + 1) := by
  rw [chances, ← countP_le_range]
  congr 1
  funext det
  rw [decide_eq_decide]
  exact chooseEntry_eq_zero_iff

/-- The entries are chosen with the weights that the table gives them. -/
structure FollowsWeights (table : List EventItem) : Prop where
  chances : ∀ (z : Nat) (entry : EventItem), table[z]? = some entry →
    chances table z = entry.probability.toNat
  chosen : ∀ det < probabilitySum table, ∃ z entry, chooseEntry table det = some z ∧
    table[z]? = some entry ∧ entry.probability ≠ 0

theorem chooseEntry_of_le {entry : EventItem} {entries : List EventItem} {det : Nat}
    (h : det ≤ entry.probability.toNat) : chooseEntry (entry :: entries) det = some 0 :=
  chooseEntry_eq_zero_iff.mpr h

/-- The comparison in the loop lets the first entry take a number of the next one, so
that the weights are right only in a table with nothing after the first entry. -/
theorem followsWeights_iff {table : List EventItem} (hsum : 0 < probabilitySum table) :
    FollowsWeights table ↔
      ∀ (z : Nat) (entry : EventItem), table[z]? = some entry → 0 < z → entry.probability = 0 := by
  cases table with
  | nil => exact absurd hsum (Nat.lt_irrefl 0)
  | cons first entries =>
      have hrest : (∀ (z : Nat) (entry : EventItem), (first :: entries)[z]? = some entry → 0 < z →
          entry.probability = 0) ↔ probabilitySum entries = 0 := by
        rw [probabilitySum_eq_zero_iff]
        constructor
        · intro h entry hentry
          obtain ⟨z, hz⟩ := List.getElem?_of_mem hentry
          exact h (z + 1) entry hz (Nat.succ_pos z)
        · intro h z entry hz hpos
          obtain ⟨z, rfl⟩ := Nat.exists_eq_succ_of_ne_zero (Nat.pos_iff_ne_zero.mp hpos)
          exact h entry (List.mem_of_getElem? hz)
      rw [hrest]
      constructor
      · intro h
        have hfirst := h.chances 0 first rfl
        rw [chances_zero, probabilitySum_cons] at hfirst
        omega
      · intro hzero
        have htotal : probabilitySum (first :: entries) = first.probability.toNat := by
          rw [probabilitySum_cons, hzero, Nat.add_zero]
        have hchoose : ∀ det < probabilitySum (first :: entries),
            chooseEntry (first :: entries) det = some 0 := by
          intro det hdet
          exact chooseEntry_of_le (htotal ▸ Nat.le_of_lt hdet)
        refine ⟨fun z entry hz => ?_, fun det hdet => ⟨0, first, hchoose det hdet, rfl, ?_⟩⟩
        · cases z with
          | zero =>
              obtain rfl := Option.some.inj hz
              rw [chances_zero, htotal]
              omega
          | succ z =>
              have hprobability := probabilitySum_eq_zero_iff.mp hzero entry (List.mem_of_getElem? hz)
              rw [chances, hprobability]
              refine List.countP_eq_zero.mpr fun det hdet => ?_
              rw [hchoose det (List.mem_range.mp hdet)]
              simp
        · intro hfirst
          rw [htotal, hfirst] at hsum
          exact Nat.lt_irrefl 0 hsum

theorem followsWeights_iff_mate :
    FollowsWeights [⟨#v[3, 0, 0], 8⟩, ⟨#v[3, 0, 1], 0⟩] ↔
      ∀ (z : Nat) (entry : EventItem),
        [(⟨#v[3, 0, 0], 8⟩ : EventItem), ⟨#v[3, 0, 1], 0⟩][z]? = some entry → 0 < z →
          entry.probability = 0 :=
  followsWeights_iff (by decide)

/-- Of two entries with the same weight the second one is never chosen. -/
theorem evenTable_not_followsWeights :
    ¬ ∀ table : List EventItem, 0 < probabilitySum table → FollowsWeights table := by
  intro h
  have hchances := (h [⟨#v[3, 0, 0], 1⟩, ⟨#v[3, 0, 1], 1⟩] (by decide)).chances 1 _ rfl
  revert hchances
  decide

end HuntersGuild.EventItems
