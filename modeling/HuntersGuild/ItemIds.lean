import HuntersGuild.Lobbies

/-!
The item IDs that a game gives out do not collide with each other, nor with
the IDs that clients report from the lower half of their blocks.
-/

namespace HuntersGuild.ItemIds

open HuntersGuild.Lobbies

inductive Event where
  | generate (clientId : UInt8)
  | report (itemId : UInt32)

/-- Every generated ID is new: it was not generated before, and not reported
before by a report that counts. -/
def Fresh (counts : UInt32 → Prop) (l : Lobby) (known : UInt32 → Prop) : List Event → Prop
  | [] => True
  | .generate clientId :: events =>
    ¬ known (l.generateItemId clientId).1 ∧
      Fresh counts (l.generateItemId clientId).2
        (fun id => id = (l.generateItemId clientId).1 ∨ known id) events
  | .report itemId :: events =>
    match l.onItemIdGeneratedExternally itemId with
    | .ok l' => Fresh counts l' (fun id => id = itemId ∧ counts itemId ∨ known id) events
    | .error _ => Fresh counts l (fun id => id = itemId ∧ counts itemId ∨ known id) events

/-- The counter that gives a client its IDs; `none` is the one of the game. -/
def counterFor (maxClients clientId : UInt8) : Option UInt8 :=
  if clientId < maxClients then some clientId else none

/-- How many IDs a counter gives out. -/
def generations (maxClients : UInt8) (counter : Option UInt8) (events : List Event) : Nat :=
  events.countP fun
    | .generate clientId => counterFor maxClients clientId = counter
    | .report _ => false

/-- The IDs in the range that the server keeps track of. -/
def Tracked (itemId : UInt32) : Prop := 0x00010000 < itemId ∧ itemId < 0x00810000

/-- In the lower half of the block of IDs of some client. -/
def InLowerHalf (itemId : UInt32) : Prop := itemId &&& 0x001FFFFF < 0x00100000

/-! Counters with enough room for the rest of a run. -/

/-- The owner of an ID is the client whose counter has passed it. -/
def Passed (l : Lobby) (id : UInt32) : Prop :=
  (∃ x : Fin 12, x.val * 0x200000 ≤ id.toNat ∧ id.toNat < (x.val + 1) * 0x200000 ∧
    id.toNat < (l.nextItemIdForClient x).toNat) ∨
  (0xCC000000 ≤ id.toNat ∧ id.toNat < l.nextGameItemId.toNat)

/-- What is still to be generated fits into the blocks of the counters. -/
structure Ready (l : Lobby) (known : UInt32 → Prop) (events : List Event) : Prop where
  lower : ∀ x : Fin 12, x.val * 0x200000 ≤ (l.nextItemIdForClient x).toNat
  upper : ∀ x : Fin 12, (l.nextItemIdForClient x).toNat +
    generations l.maxClients (some (UInt8.ofNat x)) events ≤ (x.val + 1) * 0x200000
  gameLower : 0xCC000000 ≤ l.nextGameItemId.toNat
  gameUpper : l.nextGameItemId.toNat + generations l.maxClients none events ≤ 0xCC100000
  few : ∀ counter, generations l.maxClients counter events ≤ 0x00100000
  passed : ∀ {id}, known id → Passed l id

theorem generations_generate (maxClients clientId : UInt8) (counter : Option UInt8)
    (events : List Event) :
    generations maxClients counter (.generate clientId :: events) =
      generations maxClients counter events +
        if counterFor maxClients clientId = counter then 1 else 0 := by
  rw [generations, List.countP_cons]
  simp only [decide_eq_true_eq]
  rfl

theorem generations_report (maxClients : UInt8) (itemId : UInt32) (counter : Option UInt8)
    (events : List Event) :
    generations maxClients counter (.report itemId :: events) =
      generations maxClients counter events := by
  rw [generations, List.countP_cons]
  rfl

theorem withNextItemId_self (l : Lobby) (x : Fin 12) (id : UInt32) :
    (l.withNextItemId x id).nextItemIdForClient x = id :=
  Function.update_self _ _ _

theorem withNextItemId_of_ne (l : Lobby) {x y : Fin 12} (id : UInt32) (hne : y ≠ x) :
    (l.withNextItemId x id).nextItemIdForClient y = l.nextItemIdForClient y :=
  Function.update_of_ne hne _ _

theorem generations_le (maxClients : UInt8) (counter : Option UInt8) (event : Event)
    (events : List Event) :
    generations maxClients counter events ≤ generations maxClients counter (event :: events) := by
  rw [generations, generations, List.countP_cons]
  exact Nat.le_add_right _ _

/-- A counter that moves forward within the block of its client. -/
theorem Ready.advance {l : Lobby} {known : UInt32 → Prop} {event : Event} {events : List Event}
    (h : Ready l known (event :: events)) {x : Fin 12} {next : UInt32}
    (hnext : l.nextItemIdForClient x ≤ next)
    (hroom : next.toNat + generations l.maxClients (some (UInt8.ofNat x)) events ≤
      (x.val + 1) * 0x200000) :
    Ready (l.withNextItemId x next)
      (fun id => x.val * 0x200000 ≤ id.toNat ∧ id < next ∨ known id) events := by
  have hnext := UInt32.le_iff_toNat_le.mp hnext
  have hlower := h.lower x
  refine ⟨?_, ?_, h.gameLower, ?_, ?_, ?_⟩
  · intro y
    by_cases hy : y = x
    · rw [hy, withNextItemId_self]
      omega
    · rw [withNextItemId_of_ne l next hy]
      exact h.lower y
  · intro y
    by_cases hy : y = x
    · rw [hy, withNextItemId_self]
      exact hroom
    · rw [withNextItemId_of_ne l next hy]
      exact Nat.le_trans (Nat.add_le_add_left (generations_le _ _ _ _) _) (h.upper y)
  · exact Nat.le_trans (Nat.add_le_add_left (generations_le _ _ _ _) _) h.gameUpper
  · intro counter
    exact Nat.le_trans (generations_le _ _ _ _) (h.few counter)
  · rintro id (⟨hblock, hbelow⟩ | hknown)
    · have hbelow := UInt32.lt_iff_toNat_lt.mp hbelow
      refine .inl ⟨x, hblock, by omega, ?_⟩
      rw [withNextItemId_self]
      exact hbelow
    · rcases h.passed hknown with ⟨y, hy, hy', hbelow⟩ | hgame
      · refine .inl ⟨y, hy, hy', ?_⟩
        by_cases hyx : y = x
        · rw [hyx, withNextItemId_self]
          rw [hyx] at hbelow
          omega
        · rw [withNextItemId_of_ne l next hyx]
          exact hbelow
      · exact .inr hgame

theorem Ready.mono {l : Lobby} {known known' : UInt32 → Prop} {events : List Event}
    (h : Ready l known events) (hsub : ∀ id, known' id → known id) : Ready l known' events where
  lower := h.lower
  upper := h.upper
  gameLower := h.gameLower
  gameUpper := h.gameUpper
  few := h.few
  passed := fun hknown => h.passed (hsub _ hknown)

theorem toNat_add_one {id : UInt32} (h : id.toNat + 1 < 2 ^ 32) :
    (id + 1).toNat = id.toNat + 1 := by
  rw [UInt32.toNat_add]
  exact Nat.mod_eq_of_lt h

/-- The next ID of a client is new. -/
theorem Ready.generate_client {l : Lobby} {known : UInt32 → Prop} {clientId : UInt8}
    {events : List Event} (h : Ready l known (.generate clientId :: events))
    (hlt : clientId.toNat < l.maxClients.toNat) :
    ¬ known (l.generateItemId clientId).1 ∧
      Ready (l.generateItemId clientId).2
        (fun id => id = (l.generateItemId clientId).1 ∨ known id) events := by
  let x : Fin 12 := ⟨clientId.toNat, Nat.lt_of_lt_of_le hlt l.maxClients_le⟩
  rw [Lobby.generateItemId, dif_pos hlt]
  change ¬ known (l.nextItemIdForClient x) ∧ Ready (l.withNextItemId x (l.nextItemIdForClient x + 1))
    (fun id => id = l.nextItemIdForClient x ∨ known id) events
  have hcounter : counterFor l.maxClients clientId = some (UInt8.ofNat x) := by
    rw [counterFor, if_pos (UInt8.lt_iff_toNat_lt.mpr hlt)]
    exact congrArg some UInt8.ofNat_toNat.symm
  have hlower := h.lower x
  have hupper := h.upper x
  rw [generations_generate, if_pos hcounter] at hupper
  have hsucc := @toNat_add_one (l.nextItemIdForClient x) (by omega)
  refine ⟨?_, (h.advance ?_ (by omega)).mono ?_⟩
  · intro hknown
    rcases h.passed hknown with ⟨y, hy, hy', hbelow⟩ | ⟨hgame, -⟩
    · have hxy : y = x := Fin.ext (by omega)
      rw [hxy] at hbelow
      exact Nat.lt_irrefl _ hbelow
    · omega
  · rw [UInt32.le_iff_toNat_le, hsucc]
    exact Nat.le_succ _
  · rintro id (rfl | hknown)
    · refine .inl ⟨hlower, ?_⟩
      rw [UInt32.lt_iff_toNat_lt, hsucc]
      exact Nat.lt_succ_self _
    · exact .inr hknown

theorem Ready.generate_game {l : Lobby} {known : UInt32 → Prop} {clientId : UInt8}
    {events : List Event} (h : Ready l known (.generate clientId :: events))
    (hlt : ¬ clientId.toNat < l.maxClients.toNat) :
    ¬ known (l.generateItemId clientId).1 ∧
      Ready (l.generateItemId clientId).2
        (fun id => id = (l.generateItemId clientId).1 ∨ known id) events := by
  rw [Lobby.generateItemId, dif_neg hlt]
  change ¬ known l.nextGameItemId ∧ Ready { l with nextGameItemId := l.nextGameItemId + 1 }
    (fun id => id = l.nextGameItemId ∨ known id) events
  have hcounter : counterFor l.maxClients clientId = none := by
    rw [counterFor, if_neg (mt UInt8.lt_iff_toNat_lt.mp hlt)]
  have hlower := h.gameLower
  have hupper := h.gameUpper
  rw [generations_generate, if_pos hcounter] at hupper
  have hsucc := @toNat_add_one l.nextGameItemId (by omega)
  refine ⟨?_, h.lower, ?_, ?_, ?_, ?_, ?_⟩
  · intro hknown
    rcases h.passed hknown with ⟨y, hy, hy', -⟩ | ⟨-, hbelow⟩
    · omega
    · exact Nat.lt_irrefl _ hbelow
  · intro y
    exact Nat.le_trans (Nat.add_le_add_left (generations_le _ _ _ _) _) (h.upper y)
  · change 0xCC000000 ≤ (l.nextGameItemId + 1).toNat
    omega
  · change (l.nextGameItemId + 1).toNat + generations l.maxClients none events ≤ 0xCC100000
    omega
  · intro counter
    exact Nat.le_trans (generations_le _ _ _ _) (h.few counter)
  · rintro id (rfl | hknown)
    · exact .inr ⟨hlower, hsucc ▸ Nat.lt_succ_self _⟩
    · rcases h.passed hknown with hclient | ⟨hgame, hbelow⟩
      · exact .inl hclient
      · exact .inr ⟨hgame, hsucc ▸ Nat.lt_succ_of_lt hbelow⟩

/-! Reports. -/

theorem toNat_max (a b : UInt32) : (max a b).toNat = max a.toNat b.toNat := by
  rw [show max a b = if a ≤ b then b else a from rfl]
  split_ifs with h
  · exact (Nat.max_eq_right (UInt32.le_iff_toNat_le.mp h)).symm
  · exact (Nat.max_eq_left (Nat.le_of_not_le (mt UInt32.le_iff_toNat_le.mpr h))).symm

theorem toNat_owner (itemId : UInt32) (h : itemId < 0x00810000) :
    ((itemId >>> 21) &&& 0x7FF).toNat = itemId.toNat / 0x200000 := by
  have hlt : itemId.toNat < 0x00810000 := UInt32.lt_iff_toNat_lt.mp h
  rw [UInt32.toNat_and, UInt32.toNat_shiftRight]
  change itemId.toNat >>> 21 &&& (2 ^ 11 - 1) = _
  rw [Nat.and_two_pow_sub_one_eq_mod, Nat.shiftRight_eq_div_pow]
  omega

theorem inLowerHalf_iff (itemId : UInt32) :
    InLowerHalf itemId ↔ itemId.toNat % 0x200000 < 0x00100000 := by
  rw [InLowerHalf, UInt32.lt_iff_toNat_lt, UInt32.toNat_and]
  change itemId.toNat &&& (2 ^ 21 - 1) < 0x00100000 ↔ _
  rw [Nat.and_two_pow_sub_one_eq_mod]

/-- A report moves the counter of the block that the ID lies in. -/
theorem Ready.report {l : Lobby} {known : UInt32 → Prop} {itemId : UInt32} {events : List Event}
    (h : Ready l known (.report itemId :: events)) (hlow : Tracked itemId → InLowerHalf itemId) :
    ∃ l', l.onItemIdGeneratedExternally itemId = .ok l' ∧
      Ready l' (fun id => id = itemId ∧ Tracked itemId ∨ known id) events := by
  by_cases htracked : Tracked itemId
  · have howner := toNat_owner itemId htracked.2
    have hlt : itemId.toNat < 0x00810000 := UInt32.lt_iff_toNat_lt.mp htracked.2
    have hblock : ((itemId >>> 21) &&& 0x7FF).toNat < 12 := by omega
    have hlow := (inLowerHalf_iff itemId).mp (hlow htracked)
    have hfew := h.few (some (UInt8.ofNat (⟨_, hblock⟩ : Fin 12)))
    have hupper := h.upper ⟨_, hblock⟩
    rw [generations_report] at hfew hupper
    generalize hx : (⟨_, hblock⟩ : Fin 12) = x at hfew hupper
    have hxval : x.val = itemId.toNat / 0x200000 := by
      rw [← hx]
      exact howner
    have hsucc := @toNat_add_one itemId (by omega)
    have hmax : (max (l.nextItemIdForClient x) (itemId + 1)).toNat =
        max (l.nextItemIdForClient x).toNat (itemId.toNat + 1) := by
      rw [← hsucc]
      exact toNat_max _ _
    have hroom : (max (l.nextItemIdForClient x) (itemId + 1)).toNat +
        generations l.maxClients (some (UInt8.ofNat x)) events ≤ (x.val + 1) * 0x200000 := by
      rw [hmax]
      omega
    have hadvance := h.advance (UInt32.le_iff_toNat_le.mpr (hmax ▸ Nat.le_max_left _ _)) hroom
    refine ⟨l.withNextItemId x (max (l.nextItemIdForClient x) (itemId + 1)), ?_, hadvance.mono ?_⟩
    · rw [← hx]
      exact (if_pos htracked).trans (dif_pos hblock)
    · rintro id (⟨rfl, -⟩ | hknown)
      · refine .inl ⟨by omega, ?_⟩
        rw [UInt32.lt_iff_toNat_lt, hmax]
        exact Nat.lt_of_lt_of_le (Nat.lt_succ_self _) (Nat.le_max_right _ _)
      · exact .inr hknown
  · refine ⟨l, if_neg htracked, ?_⟩
    have hready : Ready l known events := by
      refine ⟨h.lower, ?_, h.gameLower, ?_, ?_, h.passed⟩
      · intro x
        exact Nat.le_trans (Nat.add_le_add_left (generations_le _ _ _ _) _) (h.upper x)
      · exact Nat.le_trans (Nat.add_le_add_left (generations_le _ _ _ _) _) h.gameUpper
      · intro counter
        exact Nat.le_trans (generations_le _ _ _ _) (h.few counter)
    refine hready.mono ?_
    rintro id (⟨-, hyes⟩ | hknown)
    · exact absurd hyes htracked
    · exact hknown

/-! Whole runs. -/

theorem Ready.fresh {l : Lobby} {known : UInt32 → Prop} {events : List Event}
    (h : Ready l known events)
    (hlow : ∀ itemId, .report itemId ∈ events → Tracked itemId → InLowerHalf itemId) :
    Fresh Tracked l known events := by
  induction events generalizing l known with
  | nil => trivial
  | cons event events ih =>
      have hrest : ∀ itemId, .report itemId ∈ events → Tracked itemId → InLowerHalf itemId :=
        fun itemId hmem => hlow itemId (List.mem_cons_of_mem event hmem)
      cases event with
      | generate clientId =>
          by_cases hlt : clientId.toNat < l.maxClients.toNat
          · obtain ⟨hnew, hready⟩ := h.generate_client hlt
            exact ⟨hnew, ih hready hrest⟩
          · obtain ⟨hnew, hready⟩ := h.generate_game hlt
            exact ⟨hnew, ih hready hrest⟩
      | report itemId =>
          obtain ⟨l', hreport, hready⟩ := h.report (hlow itemId List.mem_cons_self)
          rw [Fresh, hreport]
          exact ih hready hrest

theorem resetNextItemIds_client {l : Lobby} (hgame : l.isGame) (x : Fin 12) :
    (l.resetNextItemIds.nextItemIdForClient x).toNat = x.val * 0x200000 + 0x10000 := by
  have hx := x.isLt
  have hbase : l.resetNextItemIds.nextItemIdForClient x =
      0x00010000 + 0x00200000 * UInt32.ofNat x := by
    rw [Lobby.resetNextItemIds, if_pos hgame]
  rw [hbase, UInt32.toNat_add, UInt32.toNat_mul, UInt32.toNat_ofNat']
  change (0x10000 + 0x200000 * (x.val % 2 ^ 32) % 2 ^ 32) % 2 ^ 32 = _
  omega

theorem ready_reset {l : Lobby} {events : List Event} (hgame : l.isGame)
    (hfew : ∀ counter, generations l.maxClients counter events ≤ 0x00100000) :
    Ready l.resetNextItemIds (fun _ => False) events where
  lower := by
    intro x
    rw [resetNextItemIds_client hgame]
    omega
  upper := by
    intro x
    rw [resetNextItemIds_client hgame]
    have : generations l.resetNextItemIds.maxClients (some (UInt8.ofNat x)) events ≤ 0x100000 :=
      hfew _
    omega
  gameLower := Nat.le_refl _
  gameUpper := Nat.add_le_add_left (hfew none) 0xCC000000
  few := hfew
  passed := False.elim

/-- With few enough IDs per counter, a game gives out no ID twice, and none that
was reported inside the tracked range, if those lie in the lower half of a block. -/
theorem fresh_of_lower_half {l : Lobby} {events : List Event} (hgame : l.isGame)
    (hfew : ∀ counter, generations l.maxClients counter events ≤ 0x00100000)
    (hlow : ∀ itemId, .report itemId ∈ events → Tracked itemId → InLowerHalf itemId) :
    Fresh Tracked l.resetNextItemIds (fun _ => False) events :=
  (ready_reset hgame hfew).fresh hlow

/-! Runs in a game of four players. -/

def emptyGame : Lobby where
  mode := .normal
  enabledFlags := Flag.game
  maxClients := 4
  leaderId := 0
  clients := fun _ => none
  nextItemIdForClient := fun _ => 0
  nextGameItemId := 0
  numFloors := 0
  floorItemManagers := fun _ => .new
  four_le_maxClients := by decide
  maxClients_le := by decide

theorem generations_le_length (maxClients : UInt8) (counter : Option UInt8) (events : List Event) :
    generations maxClients counter events ≤ events.length :=
  List.countP_le_length

theorem fresh_of_lower_half_reported : Fresh Tracked emptyGame.resetNextItemIds (fun _ => False)
    [.generate 0, .report 0x00010005, .generate 0, .report 0xCC000001, .generate 4] :=
  fresh_of_lower_half rfl
    (fun counter => Nat.le_trans (generations_le_length 4 counter _) (by decide))
    (by
      intro itemId hmem htracked
      simp only [List.mem_cons, List.not_mem_nil, Event.report.injEq, reduceCtorEq, false_or,
        or_false] at hmem
      rcases hmem with rfl | rfl
      · exact (by decide : (0x00010005 : UInt32) &&& 0x001FFFFF < 0x00100000)
      · exact absurd htracked.2 (by decide))

/-- The first ID of client 0 lies just outside the tracked range; a counter that a
report moves to the end of its block runs into the next block. -/
theorem reported_before_generated :
    (∀ counter, generations emptyGame.maxClients counter [.report 0x00010000, .generate 0] ≤
        0x00100000) ∧
      ¬ Fresh (fun _ => True) emptyGame.resetNextItemIds (fun _ => False)
        [.report 0x00010000, .generate 0] ∧
      ¬ Fresh Tracked emptyGame.resetNextItemIds (fun _ => False)
        [.report 0x00200000, .report 0x001FFFFF, .generate 0] := by
  refine ⟨fun counter => Nat.le_trans (generations_le_length 4 counter _) (by decide), ?_, ?_⟩
  · rintro ⟨hnew, -⟩
    exact hnew (.inl ⟨by decide, trivial⟩)
  · rintro ⟨hnew, -⟩
    exact hnew (.inr (.inl ⟨by decide, by decide, by decide⟩))

end HuntersGuild.ItemIds
