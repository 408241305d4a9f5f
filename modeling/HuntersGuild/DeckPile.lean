import HuntersGuild.DeckOperations
import HuntersGuild.FuelLoop

/-!
What each deck operation does to the drawn part of the order array, the pile
of cards still to be drawn and the states of the cards.
-/

namespace HuntersGuild.DeckPile

open HuntersGuild.DeckOperations
open HuntersGuild.FuelLoop

/-! Card refs. -/

theorem toNat_cardRefFor (clientId : UInt8) (index : Fin 31) :
    (cardRefFor clientId index).toNat = 0x100 * clientId.toNat + index.val := by
  have hclient := clientId.toNat_lt
  have hindex := index.isLt
  have hshift : (clientId.toUInt16 <<< 8).toNat = 0x100 * clientId.toNat := by
    simp only [UInt16.toNat_shiftLeft, UInt8.toNat_toUInt16, Nat.shiftLeft_eq]
    change clientId.toNat * 2 ^ 8 % 2 ^ 16 = _
    omega
  rw [cardRefFor, UInt16.toNat_or, hshift,
    UInt16.toNat_ofNat_of_lt' (by simp only [UInt16.size]; omega)]
  exact (Nat.two_pow_add_eq_or_of_lt (i := 8) (by omega) clientId.toNat).symm

theorem indexForCardRef_eq (cardRef : UInt16) :
    indexForCardRef cardRef = cardRef.toNat % 0x100 := by
  rw [indexForCardRef, UInt16.toNat_and]
  exact Nat.and_two_pow_sub_one_eq_mod cardRef.toNat 8

theorem toNat_clientIdForCardRef (cardRef : UInt16) :
    (clientIdForCardRef cardRef).toNat = cardRef.toNat / 0x100 := by
  have hlt := cardRef.toNat_lt
  have hshift : (cardRef >>> 8).toNat = cardRef.toNat / 0x100 := by
    rw [UInt16.toNat_shiftRight, Nat.shiftRight_eq_div_pow]
    rfl
  have hmask : ((cardRef >>> 8) &&& 0xFF).toNat = cardRef.toNat / 0x100 := by
    rw [UInt16.toNat_and, hshift]
    change cardRef.toNat / 0x100 &&& 2 ^ 8 - 1 = _
    rw [Nat.and_two_pow_sub_one_eq_mod]
    omega
  rw [clientIdForCardRef, UInt16.toNat_toUInt8, hmask]
  omega

section CardRefs

variable (clientId : UInt8)

@[simp] theorem entryIndex_cardRefFor (index : Fin 31) :
    entryIndex (cardRefFor clientId index) = some index := by
  have hindex : indexForCardRef (cardRefFor clientId index) = index.val := by
    rw [indexForCardRef_eq, toNat_cardRefFor]
    omega
  simp [entryIndex, hindex]

@[simp] theorem clientIdForCardRef_cardRefFor (index : Fin 31) :
    clientIdForCardRef (cardRefFor clientId index) = clientId := by
  apply UInt8.toNat_inj.mp
  rw [toNat_clientIdForCardRef, toNat_cardRefFor]
  omega

@[simp] theorem cardRefFor_ne_none (index : Fin 31) : cardRefFor clientId index ≠ 0xFFFF := by
  intro heq
  have hnat := congrArg UInt16.toNat heq
  rw [toNat_cardRefFor] at hnat
  change _ = 0xFFFF at hnat
  omega

theorem cardRefFor_injective : Function.Injective (cardRefFor clientId) := by
  intro i j heq
  have hsome : some i = some j := by
    rw [← entryIndex_cardRefFor clientId i, heq, entryIndex_cardRefFor]
  exact Option.some.inj hsome

/-- A ref with the deck's client ID and a valid index is the ref of that card. -/
theorem eq_cardRefFor {cardRef : UInt16} {index : Fin 31}
    (hclient : clientIdForCardRef cardRef = clientId) (hindex : entryIndex cardRef = some index) :
    cardRef = cardRefFor clientId index := by
  apply UInt16.toNat_inj.mp
  have hval : indexForCardRef cardRef = index.val := by
    unfold entryIndex at hindex
    split at hindex
    · cases hindex
      rfl
    · cases hindex
  rw [toNat_cardRefFor, ← hclient, toNat_clientIdForCardRef, ← hval, indexForCardRef_eq]
  omega

end CardRefs

/-! The two arrays. -/

/-- The states of all cards. -/
def status (s : DeckState) (index : Fin 31) : CardState :=
  s.entries.get index

@[simp] theorem status_setState (s : DeckState) (index : Fin 31) (state : CardState) :
    status (s.setState index state) = Function.update (status s) index state := by
  funext j
  change (s.entries.set index.val state)[j.val] = _
  rcases eq_or_ne j index with rfl | hne
  · simp
  · have hval : index.val ≠ j.val := fun h => hne (Fin.ext h.symm)
    rw [Function.update_of_ne hne, Vector.getElem_set_ne _ _ hval]
    rfl

theorem length_lt_of_split {refs : Vector UInt16 31} {front back : List UInt16} {ref : UInt16}
    (h : refs.toList = front ++ ref :: back) : front.length < 31 := by
  have hlength := congrArg List.length h
  simp only [Vector.length_toList, List.length_append, List.length_cons] at hlength
  omega

theorem refAt_of_split {refs : Vector UInt16 31} {front back : List UInt16} {ref : UInt16}
    (h : refs.toList = front ++ ref :: back) : refAt refs front.length = .ok ref := by
  have hlength := length_lt_of_split h
  have hget : refs.toList[front.length]? = some ref := by simp [h]
  rw [Vector.getElem?_toList, Vector.getElem?_eq_getElem hlength, Option.some.injEq] at hget
  rw [refAt, dif_pos hlength, hget]

theorem exists_setRef_of_split {refs : Vector UInt16 31} {front back : List UInt16} {ref : UInt16}
    (h : refs.toList = front ++ ref :: back) (ref' : UInt16) :
    ∃ refs', setRef refs front.length ref' = .ok refs' ∧
      refs'.toList = front ++ ref' :: back := by
  have hlength := length_lt_of_split h
  refine ⟨refs.set front.length ref', ?_, ?_⟩
  · rw [setRef, dif_pos hlength]
  · rw [Vector.toList_set, h, List.set_append_right _ _ le_rfl, Nat.sub_self, List.set_cons_zero]

/-- The deck has these cards in these states, and its order array is the
drawn part followed by the refs of the pile. -/
structure Shows (clientId : UInt8) (s : DeckState) (drawn : List UInt16) (pile : List (Fin 31))
    (states : Fin 31 → CardState) : Prop where
  clientId_eq : s.clientId = clientId
  refs_eq : s.cardRefs.toList = drawn ++ pile.map (cardRefFor clientId)
  index_eq : s.drawIndex = drawn.length
  status_eq : status s = states

section Shows

variable {clientId : UInt8} {s : DeckState} {drawn : List UInt16} {pile : List (Fin 31)}
  {states : Fin 31 → CardState}

theorem Shows.length_add (h : Shows clientId s drawn pile states) :
    s.drawIndex + pile.length = 31 := by
  have hlength := congrArg List.length h.refs_eq
  simp only [Vector.length_toList, List.length_append, List.length_map] at hlength
  rw [h.index_eq]
  exact hlength.symm

theorem Shows.numDrawableCards_eq (h : Shows clientId s drawn pile states) :
    s.numDrawableCards = pile.length := by
  have hadd := h.length_add
  unfold DeckState.numDrawableCards
  omega

theorem Shows.drop_eq (h : Shows clientId s drawn pile states) :
    s.cardRefs.toList.drop s.drawIndex = pile.map (cardRefFor clientId) := by
  rw [h.refs_eq, h.index_eq, List.drop_left]

theorem Shows.entry_eq (h : Shows clientId s drawn pile states) (index : Fin 31) :
    s.entries.get index = states index := by
  rw [← h.status_eq, status]

theorem Shows.setState (h : Shows clientId s drawn pile states) (index : Fin 31)
    (state : CardState) :
    Shows clientId (s.setState index state) drawn pile (Function.update states index state) :=
  ⟨h.clientId_eq, h.refs_eq, h.index_eq, by rw [status_setState, h.status_eq]⟩

/-! Drawing from the top. -/

theorem Shows.drawNext {index : Fin 31} (h : Shows clientId s drawn (index :: pile) states) :
    ∃ s', s.drawNext = .ok (cardRefFor clientId index, s') ∧
      Shows clientId s' (drawn ++ [cardRefFor clientId index]) pile
        (Function.update states index .inHand) := by
  have hread := refAt_of_split h.refs_eq
  rw [← h.index_eq] at hread
  have hmoved : Shows clientId { s with drawIndex := s.drawIndex + 1 }
      (drawn ++ [cardRefFor clientId index]) pile states := by
    refine ⟨h.clientId_eq, ?_, ?_, h.status_eq⟩
    · rw [List.append_assoc, List.singleton_append]
      exact h.refs_eq
    · simp [h.index_eq]
  refine ⟨_, ?_, hmoved.setState index .inHand⟩
  simp [DeckState.drawNext, hread, bind, Except.bind, pure, Except.pure]

theorem Shows.drawCard_cons {index : Fin 31} (h : Shows clientId s drawn (index :: pile) states)
    (random : Nat → UInt32) : s.drawCard random = s.drawNext := by
  have hnum : s.numDrawableCards ≠ 0 := by simp [h.numDrawableCards_eq]
  simp [DeckState.drawCard, hnum, bind, Except.bind, pure, Except.pure]

theorem Shows.drawCard_nil (h : Shows clientId s drawn [] states) (random : Nat → UInt32) :
    s.drawCard random = (do
      let s ← s.restart random
      if s.numDrawableCards = 0 then return (0xFFFF, s) else s.drawNext) := by
  have hnum : s.numDrawableCards = 0 := h.numDrawableCards_eq
  simp only [DeckState.drawCard, hnum, if_true]

/-! Shuffling. -/

/-- Two refs of the pile change places. -/
theorem exists_swapRefs {refs : Vector UInt16 31}
    (h : refs.toList = drawn ++ pile.map (cardRefFor clientId)) {i j : Nat}
    (hi : i < pile.length) (hj : j < pile.length) :
    ∃ refs', ∃ pile' : List (Fin 31),
      swapRefs refs (drawn.length + i) (drawn.length + j) = .ok refs' ∧
      refs'.toList = drawn ++ pile'.map (cardRefFor clientId) ∧ pile'.Perm pile := by
  have hlength := congrArg List.length h
  simp only [Vector.length_toList, List.length_append, List.length_map] at hlength
  have hget : ∀ k (hk : k < pile.length) (hbound : drawn.length + k < 31),
      refs[drawn.length + k] = cardRefFor clientId pile[k] := by
    intro k hk hbound
    rw [← Vector.getElem_toList (by simpa using hbound)]
    simp [h]
  refine ⟨(refs.set (drawn.length + i) (cardRefFor clientId pile[j])).set (drawn.length + j)
      (cardRefFor clientId pile[i]), (pile.set i pile[j]).set j pile[i], ?_, ?_,
    List.set_set_perm hi hj⟩
  · rw [swapRefs, refAt, dif_pos (by omega), refAt, dif_pos (by omega), hget i hi, hget j hj]
    simp only [bind, Except.bind, setRef]
    rw [dif_pos (by omega)]
    simp only
    rw [dif_pos (by omega)]
  · rw [Vector.toList_set, Vector.toList_set, h, List.set_append_right _ _ (by omega),
      List.set_append_right _ _ (by omega)]
    simp only [Nat.add_sub_cancel_left, List.map_set]

theorem Shows.shuffle (h : Shows clientId s drawn pile states) (random : Nat → UInt32)
    (hok : s.shuffleEnabled = false ∨ pile ≠ []) :
    ∃ s', ∃ pile' : List (Fin 31), s.shuffle random = .ok s' ∧ pile'.Perm pile ∧
      Shows clientId s' drawn pile' states := by
  rcases hflag : s.shuffleEnabled with _ | _
  · exact ⟨s, pile, by simp [DeckState.shuffle, hflag, pure, Except.pure], .refl _, h⟩
  · have hpile : pile ≠ [] := by simpa [hflag] using hok
    have hpos : 0 < pile.length := List.length_pos_iff.mpr hpile
    obtain ⟨refs', hrun, pile', hrefs', hperm⟩ := exists_foldlM_range
      (f := fun refs z => do
        let random1 ← getRandom (random (2 * z)) s.numDrawableCards
        let random2 ← getRandom (random (2 * z + 1)) s.numDrawableCards
        swapRefs refs (s.drawIndex + random1) (s.drawIndex + random2))
      (fun _ refs => ∃ pile' : List (Fin 31),
        refs.toList = drawn ++ pile'.map (cardRefFor clientId) ∧ pile'.Perm pile) (n := 31)
      (by
        rintro z - refs ⟨pile', hrefs, hperm⟩
        have hlength : s.numDrawableCards = pile'.length := by
          rw [h.numDrawableCards_eq, hperm.length_eq]
        have hne : pile'.length ≠ 0 := by rw [hperm.length_eq]; exact hpos.ne'
        obtain ⟨refs', pile'', hswap, hrefs', hperm'⟩ := exists_swapRefs hrefs
          (Nat.mod_lt (random (2 * z)).toNat (Nat.pos_of_ne_zero hne))
          (Nat.mod_lt (random (2 * z + 1)).toNat (Nat.pos_of_ne_zero hne))
        refine ⟨refs', ?_, pile'', hrefs', hperm'.trans hperm⟩
        simp only [getRandom, hlength, hne, if_false, bind, Except.bind, h.index_eq, hswap])
      ⟨pile, h.refs_eq, .refl _⟩
    refine ⟨{ s with cardRefs := refs' }, pile', ?_, hperm,
      ⟨h.clientId_eq, hrefs', h.index_eq, h.status_eq⟩⟩
    simp only [DeckState.shuffle, hflag, if_true, hrun]
    rfl

/-- Shuffling an empty pile takes a random number modulo zero. -/
theorem Shows.shuffle_nil (h : Shows clientId s drawn [] states) (random : Nat → UInt32)
    (hflag : s.shuffleEnabled = true) : s.shuffle random = .error .moduloZero := by
  have hnum : s.numDrawableCards = 0 := h.numDrawableCards_eq
  simp only [DeckState.shuffle, hflag, if_true, hnum, getRandom]
  rfl

/-! Restarting. -/

/-- One of the two loops writes the refs of the chosen entries one after
another. -/
theorem exists_placeRefs {refs : Vector UInt16 31} {front back : List UInt16}
    (chosen : CardState → Bool) (zs : List (Fin 31)) (h : refs.toList = front ++ back)
    (hclient : s.clientId = clientId)
    (hroom : (zs.filter fun z => chosen (status s z)).length ≤ back.length) :
    ∃ refs', ∃ placed : List (Fin 31), placed = zs.filter (fun z => chosen (status s z)) ∧
      zs.foldlM (s.placeRef chosen) (refs, front.length) =
        .ok (refs', front.length + placed.length) ∧
      refs'.toList =
        front ++ placed.map (cardRefFor clientId) ++ back.drop placed.length := by
  induction zs generalizing refs front back with
  | nil => exact ⟨refs, [], rfl, rfl, by simpa using h⟩
  | cons z zs ih =>
      rw [List.foldlM_cons]
      rcases hchosen : chosen (status s z) with _ | _
      · rw [List.filter_cons_of_neg (by simp [hchosen])] at hroom ⊢
        have hplace : s.placeRef chosen (refs, front.length) z = .ok (refs, front.length) := by
          rw [DeckState.placeRef]
          exact if_neg (by simpa [status] using hchosen)
        rw [hplace]
        exact ih h hroom
      · rw [List.filter_cons_of_pos (by simp [hchosen])] at hroom ⊢
        obtain ⟨old, back, rfl⟩ := List.exists_cons_of_length_pos
          (Nat.lt_of_lt_of_le (Nat.succ_pos _) hroom)
        obtain ⟨refs1, hset, hrefs1⟩ := exists_setRef_of_split h (cardRefFor clientId z)
        have hplace : s.placeRef chosen (refs, front.length) z =
            .ok (refs1, front.length + 1) := by
          rw [DeckState.placeRef, if_pos (by simpa [status] using hchosen)]
          simp only [DeckState.cardRefForIndex, hclient, hset, bind, Except.bind, pure,
            Except.pure]
        rw [List.append_cons] at hrefs1
        obtain ⟨refs', placed, hplaced, hrun, hrefs'⟩ := ih hrefs1 (by simpa using hroom)
        refine ⟨refs', z :: placed, by rw [hplaced], ?_, by simpa using hrefs'⟩
        rw [List.length_append, List.length_singleton] at hrun
        rw [hplace]
        exact hrun.trans (by rw [List.length_cons, Nat.add_assoc, Nat.add_comm 1])

/-- The states after the first loop of `restart`. -/
def returned (loopEnabled : Bool) (states : Fin 31 → CardState) (index : Fin 31) : CardState :=
  DeckState.returnDiscarded loopEnabled (states index)

/-- The cards that can be drawn, in the order of their entries. -/
def drawables (states : Fin 31 → CardState) : List (Fin 31) :=
  (List.finRange 31).filter fun index => states index = .drawable

theorem mem_drawables {index : Fin 31} :
    index ∈ drawables states ↔ states index = .drawable := by
  simp [drawables]

/-- Before it shuffles, `restart` lays out the drawable cards in order behind
all the others, whatever the order array was. -/
theorem Shows.restart (h : Shows clientId s drawn pile states) (random : Nat → UInt32) :
    ∃ mid, ∃ drawn' : List UInt16, s.restart random = mid.shuffle random ∧
      mid.shuffleEnabled = s.shuffleEnabled ∧
      Shows clientId mid drawn' (drawables (returned s.loopEnabled states))
        (returned s.loopEnabled states) := by
  let revived : DeckState :=
    { s with entries := s.entries.map (DeckState.returnDiscarded s.loopEnabled) }
  have hstatus : status revived = returned s.loopEnabled states := by
    funext index
    rw [returned, ← h.entry_eq index]
    exact Vector.getElem_map _ index.isLt
  have hcount : ∀ zs : List (Fin 31),
      (zs.filter fun z => decide (status revived z ≠ .drawable)).length +
        (zs.filter fun z => decide (status revived z = .drawable)).length = zs.length := by
    intro zs
    rw [List.length_eq_length_filter_add (l := zs) (fun z => decide (status revived z = .drawable))]
    simp [Nat.add_comm]
  have hall := hcount (List.finRange 31)
  rw [List.length_finRange] at hall
  have hsplit : s.cardRefs.toList = [] ++ s.cardRefs.toList := rfl
  obtain ⟨refs1, placed1, hplaced1, hrun1, hrefs1⟩ := exists_placeRefs (s := revived)
    (· ≠ .drawable) (List.finRange 31) hsplit h.clientId_eq
    (by rw [Vector.length_toList]; omega)
  obtain ⟨refs2, placed2, hplaced2, hrun2, hrefs2⟩ := exists_placeRefs (s := revived)
    (· = .drawable) (List.finRange 31) hrefs1 h.clientId_eq
    (by
      rw [List.length_drop, Vector.length_toList, hplaced1]
      omega)
  have hend : (s.cardRefs.toList.drop placed1.length).drop placed2.length = [] := by
    rw [List.drop_drop, List.drop_eq_nil_iff, Vector.length_toList, hplaced1, hplaced2]
    omega
  rw [hend, List.append_nil] at hrefs2
  rw [List.nil_append, List.length_map] at hrun2
  rw [List.length_nil, Nat.zero_add] at hrun1
  have hdrawables : placed2 = drawables (returned s.loopEnabled states) := by
    rw [hplaced2, hstatus, drawables]
  refine ⟨{ revived with cardRefs := refs2, drawIndex := placed1.length },
    placed1.map (cardRefFor clientId), ?_, rfl, ⟨h.clientId_eq, ?_, ?_, hstatus⟩⟩
  · simp only [DeckState.restart]
    rw [hrun1]
    change (List.finRange 31).foldlM (revived.placeRef (· = .drawable)) (refs1, placed1.length)
      >>= _ = _
    rw [hrun2]
    rfl
  · rw [← hdrawables]
    exact hrefs2
  · simp

/-! Drawing a chosen card. -/

theorem moveRefsBack_of_le {drawIndex refIndex : Nat} (hle : refIndex ≤ drawIndex)
    (refs : Vector UInt16 31) : DeckState.moveRefsBack drawIndex refIndex refs = .ok refs := by
  cases refIndex with
  | zero => rfl
  | succ refIndex => rw [DeckState.moveRefsBack, if_neg (by omega)]

/-- The refs above the chosen one all move, and the position at the draw
index becomes free. -/
theorem exists_moveRefsBack {refs : Vector UInt16 31} {front above below : List UInt16}
    {ref : UInt16} (h : refs.toList = front ++ above ++ ref :: below) :
    ∃ refs' free, DeckState.moveRefsBack front.length (front.length + above.length) refs =
        .ok refs' ∧ refs'.toList = front ++ free :: (above ++ below) := by
  induction above using List.reverseRecOn generalizing refs ref below with
  | nil =>
      refine ⟨refs, ref, moveRefsBack_of_le le_rfl refs, ?_⟩
      simpa using h
  | append_singleton above last ih =>
      have hlast : refs.toList = (front ++ above) ++ last :: (ref :: below) := by
        simpa using h
      have hread := refAt_of_split hlast
      obtain ⟨refs1, hset, hrefs1⟩ := exists_setRef_of_split h last
      have hshifted : refs1.toList = front ++ above ++ last :: (last :: below) := by
        simpa using hrefs1
      obtain ⟨refs', free, hrun, hrefs'⟩ := ih hshifted
      refine ⟨refs', free, ?_, by simpa using hrefs'⟩
      rw [List.length_append] at hread
      simp only [List.length_append, List.length_singleton] at hset ⊢
      rw [← Nat.add_assoc] at hset ⊢
      rw [DeckState.moveRefsBack, if_pos (by omega), hread]
      change setRef refs (front.length + above.length + 1) last >>= _ = _
      rw [hset]
      exact hrun

/-- A ref found at or after the draw index is on the pile. -/
theorem Shows.exists_of_findRef (h : Shows clientId s drawn pile states) {cardRef : UInt16}
    (hle : s.drawIndex ≤ s.findRef cardRef) (hlt : s.findRef cardRef < 31) :
    ∃ above index below, pile = above ++ index :: below ∧ cardRef = cardRefFor clientId index ∧
      s.findRef cardRef = drawn.length + above.length := by
  have hlength := h.length_add
  have hget : s.cardRefs.toList[s.findRef cardRef]? = some cardRef := by
    have hidx : s.cardRefs.toList.idxOf cardRef < s.cardRefs.toList.length := by
      rw [Vector.length_toList]
      exact hlt
    exact (List.getElem?_eq_getElem hidx).trans (congrArg some (List.getElem_idxOf hidx))
  rw [h.index_eq] at hle hlength
  have hk : s.findRef cardRef - drawn.length < pile.length := by omega
  rw [h.refs_eq, List.getElem?_append_right hle, List.getElem?_map,
    List.getElem?_eq_getElem hk, Option.map_some, Option.some.injEq] at hget
  refine ⟨pile.take (s.findRef cardRef - drawn.length), pile[s.findRef cardRef - drawn.length],
    pile.drop (s.findRef cardRef - drawn.length + 1), ?_, hget.symm, ?_⟩
  · rw [List.getElem_cons_drop, List.take_append_drop]
  · rw [List.length_take]
    omega

theorem entryIndex_ne {cardRef : UInt16} {index : Fin 31} (h : entryIndex cardRef = some index) :
    cardRef ≠ 0xFFFF := by
  rintro rfl
  have hnone : entryIndex 0xFFFF = none := by decide
  rw [hnone] at h
  cases h

section ByRef

variable {cardRef : UInt16} {index : Fin 31}

theorem Shows.drawCardByRef_discarded (h : Shows clientId s drawn pile states)
    (hindex : entryIndex cardRef = some index) (hstate : states index = .discarded) :
    s.drawCardByRef cardRef = .ok (true, s.setState index .inHand) := by
  simp only [DeckState.drawCardByRef, entryIndex_ne hindex, if_false, hindex, h.entry_eq, hstate,
    if_true]
  rfl

theorem Shows.drawCardByRef_other (h : Shows clientId s drawn pile states)
    (hindex : entryIndex cardRef = some index) (hdiscarded : states index ≠ .discarded)
    (hdrawable : states index ≠ .drawable) : s.drawCardByRef cardRef = .ok (false, s) := by
  simp only [DeckState.drawCardByRef, entryIndex_ne hindex, if_false, hindex, h.entry_eq,
    hdiscarded, hdrawable, ne_eq, not_false_eq_true, if_true]
  rfl

/-- What `draw_card_by_ref` does with a drawable card. -/
theorem Shows.drawCardByRef_drawable (h : Shows clientId s drawn pile states)
    (hindex : entryIndex cardRef = some index) (hstate : states index = .drawable) :
    s.drawCardByRef cardRef =
      if 31 ≤ s.findRef cardRef then .ok (false, s)
      else do
        let refs ← DeckState.moveRefsBack s.drawIndex (s.findRef cardRef) s.cardRefs
        let refs ← setRef refs s.drawIndex cardRef
        let s := { s with cardRefs := refs }.setState index .inHand
        return (true, { s with drawIndex := s.drawIndex + 1 }) := by
  simp only [DeckState.drawCardByRef, entryIndex_ne hindex, if_false, hindex, h.entry_eq, hstate,
    reduceCtorEq, ne_eq, not_true_eq_false]
  rfl

/-- The card is drawn from the middle of the pile. -/
theorem Shows.drawCardByRef_found (h : Shows clientId s drawn pile states)
    (hindex : entryIndex cardRef = some index) (hstate : states index = .drawable)
    (hle : s.drawIndex ≤ s.findRef cardRef) (hlt : s.findRef cardRef < 31) :
    ∃ s', ∃ above below : List (Fin 31), pile = above ++ index :: below ∧
      s.drawCardByRef cardRef = .ok (true, s') ∧
      Shows clientId s' (drawn ++ [cardRef]) (above ++ below)
        (Function.update states index .inHand) := by
  obtain ⟨above, index', below, rfl, hcard, hfind⟩ := h.exists_of_findRef hle hlt
  obtain rfl : index' = index := by
    rw [hcard, entryIndex_cardRefFor] at hindex
    exact Option.some.inj hindex
  have hsplit : s.cardRefs.toList = drawn ++ above.map (cardRefFor clientId) ++
      cardRef :: below.map (cardRefFor clientId) := by
    rw [h.refs_eq, hcard]
    simp
  obtain ⟨refs1, free, hmove, hrefs1⟩ := exists_moveRefsBack hsplit
  obtain ⟨refs2, hset, hrefs2⟩ := exists_setRef_of_split hrefs1 cardRef
  have hmoved : Shows clientId { s with cardRefs := refs2, drawIndex := s.drawIndex + 1 }
      (drawn ++ [cardRef]) (above ++ below) states := by
    refine ⟨h.clientId_eq, ?_, ?_, h.status_eq⟩
    · simpa using hrefs2
    · simp [h.index_eq]
  refine ⟨_, above, below, rfl, ?_, hmoved.setState index' .inHand⟩
  rw [h.drawCardByRef_drawable hindex hstate, if_neg (by omega), hfind, h.index_eq,
    ← List.length_map (cardRefFor clientId), hmove]
  change setRef refs1 drawn.length cardRef >>= _ = _
  rw [hset, ← h.index_eq]
  rfl

/-- When the search stops at a stale ref in the drawn part, the card at the
draw index is overwritten. -/
theorem Shows.drawCardByRef_stale {top : Fin 31} {below : List (Fin 31)}
    (h : Shows clientId s drawn (top :: below) states)
    (hindex : entryIndex cardRef = some index) (hstate : states index = .drawable)
    (hlt : s.findRef cardRef < s.drawIndex) :
    ∃ s', s.drawCardByRef cardRef = .ok (true, s') ∧
      Shows clientId s' (drawn ++ [cardRef]) below (Function.update states index .inHand) := by
  have hlength := h.length_add
  obtain ⟨refs', hset, hrefs'⟩ := exists_setRef_of_split h.refs_eq cardRef
  have hmoved : Shows clientId { s with cardRefs := refs', drawIndex := s.drawIndex + 1 }
      (drawn ++ [cardRef]) below states := by
    refine ⟨h.clientId_eq, ?_, ?_, h.status_eq⟩
    · simpa using hrefs'
    · simp [h.index_eq]
  refine ⟨_, ?_, hmoved.setState index .inHand⟩
  rw [h.drawCardByRef_drawable hindex hstate, if_neg (by omega), moveRefsBack_of_le hlt.le]
  change setRef s.cardRefs s.drawIndex cardRef >>= _ = _
  rw [h.index_eq, hset, ← h.index_eq]
  rfl

end ByRef

/-! Putting cards back. -/

section PutBack

variable {index : Fin 31}

theorem Shows.client_check (h : Shows clientId s drawn pile states) (index : Fin 31) :
    ¬ clientIdForCardRef (cardRefFor clientId index) ≠ s.clientId := by
  simp [h.clientId_eq]

theorem Shows.setCardRefDrawableNext_drawable (h : Shows clientId s drawn pile states)
    (hstate : states index = .drawable) :
    s.setCardRefDrawableNext (cardRefFor clientId index) = .ok (false, s) := by
  simp only [DeckState.setCardRefDrawableNext, cardRefFor_ne_none, if_false,
    h.client_check index, entryIndex_cardRefFor, h.entry_eq, hstate, if_true]
  rfl

theorem Shows.setCardRefDrawableNext_nil (h : Shows clientId s [] pile states)
    (index : Fin 31) : s.setCardRefDrawableNext (cardRefFor clientId index) = .ok (false, s) := by
  have hzero : s.drawIndex < 1 := by
    rw [h.index_eq]
    exact Nat.zero_lt_one
  simp only [DeckState.setCardRefDrawableNext, cardRefFor_ne_none, if_false,
    h.client_check index, entryIndex_cardRefFor, hzero, if_true]
  split <;> rfl

/-- The card goes to the top of the pile and takes the place of the last
drawn ref. -/
theorem Shows.setCardRefDrawableNext_snoc {last : UInt16}
    (h : Shows clientId s (drawn ++ [last]) pile states) (hstate : states index ≠ .drawable) :
    ∃ s', s.setCardRefDrawableNext (cardRefFor clientId index) = .ok (true, s') ∧
      Shows clientId s' drawn (index :: pile) (Function.update states index .drawable) := by
  have hpos : ¬ s.drawIndex < 1 := by simp [h.index_eq]
  have hprev : s.drawIndex - 1 = drawn.length := by simp [h.index_eq]
  have hsplit : s.cardRefs.toList = drawn ++ last :: pile.map (cardRefFor clientId) := by
    simpa using h.refs_eq
  obtain ⟨refs', hset, hrefs'⟩ := exists_setRef_of_split hsplit (cardRefFor clientId index)
  have hmoved : Shows clientId { s with drawIndex := s.drawIndex - 1, cardRefs := refs' }
      drawn (index :: pile) states :=
    ⟨h.clientId_eq, hrefs', hprev, h.status_eq⟩
  refine ⟨_, ?_, hmoved.setState index .drawable⟩
  simp only [DeckState.setCardRefDrawableNext, cardRefFor_ne_none, if_false,
    h.client_check index, entryIndex_cardRefFor, h.entry_eq, hstate, hpos]
  change setRef s.cardRefs (s.drawIndex - 1) _ >>= _ = _
  rw [hprev, hset, ← hprev]
  rfl

theorem exists_moveRefsForward {refs : Vector UInt16 31} {front back : List UInt16}
    {ref : UInt16} (h : refs.toList = front ++ ref :: back) :
    ∃ refs' last, DeckState.moveRefsForward front.length refs = .ok refs' ∧
      refs'.toList = front ++ back ++ [last] := by
  have hcount : 30 - front.length = back.length := by
    have hlength := congrArg List.length h
    simp only [Vector.length_toList, List.length_append, List.length_cons] at hlength
    omega
  rw [DeckState.moveRefsForward, hcount]
  clear hcount
  induction back generalizing refs front ref with
  | nil => exact ⟨refs, ref, rfl, by simpa using h⟩
  | cons following back ih =>
      have hread := refAt_of_split (h.trans (List.append_cons front ref (following :: back)))
      obtain ⟨refs1, hset, hrefs1⟩ := exists_setRef_of_split h following
      rw [List.append_cons] at hrefs1
      obtain ⟨refs', last, hrun, hrefs'⟩ := ih hrefs1
      refine ⟨refs', last, ?_, by simpa using hrefs'⟩
      simp only [List.length_append, List.length_singleton] at hread hrun
      rw [List.length_cons, List.range'_succ, List.foldlM_cons, hread]
      change (setRef refs front.length following) >>= _ = _
      rw [hset]
      exact hrun

/-- The card goes below all cards of the pile. -/
theorem Shows.setCardRefDrawableAtEnd_snoc {last : UInt16}
    (h : Shows clientId s (drawn ++ [last]) pile states) (hstate : states index ≠ .drawable) :
    ∃ s', s.setCardRefDrawableAtEnd (cardRefFor clientId index) = .ok (true, s') ∧
      Shows clientId s' drawn (pile ++ [index]) (Function.update states index .drawable) := by
  obtain ⟨s1, hnext, hs1⟩ := h.setCardRefDrawableNext_snoc hstate
  have hread := refAt_of_split hs1.refs_eq
  obtain ⟨refs1, free, hmove, hrefs1⟩ := exists_moveRefsForward hs1.refs_eq
  obtain ⟨refs2, hset, hrefs2⟩ := exists_setRef_of_split hrefs1 (cardRefFor clientId index)
  have hlength : (drawn ++ pile.map (cardRefFor clientId)).length = 30 := by
    have hadd := h.length_add
    rw [h.index_eq] at hadd
    simp only [List.length_append, List.length_map, List.length_singleton] at hadd ⊢
    omega
  refine ⟨{ s1 with cardRefs := refs2 }, ?_,
    ⟨hs1.clientId_eq, by simpa using hrefs2, hs1.index_eq, hs1.status_eq⟩⟩
  rw [hlength] at hset
  rw [← hs1.index_eq] at hread hmove
  simp only [DeckState.setCardRefDrawableAtEnd, hnext, bind, Except.bind, if_true, hread, hmove,
    hset]
  rfl

/-- When the first step fails so does `set_card_ref_drawable_at_end`. -/
theorem setCardRefDrawableAtEnd_of_not {cardRef : UInt16} {s' : DeckState}
    (h : s.setCardRefDrawableNext cardRef = .ok (false, s')) :
    s.setCardRefDrawableAtEnd cardRef = .ok (false, s') := by
  simp [DeckState.setCardRefDrawableAtEnd, h, bind, Except.bind, pure, Except.pure]

end PutBack

end Shows

end HuntersGuild.DeckPile
