import HuntersGuild.DeckPile
import HuntersGuild.PileTracking
import HuntersGuild.CallTrace

/-!
The order array and the card states of a deck agree along the runs of a game,
except where a stale ref is drawn or a card is discarded from the pile.
-/

namespace HuntersGuild.DeckInvariants

open HuntersGuild.PileTracking
open HuntersGuild.CallTrace
open HuntersGuild.DeckOperations
open HuntersGuild.DeckPile

/-- The refs that are still to be drawn. -/
def undrawn (s : DeckState) : List UInt16 :=
  s.cardRefs.toList.drop s.drawIndex

/-- The pile agrees with the states of the cards, for some set of states that
a card on the pile may have. -/
def Tracked (may : CardState → Prop) (clientId : UInt8) (s : DeckState) : Prop :=
  ∃ drawn pile, Shows clientId s drawn pile (status s) ∧
    Tracks may (· = .drawable) (status s) pile

section Tracked

variable {may : CardState → Prop} {clientId : UInt8} {s s' : DeckState} {drawn : List UInt16}
  {pile : List (Fin 31)} {states : Fin 31 → CardState}

theorem Tracked.intro (h : Shows clientId s drawn pile states)
    (htracks : Tracks may (· = .drawable) states pile) : Tracked may clientId s := by
  obtain rfl := h.status_eq
  exact ⟨drawn, pile, h, htracks⟩

theorem mem_undrawn_iff (h : Shows clientId s drawn pile states) (index : Fin 31) :
    cardRefFor clientId index ∈ undrawn s ↔ index ∈ pile := by
  rw [undrawn, h.drop_eq]
  exact List.mem_map_of_injective (cardRefFor_injective clientId)

theorem status_setUpDeck (clientId : UInt8) (disableDeckShuffle disableDeckLoop : Bool) :
    status (setUpDeck clientId disableDeckShuffle disableDeckLoop) =
      Function.update (fun _ => .drawable) 0 .storyCharacter := by
  have hnew : status (DeckState.new clientId) =
      Function.update (fun _ => .drawable) 0 .storyCharacter := by
    funext index
    rcases eq_or_ne index 0 with rfl | hne
    · rfl
    · have hval : 0 ≠ index.val := fun h => hne (Fin.ext h.symm)
      rw [Function.update_of_ne hne]
      exact (Vector.getElem_setIfInBounds_ne index.isLt hval).trans (Vector.getElem_replicate _)
  cases disableDeckShuffle <;> cases disableDeckLoop <;> exact hnew

theorem tracked_setUpDeck (hmay : may .drawable) (clientId : UInt8)
    (disableDeckShuffle disableDeckLoop : Bool) :
    Tracked may clientId (setUpDeck clientId disableDeckShuffle disableDeckLoop) := by
  have hshows : Shows clientId (setUpDeck clientId disableDeckShuffle disableDeckLoop)
      [cardRefFor clientId 0] (List.finRange 31).tail
      (status (setUpDeck clientId disableDeckShuffle disableDeckLoop)) := by
    have hrefs : (Vector.ofFn (cardRefFor clientId)).toList =
        [cardRefFor clientId 0] ++ (List.finRange 31).tail.map (cardRefFor clientId) := by
      rw [Vector.toList_ofFn, List.ofFn_eq_map, List.finRange_succ]
      rfl
    cases disableDeckShuffle <;> cases disableDeckLoop <;> exact ⟨rfl, hrefs, rfl, rfl⟩
  refine ⟨_, _, hshows, ?_⟩
  have hall : (List.finRange 31).tail = (List.finRange 31).filter fun index =>
      Function.update (fun _ => CardState.drawable) (0 : Fin 31) .storyCharacter index =
        .drawable := by decide
  rw [status_setUpDeck, hall]
  exact tracks_filter (List.nodup_finRange 31) List.mem_finRange (by rintro _ rfl; exact hmay) _

theorem exists_restart (hmay : may .drawable) (h : Shows clientId s drawn pile states)
    (random : Nat → UInt32)
    (hok : s.shuffleEnabled = false ∨ drawables (returned s.loopEnabled states) ≠ []) :
    ∃ s' drawn', ∃ pile' : List (Fin 31), s.restart random = .ok s' ∧
      Shows clientId s' drawn' pile' (returned s.loopEnabled states) ∧
      pile'.Perm (drawables (returned s.loopEnabled states)) ∧
      Tracks may (· = .drawable) (returned s.loopEnabled states) pile' := by
  obtain ⟨mid, drawn', hrun, hflag, hmid⟩ := h.restart random
  obtain ⟨s', pile', hshuffle, hperm, hs'⟩ := hmid.shuffle random (by rwa [hflag])
  refine ⟨s', drawn', pile', hrun.trans hshuffle, hs', hperm, ?_⟩
  have htracks : Tracks may (· = .drawable) (returned s.loopEnabled states)
      (drawables (returned s.loopEnabled states)) :=
    tracks_filter (List.nodup_finRange 31) List.mem_finRange (by rintro _ rfl; exact hmay) _
  exact htracks.perm hperm

theorem restart_error (h : Shows clientId s drawn pile states) (random : Nat → UInt32)
    (hflag : s.shuffleEnabled = true) (hnone : drawables (returned s.loopEnabled states) = []) :
    s.restart random = .error .moduloZero := by
  obtain ⟨mid, drawn', hrun, hmidflag, hmid⟩ := h.restart random
  rw [hnone] at hmid
  exact hrun.trans (hmid.shuffle_nil random (hmidflag.trans hflag))

/-! What the operations do to a tracked deck. -/

/-- A restart makes the card drawable again. -/
def Revives (s : DeckState) (index : Fin 31) : Prop :=
  s.loopEnabled = true ∧ s.entries.get index = .discarded

/-- There is a card to draw, perhaps after a restart, or nothing to shuffle. -/
def CanDraw (s : DeckState) : Prop :=
  s.drawIndex < 31 ∨ s.shuffleEnabled = false ∨ ∃ index, Revives s index

/-- A drawn card was on the pile, or the restart of an exhausted deck has made
it drawable; nothing is drawn when the restart brings nothing. -/
def DrawnFrom (may : CardState → Prop) (s : DeckState) (ref : UInt16) : Prop :=
  (ref = 0xFFFF ∧ s.drawIndex = 31 ∧ ∀ index, ¬ Revives s index) ∨
    ∃ index, ref = s.cardRefForIndex index ∧
      (s.drawIndex < 31 ∧ may (s.entries.get index) ∨ s.drawIndex = 31 ∧ Revives s index)

/-- With an empty pile, only discarded cards come back. -/
theorem mem_drawables_iff (h : Shows clientId s drawn [] states)
    (htracks : Tracks may (· = .drawable) states []) (index : Fin 31) :
    index ∈ drawables (returned s.loopEnabled states) ↔ Revives s index := by
  have hnot : states index ≠ .drawable := fun hstate => by
    simpa using htracks.mem_of_must index hstate
  rw [mem_drawables, returned, DeckState.returnDiscarded, Revives, h.entry_eq]
  constructor
  · intro hdrawable
    by_contra hnone
    rw [if_neg hnone] at hdrawable
    exact hnot hdrawable
  · intro hrevives
    rw [if_pos hrevives]

theorem drawables_ne_nil_iff (h : Shows clientId s drawn [] states)
    (htracks : Tracks may (· = .drawable) states []) :
    drawables (returned s.loopEnabled states) ≠ [] ↔ ∃ index, Revives s index := by
  constructor
  · intro hne
    obtain ⟨index, hmem⟩ := List.exists_mem_of_ne_nil _ hne
    exact ⟨index, (mem_drawables_iff h htracks index).mp hmem⟩
  · rintro ⟨index, hrevives⟩
    exact List.ne_nil_of_mem ((mem_drawables_iff h htracks index).mpr hrevives)

theorem exists_drawNext (h : Shows clientId s drawn pile states) {top : Fin 31}
    {below : List (Fin 31)} (hpile : pile = top :: below)
    (htracks : Tracks may (· = .drawable) states pile) :
    ∃ s', s.drawNext = .ok (cardRefFor clientId top, s') ∧ Tracked may clientId s' := by
  subst hpile
  obtain ⟨s', hrun, hs'⟩ := h.drawNext
  have htop : Tracks may (· = .drawable) states ([] ++ top :: below) := htracks
  exact ⟨s', hrun, Tracked.intro hs' (htop.remove (by simp))⟩

theorem Tracked.drawCard (hmay : may .drawable) (h : Tracked may clientId s)
    (random : Nat → UInt32) (hdraw : CanDraw s) :
    ∃ ref s', s.drawCard random = .ok (ref, s') ∧ Tracked may clientId s' ∧
      DrawnFrom may s ref := by
  obtain ⟨drawn, pile, hshows, htracks⟩ := h
  have hlength := hshows.length_add
  have hclient := hshows.clientId_eq
  rcases pile with _ | ⟨top, below⟩
  · have hindex : s.drawIndex = 31 := by simpa using hlength
    obtain ⟨s1, drawn1, pile1, hrestart, hs1, hperm, htracks1⟩ :=
      exists_restart hmay hshows random
        (by simpa [CanDraw, hindex, drawables_ne_nil_iff hshows htracks] using hdraw)
    rw [hshows.drawCard_nil random, hrestart]
    rcases hpile1 : pile1 with _ | ⟨top, below⟩
    · subst hpile1
      have hnum : s1.numDrawableCards = 0 := hs1.numDrawableCards_eq
      refine ⟨0xFFFF, s1, ?_, Tracked.intro hs1 htracks1, .inl ⟨rfl, hindex, ?_⟩⟩
      · simp [bind, Except.bind, hnum, pure, Except.pure]
      · intro index hrevives
        have hmem := hperm.mem_iff.mpr ((mem_drawables_iff hshows htracks index).mpr hrevives)
        simp at hmem
    · have hnum : s1.numDrawableCards ≠ 0 := by simp [hs1.numDrawableCards_eq, hpile1]
      have htop : Revives s top :=
        (mem_drawables_iff hshows htracks top).mp (hperm.mem_iff.mp (by simp [hpile1]))
      obtain ⟨s', hnext, hs'⟩ := exists_drawNext hs1 hpile1 htracks1
      refine ⟨cardRefFor clientId top, s', ?_, hs', .inr ⟨top, ?_, .inr ⟨hindex, htop⟩⟩⟩
      · simpa [bind, Except.bind, hnum] using hnext
      · rw [DeckState.cardRefForIndex, hclient]
  · obtain ⟨s', hnext, hs'⟩ := exists_drawNext hshows rfl htracks
    have hindex : s.drawIndex < 31 := by
      rw [List.length_cons] at hlength
      omega
    have htop : may (s.entries.get top) := htracks.may_of_mem top List.mem_cons_self
    refine ⟨cardRefFor clientId top, s', (hshows.drawCard_cons random).trans hnext, hs',
      .inr ⟨top, ?_, .inl ⟨hindex, htop⟩⟩⟩
    rw [DeckState.cardRefForIndex, hclient]

/-- Otherwise the shuffle of the restart has no card to choose from. -/
theorem Tracked.drawCard_error (h : Tracked may clientId s) (random : Nat → UInt32)
    (hdraw : ¬ CanDraw s) : s.drawCard random = .error .moduloZero := by
  obtain ⟨drawn, pile, hshows, htracks⟩ := h
  have hlength := hshows.length_add
  simp only [CanDraw, not_or, Bool.not_eq_false] at hdraw
  obtain ⟨hindex, hflag, hrevives⟩ := hdraw
  obtain rfl : pile = [] := List.length_eq_zero_iff.mp (by omega)
  have hnone := not_ne_iff.mp (mt (drawables_ne_nil_iff hshows htracks).mp hrevives)
  rw [hshows.drawCard_nil random, restart_error hshows random hflag hnone]
  rfl

theorem Tracked.shuffle (h : Tracked may clientId s) (random : Nat → UInt32)
    (hrun : s.shuffle random = .ok s') : Tracked may clientId s' := by
  obtain ⟨drawn, pile, hshows, htracks⟩ := h
  by_cases hok : s.shuffleEnabled = false ∨ pile ≠ []
  · obtain ⟨t, pile', hshuffle, hperm, ht⟩ := hshows.shuffle random hok
    obtain rfl : t = s' := Except.ok.inj (hshuffle.symm.trans hrun)
    exact Tracked.intro ht (htracks.perm hperm)
  · simp only [not_or, Bool.not_eq_false, not_not] at hok
    obtain ⟨hflag, rfl⟩ := hok
    rw [hshows.shuffle_nil random hflag] at hrun
    cases hrun

theorem Tracked.restart (hmay : may .drawable) (h : Tracked may clientId s)
    (random : Nat → UInt32) (hrun : s.restart random = .ok s') : Tracked may clientId s' := by
  obtain ⟨drawn, pile, hshows, -⟩ := h
  by_cases hok : s.shuffleEnabled = false ∨
      drawables (returned s.loopEnabled (status s)) ≠ []
  · obtain ⟨t, drawn', pile', hrestart, ht, -, htracks⟩ :=
      exists_restart hmay hshows random hok
    obtain rfl : t = s' := Except.ok.inj (hrestart.symm.trans hrun)
    exact Tracked.intro ht htracks
  · simp only [not_or, Bool.not_eq_false, not_not] at hok
    rw [restart_error hshows random hok.1 hok.2] at hrun
    cases hrun

/-- The search of `draw_card_by_ref` does not stop at a stale ref in the drawn
part, or it makes no difference because the card is next anyway. -/
def NotStale (s : DeckState) (ref : UInt16) : Prop :=
  s.drawIndex ≤ s.findRef ref ∨ s.cardRefs.toList[s.drawIndex]? = some ref

/-- The cases in which `draw_card_by_ref` takes the card from where it is. -/
def DrawsByRef (s : DeckState) (ref : UInt16) : Prop :=
  ∀ index, entryIndex ref = some index →
    (s.entries.get index = .discarded → s.cardRefForIndex index ∉ undrawn s) ∧
      (s.entries.get index = .drawable → NotStale s ref)

theorem exists_cons_of_next (h : Shows clientId s drawn pile states) {ref : UInt16}
    {index : Fin 31} (hindex : entryIndex ref = some index)
    (hnext : s.cardRefs.toList[s.drawIndex]? = some ref) : ∃ below, pile = index :: below := by
  rw [h.refs_eq, h.index_eq, List.getElem?_append_right le_rfl, Nat.sub_self] at hnext
  rcases pile with _ | ⟨top, below⟩
  · simp at hnext
  · simp only [List.map_cons, List.getElem?_cons_zero, Option.some.injEq] at hnext
    rw [← hnext, entryIndex_cardRefFor, Option.some.injEq] at hindex
    exact ⟨below, by rw [hindex]⟩

theorem Tracked.drawCardByRef (h : Tracked may clientId s)
    {ref : UInt16} (hdraws : DrawsByRef s ref) :
    ∃ b s', s.drawCardByRef ref = .ok (b, s') ∧ Tracked may clientId s' := by
  obtain ⟨drawn, pile, hshows, htracks⟩ := id h
  rcases hindex : entryIndex ref with _ | index
  · refine ⟨false, s, ?_, h⟩
    simp only [DeckState.drawCardByRef, hindex]
    split <;> rfl
  · obtain ⟨hdiscarded, hdrawable⟩ := hdraws index hindex
    rw [hshows.entry_eq] at hdiscarded hdrawable
    rcases eq_or_ne (status s index) .discarded with hstate | hne
    · refine ⟨true, s.setState index .inHand,
        hshows.drawCardByRef_discarded hindex hstate,
        Tracked.intro (hshows.setState index .inHand) (htracks.relabel ?_ (by simp))⟩
      intro hmem
      refine absurd ((mem_undrawn_iff hshows index).mpr hmem) ?_
      simpa [DeckState.cardRefForIndex, hshows.clientId_eq] using hdiscarded hstate
    · rcases eq_or_ne (status s index) .drawable with hstate | hne'
      · rcases Nat.lt_or_ge (s.findRef ref) s.drawIndex with hstale | hle
        · have hnext := (hdrawable hstate).resolve_left (by omega)
          obtain ⟨below, rfl⟩ := exists_cons_of_next hshows hindex hnext
          obtain ⟨s', hrun, hs'⟩ := hshows.drawCardByRef_stale hindex hstate hstale
          have htop : Tracks may (· = .drawable) (status s) ([] ++ index :: below) := htracks
          exact ⟨true, s', hrun, Tracked.intro hs' (htop.remove (by simp))⟩
        · rcases Nat.lt_or_ge (s.findRef ref) 31 with hlt | hge
          · obtain ⟨s', above, below, rfl, hrun, hs'⟩ :=
              hshows.drawCardByRef_found hindex hstate hle hlt
            exact ⟨true, s', hrun, Tracked.intro hs' (htracks.remove (by simp))⟩
          · refine ⟨false, s, ?_, h⟩
            rw [hshows.drawCardByRef_drawable hindex hstate, if_pos hge]
      · exact ⟨false, s, hshows.drawCardByRef_other hindex hne hne', h⟩

theorem Tracked.setCardRefInPlay (hhand : ¬ may .inHand) (h : Tracked may clientId s)
    (ref : UInt16) : Tracked may clientId (s.setCardRefInPlay ref).2 := by
  obtain ⟨drawn, pile, hshows, htracks⟩ := id h
  unfold DeckState.setCardRefInPlay
  split
  · exact h
  · rename_i index hindex
    split
    · rename_i hstate
      rw [hshows.entry_eq] at hstate
      refine Tracked.intro (hshows.setState index .inPlay) (htracks.relabel ?_ (by simp))
      intro hmem
      exact absurd (htracks.may_of_mem index hmem) (by rwa [hstate])
    · exact h

theorem Tracked.setCardDiscarded (h : Tracked may clientId s) {ref : UInt16}
    (hmay : ∀ index, entryIndex ref = some index → cardRefFor clientId index ∈ undrawn s →
      may .discarded) : Tracked may clientId (s.setCardDiscarded ref) := by
  obtain ⟨drawn, pile, hshows, htracks⟩ := id h
  unfold DeckState.setCardDiscarded
  split
  · exact h
  · rename_i index hindex
    refine Tracked.intro (hshows.setState index .discarded) (htracks.relabel ?_ (by simp))
    exact fun hmem => hmay index hindex ((mem_undrawn_iff hshows index).mpr hmem)

/-- Putting a card back that is not on the pile, at either end. -/
theorem Tracked.putBack (hmay : may .drawable) (h : Tracked may clientId s) {index : Fin 31}
    (hnot : s.entries.get index ≠ .drawable → cardRefFor clientId index ∉ undrawn s) :
    (∃ b s', s.setCardRefDrawableNext (cardRefFor clientId index) = .ok (b, s') ∧
        Tracked may clientId s') ∧
      ∃ b s', s.setCardRefDrawableAtEnd (cardRefFor clientId index) = .ok (b, s') ∧
        Tracked may clientId s' := by
  obtain ⟨drawn, pile, hshows, htracks⟩ := id h
  rw [hshows.entry_eq, mem_undrawn_iff hshows] at hnot
  rcases eq_or_ne (status s index) .drawable with hstate | hne
  · have hnext := hshows.setCardRefDrawableNext_drawable hstate
    exact ⟨⟨false, s, hnext, h⟩, false, s, setCardRefDrawableAtEnd_of_not hnext, h⟩
  · rcases List.eq_nil_or_concat' drawn with rfl | ⟨front, last, rfl⟩
    · have hnext := hshows.setCardRefDrawableNext_nil index
      exact ⟨⟨false, s, hnext, h⟩, false, s, setCardRefDrawableAtEnd_of_not hnext, h⟩
    · have hpush : Tracks may (· = .drawable) (Function.update (status s) index .drawable)
          (index :: pile) := htracks.push (hnot hne) hmay
      obtain ⟨s1, hnext, hs1⟩ := hshows.setCardRefDrawableNext_snoc hne
      obtain ⟨s2, hend, hs2⟩ := hshows.setCardRefDrawableAtEnd_snoc hne
      refine ⟨⟨true, s1, hnext, Tracked.intro hs1 hpush⟩, true, s2, hend,
        Tracked.intro hs2 (hpush.perm ?_)⟩
      exact List.perm_append_singleton index pile

end Tracked

/-! No card is lost or duplicated. -/

/-- The refs still to be drawn are pairwise distinct, and they are the refs of
the drawable cards. -/
def Corresponds (s : DeckState) : Prop :=
  (undrawn s).Nodup ∧ ∀ ref, ref ∈ undrawn s ↔
    ∃ index, ref = s.cardRefForIndex index ∧ s.entries.get index = .drawable

theorem corresponds_iff {clientId : UInt8} {s : DeckState} {drawn : List UInt16}
    {pile : List (Fin 31)} (h : Shows clientId s drawn pile (status s)) :
    Corresponds s ↔ Tracks (· = .drawable) (· = .drawable) (status s) pile := by
  have hnodup : (undrawn s).Nodup ↔ pile.Nodup := by
    rw [undrawn, h.drop_eq]
    exact List.nodup_map_iff (cardRefFor_injective clientId)
  constructor
  · rintro ⟨hrefs, hmem⟩
    have hiff : ∀ index, index ∈ pile ↔ status s index = .drawable := by
      intro index
      rw [← mem_undrawn_iff h, hmem]
      constructor
      · rintro ⟨index', heq, hstate⟩
        rw [DeckState.cardRefForIndex, h.clientId_eq] at heq
        rwa [cardRefFor_injective clientId heq]
      · intro hstate
        exact ⟨index, by rw [DeckState.cardRefForIndex, h.clientId_eq], hstate⟩
    exact ⟨hnodup.mp hrefs, fun index => (hiff index).mp, fun index => (hiff index).mpr⟩
  · intro htracks
    refine ⟨hnodup.mpr htracks.nodup, fun ref => ?_⟩
    rw [undrawn, h.drop_eq, List.mem_map]
    constructor
    · rintro ⟨index, hmem, rfl⟩
      exact ⟨index, by rw [DeckState.cardRefForIndex, h.clientId_eq], htracks.mem_iff.mp hmem⟩
    · rintro ⟨index, rfl, hstate⟩
      exact ⟨index, htracks.mem_iff.mpr hstate, by rw [DeckState.cardRefForIndex, h.clientId_eq]⟩

theorem Tracked.corresponds {clientId : UInt8} {s : DeckState}
    (h : Tracked (· = .drawable) clientId s) : Corresponds s := by
  obtain ⟨drawn, pile, hshows, htracks⟩ := h
  exact (corresponds_iff hshows).mpr htracks

/-- The call is about a card other than the story character, if it is about
a card. -/
def OnCards (clientId : UInt8) : Op → Prop
  | .drawCard _ | .shuffle _ | .restart _ => True
  | .drawCardByRef ref | .setCardRefInPlay ref | .setCardRefDrawableNext ref
  | .setCardRefDrawableAtEnd ref | .setCardDiscarded ref =>
      ∃ index : Fin 31, index ≠ 0 ∧ ref = cardRefFor clientId index

/-- The calls that keep every drawable card on the pile: a drawable card is
not drawn through a stale ref, and it is not discarded. -/
def KeepsPile (s : DeckState) : Op → Prop
  | .drawCardByRef ref => ∀ index, entryIndex ref = some index →
      s.entries.get index = .drawable → NotStale s ref
  | .setCardDiscarded ref => ∀ index, entryIndex ref = some index → s.entries.get index ≠ .drawable
  | _ => True

/-- A card that is returned by `draw_card` was drawable, or was made so by the
restart of the exhausted deck. -/
def DrawsDrawable (s : DeckState) : Op → Returned → Prop
  | .drawCard _, .cardRef ref => DrawnFrom (· = .drawable) s ref
  | _, _ => True

/-- The views agree before the call and after it, and the call returns no
other card than a drawable one. -/
def Sound (s : DeckState) (op : Op) : Prop :=
  Corresponds s ∧
    ∀ r s', op.call s = .ok (r, s') → Corresponds s' ∧ DrawsDrawable s op r

section Sound

variable {clientId : UInt8} {s s' : DeckState} {op : Op}

theorem Tracked.cardRefForIndex_eq {may : CardState → Prop} (h : Tracked may clientId s)
    (index : Fin 31) : s.cardRefForIndex index = cardRefFor clientId index := by
  obtain ⟨_, _, hshows, -⟩ := h
  rw [DeckState.cardRefForIndex, hshows.clientId_eq]

theorem Tracked.mem_undrawn_iff (h : Tracked (· = .drawable) clientId s) (index : Fin 31) :
    cardRefFor clientId index ∈ undrawn s ↔ s.entries.get index = .drawable := by
  obtain ⟨drawn, pile, hshows, htracks⟩ := h
  rw [DeckInvariants.mem_undrawn_iff hshows, htracks.mem_iff]
  rfl

/-- What a call does that keeps the drawable cards on the pile. -/
theorem Tracked.call (h : Tracked (· = .drawable) clientId s) (hop : OnCards clientId op)
    (hkeeps : KeepsPile s op) {r : Returned} (hcall : op.call s = .ok (r, s')) :
    Tracked (· = .drawable) clientId s' ∧ DrawsDrawable s op r := by
  have hnot : ∀ index : Fin 31, s.entries.get index ≠ .drawable →
      cardRefFor clientId index ∉ undrawn s :=
    fun index => mt (h.mem_undrawn_iff index).mp
  cases op with
  | drawCard random =>
      by_cases hdraw : CanDraw s
      · obtain ⟨ref, t, hrun, ht, hfrom⟩ := h.drawCard (by rfl) random hdraw
        simp only [Op.call, hrun, Except.map, Except.ok.injEq, Prod.mk.injEq] at hcall
        obtain ⟨rfl, rfl⟩ := hcall
        exact ⟨ht, hfrom⟩
      · simp only [Op.call, h.drawCard_error random hdraw, Except.map] at hcall
        cases hcall
  | drawCardByRef ref =>
      have hdraws : DrawsByRef s ref := by
        intro index hindex
        refine ⟨fun hstate => ?_, hkeeps index hindex⟩
        rw [h.cardRefForIndex_eq]
        exact hnot index (by simp [hstate])
      obtain ⟨b, t, hrun, ht⟩ := h.drawCardByRef hdraws
      simp only [Op.call, hrun, Except.map, Except.ok.injEq, Prod.mk.injEq] at hcall
      obtain ⟨rfl, rfl⟩ := hcall
      exact ⟨ht, trivial⟩
  | setCardRefInPlay ref =>
      simp only [Op.call, Except.ok.injEq, Prod.mk.injEq] at hcall
      obtain ⟨rfl, rfl⟩ := hcall
      exact ⟨h.setCardRefInPlay (by simp) ref, trivial⟩
  | setCardRefDrawableNext ref =>
      obtain ⟨index, -, rfl⟩ := hop
      obtain ⟨⟨b, t, hrun, ht⟩, -⟩ := h.putBack (by rfl) (hnot index)
      simp only [Op.call, hrun, Except.map, Except.ok.injEq, Prod.mk.injEq] at hcall
      obtain ⟨rfl, rfl⟩ := hcall
      exact ⟨ht, trivial⟩
  | setCardRefDrawableAtEnd ref =>
      obtain ⟨index, -, rfl⟩ := hop
      obtain ⟨-, b, t, hrun, ht⟩ := h.putBack (by rfl) (hnot index)
      simp only [Op.call, hrun, Except.map, Except.ok.injEq, Prod.mk.injEq] at hcall
      obtain ⟨rfl, rfl⟩ := hcall
      exact ⟨ht, trivial⟩
  | setCardDiscarded ref =>
      simp only [Op.call, Except.ok.injEq, Prod.mk.injEq] at hcall
      obtain ⟨rfl, rfl⟩ := hcall
      refine ⟨h.setCardDiscarded ?_, trivial⟩
      intro index hindex hmem
      exact absurd hmem (hnot index (hkeeps index hindex))
  | shuffle random =>
      rcases hrun : s.shuffle random with e | t
      · simp only [Op.call, hrun, Except.map, reduceCtorEq] at hcall
      · simp only [Op.call, hrun, Except.map, Except.ok.injEq, Prod.mk.injEq] at hcall
        obtain ⟨rfl, rfl⟩ := hcall
        exact ⟨h.shuffle random hrun, trivial⟩
  | restart random =>
      rcases hrun : s.restart random with e | t
      · simp only [Op.call, hrun, Except.map, reduceCtorEq] at hcall
      · simp only [Op.call, hrun, Except.map, Except.ok.injEq, Prod.mk.injEq] at hcall
        obtain ⟨rfl, rfl⟩ := hcall
        exact ⟨h.restart (by rfl) random hrun, trivial⟩

/-- Drawing a card through a stale ref leaves it on the pile. -/
theorem Tracked.not_sound_of_stale (h : Tracked (· = .drawable) clientId s) {ref : UInt16}
    {index : Fin 31} (href : ref = cardRefFor clientId index)
    (hstate : s.entries.get index = .drawable) (hstale : ¬ NotStale s ref) :
    ¬ Sound s (.drawCardByRef ref) := by
  obtain ⟨drawn, pile, hshows, htracks⟩ := h
  have hmem : index ∈ pile := htracks.mem_iff.mpr hstate
  have hindex : entryIndex ref = some index := by rw [href, entryIndex_cardRefFor]
  simp only [NotStale, not_or, Nat.not_le] at hstale
  obtain ⟨hlt, hnext⟩ := hstale
  obtain ⟨top, below, rfl⟩ := List.exists_cons_of_ne_nil (List.ne_nil_of_mem hmem)
  have htop : index ≠ top := by
    rintro rfl
    apply hnext
    rw [hshows.refs_eq, hshows.index_eq, List.getElem?_append_right le_rfl, Nat.sub_self, href]
    rfl
  have hbelow : index ∈ below := (List.mem_cons.mp hmem).resolve_left htop
  obtain ⟨s', hrun, hs'⟩ := hshows.drawCardByRef_stale hindex hstate hlt
  intro hsound
  have hcorr := (hsound.2 (.flag true) s' (by simp only [Op.call, hrun, Except.map])).1
  have hs'' := hs'
  rw [← hs'.status_eq] at hs''
  have hdrawable := ((corresponds_iff hs'').mp hcorr).mem_iff.mp hbelow
  rw [hs'.status_eq, Function.update_self] at hdrawable
  cases hdrawable

/-- Discarding a drawable card leaves it on the pile. -/
theorem Tracked.not_sound_of_discarded (h : Tracked (· = .drawable) clientId s) {ref : UInt16}
    {index : Fin 31} (hindex : entryIndex ref = some index)
    (hstate : s.entries.get index = .drawable) : ¬ Sound s (.setCardDiscarded ref) := by
  obtain ⟨drawn, pile, hshows, htracks⟩ := h
  have hmem : index ∈ pile := htracks.mem_iff.mpr hstate
  have hs' := hshows.setState index .discarded
  rw [← status_setState] at hs'
  intro hsound
  have hcorr := (hsound.2 .nothing (s.setState index .discarded)
    (by simp only [Op.call, DeckState.setCardDiscarded, hindex])).1
  have hdrawable := ((corresponds_iff hs').mp hcorr).mem_iff.mp hmem
  rw [status_setState, Function.update_self] at hdrawable
  cases hdrawable

theorem Tracked.sound_iff (h : Tracked (· = .drawable) clientId s) (hop : OnCards clientId op) :
    Sound s op ↔ KeepsPile s op := by
  constructor
  · intro hsound
    cases op with
    | drawCardByRef ref =>
        obtain ⟨index, -, href⟩ := hop
        intro index' hindex' hstate
        have hindex : entryIndex ref = some index := by rw [href, entryIndex_cardRefFor]
        obtain rfl : index = index' := Option.some.inj (hindex.symm.trans hindex')
        by_contra hstale
        exact h.not_sound_of_stale href hstate hstale hsound
    | setCardDiscarded ref =>
        intro index hindex hstate
        exact h.not_sound_of_discarded hindex hstate hsound
    | _ => trivial
  · intro hkeeps
    refine ⟨h.corresponds, fun r s' hcall => ?_⟩
    obtain ⟨hs', hdraws⟩ := h.call hop hkeeps hcall
    exact ⟨hs'.corresponds, hdraws⟩

end Sound

/-- Along a run the cards on the pile are the drawable ones exactly when no
drawable card is discarded or drawn through a stale ref. -/
theorem deck_sound_iff (clientId : UInt8) (disableDeckShuffle disableDeckLoop : Bool)
    (ops : List Op) (hops : ∀ op ∈ ops, OnCards clientId op) :
    (∀ c ∈ trace Op.call (setUpDeck clientId disableDeckShuffle disableDeckLoop) ops,
        Sound c.1 c.2) ↔
      ∀ c ∈ trace Op.call (setUpDeck clientId disableDeckShuffle disableDeckLoop) ops,
        KeepsPile c.1 c.2 := by
  apply forall_trace_iff (Tracked (· = .drawable) clientId)
  · intro s hs op hop
    exact hs.sound_iff (hops op hop)
  · intro s hs op hop hsound r s' hcall
    exact (hs.call (hops op hop) ((hs.sound_iff (hops op hop)).mp hsound) hcall).1
  · exact tracked_setUpDeck (by rfl) clientId disableDeckShuffle disableDeckLoop

/-- Three cards are drawn, two are put back, and the first of them is found at
the position it was drawn from. -/
def staleRun : List Op :=
  [.drawCard 0, .drawCard 0, .drawCard 0, .setCardRefDrawableNext 1, .setCardRefDrawableNext 2,
    .drawCardByRef 1]

theorem staleRun_onCards : ∀ op ∈ staleRun, OnCards 0 op := by
  have h1 : ∃ index : Fin 31, index ≠ 0 ∧ 1 = cardRefFor 0 index := ⟨1, by decide, by decide⟩
  have h2 : ∃ index : Fin 31, index ≠ 0 ∧ 2 = cardRefFor 0 index := ⟨2, by decide, by decide⟩
  simp [staleRun, OnCards, h1, h2]

theorem deck_sound_iff_staleRun :
    (∀ op ∈ staleRun, OnCards 0 op) ∧
      ((∀ c ∈ trace Op.call (setUpDeck 0 false false) staleRun, Sound c.1 c.2) ↔
        ∀ c ∈ trace Op.call (setUpDeck 0 false false) staleRun, KeepsPile c.1 c.2) :=
  ⟨staleRun_onCards, deck_sound_iff 0 false false staleRun staleRun_onCards⟩

/-- Card 1 is in hand and on the pile at the end, and card 2 is drawable but
not on the pile. -/
theorem staleRun_not_corresponds :
    (∀ op ∈ staleRun, OnCards 0 op) ∧
      ∃ s, run Op.call (DeckState.new 0) staleRun = some s ∧
        s.entries[1] = .inHand ∧ 1 ∈ undrawn s ∧ s.entries[2] = .drawable ∧ 2 ∉ undrawn s ∧
        ¬ Corresponds s := by
  refine ⟨staleRun_onCards, ?_⟩
  have hend : (run Op.call (DeckState.new 0) staleRun).map
      (fun s => (s.clientId, s.entries[1], s.entries[2], undrawn s)) =
        some (0, .inHand, .drawable, 1 :: (List.range' 4 27).map UInt16.ofNat) := by decide
  obtain ⟨s, hrun, hs⟩ := Option.map_eq_some_iff.mp hend
  simp only [Prod.mk.injEq] at hs
  obtain ⟨hclient, hhand, hdrawable, hundrawn⟩ := hs
  have hmem : 1 ∈ undrawn s := by
    rw [hundrawn]
    exact List.mem_cons_self
  refine ⟨s, hrun, hhand, hmem, hdrawable, ?_, ?_⟩
  · rw [hundrawn]
    decide
  · intro hcorr
    obtain ⟨index, heq, hstate⟩ := (hcorr.2 1).mp hmem
    rw [DeckState.cardRefForIndex, hclient] at heq
    have hindex : entryIndex 1 = some index := by rw [heq, entryIndex_cardRefFor]
    obtain rfl : 1 = index := Option.some.inj hindex
    rw [show s.entries.get (1 : Fin 31) = .inHand from hhand] at hstate
    cases hstate

/-! Drawing never goes past the deck. -/

/-- The calls that draw cards, play and discard them and put them back. -/
def DrawsAndReturns : Op → Prop
  | .drawCard _ | .drawCardByRef _ | .setCardRefInPlay _ | .setCardRefDrawableNext _
  | .setCardDiscarded _ => True
  | _ => False

/-- A draw returns a drawable or discarded card, or `0xFFFF` when there is no
card to draw; no call takes a random number modulo zero or uses a position
past the order array. -/
def WithinDeck (s : DeckState) (op : Op) : Prop :=
  op.call s ≠ .error .moduloZero ∧ op.call s ≠ .error .cardRefsOutOfRange ∧
    ∀ random, op = .drawCard random → ∃ ref s', s.drawCard random = .ok (ref, s') ∧
      ((ref = 0xFFFF ∧ ∀ index : Fin 31, s.entries.get index ≠ .drawable ∧ ¬ Revives s index) ∨
        ∃ index, ref = s.cardRefForIndex index ∧
          (s.entries.get index = .drawable ∨ s.entries.get index = .discarded))

/-- The calls that stay within the deck: an exhausted deck is not shuffled,
and no card is drawn through a stale ref or taken or put back while it is
discarded on the pile. -/
def StaysWithin (s : DeckState) : Op → Prop
  | .drawCard _ => CanDraw s
  | .drawCardByRef ref => DrawsByRef s ref
  | .setCardRefDrawableNext ref => ∀ index, clientIdForCardRef ref = s.clientId →
      entryIndex ref = some index → s.entries.get index ≠ .drawable →
      s.cardRefForIndex index ∉ undrawn s
  | _ => True

section Within

variable {clientId : UInt8} {s s' : DeckState} {op : Op}

/-- The states a card on the pile can have when cards are discarded from it. -/
def OnPile (state : CardState) : Prop :=
  state = .drawable ∨ state = .discarded

theorem Tracked.setCardRefDrawableNext (h : Tracked OnPile clientId s) {ref : UInt16}
    (hstays : StaysWithin s (.setCardRefDrawableNext ref)) :
    s.setCardRefDrawableNext ref = .error .entriesOutOfRange ∨
      ∃ b s', s.setCardRefDrawableNext ref = .ok (b, s') ∧ Tracked OnPile clientId s' := by
  by_cases hnone : ref = 0xFFFF
  · exact .inr ⟨false, s, by simp only [DeckState.setCardRefDrawableNext, hnone, if_true]; rfl, h⟩
  by_cases hclient : clientIdForCardRef ref = s.clientId
  · rcases hindex : entryIndex ref with _ | index
    · refine .inl ?_
      simp only [DeckState.setCardRefDrawableNext, hnone, hclient, hindex, if_false, ne_eq,
        not_true_eq_false]
      rfl
    · have hnot := hstays index hclient hindex
      have href : ref = s.cardRefForIndex index := eq_cardRefFor s.clientId hclient hindex
      rw [h.cardRefForIndex_eq] at hnot href
      rw [href]
      exact .inr (h.putBack (.inl rfl) hnot).1
  · refine .inr ⟨false, s, ?_, h⟩
    simp only [DeckState.setCardRefDrawableNext, hnone, hclient, if_false, ne_eq,
      not_false_eq_true, if_true]
    rfl

theorem Tracked.drawn_within (h : Tracked OnPile clientId s) {ref : UInt16}
    (hfrom : DrawnFrom OnPile s ref) :
    (ref = 0xFFFF ∧ ∀ index : Fin 31, s.entries.get index ≠ .drawable ∧ ¬ Revives s index) ∨
      ∃ index, ref = s.cardRefForIndex index ∧
        (s.entries.get index = .drawable ∨ s.entries.get index = .discarded) := by
  rcases hfrom with ⟨href, hindex, hnone⟩ | ⟨index, href, ⟨-, hmay⟩ | ⟨-, hrevives⟩⟩
  · refine .inl ⟨href, fun index => ⟨?_, hnone index⟩⟩
    intro hstate
    obtain ⟨drawn, pile, hshows, htracks⟩ := h
    have hmem : index ∈ pile := htracks.mem_of_must index hstate
    have hlength := hshows.length_add
    rw [hindex] at hlength
    obtain rfl : pile = [] := List.length_eq_zero_iff.mp (by omega)
    simp at hmem
  · exact .inr ⟨index, href, hmay⟩
  · exact .inr ⟨index, href, .inr hrevives.2⟩

/-- What a call does that stays within the deck. -/
theorem Tracked.call_within (h : Tracked OnPile clientId s) (hop : DrawsAndReturns op)
    (hstays : StaysWithin s op) :
    WithinDeck s op ∧
      ∀ r s', op.call s = .ok (r, s') → Tracked OnPile clientId s' := by
  cases op with
  | drawCard random =>
      obtain ⟨ref, t, hrun, ht, hfrom⟩ := h.drawCard (.inl rfl) random hstays
      have hcall : Op.call (.drawCard random) s = .ok (.cardRef ref, t) := by
        simp only [Op.call, hrun, Except.map]
      refine ⟨⟨by simp [hcall], by simp [hcall], ?_⟩, ?_⟩
      · rintro _ heq
        cases heq
        exact ⟨ref, t, hrun, h.drawn_within hfrom⟩
      · intro r s' hcall'
        rw [hcall, Except.ok.injEq, Prod.mk.injEq] at hcall'
        rwa [← hcall'.2]
  | drawCardByRef ref =>
      obtain ⟨b, t, hrun, ht⟩ := h.drawCardByRef hstays
      have hcall : Op.call (.drawCardByRef ref) s = .ok (.flag b, t) := by
        simp only [Op.call, hrun, Except.map]
      refine ⟨⟨by simp [hcall], by simp [hcall], by simp⟩, ?_⟩
      intro r s' hcall'
      rw [hcall, Except.ok.injEq, Prod.mk.injEq] at hcall'
      rwa [← hcall'.2]
  | setCardRefInPlay ref =>
      refine ⟨⟨by simp [Op.call], by simp [Op.call], by simp⟩, ?_⟩
      intro r s' hcall
      simp only [Op.call, Except.ok.injEq, Prod.mk.injEq] at hcall
      obtain ⟨rfl, rfl⟩ := hcall
      exact h.setCardRefInPlay (by simp [OnPile]) ref
  | setCardRefDrawableNext ref =>
      rcases h.setCardRefDrawableNext hstays with hrun | ⟨b, t, hrun, ht⟩
      · have hcall : Op.call (.setCardRefDrawableNext ref) s = .error .entriesOutOfRange := by
          simp only [Op.call, hrun, Except.map]
        exact ⟨⟨by simp [hcall], by simp [hcall], by simp⟩, by simp [hcall]⟩
      · have hcall : Op.call (.setCardRefDrawableNext ref) s = .ok (.flag b, t) := by
          simp only [Op.call, hrun, Except.map]
        refine ⟨⟨by simp [hcall], by simp [hcall], by simp⟩, ?_⟩
        intro r s' hcall'
        rw [hcall, Except.ok.injEq, Prod.mk.injEq] at hcall'
        rwa [← hcall'.2]
  | setCardDiscarded ref =>
      refine ⟨⟨by simp [Op.call], by simp [Op.call], by simp⟩, ?_⟩
      intro r s' hcall
      simp only [Op.call, Except.ok.injEq, Prod.mk.injEq] at hcall
      obtain ⟨rfl, rfl⟩ := hcall
      exact h.setCardDiscarded (fun _ _ _ => .inr rfl)
  | _ => cases hop

end Within

/-- In a run whose calls all stay within the deck, every draw returns a card
that can be drawn or says that there is none. -/
theorem draws_within_deck (clientId : UInt8) (disableDeckShuffle disableDeckLoop : Bool)
    (ops : List Op) (hops : ∀ op ∈ ops, DrawsAndReturns op)
    (hstays : ∀ c ∈ trace Op.call (setUpDeck clientId disableDeckShuffle disableDeckLoop) ops,
      StaysWithin c.1 c.2) :
    ∀ c ∈ trace Op.call (setUpDeck clientId disableDeckShuffle disableDeckLoop) ops,
      WithinDeck c.1 c.2 := by
  refine forall_trace (Tracked OnPile clientId) ?_ ?_ ?_ hstays
  · intro s hs op hop hstays
    exact (hs.call_within (hops op hop) hstays).1
  · intro s hs op hop hstays
    exact (hs.call_within (hops op hop) hstays).2
  · exact tracked_setUpDeck (.inl rfl) clientId disableDeckShuffle disableDeckLoop

/-- A card is drawn and discarded. -/
theorem draws_within_deck_discard :
    ¬ ∃ c ∈ trace Op.call (setUpDeck 0 false false) [.drawCard 0, .setCardDiscarded 1],
      ¬ WithinDeck c.1 c.2 := by
  rintro ⟨c, hc, hnot⟩
  refine hnot (draws_within_deck 0 false false _ (by simp [DrawsAndReturns]) ?_ c hc)
  rw [trace, List.forall_mem_cons]
  refine ⟨.inl (by decide), ?_⟩
  split
  · rw [trace, List.forall_mem_cons]
    refine ⟨trivial, ?_⟩
    split <;> simp [trace]
  · simp

/-- With every card in hand, the restart of the exhausted deck shuffles
nothing. -/
theorem exhausted_draw_modulo_zero :
    (∀ op ∈ List.replicate 30 (Op.drawCard 0) ++ [.drawCard 0], DrawsAndReturns op) ∧
      ∃ s, run Op.call (DeckState.new 0) (List.replicate 30 (.drawCard 0)) = some s ∧
        s.drawCard 0 = .error .moduloZero := by
  refine ⟨by simp [DrawsAndReturns], ?_⟩
  have hend : (run Op.call (DeckState.new 0) (List.replicate 30 (.drawCard 0))).map
      (DeckState.drawCard 0) = some (.error .moduloZero) := by decide +kernel
  exact Option.map_eq_some_iff.mp hend

end HuntersGuild.DeckInvariants
