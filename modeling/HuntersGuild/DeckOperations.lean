import Mathlib.Data.UInt
import Mathlib.Data.List.FinRange

/-!
`DeckState`: the states of the 31 cards of a deck and the order in which they
are drawn. The card refs from `draw_index` on are the cards still to be drawn;
the refs before it may be stale.
-/

namespace HuntersGuild.DeckOperations

inductive CardState where
  | drawable
  | storyCharacter
  | inHand
  | inPlay
  | discarded
  | invalid
  deriving DecidableEq

/-- The index checks of the two arrays, and a remainder by zero. -/
inductive DeckError where
  | entriesOutOfRange
  | cardRefsOutOfRange
  | moduloZero
  deriving DecidableEq

def indexForCardRef (cardRef : UInt16) : Nat :=
  (cardRef &&& 0xFF).toNat

def clientIdForCardRef (cardRef : UInt16) : UInt8 :=
  ((cardRef >>> 8) &&& 0xFF).toUInt8

/-- The entry a ref is for, if the index is in range. -/
def entryIndex (cardRef : UInt16) : Option (Fin 31) :=
  if h : indexForCardRef cardRef < 31 then some ⟨indexForCardRef cardRef, h⟩ else none

/-- The card IDs and deck indexes of the entries play no part in drawing, and
an entry is its state here. The draw index never passes 31. -/
structure DeckState where
  clientId : UInt8
  drawIndex : Nat
  shuffleEnabled : Bool
  loopEnabled : Bool
  entries : Vector CardState 31
  cardRefs : Vector UInt16 31
  deriving DecidableEq

def refAt (refs : Vector UInt16 31) (z : Nat) : Except DeckError UInt16 :=
  if h : z < 31 then .ok refs[z] else .error .cardRefsOutOfRange

def setRef (refs : Vector UInt16 31) (z : Nat) (cardRef : UInt16) :
    Except DeckError (Vector UInt16 31) :=
  if h : z < 31 then .ok (refs.set z cardRef) else .error .cardRefsOutOfRange

/-- `Server::get_random`, from the raw number of the random stream. -/
def getRandom (raw : UInt32) (max : Nat) : Except DeckError Nat :=
  if max = 0 then .error .moduloZero else .ok (raw.toNat % max)

def swapRefs (refs : Vector UInt16 31) (index1 index2 : Nat) :
    Except DeckError (Vector UInt16 31) := do
  let tempRef ← refAt refs index1
  let otherRef ← refAt refs index2
  let refs ← setRef refs index1 otherRef
  setRef refs index2 tempRef

/-- `card_ref_base | index`, where `card_ref_base` is `client_id << 8`. -/
def cardRefFor (clientId : UInt8) (index : Fin 31) : UInt16 :=
  clientId.toUInt16 <<< 8 ||| UInt16.ofNat index.val

namespace DeckState

def cardRefForIndex (self : DeckState) (index : Fin 31) : UInt16 :=
  cardRefFor self.clientId index

def new (clientId : UInt8) : DeckState where
  clientId := clientId
  drawIndex := 1
  shuffleEnabled := true
  loopEnabled := true
  entries := (Vector.replicate 31 .drawable).setIfInBounds 0 .storyCharacter
  cardRefs := Vector.ofFn (cardRefFor clientId)

def disableLoop (self : DeckState) : DeckState :=
  { self with loopEnabled := false }

def disableShuffle (self : DeckState) : DeckState :=
  { self with shuffleEnabled := false }

def numDrawableCards (self : DeckState) : Nat :=
  31 - self.drawIndex

def setState (self : DeckState) (index : Fin 31) (state : CardState) : DeckState :=
  { self with entries := self.entries.set index.val state }

/-- As many swaps as the array has refs. The raw random numbers are given by
their position in the stream. -/
def shuffle (random : Nat → UInt32) (self : DeckState) : Except DeckError DeckState :=
  if self.shuffleEnabled then do
    let max := self.numDrawableCards
    let refs ← (List.range 31).foldlM (fun refs z => do
      let random1 ← getRandom (random (2 * z)) max
      let random2 ← getRandom (random (2 * z + 1)) max
      swapRefs refs (self.drawIndex + random1) (self.drawIndex + random2)) self.cardRefs
    return { self with cardRefs := refs }
  else
    return self

/-- What a loop of `restart` does with an entry, from the order array and the
next position to write. -/
def placeRef (self : DeckState) (chosen : CardState → Bool) (acc : Vector UInt16 31 × Nat)
    (z : Fin 31) : Except DeckError (Vector UInt16 31 × Nat) :=
  if chosen (self.entries.get z) then do
    let refs ← setRef acc.1 acc.2 (self.cardRefForIndex z)
    return (refs, acc.2 + 1)
  else
    return acc

/-- With the loop on, `restart` makes discarded cards drawable. -/
def returnDiscarded (loopEnabled : Bool) (state : CardState) : CardState :=
  if loopEnabled ∧ state = .discarded then .drawable else state

def restart (random : Nat → UInt32) (self : DeckState) : Except DeckError DeckState := do
  let self := { self with entries := self.entries.map (returnDiscarded self.loopEnabled) }
  let (refs, drawIndex) ←
    (List.finRange 31).foldlM (self.placeRef (· ≠ .drawable)) (self.cardRefs, 0)
  let (refs, _) ←
    (List.finRange 31).foldlM (self.placeRef (· = .drawable)) (refs, drawIndex)
  DeckState.shuffle random { self with cardRefs := refs, drawIndex := drawIndex }

/-- The end of `draw_card`, when there is a card to draw. -/
def drawNext (self : DeckState) : Except DeckError (UInt16 × DeckState) := do
  let cardRef ← refAt self.cardRefs self.drawIndex
  match entryIndex cardRef with
  | none => throw .entriesOutOfRange
  | some index =>
      return (cardRef, { self with drawIndex := self.drawIndex + 1 }.setState index .inHand)

def drawCard (random : Nat → UInt32) (self : DeckState) :
    Except DeckError (UInt16 × DeckState) := do
  let self ← if self.numDrawableCards = 0 then self.restart random else pure self
  if self.numDrawableCards = 0 then
    return (0xFFFF, self)
  else
    self.drawNext

/-- The loop of `draw_card_by_ref` that moves the refs from the draw index to
the one before `refIndex` one position back. -/
def moveRefsBack (drawIndex : Nat) :
    Nat → Vector UInt16 31 → Except DeckError (Vector UInt16 31)
  | 0, refs => .ok refs
  | refIndex + 1, refs =>
      if drawIndex < refIndex + 1 then do
        let previous ← refAt refs refIndex
        let refs ← setRef refs (refIndex + 1) previous
        moveRefsBack drawIndex refIndex refs
      else
        .ok refs

/-- The first index at which `card_refs` has the ref, or 31. -/
def findRef (self : DeckState) (cardRef : UInt16) : Nat :=
  self.cardRefs.toList.idxOf cardRef

def drawCardByRef (cardRef : UInt16) (self : DeckState) :
    Except DeckError (Bool × DeckState) :=
  if cardRef = 0xFFFF then
    return (false, self)
  else
    match entryIndex cardRef with
    | none => return (false, self)
    | some index =>
        if self.entries.get index = .discarded then
          return (true, self.setState index .inHand)
        else if self.entries.get index ≠ .drawable then
          return (false, self)
        else if 31 ≤ self.findRef cardRef then
          return (false, self)
        else do
          let refs ← moveRefsBack self.drawIndex (self.findRef cardRef) self.cardRefs
          let refs ← setRef refs self.drawIndex cardRef
          let self := { self with cardRefs := refs }.setState index .inHand
          return (true, { self with drawIndex := self.drawIndex + 1 })

def setCardRefInPlay (cardRef : UInt16) (self : DeckState) : Bool × DeckState :=
  match entryIndex cardRef with
  | none => (false, self)
  | some index =>
      if self.entries.get index = .inHand then
        (true, self.setState index .inPlay)
      else
        (false, self)

def setCardRefDrawableNext (cardRef : UInt16) (self : DeckState) :
    Except DeckError (Bool × DeckState) :=
  if cardRef = 0xFFFF then
    return (false, self)
  else if clientIdForCardRef cardRef ≠ self.clientId then
    return (false, self)
  else
    match entryIndex cardRef with
    | none => throw .entriesOutOfRange
    | some index =>
        if self.entries.get index = .drawable then
          return (false, self)
        else if self.drawIndex < 1 then
          return (false, self)
        else do
          let self := self.setState index .drawable
          let refs ← setRef self.cardRefs (self.drawIndex - 1) cardRef
          return (true, { self with drawIndex := self.drawIndex - 1, cardRefs := refs })

/-- The loop of `set_card_ref_drawable_at_end` that moves every ref one
position forward. -/
def moveRefsForward (drawIndex : Nat) (refs : Vector UInt16 31) :
    Except DeckError (Vector UInt16 31) :=
  (List.range' drawIndex (30 - drawIndex)).foldlM (fun refs z => do
    let following ← refAt refs (z + 1)
    setRef refs z following) refs

def setCardRefDrawableAtEnd (cardRef : UInt16) (self : DeckState) :
    Except DeckError (Bool × DeckState) := do
  let (moved, self) ← self.setCardRefDrawableNext cardRef
  if moved then
    let headCardRef ← refAt self.cardRefs self.drawIndex
    let refs ← moveRefsForward self.drawIndex self.cardRefs
    let refs ← setRef refs 30 headCardRef
    return (true, { self with cardRefs := refs })
  else
    return (false, self)

def setCardDiscarded (cardRef : UInt16) (self : DeckState) : DeckState :=
  match entryIndex cardRef with
  | none => self
  | some index => self.setState index .discarded

end DeckState

/-- The deck `PlayerState` sets up, for the rules of the game. -/
def setUpDeck (clientId : UInt8) (disableDeckShuffle disableDeckLoop : Bool) : DeckState :=
  let deck := DeckState.new clientId
  let deck := if disableDeckShuffle then deck.disableShuffle else deck
  if disableDeckLoop then deck.disableLoop else deck

/-- The calls a game makes. -/
inductive Op where
  | drawCard (random : Nat → UInt32)
  | drawCardByRef (cardRef : UInt16)
  | setCardRefInPlay (cardRef : UInt16)
  | setCardRefDrawableNext (cardRef : UInt16)
  | setCardRefDrawableAtEnd (cardRef : UInt16)
  | setCardDiscarded (cardRef : UInt16)
  | shuffle (random : Nat → UInt32)
  | restart (random : Nat → UInt32)

/-- What a call returns: a ref, a flag or nothing. -/
inductive Returned where
  | cardRef (ref : UInt16)
  | flag (value : Bool)
  | nothing
  deriving DecidableEq

def Op.call : Op → DeckState → Except DeckError (Returned × DeckState)
  | .drawCard random, s => (s.drawCard random).map fun (ref, s) => (.cardRef ref, s)
  | .drawCardByRef ref, s => (s.drawCardByRef ref).map fun (b, s) => (.flag b, s)
  | .setCardRefInPlay ref, s => .ok (.flag (s.setCardRefInPlay ref).1, (s.setCardRefInPlay ref).2)
  | .setCardRefDrawableNext ref, s =>
      (s.setCardRefDrawableNext ref).map fun (b, s) => (.flag b, s)
  | .setCardRefDrawableAtEnd ref, s =>
      (s.setCardRefDrawableAtEnd ref).map fun (b, s) => (.flag b, s)
  | .setCardDiscarded ref, s => .ok (.nothing, s.setCardDiscarded ref)
  | .shuffle random, s => (s.shuffle random).map fun s => (.nothing, s)
  | .restart random, s => (s.restart random).map fun s => (.nothing, s)

end HuntersGuild.DeckOperations
