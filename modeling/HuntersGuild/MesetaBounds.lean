import HuntersGuild.BankCounter
import HuntersGuild.CallTrace
import HuntersGuild.ShopCommands

/-!
The commands that move meseta keep it within its bounds, except where a handler
subtracts from the meseta on hand without looking at it.
-/

namespace HuntersGuild.MesetaBounds

open HuntersGuild.BankCounter
open HuntersGuild.BlueBurstSession
open HuntersGuild.CallTrace
open HuntersGuild.CharacterFile
open HuntersGuild.InventoryOperations
open HuntersGuild.Items
open HuntersGuild.ShopCommands
open HuntersGuild.StatefulPrograms

/-- What the tekker of a game makes of a weapon, by section ID. -/
abbrev TekkerDeltas := ItemData → UInt8 → Except Exception ItemData

/-- The rest of an identification, after it has been paid for. -/
def identifyItem (l : Lobby) (applyTekkerDeltas : TekkerDeltas) (item : ItemData) :
    Command Unit := do
  let item := item.withByte 4 (item.data1[4] &&& 0x7F)
  modify fun self => { self with identifyResult := item }
  if 10 ≤ l.effectiveSectionId then
    throw (.runtimeError "effective section ID is not valid")
  else
    let result ← fromExcept (applyTekkerDeltas item l.effectiveSectionId)
    modify fun self => { self with identifyResult := result }
    send (.identifyResult result)

/-- The text of the first exception names another command. -/
def onIdentifyItemBb (l : Lobby) (applyTekkerDeltas : TekkerDeltas) (itemId : UInt32) :
    Command Unit :=
  if !l.isGame then
    throw (.runtimeError "6xDA command sent in non-game lobby")
  else if l.isEpisode3 then
    return
  else do
    let self ← get
    let x ← fromExcept (self.character.inventory.findItem itemId)
    let item := (self.character.inventory.items.get x).data
    if item.data1[0] ≠ 0 then
      throw (.runtimeError "non-weapon items cannot be unidentified")
    else
      let _ ← generateItemId l.clientId
      inCharacter (modify fun p => { p with meseta := p.meseta - 100 })
      identifyItem l applyTekkerDeltas item

def onMedicalCenterBb (l : Lobby) : Command Unit :=
  if !l.isGame then
    throw (.runtimeError "6xC5 command sent in non-game lobby")
  else
    inCharacter (removeMeseta 10 false)

def onAdjustPlayerMesetaBb (limits : StackLimits) (l : Lobby) (amount : Int32) :
    Command Unit := do
  if amount < 0 then
    inCharacter (modify fun p =>
      { p with meseta := if p.meseta.toInt32 < -amount then 0 else p.meseta + amount.toUInt32 })
  else if 0 < amount then
    let itemId ← generateItemId l.clientId
    let item :=
      { ItemData.cleared.withByte 0 4 with data2d := amount.toUInt32, id := itemId }
    inCharacter (addItem item limits)
    sendCreateInventoryItemToLobby item false

/-- The commands that move meseta. What the shops and the tekker have to offer
may be different each time. -/
inductive MesetaCommand where
  | bankAction (cmd : BankAction)
  | buyShopItem (shops : ShopContents) (cmd : BuyShopItem)
  | sellItemAtShop (cmd : SellItemAtShop)
  | identifyItem (applyTekkerDeltas : TekkerDeltas) (itemId : UInt32)
  | medicalCenter
  | adjustPlayerMeseta (amount : Int32)

def program (limits : StackLimits) (priceForItem : PriceForItem) (l : Lobby) :
    MesetaCommand → Command Unit
  | .bankAction cmd => onEp3PrivateWordSelectBbBankAction limits l cmd
  | .buyShopItem shops cmd => onBuyShopItemBb limits l shops cmd
  | .sellItemAtShop cmd => onSellItemAtShopBb limits priceForItem l cmd
  | .identifyItem applyTekkerDeltas itemId => onIdentifyItemBb l applyTekkerDeltas itemId
  | .medicalCenter => onMedicalCenterBb l
  | .adjustPlayerMeseta amount => onAdjustPlayerMesetaBb limits l amount

def call (limits : StackLimits) (priceForItem : PriceForItem) (op : Lobby × MesetaCommand)
    (self : Session) : Except Exception (Except Exception Unit × Session) :=
  attempt (program limits priceForItem op.1 op.2) self

/-- At most 999999 meseta on hand, and at most the limit of the bank in it. -/
def Bounded (self : Session) : Prop :=
  self.character.meseta ≤ 999999 ∧ self.bank.meseta ≤ self.bank.maxMeseta
deriving Decidable

/-- A subtraction that wraps around leaves more than there was. -/
theorem sub_le_iff {a b : UInt32} : a - b ≤ a ↔ b ≤ a := by
  rw [UInt32.le_iff_toNat_le, UInt32.le_iff_toNat_le, UInt32.toNat_sub]
  have ha := UInt32.toNat_lt a
  have hb := UInt32.toNat_lt b
  omega

/-- No subtraction of the command leaves more than there was. -/
def NoWrap (limits : StackLimits) (self self' : Session) : MesetaCommand → Prop
  | .bankAction cmd =>
      (cmd.action = 0 → self'.character.meseta ≤ self.character.meseta) ∧
      (cmd.action = 1 → self'.bank.meseta ≤ self.bank.meseta)
  | .buyShopItem shops cmd => ∀ item, shopItem shops cmd.shopType cmd.itemIndex = .ok item →
      (finalState ((removeMeseta (item.data2d * cmd.amount.toUInt32) false).run
        self.character)).meseta ≤ self.character.meseta
  | .sellItemAtShop cmd =>
      (finalState ((removeItem cmd.itemId cmd.amount limits).run self.character)).meseta ≤
        self.character.meseta
  | .identifyItem _ _ | .medicalCenter => self'.character.meseta ≤ self.character.meseta
  | .adjustPlayerMeseta amount =>
      amount < 0 → self'.character.meseta ≤ self.character.meseta

def Sound (limits : StackLimits) (priceForItem : PriceForItem) (self : Session)
    (op : Lobby × MesetaCommand) : Prop :=
  let self' := finalState ((program limits priceForItem op.1 op.2).run self)
  Bounded self' ∧ NoWrap limits self self' op.2

/-- A weapon in a game is identified, paid for or not. -/
def Identifies (l : Lobby) (itemId : UInt32) (self : Session) : Prop :=
  l.isGame = true ∧ l.isEpisode3 = false ∧
    ∃ x, self.character.inventory.findItem itemId = .ok x ∧
      (self.character.inventory.items.get x).data.data1[0] = 0

/-- An identification without the 100 meseta for it, or the one amount that
has no positive counterpart. -/
def Unchecked (self : Session) (op : Lobby × MesetaCommand) : Prop :=
  match op.2 with
  | .identifyItem _ itemId => Identifies op.1 itemId self ∧ self.character.meseta < 100
  | .adjustPlayerMeseta amount => amount = Int32.minValue
  | _ => False

variable {limits : StackLimits} {priceForItem : PriceForItem} {l : Lobby}

/-! The bounds. -/

theorem keeps_inCharacter {α : Type} {x : EStateM Exception PSOBBCharacterFile α}
    (hx : Keeps (fun p => p.meseta ≤ 999999) x) : Keeps Bounded (inCharacter x) :=
  hx.zoom (fun _ hs => hs.1) fun _ _ hs ht => ⟨ht, hs.2⟩

theorem keeps_inBank {α : Type} {x : EStateM Exception BankOperations.PlayerBank α}
    (hx : Keeps (fun bank => bank.meseta ≤ bank.maxMeseta) x) : Keeps Bounded (inBank x) :=
  hx.zoom (fun _ hs => hs.2) fun _ _ hs ht => ⟨hs.1, ht⟩

/-- A call about the bank leaves the character alone, and the other way round. -/
theorem keeps_inBank_of_character {α : Type} {x : EStateM Exception BankOperations.PlayerBank α}
    (P : PSOBBCharacterFile → Prop) : Keeps (fun s : Session => P s.character) (inBank x) := by
  have hx : Keeps (fun _ => True) x := fun _ _ => trivial
  exact hx.zoom (fun _ _ => trivial) fun _ _ hs _ => hs

theorem keeps_inCharacter_of_bank {α : Type} {x : EStateM Exception PSOBBCharacterFile α}
    (P : BankOperations.PlayerBank → Prop) : Keeps (fun s : Session => P s.bank) (inCharacter x) := by
  have hx : Keeps (fun _ => True) x := fun _ _ => trivial
  exact hx.zoom (fun _ _ => trivial) fun _ _ hs _ => hs

/-- The item IDs of a game have nothing to do with meseta. -/
theorem keeps_generateItemId {P : Session → Prop}
    (hP : ∀ s ids, P s → P { s with nextItemIds := ids }) (clientId : Fin 12) :
    Keeps P (generateItemId clientId) := fun s hs => hP s _ hs

theorem keeps_onItemIdGeneratedExternally {P : Session → Prop}
    (hP : ∀ s ids, P s → P { s with nextItemIds := ids }) (itemId : UInt32) :
    Keeps P (onItemIdGeneratedExternally itemId) := by
  intro s hs
  obtain ⟨ids, hids⟩ := run_onItemIdGeneratedExternally itemId s
  rw [hids]
  exact hP s ids hs

theorem keeps_send {P : Session → Prop} (hP : ∀ s sent, P s → P { s with sent := sent })
    (message : Message) : Keeps P (send message) := fun s hs => hP s _ hs

theorem bounded_bankAction (cmd : BankAction) :
    Keeps Bounded (onEp3PrivateWordSelectBbBankAction limits l cmd) := by
  have hdeposit : Keeps Bounded (depositMeseta cmd.mesetaAmount) := by
    refine keeps_get_bind fun s hs => ?_
    split
    · exact hs
    · rename_i henough
      split
      · exact hs
      · rename_i hfits
        refine ⟨?_, UInt32.not_lt.mp hfits⟩
        exact UInt32.le_trans (sub_le_iff.mpr (UInt32.not_lt.mp henough)) hs.1
  have htake : Keeps Bounded (takeMeseta cmd.mesetaAmount) := by
    refine keeps_get_bind fun s hs => ?_
    split
    · exact hs
    · rename_i henough
      split
      · exact hs
      · rename_i hfits
        refine ⟨UInt32.not_lt.mp hfits, ?_⟩
        exact UInt32.le_trans (sub_le_iff.mpr (UInt32.not_lt.mp henough)) hs.2
  have hbank : Keeps (fun bank : BankOperations.PlayerBank => bank.meseta ≤ bank.maxMeseta)
      (BankOperations.removeItem cmd.itemId cmd.itemAmount.toUInt32 limits) := by
    intro bank hbank
    obtain ⟨hmeseta, hmax⟩ :=
      BankOperations.removeItem_meseta cmd.itemId cmd.itemAmount.toUInt32 limits bank
    rw [hmeseta, hmax]
    exact hbank
  unfold onEp3PrivateWordSelectBbBankAction
  split
  · exact (readOnly_pure _).keeps
  · split
    · split
      · exact hdeposit
      · refine (keeps_inCharacter (keeps_removeItem _ _ _ _)).bind fun item => ?_
        refine (keeps_inBank (BankOperations.keeps_addItem _ _)).bind fun _ => ?_
        exact keeps_send (fun _ _ h => h) _
    · split
      · split
        · exact htake
        · refine (keeps_inBank hbank).bind fun item => ?_
          refine (keeps_generateItemId (fun _ _ h => h) _).bind fun newId => ?_
          refine (keeps_inCharacter (keeps_addItem _ _)).bind fun _ => ?_
          exact keeps_send (fun _ _ h => h) _
      · exact (readOnly_pure _).keeps

theorem bounded_buyShopItem (shops : ShopContents) (cmd : BuyShopItem) :
    Keeps Bounded (onBuyShopItemBb limits l shops cmd) := by
  unfold onBuyShopItemBb
  split
  · exact (readOnly_throw _).keeps
  · refine (readOnly_fromExcept _).keeps.bind fun contained => ?_
    refine (readOnly_fromExcept _).keeps.bind fun item => ?_
    refine (keeps_inCharacter (keeps_removeMeseta _ _ _)).bind fun _ => ?_
    refine (keeps_onItemIdGeneratedExternally (fun _ _ h => h) _).bind fun _ => ?_
    refine (keeps_inCharacter (keeps_addItem _ _)).bind fun _ => ?_
    exact keeps_send (fun _ _ h => h) _

theorem bounded_sellItemAtShop (cmd : SellItemAtShop) :
    Keeps Bounded (onSellItemAtShopBb limits priceForItem l cmd) := by
  unfold onSellItemAtShopBb
  split
  · exact (readOnly_throw _).keeps
  · refine (keeps_inCharacter (keeps_removeItem _ _ _ _)).bind fun item => ?_
    refine (readOnly_fromExcept _).keeps.bind fun price => ?_
    exact keeps_inCharacter (keeps_addMeseta _)

theorem bounded_medicalCenter : Keeps Bounded (onMedicalCenterBb l) := by
  unfold onMedicalCenterBb
  split
  · exact (readOnly_throw _).keeps
  · exact keeps_inCharacter (keeps_removeMeseta _ _ _)

/-! Identification. -/

/-- The rest of an identification touches neither character nor bank. -/
theorem keeps_identifyItem {P : Session → Prop}
    (hP : ∀ s item sent, P s → P { s with identifyResult := item, sent := sent })
    (applyTekkerDeltas : TekkerDeltas) (item : ItemData) :
    Keeps P (identifyItem l applyTekkerDeltas item) := by
  refine (keeps_modify fun s hs => hP s _ s.sent hs).bind fun _ => ?_
  split
  · exact (readOnly_throw _).keeps
  · refine (readOnly_fromExcept _).keeps.bind fun result => ?_
    refine (keeps_modify fun s hs => hP s _ s.sent hs).bind fun _ => ?_
    exact keeps_send (fun s sent hs => hP s s.identifyResult sent hs) _

theorem identified (applyTekkerDeltas : TekkerDeltas) {itemId : UInt32} {self : Session}
    (h : Identifies l itemId self) :
    let self' := finalState ((onIdentifyItemBb l applyTekkerDeltas itemId).run self)
    self'.character.meseta = self.character.meseta - 100 ∧ self'.bank = self.bank := by
  obtain ⟨hgame, hep3, x, hfind, hclass⟩ := h
  have hrest := keeps_identifyItem (l := l) (P := fun s : Session =>
    s.character.meseta = self.character.meseta - 100 ∧ s.bank = self.bank)
    (fun _ _ _ h => h) applyTekkerDeltas (self.character.inventory.items.get x).data
  unfold onIdentifyItemBb
  rw [if_neg (by simp [hgame]), if_neg (by simp [hep3]), run_get_bind, hfind, run_ok_bind]
  dsimp only
  rw [if_neg (not_not.mpr hclass)]
  exact hrest _ ⟨rfl, rfl⟩

theorem not_identified (applyTekkerDeltas : TekkerDeltas) {itemId : UInt32} {self : Session}
    (h : ¬ Identifies l itemId self) :
    finalState ((onIdentifyItemBb l applyTekkerDeltas itemId).run self) = self := by
  unfold onIdentifyItemBb
  split
  · rfl
  · rename_i hgame
    split
    · rfl
    · rename_i hep3
      rw [run_get_bind]
      rcases hfind : self.character.inventory.findItem itemId with e | x
      · rfl
      · rw [run_ok_bind]
        dsimp only
        rw [if_pos]
        · rfl
        · intro hclass
          exact h ⟨by simpa using hgame, by simpa using hep3, x, hfind, hclass⟩

/-! Adjustments. -/

/-- Reading the meseta on hand as a signed number is harmless while it is
bounded. -/
theorem toInt_toInt32 {meseta : UInt32} (h : meseta ≤ 999999) :
    meseta.toInt32.toInt = meseta.toNat := by
  have hle : meseta.toNat ≤ 999999 := UInt32.le_iff_toNat_le.mp h
  have hsmall : 2 * meseta.toNat < 2 ^ 32 := by omega
  exact BitVec.toInt_eq_toNat_of_lt hsmall

theorem toNat_toUInt32_of_neg {amount : Int32} (h : amount < 0) :
    (amount.toUInt32.toNat : Int) = 2 ^ 32 + amount.toInt := by
  have hneg : amount.toInt < 0 := Int32.lt_iff_toInt_lt.mp h
  have hint : amount.toInt = amount.toUInt32.toBitVec.toInt := rfl
  rw [BitVec.toInt_eq_toNat_cond, UInt32.toNat_toBitVec] at hint
  split at hint <;> omega

theorem adjusted_le {amount : Int32} {meseta : UInt32} (hneg : amount < 0)
    (hmin : amount ≠ Int32.minValue) (hmeseta : meseta ≤ 999999)
    (hcovered : ¬ meseta.toInt32 < -amount) : meseta + amount.toUInt32 ≤ meseta := by
  have hvalue : amount.toInt < 0 := Int32.lt_iff_toInt_lt.mp hneg
  have hlow : -2 ^ 31 < amount.toInt := by
    have hle : -2 ^ 31 ≤ amount.toInt := Int32.minValue_le_toInt amount
    have hne : amount.toInt ≠ -2 ^ 31 := fun h => hmin (Int32.toInt_inj.mp h)
    omega
  have hnegated : (-amount).toInt = -amount.toInt := by
    rw [Int32.toInt_neg, Int.bmod_eq_of_le (by omega) (by omega)]
  rw [Int32.lt_iff_toInt_lt, toInt_toInt32 hmeseta, hnegated] at hcovered
  have hadded := toNat_toUInt32_of_neg hneg
  rw [UInt32.le_iff_toNat_le, UInt32.toNat_add]
  omega

/-- Two to the power of 31 cannot be taken away. -/
theorem not_bounded_minValue {meseta : UInt32} (h : meseta ≤ 999999) :
    ¬ (if meseta.toInt32 < -Int32.minValue then 0 else meseta + Int32.minValue.toUInt32) ≤
      999999 := by
  have hle : meseta.toNat ≤ 999999 := UInt32.le_iff_toNat_le.mp h
  rw [if_neg]
  · rw [UInt32.le_iff_toNat_le, UInt32.toNat_add]
    change ¬ (meseta.toNat + 2147483648) % 2 ^ 32 ≤ 999999
    omega
  · rw [Int32.lt_iff_toInt_lt, toInt_toInt32 h]
    change ¬ (meseta.toNat : Int) < -2 ^ 31
    omega

theorem sound_adjust_iff {self : Session} (hself : Bounded self) (amount : Int32) :
    Sound limits priceForItem self (l, .adjustPlayerMeseta amount) ↔ amount ≠ Int32.minValue := by
  simp only [Sound, program, NoWrap, onAdjustPlayerMesetaBb]
  by_cases hneg : amount < 0
  · simp only [if_pos hneg]
    constructor
    · rintro ⟨⟨hbound, -⟩, -⟩ rfl
      exact not_bounded_minValue hself.1 hbound
    · intro hmin
      have hle : (if self.character.meseta.toInt32 < -amount then 0
          else self.character.meseta + amount.toUInt32) ≤ self.character.meseta := by
        split
        · exact UInt32.le_iff_toNat_le.mpr (Nat.zero_le _)
        · rename_i hcovered
          exact adjusted_le hneg hmin hself.1 hcovered
      exact ⟨⟨UInt32.le_trans hle hself.1, hself.2⟩, fun _ => hle⟩
  · have hmin : amount ≠ Int32.minValue := by
      rintro rfl
      exact hneg (by decide)
    simp only [if_neg hneg]
    refine iff_of_true ⟨?_, fun h => absurd h hneg⟩ hmin
    split
    · have hkeeps : Keeps Bounded (do
          let itemId ← generateItemId l.clientId
          let item :=
            { ItemData.cleared.withByte 0 4 with data2d := amount.toUInt32, id := itemId }
          inCharacter (addItem item limits)
          sendCreateInventoryItemToLobby item false) := by
        refine (keeps_generateItemId (fun _ _ h => h) _).bind fun itemId => ?_
        refine (keeps_inCharacter (keeps_addItem _ _)).bind fun _ => ?_
        exact keeps_send (fun _ _ h => h) _
      exact hkeeps self hself
    · exact hself

/-! Steps and runs. -/

theorem sound_identify_iff {self : Session} (hself : Bounded self)
    (applyTekkerDeltas : TekkerDeltas) (itemId : UInt32) :
    Sound limits priceForItem self (l, .identifyItem applyTekkerDeltas itemId) ↔
      ¬ (Identifies l itemId self ∧ self.character.meseta < 100) := by
  simp only [Sound, program, NoWrap]
  by_cases hidentifies : Identifies l itemId self
  · obtain ⟨hhand, hbank⟩ := identified applyTekkerDeltas hidentifies
    rw [Bounded, hhand, hbank, sub_le_iff]
    simp only [hidentifies, true_and, UInt32.not_lt]
    constructor
    · exact fun h => h.2
    · intro henough
      exact ⟨⟨UInt32.le_trans (sub_le_iff.mpr henough) hself.1, hself.2⟩, henough⟩
  · rw [not_identified applyTekkerDeltas hidentifies]
    exact iff_of_true ⟨hself, UInt32.le_refl _⟩ fun h => hidentifies h.1

theorem noWrap_bankAction (cmd : BankAction) (self : Session) :
    NoWrap limits self
      (finalState ((onEp3PrivateWordSelectBbBankAction limits l cmd).run self))
      (.bankAction cmd) := by
  unfold onEp3PrivateWordSelectBbBankAction
  constructor
  · intro haction
    have hmeseta : Keeps (fun s : Session => s.character.meseta ≤ self.character.meseta)
        (depositMeseta cmd.mesetaAmount) := by
      refine keeps_get_bind fun s hs => ?_
      split
      · exact hs
      · rename_i henough
        split
        · exact hs
        · exact UInt32.le_trans (sub_le_iff.mpr (UInt32.not_lt.mp henough)) hs
    have hitem : Keeps (fun s : Session => s.character.meseta ≤ self.character.meseta)
        (depositItem cmd.itemId cmd.itemAmount limits) := by
      refine ((keeps_removeItem _ _ _ _).zoom (fun _ hs => hs) fun _ _ _ ht => ht).bind
        fun item => ?_
      refine (keeps_inBank_of_character (fun p => p.meseta ≤ self.character.meseta)).bind
        fun _ => ?_
      exact keeps_send (fun _ _ h => h) _
    split
    · exact UInt32.le_refl _
    · split
      · exact hmeseta self (UInt32.le_refl _)
      · exact hitem self (UInt32.le_refl _)
  · intro haction
    have hdeposit : cmd.action ≠ 0 := by simp [haction]
    have hmeseta : Keeps (fun s : Session => s.bank.meseta ≤ self.bank.meseta)
        (takeMeseta cmd.mesetaAmount) := by
      refine keeps_get_bind fun s hs => ?_
      split
      · exact hs
      · rename_i henough
        split
        · exact hs
        · exact UInt32.le_trans (sub_le_iff.mpr (UInt32.not_lt.mp henough)) hs
    have hbank : Keeps (fun bank : BankOperations.PlayerBank => bank.meseta ≤ self.bank.meseta)
        (BankOperations.removeItem cmd.itemId cmd.itemAmount.toUInt32 limits) := by
      intro bank hbank
      rw [(BankOperations.removeItem_meseta _ _ limits bank).1]
      exact hbank
    have hitem : Keeps (fun s : Session => s.bank.meseta ≤ self.bank.meseta)
        (takeItem cmd.itemId cmd.itemAmount l.clientId limits) := by
      refine (hbank.zoom (fun _ hs => hs) fun _ _ _ ht => ht).bind fun item => ?_
      refine (keeps_generateItemId (fun _ _ h => h) _).bind fun newId => ?_
      refine (keeps_inCharacter_of_bank (fun bank => bank.meseta ≤ self.bank.meseta)).bind
        fun _ => ?_
      exact keeps_send (fun _ _ h => h) _
    split
    · exact UInt32.le_refl _
    · split
      · exact hmeseta self (UInt32.le_refl _)
      · exact hitem self (UInt32.le_refl _)

/-- A command is sound exactly if it is checked. -/
theorem sound_iff {self : Session} (hself : Bounded self) (op : Lobby × MesetaCommand) :
    Sound limits priceForItem self op ↔ ¬ Unchecked self op := by
  obtain ⟨l, cmd⟩ := op
  cases cmd with
  | bankAction cmd =>
      exact iff_of_true ⟨bounded_bankAction cmd self hself, noWrap_bankAction cmd self⟩ not_false
  | buyShopItem shops cmd =>
      refine iff_of_true ⟨bounded_buyShopItem shops cmd self hself, ?_⟩ not_false
      intro item hitem
      exact keeps_removeMeseta _ _ _ self.character (UInt32.le_refl _)
  | sellItemAtShop cmd =>
      refine iff_of_true ⟨bounded_sellItemAtShop cmd self hself, ?_⟩ not_false
      exact keeps_removeItem _ _ _ _ self.character (UInt32.le_refl _)
  | identifyItem applyTekkerDeltas itemId =>
      exact sound_identify_iff hself applyTekkerDeltas itemId
  | medicalCenter =>
      refine iff_of_true ⟨bounded_medicalCenter self hself, ?_⟩ not_false
      have hkeeps : Keeps (fun s : Session => s.character.meseta ≤ self.character.meseta)
          (onMedicalCenterBb l) := by
        unfold onMedicalCenterBb
        split
        · exact (readOnly_throw _).keeps
        · exact (keeps_removeMeseta _ _ _).zoom (fun _ hs => hs) fun _ _ _ ht => ht
      exact hkeeps self (UInt32.le_refl _)
  | adjustPlayerMeseta amount => exact sound_adjust_iff hself amount

/-- From a bounded state, all commands of a run are sound exactly if none of
them is unchecked. -/
theorem meseta_run_iff (limits : StackLimits) (priceForItem : PriceForItem) (self : Session)
    (ops : List (Lobby × MesetaCommand)) (hself : Bounded self) :
    (∀ c ∈ trace (call limits priceForItem) self ops, Sound limits priceForItem c.1 c.2) ↔
      ∀ c ∈ trace (call limits priceForItem) self ops, ¬ Unchecked c.1 c.2 := by
  have hiff : ∀ s, Bounded s → ∀ op ∈ ops,
      (Sound limits priceForItem s op ↔ ¬ Unchecked s op) := fun s hs op _ => sound_iff hs op
  have hstep : ∀ s, Bounded s → ∀ op ∈ ops, Sound limits priceForItem s op →
      ∀ r s', call limits priceForItem op s = .ok (r, s') → Bounded s' := by
    intro s hs op hop hsound r s' hrun
    obtain ⟨-, rfl⟩ := attempt_eq_ok.mp hrun
    exact hsound.1
  exact forall_trace_iff Bounded hiff hstep hself

def monomates (count : UInt8) (id : UInt32) : ItemData :=
  (ItemData.ofClass 3 0 id).withByte 5 count

/-- A saber and a stack of monomates. -/
def hunter (meseta : UInt32) : Session where
  character := ⟨meseta, ⟨[⟨1, 0, 0, .ofClass 0 1 0x00010000⟩,
    ⟨1, 0, 0, monomates 3 0x00010001⟩]⟩⟩
  bank := ⟨999999, 200, 0, []⟩
  nextItemIds := Vector.replicate 12 0x00010002
  identifyResult := .cleared
  sent := []

def gameLobby : Lobby := ⟨true, false, 0, 0, false, none⟩

def monomatePrice : PriceForItem := fun _ => .ok 50

/-- Meseta is deposited, paid for an identification and for healing, given for a
stack, and taken back. -/
def ops : List (Lobby × MesetaCommand) :=
  [(gameLobby, .bankAction ⟨0xFFFFFFFF, 100, 0, 0, 0⟩),
    (gameLobby, .identifyItem (fun item _ => .ok item) 0x00010000),
    (gameLobby, .medicalCenter),
    (gameLobby, .sellItemAtShop ⟨0x00010001, 3⟩),
    (gameLobby, .adjustPlayerMeseta (-5000)),
    (gameLobby, .bankAction ⟨0, 100, 1, 0, 0xFFFF⟩)]

theorem meseta_run_iff_hunter :
    (∀ c ∈ trace (call defaultLimits monomatePrice) (hunter 500) ops,
        Sound defaultLimits monomatePrice c.1 c.2) ↔
      ∀ c ∈ trace (call defaultLimits monomatePrice) (hunter 500) ops, ¬ Unchecked c.1 c.2 :=
  meseta_run_iff defaultLimits monomatePrice (hunter 500) ops (by decide)

/-- An identification leaves a poor hunter with over four thousand million. -/
theorem identification_wraps :
    Bounded (hunter 50) ∧
      (finalState ((program defaultLimits monomatePrice gameLobby
        (.identifyItem (fun item _ => .ok item) 0x00010000)).run (hunter 50))).character.meseta =
          4294967246 ∧
      ¬ Sound defaultLimits monomatePrice (hunter 50)
        (gameLobby, .identifyItem (fun item _ => .ok item) 0x00010000) := by
  refine ⟨by decide, by decide +kernel, ?_⟩
  rintro ⟨⟨hbound, -⟩, -⟩
  exact absurd hbound (by decide +kernel)

end HuntersGuild.MesetaBounds
