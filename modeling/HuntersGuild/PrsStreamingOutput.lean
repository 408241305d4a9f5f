import HuntersGuild.PrsStreaming

/-!
The control bits of a `PRSCompressor`: the items it has written, while the last control
byte is not complete.
-/

namespace HuntersGuild.PrsStreamingOutput

open HuntersGuild.ByteStreams
open HuntersGuild.ExceptionRules
open HuntersGuild.InterleavedStream
open HuntersGuild.PrsStreaming

/-- The pending control bits with as many marks in the high byte. -/
def pendingOf (bits : List Bool) : UInt16 :=
  .ofNat (0x100 * (0x100 - 2 ^ (8 - bits.length)) + bitsValue bits * 2 ^ (8 - bits.length))

theorem pendingOf_full {bits : List Bool} (hlen : bits.length ≤ 8) :
    pendingOf bits &&& 0x0100 ≠ 0 ↔ bits.length = 8 := by
  have hall : ∀ n ≤ 8, ∀ v < 2 ^ n,
      (UInt16.ofNat (0x100 * (0x100 - 2 ^ (8 - n)) + v * 2 ^ (8 - n)) &&& 0x0100 ≠ 0 ↔ n = 8) := by
    decide +kernel
  exact hall bits.length hlen _ (bitsValue_lt bits)

theorem pendingOf_concat {bits : List Bool} (hlen : bits.length < 8) (z : Bool) :
    (pendingOf bits >>> 1 ||| if z then 0x8080 else 0x8000) = pendingOf (bits ++ [z]) := by
  have hall : ∀ n < 8, ∀ v < 2 ^ n, ∀ z : Bool,
      (UInt16.ofNat (0x100 * (0x100 - 2 ^ (8 - n)) + v * 2 ^ (8 - n)) >>> 1 ||| if z then 0x8080 else 0x8000) =
        UInt16.ofNat (0x100 * (0x100 - 2 ^ (8 - (n + 1))) + (v + z.toNat * 2 ^ n) * 2 ^ (8 - (n + 1))) := by
    decide +kernel
  rw [pendingOf, hall bits.length hlen _ (bitsValue_lt bits) z, pendingOf, bitsValue_concat, List.length_append]
  rfl

theorem toUInt8_pendingOf {bits : List Bool} (hlen : bits.length = 8) :
    (pendingOf bits).toUInt8 = controlByte bits := by
  have hall : ∀ v < 2 ^ 8, (UInt16.ofNat (0x100 * (0x100 - 2 ^ (8 - 8)) + v * 2 ^ (8 - 8))).toUInt8 = .ofNat v := by
    decide +kernel
  have hlt := bitsValue_lt bits
  rw [hlen] at hlt
  rw [pendingOf, hlen, hall _ hlt, controlByte]

theorem shiftControl_pendingOf {bits : List Bool} (hne : bits ≠ []) (hlen : bits.length ≤ 8) :
    pendingOf bits &&& 0xFF00 ≠ 0 ∧
      (PRSCompressor.shiftControl 16 (pendingOf bits)).toUInt8 = controlByte bits := by
  have hall : ∀ n ≤ 8, n ≠ 0 → ∀ v < 2 ^ n,
      UInt16.ofNat (0x100 * (0x100 - 2 ^ (8 - n)) + v * 2 ^ (8 - n)) &&& 0xFF00 ≠ 0 ∧
        (PRSCompressor.shiftControl 16 (UInt16.ofNat (0x100 * (0x100 - 2 ^ (8 - n)) + v * 2 ^ (8 - n)))).toUInt8 =
          .ofNat v := by
    decide +kernel
  exact hall bits.length hlen (fun hzero => hne (List.length_eq_zero_iff.mp hzero)) _ (bitsValue_lt bits)

/-- The compressor has written exactly these items. -/
inductive Emits (self : PRSCompressor) (items : List (Item UInt8)) : Prop where
  | start (hoffset : self.controlByteOffset = 0) (hpending : self.pendingControlBits = pendingOf [])
      (houtput : self.output = [0]) (hitems : items = [])
  | opened {w : List UInt8} {bits : List Bool} {group : List UInt8} (hne : bits ≠ []) (hlen : bits.length ≤ 8)
      (hoffset : self.controlByteOffset = w.length) (hpending : self.pendingControlBits = pendingOf bits)
      (houtput : self.output = w ++ 0 :: group) (written : Open bitsOfByte w bits group items)

variable {self : PRSCompressor} {items : List (Item UInt8)}

theorem emits_new (level : Int) : Emits (PRSCompressor.new level) [] := .start rfl rfl rfl rfl

theorem Emits.writeControl (h : Emits self items) (z : Bool) :
    Emits (self.writeControl z) (items ++ [.control z]) := by
  have hsingle : pendingOf [z] = if z then 0x8080 else 0x8000 := by
    cases z <;> rfl
  rw [PRSCompressor.writeControl]
  cases h with
  | start hoffset hpending houtput hitems =>
      have hshift := pendingOf_concat (show ([] : List Bool).length < 8 by decide) z
      rw [if_neg (by rw [hpending]; decide), hitems]
      exact @Emits.opened _ _ [] [z] [] (List.cons_ne_nil z []) (show 1 ≤ 8 by decide) hoffset (hpending ▸ hshift)
        houtput (closed_nil.control z)
  | @opened w bits group hne hlen hoffset hpending houtput written =>
      by_cases hfull : bits.length = 8
      · rw [if_pos (hpending ▸ (pendingOf_full hlen).mpr hfull)]
        have hset : self.output.set self.controlByteOffset self.pendingControlBits.toUInt8 =
            w ++ controlByte bits :: group := by
          rw [houtput, hoffset, hpending, toUInt8_pendingOf hfull, List.set_append_right _ _ (Nat.le_refl _),
            Nat.sub_self, List.set_cons_zero]
        refine .opened (List.cons_ne_nil z []) (show 1 ≤ 8 by decide) ?_ hsingle.symm ?_
          ((written.close (bitsOfByte_controlByte hfull)).control z)
        · dsimp only
          rw [houtput, List.length_append, List.length_append, List.length_cons, List.length_cons]
        · dsimp only
          rw [hset]
      · have hlt : bits.length < 8 := Nat.lt_of_le_of_ne hlen hfull
        rw [if_neg (hpending ▸ mt (pendingOf_full hlen).mp hfull)]
        refine .opened (List.append_ne_nil_of_right_ne_nil bits (List.cons_ne_nil z [])) ?_ hoffset ?_ houtput
          (written.control z)
        · rw [List.length_append]
          exact hlt
        · dsimp only
          rw [hpending, pendingOf_concat hlt]

theorem Emits.putU8 (h : Emits self items) (hnil : items ≠ []) (v : UInt8) :
    Emits (self.putU8 v) (items ++ [.data v]) := by
  cases h with
  | start _ _ _ hitems => exact absurd hitems hnil
  | @opened w bits group hne hlen hoffset hpending houtput written =>
      refine @Emits.opened _ _ w bits (group ++ [v]) hne hlen hoffset hpending ?_ (written.data v)
      rw [PRSCompressor.putU8, houtput, List.append_assoc, List.cons_append]

/-- Only what was written counts. -/
theorem Emits.of_eq {other : PRSCompressor} (h : Emits self items)
    (hoffset : other.controlByteOffset = self.controlByteOffset)
    (hpending : other.pendingControlBits = self.pendingControlBits) (houtput : other.output = self.output) :
    Emits other items := by
  cases h with
  | start hoffset' hpending' houtput' hitems =>
      exact .start (hoffset.trans hoffset') (hpending.trans hpending') (houtput.trans houtput') hitems
  | opened hne hlen hoffset' hpending' houtput' written =>
      exact .opened hne hlen (hoffset.trans hoffset') (hpending.trans hpending') (houtput.trans houtput') written

/-- The missing bits of the last control byte are zero, and no reader asks for them. -/
theorem Emits.flushControl (h : Emits self items) (hnil : items ≠ []) :
    ∃ self' pending, self.flushControl = .ok self' ∧
      Reads bitsOfByte ⟨[], self'.output⟩ items ⟨pending, []⟩ := by
  cases h with
  | start _ _ _ hitems => exact absurd hitems hnil
  | @opened w bits group hne hlen hoffset hpending houtput written =>
      obtain ⟨hmarked, hbyte⟩ := shiftControl_pendingOf hne hlen
      have hset : self.output.set self.controlByteOffset (controlByte bits) = w ++ controlByte bits :: group := by
        rw [houtput, hoffset, List.set_append_right _ _ (Nat.le_refl _), Nat.sub_self, List.set_cons_zero]
      have hread := written (controlByte bits) [] (isPrefix_bitsOfByte hlen)
      rw [List.append_nil] at hread
      have hflush : self.flushControl = .ok { self with
          pendingControlBits := PRSCompressor.shiftControl 16 (pendingOf bits)
          output := w ++ controlByte bits :: group } := by
        rw [PRSCompressor.flushControl, if_pos (hpending ▸ hmarked), hpending]
        dsimp only
        rw [hbyte, hset, pure_eq_ok]
      exact ⟨_, _, hflush, hread⟩

end HuntersGuild.PrsStreamingOutput
