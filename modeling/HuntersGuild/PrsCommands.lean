import HuntersGuild.SlidingCopy
import HuntersGuild.ByteStreams

/-!
The PRS format: what its commands mean, and how a command is laid out in
control bits and data bytes.
-/

namespace HuntersGuild.PrsCommands

open HuntersGuild.InterleavedStream
open HuntersGuild.SlidingCopy
open HuntersGuild.ByteStreams

/-- The commands of a PRS stream, except the stop command. A copy goes back
`distance` bytes in the output. -/
inductive Command where
  | literal (value : UInt8)
  | shortCopy (distance count : Nat) (hdistance : 1 ≤ distance ∧ distance ≤ 0x100)
      (hcount : 2 ≤ count ∧ count ≤ 5)
  | longCopy (distance count : Nat) (hdistance : 1 ≤ distance ∧ distance ≤ 0x1FFF)
      (hcount : 3 ≤ count ∧ count ≤ 9)
  | extendedCopy (distance count : Nat) (hdistance : 1 ≤ distance ∧ distance ≤ 0x1FFF)
      (hcount : 1 ≤ count ∧ count ≤ 0x100)

/-- The items of a two-byte offset field with the given size field. -/
def offsetItems (distance sizeField : Nat) : List (Item UInt8) :=
  [.data (UInt8.ofNat (((0x2000 - distance) * 8 + sizeField) % 0x100)),
    .data (UInt8.ofNat (((0x2000 - distance) * 8 + sizeField) / 0x100))]

def Command.items : Command → List (Item UInt8)
  | .literal value => [.control true, .data value]
  | .shortCopy distance count _ _ =>
      [.control false, .control false, .control ((count - 2).testBit 1),
        .control ((count - 2).testBit 0), .data (UInt8.ofNat (0x100 - distance))]
  | .longCopy distance count _ _ =>
      [.control false, .control true] ++ offsetItems distance (count - 2)
  | .extendedCopy distance count _ _ =>
      [.control false, .control true] ++ offsetItems distance 0 ++
        [.data (UInt8.ofNat (count - 1))]

def stopItems : List (Item UInt8) :=
  [.control false, .control true, .data 0, .data 0]

/-- The number of output bytes that a command produces. -/
def Command.size : Command → Nat
  | .literal _ => 1
  | .shortCopy _ count _ _ | .longCopy _ count _ _ | .extendedCopy _ count _ _ => count

/-- The number of bits that a command takes in the stream. -/
def Command.bits : Command → Nat
  | .literal _ => 9
  | .shortCopy .. => 12
  | .longCopy .. => 18
  | .extendedCopy .. => 26

theorem Command.bits_eq (command : Command) :
    command.bits = controlCount command.items + 8 * dataCount command.items := by
  cases command <;> rfl

/-- Copy from `distance` bytes back, which must not be before the beginning of
the output. -/
def copyBack (distance count : Nat) (out : List UInt8) : Option (List UInt8) :=
  if distance ≤ out.length then some (extend distance count out) else none

/-- The output after a command. -/
def Command.exec (out : List UInt8) : Command → Option (List UInt8)
  | .literal value => some (out ++ [value])
  | .shortCopy distance count _ _ => copyBack distance count out
  | .longCopy distance count _ _ => copyBack distance count out
  | .extendedCopy distance count _ _ => copyBack distance count out

def execAll (commands : List Command) (out : List UInt8) : Option (List UInt8) :=
  commands.foldlM Command.exec out

def itemsOf (commands : List Command) : List (Item UInt8) :=
  commands.flatMap Command.items

def bitsOf (commands : List Command) : Nat :=
  (commands.map Command.bits).sum

theorem itemsOf_concat (commands : List Command) (command : Command) :
    itemsOf (commands ++ [command]) = itemsOf commands ++ command.items := by
  simp [itemsOf]

theorem bitsOf_concat (commands : List Command) (command : Command) :
    bitsOf (commands ++ [command]) = bitsOf commands + command.bits := by
  simp [bitsOf]

theorem bitsOf_eq (commands : List Command) :
    bitsOf commands =
      controlCount (itemsOf commands) + 8 * dataCount (itemsOf commands) := by
  induction commands with
  | nil => rfl
  | cons command commands ih =>
      simp only [bitsOf, itemsOf, List.map_cons, List.sum_cons, List.flatMap_cons,
        controlCount_append, dataCount_append] at ih ⊢
      rw [ih, command.bits_eq]
      omega

theorem execAll_concat (commands : List Command) (command : Command) (out : List UInt8) :
    execAll (commands ++ [command]) out =
      (execAll commands out).bind fun out' => command.exec out' := by
  simp [execAll, List.foldlM_append]

theorem exec_length {command : Command} {out out' : List UInt8}
    (h : command.exec out = some out') : out'.length = out.length + command.size := by
  cases command with
  | literal value =>
      obtain rfl := Option.some.inj h
      simp [Command.size]
  | shortCopy distance count hdistance _ | longCopy distance count hdistance _
  | extendedCopy distance count hdistance _ =>
      simp only [Command.exec, copyBack] at h
      split at h
      · obtain rfl := Option.some.inj h
        exact extend_length count hdistance.1 (by assumption)
      · cases h

theorem exec_isPrefix {command : Command} {out out' : List UInt8}
    (h : command.exec out = some out') : out <+: out' := by
  cases command with
  | literal value =>
      obtain rfl := Option.some.inj h
      exact List.prefix_append _ _
  | shortCopy distance count | longCopy distance count | extendedCopy distance count =>
      simp only [Command.exec, copyBack] at h
      split at h
      · obtain rfl := Option.some.inj h
        exact isPrefix_extend _ _ _
      · cases h

end HuntersGuild.PrsCommands
