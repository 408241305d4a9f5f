import HuntersGuild.ExpressionRoundTrip

/-!
Expressions as they are written: operators of ten levels, with the operators of
one level from left to right.
-/

namespace HuntersGuild.ExpressionGrammar

open HuntersGuild.ExpressionScans
open HuntersGuild.Numerals
open HuntersGuild.QuestExpressions

/-- A constant, or a lookup. The digits of a flag are hexadecimal; the stages of
a challenge are counted from one. -/
inductive Leaf where
  | constant (value : Nat)
  | truth (value : Bool)
  | flagLookup (digits : Text)
  | challengeCompletionLookup (episode : Episode) (stage : Nat)
  | teamRewardLookup (rewardName : Text)
  | numPlayersLookup
  | eventLookup
  | v1PresenceLookup

def Leaf.text : Leaf → Text
  | .constant value => Nat.toDigits 10 value
  | .truth value => if value then "true".toList else "false".toList
  | .flagLookup digits => "F_".toList ++ digits
  | .challengeCompletionLookup episode stage =>
      "CC_".toList ++ (abbreviationForEpisode episode ++ '_' :: Nat.toDigits 10 stage)
  | .teamRewardLookup rewardName => "T_".toList ++ rewardName
  | .numPlayersLookup => "V_NumPlayers".toList
  | .eventLookup => "V_Event".toList
  | .v1PresenceLookup => "V_V1Present".toList

def Leaf.node : Leaf → Node
  | .constant value => .constant (Int64.ofNat value)
  | .truth value => .constant (ofBool value)
  | .flagLookup digits => .flagLookup (UInt16.ofNat (scanDigits 16 0 digits).1)
  | .challengeCompletionLookup episode stage =>
      .challengeCompletionLookup episode (UInt8.ofNat (stage - 1))
  | .teamRewardLookup rewardName => .teamRewardLookup rewardName
  | .numPlayersLookup => .numPlayersLookup
  | .eventLookup => .eventLookup
  | .v1PresenceLookup => .v1PresenceLookup

/-- Constants fit, flags and stages exist, and names are identifiers. -/
def Leaf.Valid : Leaf → Prop
  | .constant value => value < 2 ^ 63
  | .flagLookup digits =>
      digits ≠ [] ∧ (∀ c ∈ digits, (digit? 16 c).isSome) ∧ (scanDigits 16 0 digits).1 < 0x400
  | .challengeCompletionLookup episode stage =>
      1 ≤ stage ∧ (episode = .ep1 ∧ stage ≤ 9 ∨ episode = .ep2 ∧ stage ≤ 5)
  | .teamRewardLookup rewardName => ∀ c ∈ rewardName, isWordChar c
  | _ => True

/-- An expression, with the numbers of spaces between its parts. -/
inductive Expr where
  | leaf (word : Leaf)
  | parens (before : Nat) (sub : Expr) (behind : Nat)
  | unary (type : UnaryOperator) (spaces : Nat) (sub : Expr)
  | binary (left : Expr) (before : Nat) (type : BinaryOperator) (behind : Nat) (right : Expr)

def spaces (count : Nat) : Text := List.replicate count ' '

/-- There is at least one space at each side of a binary operator. -/
def Expr.text : Expr → Text
  | .leaf word => word.text
  | .parens before sub behind => enclosed (spaces before ++ (sub.text ++ spaces behind))
  | .unary type count sub => type.char :: (spaces count ++ sub.text)
  | .binary left before type behind right =>
      left.text ++ (spaces (before + 1) ++ (type.text ++ (spaces (behind + 1) ++ right.text)))

/-- The place of an operator among the ten levels. -/
def level (type : BinaryOperator) : Nat :=
  binaryOperatorLevels.findIdx (·.contains type)

/-- Unary operators bind tighter than binary ones. -/
def Expr.level : Expr → Nat
  | .leaf _ | .parens _ _ _ => 11
  | .unary _ _ _ => 10
  | .binary _ _ type _ _ => ExpressionGrammar.level type

/-- The text has the structure of the expression: the left side of an operator
may hold further operators of its level, the right side only tighter ones. -/
def Expr.WellFormed : Expr → Prop
  | .leaf word => word.Valid
  | .parens _ sub _ => sub.WellFormed
  | .unary _ _ sub => sub.WellFormed ∧ 10 ≤ sub.level
  | .binary left _ type _ right => left.WellFormed ∧ right.WellFormed ∧
      ExpressionGrammar.level type ≤ left.level ∧ ExpressionGrammar.level type < right.level

/-- The tree that the grammar gives. -/
def Expr.tree : Expr → Node
  | .leaf word => word.node
  | .parens _ sub _ => sub.tree
  | .unary type _ sub => .unaryOperator type sub.tree
  | .binary left _ type _ right => .binaryOperator type left.tree right.tree

def Expr.MinusFree : Expr → Prop
  | .leaf _ => True
  | .parens _ sub _ => sub.MinusFree
  | .unary type _ sub => type ≠ .negative ∧ sub.MinusFree
  | .binary left _ _ _ right => left.MinusFree ∧ right.MinusFree

/-- No two operators of one level follow each other without parentheses. -/
def Expr.ChainFree : Expr → Prop
  | .leaf _ => True
  | .parens _ sub _ => sub.ChainFree
  | .unary _ _ sub => sub.ChainFree
  | .binary left _ type _ right =>
      left.level ≠ ExpressionGrammar.level type ∧ left.ChainFree ∧ right.ChainFree

/-! ## The trees of the parser -/

def close (node : Node) : Option (BinaryOperator × Node) → Node
  | none => node
  | some (type, right) => .binaryOperator type node right

/-- The tree of an expression with a further operator and its right side behind
it, when the operators of one level are applied from right to left. -/
def Expr.attach : Expr → Option (BinaryOperator × Node) → Node
  | .leaf word, behind => close word.node behind
  | .parens _ sub _, behind => close (sub.attach none) behind
  | .unary type _ sub, behind => close (.unaryOperator type (sub.attach none)) behind
  | .binary left _ type _ right, none => left.attach (some (type, right.attach none))
  | .binary left _ type _ right, some (type', node) =>
      if ExpressionGrammar.level type' = ExpressionGrammar.level type then
        left.attach (some (type, .binaryOperator type' (right.attach none) node))
      else
        .binaryOperator type' (left.attach (some (type, right.attach none))) node

def nodeCount : Node → Nat
  | .binaryOperator _ left right => nodeCount left + nodeCount right + 1
  | .unaryOperator _ sub => nodeCount sub + 1
  | _ => 1

theorem level_lt (type : BinaryOperator) : level type < 10 := by
  cases type <;> decide

theorem attach_of_level_ne {e : Expr} {type : BinaryOperator} (h : e.level ≠ level type)
    (node : Node) : e.attach (some (type, node)) = .binaryOperator type (e.attach none) node := by
  cases e with
  | leaf word => rfl
  | parens before sub behind => rfl
  | unary type' count sub => rfl
  | binary left before type' behind right =>
      have hne : ¬ level type = level type' := fun heq => h heq.symm
      simp only [Expr.attach, if_neg hne]

/-- No operator is lost. -/
theorem nodeCount_attach (e : Expr) (behind : Option (BinaryOperator × Node)) :
    nodeCount (e.attach behind) = nodeCount (close e.tree behind) := by
  have hclose : ∀ {node node' : Node}, nodeCount node = nodeCount node' →
      ∀ behind, nodeCount (close node behind) = nodeCount (close node' behind) := by
    intro node node' h behind
    cases behind with
    | none => exact h
    | some pending => simp only [close, nodeCount, h]
  induction e generalizing behind with
  | leaf word => rfl
  | parens before sub count ih => exact hclose (ih none) behind
  | unary type count sub ih =>
      refine hclose ?_ behind
      simp only [nodeCount]
      exact congrArg (· + 1) (ih none)
  | binary left before type count right ihleft ihright =>
      have hright := ihright none
      cases behind with
      | none =>
          simp only [Expr.attach, ihleft, Expr.tree, close, nodeCount] at hright ⊢
          omega
      | some pending =>
          obtain ⟨type', node⟩ := pending
          simp only [close] at hright
          simp only [Expr.attach]
          split
          · simp only [ihleft, Expr.tree, close, nodeCount, hright]
            omega
          · simp only [ihleft, Expr.tree, close, nodeCount, hright]

/-- In a chain the first operator is at the root. -/
theorem exists_attach_of_level_eq {e : Expr} {type : BinaryOperator} (h : e.level = level type)
    (node : Node) :
    ∃ first left right, e.attach (some (type, node)) = .binaryOperator first left right ∧
      nodeCount left < nodeCount e.tree := by
  have hlt := level_lt type
  induction e generalizing type node with
  | leaf word => simp only [Expr.level] at h; omega
  | parens before sub count => simp only [Expr.level] at h; omega
  | unary type' count sub => simp only [Expr.level] at h; omega
  | binary left before type' count right ihleft ihright =>
      have heq : level type = level type' := h.symm
      have hsub : nodeCount left.tree < nodeCount (Expr.binary left before type' count right).tree := by
        simp only [Expr.tree, nodeCount]
        omega
      rw [Expr.attach, if_pos heq]
      by_cases hchain : left.level = level type'
      · obtain ⟨first, l, r, hattach, hcount⟩ := ihleft hchain _ (level_lt type')
        exact ⟨first, l, r, hattach, hcount.trans hsub⟩
      · refine ⟨type', left.attach none, _, attach_of_level_ne hchain _, ?_⟩
        rw [nodeCount_attach]
        exact hsub

/-- The tree of the parser is the tree of the grammar exactly when there are no
chains. -/
theorem attach_eq_tree_iff (e : Expr) : e.attach none = e.tree ↔ e.ChainFree := by
  induction e with
  | leaf word => exact iff_of_true rfl trivial
  | parens before sub count ih => exact ih
  | unary type count sub ih =>
      refine Iff.trans ?_ ih
      simp only [Expr.attach, close, Expr.tree, Node.unaryOperator.injEq, true_and]
  | binary left before type count right ihleft ihright =>
      rw [Expr.attach, Expr.tree, Expr.ChainFree]
      by_cases hchain : left.level = level type
      · obtain ⟨first, l, r, hattach, hcount⟩ := exists_attach_of_level_eq hchain (right.attach none)
        rw [hattach]
        refine iff_of_false ?_ fun h => h.1 hchain
        intro heq
        obtain ⟨-, rfl, -⟩ := Node.binaryOperator.inj heq
        exact Nat.lt_irrefl _ hcount
      · rw [attach_of_level_ne hchain]
        simp only [Node.binaryOperator.injEq, true_and, ihleft, ihright, ne_eq, hchain,
          not_false_eq_true]

end HuntersGuild.ExpressionGrammar
