import HuntersGuild.ExpressionGrammar

/-!
What the parser makes of the expressions of the grammar.
-/

namespace HuntersGuild.ExpressionParsing

open HuntersGuild.ExceptionRules
open HuntersGuild.ExpressionGrammar
open HuntersGuild.ExpressionRoundTrip
open HuntersGuild.ExpressionScans
open HuntersGuild.Numerals
open HuntersGuild.QuestExpressions

/-! ## Texts that are passed over -/

/-- The scan for some operators finds none in a text, whatever is around it. -/
def Silent (operators : List BinaryOperator) (text : Text) : Prop :=
  ∀ before rest, findOperator operators 0 before (text ++ rest) =
    findOperator operators 0 (text.reverse ++ before) rest

theorem Silent.append {operators : List BinaryOperator} {text text' : Text}
    (h : Silent operators text) (h' : Silent operators text') : Silent operators (text ++ text') := by
  intro before rest
  rw [List.append_assoc, h, h', List.reverse_append, List.append_assoc]

theorem Silent.findOperator_eq_none {operators : List BinaryOperator} {text : Text}
    (h : Silent operators text) : findOperator operators 0 [] text = none := by
  have hscan := h [] []
  rw [List.append_nil] at hscan
  rw [hscan]
  rfl

theorem silent_char {operators : List BinaryOperator} {c : Char} (hopen : c ≠ '(')
    (hclose : c ≠ ')') (h : ∀ type : BinaryOperator, type.text.head? ≠ some c) :
    Silent operators [c] := by
  intro before rest
  cases rest with
  | nil => rfl
  | cons d cs => exact findOperator_skip hopen hclose fun type _ => matchesHere_of_head (h type)

theorem silent_of_chars {operators : List BinaryOperator} {text : Text}
    (h : ∀ c ∈ text, Silent operators [c]) : Silent operators text := by
  induction text with
  | nil => exact fun _ _ => rfl
  | cons c cs ih =>
      have hrest := ih fun d hd => h d (List.mem_cons_of_mem c hd)
      exact Silent.append (h c List.mem_cons_self) hrest

theorem silent_word {operators : List BinaryOperator} {text : Text}
    (h : ∀ c ∈ text, isWordChar c) : Silent operators text := by
  refine silent_of_chars fun c hc => ?_
  obtain ⟨hopen, hclose⟩ := ne_paren_of_isWordChar (h c hc)
  refine silent_char hopen hclose fun type hhead => ?_
  exact absurd (h c hc) (by rw [not_isWordChar_of_text type c hhead]; decide)

theorem silent_spaces (operators : List BinaryOperator) (count : Nat) :
    Silent operators (spaces count) := by
  refine silent_of_chars fun c hc => ?_
  obtain rfl := List.eq_of_mem_replicate hc
  refine silent_char (by decide) (by decide) fun type hhead => ?_
  exact space_not_mem_text type (List.mem_of_head? hhead)

theorem silent_enclosed {inner : Text} (h : Balanced inner) (operators : List BinaryOperator) :
    Silent operators (enclosed inner) := by
  intro before rest
  cases rest with
  | nil =>
      rw [List.append_nil, findOperator_enclosed h]
      rfl
  | cons c cs =>
      rw [findOperator_group h operators before (List.cons_ne_nil c cs)]
      simp [enclosed]

/-- The operator between two sides. -/
theorem findOperator_token {operators : List BinaryOperator} (hmem : operators ∈ binaryOperatorLevels)
    (type : BinaryOperator) (before : Text) (c : Char) (cs : Text) :
    findOperator operators 0 (' ' :: before) (type.text ++ ' ' :: c :: cs) =
      if type ∈ operators then some (before.length + 1, type)
      else findOperator operators 0 (type.text.reverse ++ ' ' :: before) (' ' :: c :: cs) := by
  have hparens : ∀ c ∈ type.text, c ≠ '(' ∧ c ≠ ')' := forall_mem_of_all (by cases type <;> decide)
  have hscan := findOperator_between operators [] before hparens c cs
  rw [findOperator_alone type operators hmem] at hscan
  refine hscan.trans ?_
  by_cases hin : type ∈ operators
  · simp only [if_pos hin, Nat.zero_add]
  · simp only [if_neg hin]
    rfl

theorem spaces_succ (count : Nat) : spaces (count + 1) = ' ' :: spaces count := rfl

/-- A binary operation up to its right side. -/
def leftPart (left : Text) (before : Nat) (type : BinaryOperator) (rest : Text) : Text :=
  left ++ (spaces (before + 1) ++ (type.text ++ ' ' :: rest))

theorem findOperator_leftPart {operators : List BinaryOperator}
    (hmem : operators ∈ binaryOperatorLevels) {left : Text} (hleft : Silent operators left)
    (count : Nat) (type : BinaryOperator) {rest : Text} (hrest : rest ≠ []) (before : Text) :
    findOperator operators 0 before (leftPart left count type rest) =
      if type ∈ operators then some (before.length + (left.length + (count + 1)), type)
      else findOperator operators 0
        (type.text.reverse ++ (spaces (count + 1) ++ (left.reverse ++ before))) (' ' :: rest) := by
  obtain ⟨c, cs, rfl⟩ := List.exists_cons_of_ne_nil hrest
  have hreverse : (spaces (count + 1)).reverse = spaces (count + 1) := List.reverse_replicate
  rw [leftPart, hleft, silent_spaces operators (count + 1), hreverse, spaces_succ, List.cons_append,
    findOperator_token hmem]
  refine if_congr Iff.rfl (congrArg some (congrArg (·, type) ?_)) rfl
  simp only [spaces, List.length_append, List.length_replicate, List.length_reverse]
  omega

theorem Silent.leftPart {operators : List BinaryOperator} (hmem : operators ∈ binaryOperatorLevels)
    {left : Text} (hleft : Silent operators left) (count : Nat) {type : BinaryOperator}
    (htype : type ∉ operators) {rest : Text} (hne : rest ≠ []) (hrest : Silent operators rest) :
    Silent operators (leftPart left count type rest) := by
  intro before after
  have happend : ExpressionParsing.leftPart left count type rest ++ after =
      ExpressionParsing.leftPart left count type (rest ++ after) := by
    simp only [ExpressionParsing.leftPart, List.append_assoc, List.cons_append]
  have hspace : Silent operators (' ' :: rest) := (silent_spaces operators 1).append hrest
  have hspace' := hspace (type.text.reverse ++ (spaces (count + 1) ++ (left.reverse ++ before))) after
  rw [happend, findOperator_leftPart hmem hleft count type
    (List.append_ne_nil_of_left_ne_nil hne after), if_neg htype]
  refine hspace'.trans ?_
  simp [ExpressionParsing.leftPart, spaces]

/-! ## The first operator of the lowest level -/

/-- The levels before the one of a number. -/
def levelsBelow (bound : Nat) : List (List BinaryOperator) := binaryOperatorLevels.take bound

theorem levelsBelow_subset {bound : Nat} {operators : List BinaryOperator}
    (h : operators ∈ levelsBelow bound) : operators ∈ binaryOperatorLevels :=
  List.mem_of_mem_take h

theorem levelsBelow_mono {bound bound' : Nat} (hle : bound ≤ bound')
    {operators : List BinaryOperator} (h : operators ∈ levelsBelow bound) :
    operators ∈ levelsBelow bound' :=
  (List.take_subset_take_left binaryOperatorLevels hle) h

/-- An operator is on its level only. -/
theorem not_mem_of_levelsBelow (type : BinaryOperator) :
    ∀ operators ∈ levelsBelow (level type), type ∉ operators := by
  cases type <;> decide

theorem exists_level (type : BinaryOperator) : ∃ operators ∈ levelsBelow (level type + 1),
    type ∈ operators ∧ ∃ behind,
      binaryOperatorLevels = levelsBelow (level type) ++ operators :: behind := by
  cases type <;> exact ⟨_, by decide, by decide, _, rfl⟩

theorem findRootOperator_leftPart {left rest : Text} {type : BinaryOperator}
    (hleft : ∀ operators ∈ levelsBelow (level type + 1), Silent operators left) (count : Nat)
    (hne : rest ≠ []) (hrest : ∀ operators ∈ levelsBelow (level type), Silent operators rest) :
    findRootOperator (leftPart left count type rest) = some (left.length + (count + 1), type) := by
  obtain ⟨operators, hmem, htype, behind, hlevels⟩ := exists_level type
  have hbelow : (levelsBelow (level type)).findSome?
      (fun operators => findOperator operators 0 [] (leftPart left count type rest)) = none := by
    refine List.findSome?_eq_none_iff.mpr fun lower hlower => ?_
    have hsilent := (hleft lower (levelsBelow_mono (Nat.le_succ _) hlower)).leftPart
      (levelsBelow_subset hlower) count (not_mem_of_levelsBelow type lower hlower) hne
      (hrest lower hlower)
    exact hsilent.findOperator_eq_none
  have hfound := findOperator_leftPart (levelsBelow_subset hmem) (hleft operators hmem) count type hne []
  rw [if_pos htype, List.length_nil, Nat.zero_add] at hfound
  rw [findRootOperator, hlevels, List.findSome?_append, hbelow, Option.none_or, List.findSome?_cons,
    hfound]

/-! ## The texts of expressions -/

theorem isWordChar_of_digit? {base : Nat} {c : Char} (h : (digit? base c).isSome) : isWordChar c := by
  have hvalue : (digitValue? c).isSome := by
    obtain ⟨d, hd⟩ := Option.isSome_iff_exists.mp h
    exact Option.isSome_iff_exists.mpr ⟨d, (Option.filter_eq_some_iff.mp hd).1⟩
  have halnum : c.isAlphanum := by
    change (c.isUpper || c.isLower || c.isDigit) = true
    rw [Bool.or_eq_true, Bool.or_eq_true]
    unfold digitValue? at hvalue
    split at hvalue
    · rename_i hrange
      exact .inr (Char.isDigit_iff_toNat.mpr hrange)
    · split at hvalue
      · rename_i hrange
        refine .inl (.inr ?_)
        change (decide _ && decide _) = true
        simpa [UInt32.le_iff_toNat_le] using hrange
      · split at hvalue
        · rename_i hrange
          refine .inl (.inl (decide_eq_true ?_))
          simpa [UInt32.le_iff_toNat_le] using hrange
        · cases hvalue
  rw [isWordChar, halnum, Bool.true_or]

theorem Leaf.text_word {word : Leaf} (h : word.Valid) : ∀ c ∈ word.text, isWordChar c := by
  cases word with
  | constant value => exact isWordChar_toDigits value
  | truth value => exact forall_mem_of_all (by cases value <;> decide)
  | flagLookup digits =>
      have hname : ∀ c ∈ "F_".toList, isWordChar c := forall_mem_of_all (by decide)
      refine isWordChar_append hname fun c hc => ?_
      exact isWordChar_of_digit? (h.2.1 c hc)
  | challengeCompletionLookup episode stage =>
      have hname : ∀ c ∈ "CC_".toList, isWordChar c := forall_mem_of_all (by decide)
      have hepisode : ∀ c ∈ abbreviationForEpisode episode ++ ['_'], isWordChar c :=
        forall_mem_of_all (by cases episode <;> decide)
      have hdigits := isWordChar_append hepisode (isWordChar_toDigits stage)
      rw [List.append_assoc] at hdigits
      exact isWordChar_append hname hdigits
  | teamRewardLookup rewardName =>
      have hname : ∀ c ∈ "T_".toList, isWordChar c := forall_mem_of_all (by decide)
      exact isWordChar_append hname h
  | numPlayersLookup => exact forall_mem_of_all (by decide)
  | eventLookup => exact forall_mem_of_all (by decide)
  | v1PresenceLookup => exact forall_mem_of_all (by decide)

theorem Leaf.text_ne_nil (word : Leaf) : word.text ≠ [] := by
  cases word with
  | constant value => exact Nat.toDigits_ne_nil
  | truth value => cases value <;> decide
  | flagLookup digits => exact List.cons_ne_nil _ _
  | challengeCompletionLookup episode stage => exact List.cons_ne_nil _ _
  | teamRewardLookup rewardName => exact List.cons_ne_nil _ _
  | numPlayersLookup => decide
  | eventLookup => decide
  | v1PresenceLookup => decide

theorem text_binary (left : Expr) (before : Nat) (type : BinaryOperator) (behind : Nat)
    (right : Expr) : (Expr.binary left before type behind right).text =
      leftPart left.text before type (spaces behind ++ right.text) := rfl

theorem balanced_spaces (count : Nat) : Balanced (spaces count) := by
  refine .of_chars fun c hc => ?_
  obtain rfl := List.eq_of_mem_replicate hc
  exact ⟨by decide, by decide⟩

theorem balanced_text {e : Expr} (h : e.WellFormed) : Balanced e.text := by
  induction e with
  | leaf word => exact .of_word (Leaf.text_word h)
  | parens before sub behind ih =>
      exact ((balanced_spaces before).append ((ih h).append (balanced_spaces behind))).parens
  | unary type count sub ih =>
      refine .char ?_ ?_ ((balanced_spaces count).append (ih h.1))
      · cases type <;> decide
      · cases type <;> decide
  | binary left before type behind right ihleft ihright =>
      have htype : Balanced type.text := .of_chars (forall_mem_of_all (by cases type <;> decide))
      exact (ihleft h.1).append ((balanced_spaces _).append
        (htype.append ((balanced_spaces _).append (ihright h.2.1))))

/-- Neither a space nor an equals sign is in front. -/
theorem exists_head_text {e : Expr} (h : e.WellFormed) :
    ∃ c cs, e.text = c :: cs ∧ c ≠ ' ' ∧ c ≠ '=' := by
  induction e with
  | leaf word =>
      obtain ⟨c, cs, hcs⟩ := List.exists_cons_of_ne_nil (Leaf.text_ne_nil word)
      have hc := Leaf.text_word h c (hcs ▸ List.mem_cons_self)
      refine ⟨c, cs, hcs, ?_, ?_⟩
      · rintro rfl
        cases hc
      · rintro rfl
        cases hc
  | parens before sub behind ih => exact ⟨'(', _, rfl, by decide, by decide⟩
  | unary type count sub ih =>
      refine ⟨type.char, _, rfl, ?_, ?_⟩
      · cases type <;> decide
      · cases type <;> decide
  | binary left before type behind right ihleft ihright =>
      obtain ⟨c, cs, hcs, hc⟩ := ihleft h.1
      refine ⟨c, cs ++ (spaces (before + 1) ++ (type.text ++ (spaces (behind + 1) ++ right.text))),
        ?_, hc⟩
      rw [Expr.text, hcs]
      rfl

theorem text_ne_nil {e : Expr} (h : e.WellFormed) : e.text ≠ [] := by
  obtain ⟨c, cs, hcs, -⟩ := exists_head_text h
  rw [hcs]
  exact List.cons_ne_nil c cs

theorem getLast?_append_of_ne_nil {α : Type} (front : List α) {back : List α} (h : back ≠ []) :
    (front ++ back).getLast? = back.getLast? := by
  rw [List.getLast?_append, Option.or_of_isSome]
  exact List.getLast?_isSome.mpr h

theorem last_text {e : Expr} (h : e.WellFormed) : e.text.getLast? ≠ some ' ' := by
  induction e with
  | leaf word => exact fun hlast => nomatch Leaf.text_word h ' ' (List.mem_of_getLast? hlast)
  | parens before sub behind ih =>
      intro hlast
      have hparen := getLast?_append_enclosed [] (spaces before ++ (sub.text ++ spaces behind))
      cases hparen.symm.trans hlast
  | unary type count sub ih =>
      have hne := text_ne_nil h.1
      rw [Expr.text, ← List.cons_append, getLast?_append_of_ne_nil _ hne]
      exact ih h.1
  | binary left before type behind right ihleft ihright =>
      have hne := text_ne_nil h.2.1
      rw [Expr.text, ← List.append_assoc, ← List.append_assoc, ← List.append_assoc,
        getLast?_append_of_ne_nil _ hne]
      exact ihright h.2.1

/-- A unary operator is not the start of a binary one. -/
theorem Silent.unary {operators : List BinaryOperator} {type : UnaryOperator}
    (htype : type ≠ .negative) {text : Text} (h : Silent operators text)
    (hhead : ∃ c cs, text = c :: cs ∧ c ≠ '=') : Silent operators (type.char :: text) := by
  obtain ⟨c, cs, rfl, hc⟩ := hhead
  intro before rest
  have hskip : findOperator operators 0 before (type.char :: c :: (cs ++ rest)) =
      findOperator operators 0 (type.char :: before) (c :: (cs ++ rest)) := by
    refine findOperator_skip ?_ ?_ fun other _ => ?_
    · cases type <;> decide
    · cases type <;> decide
    · have hfront : other.text.isPrefixOf (type.char :: c :: (cs ++ rest)) = false := by
        have hequals : ('=' == c && true) = false := by rw [beq_false_of_ne hc.symm, Bool.false_and]
        cases type with
        | logicalNot => cases other <;> first | rfl | exact hequals
        | bitwiseNot => cases other <;> rfl
        | negative => exact absurd rfl htype
      rw [matchesHere, hfront, Bool.and_false, Bool.false_and]
  have hrest := h (type.char :: before) rest
  rw [List.cons_append, List.cons_append, hskip, ← List.cons_append, hrest,
    @List.reverse_cons _ type.char (c :: cs), List.append_assoc]
  rfl

/-- An expression has no operators below its level outside parentheses. -/
theorem silent_text {e : Expr} (h : e.WellFormed) (hminus : e.MinusFree) :
    ∀ operators ∈ levelsBelow e.level, Silent operators e.text := by
  induction e with
  | leaf word => exact fun _ _ => silent_word (Leaf.text_word h)
  | parens before sub behind ih =>
      exact fun operators _ => silent_enclosed
        ((balanced_spaces before).append
          ((@balanced_text sub h).append (balanced_spaces behind))) operators
  | unary type count sub ih =>
      intro operators hmem
      have hsub := ih h.1 hminus.2 operators (levelsBelow_mono h.2 hmem)
      refine Silent.unary hminus.1 ((silent_spaces operators count).append hsub) ?_
      cases count with
      | zero =>
          obtain ⟨c, cs, hcs, -, hc⟩ := exists_head_text h.1
          exact ⟨c, cs, hcs, hc⟩
      | succ count => exact ⟨' ', spaces count ++ sub.text, rfl, by decide⟩
  | binary left before type behind right ihleft ihright =>
      intro operators hmem
      have hleft := ihleft h.1 hminus.1 operators (levelsBelow_mono h.2.2.1 hmem)
      have hright := ihright h.2.1 hminus.2 operators (levelsBelow_mono (Nat.le_of_lt h.2.2.2) hmem)
      rw [text_binary]
      exact hleft.leftPart (levelsBelow_subset hmem) before (not_mem_of_levelsBelow type operators hmem)
        (List.append_ne_nil_of_right_ne_nil _ (text_ne_nil h.2.1))
        ((silent_spaces operators behind).append hright)

/-! ## Spaces and parentheses around an expression -/

/-- A parenthesis in front closes at the end, or before the rest of the text. -/
theorem exists_enclosed_of_head {e : Expr} (h : e.WellFormed) (hhead : e.text.head? = some '(') :
    ∃ inner rest, Balanced inner ∧ e.text = enclosed inner ++ rest := by
  induction e with
  | leaf word => exact absurd (Leaf.text_word h '(' (List.mem_of_head? hhead)) (by decide)
  | parens before sub behind ih =>
      refine ⟨_, [], ?_, (List.append_nil _).symm⟩
      exact (balanced_spaces before).append ((@balanced_text sub h).append (balanced_spaces behind))
  | unary type count sub ih => cases type <;> cases hhead
  | binary left before type behind right ihleft ihright =>
      obtain ⟨c, cs, hcs, -⟩ := exists_head_text h.1
      have hleft : left.text.head? = some '(' := by
        rw [Expr.text, hcs] at hhead
        rw [hcs]
        exact hhead
      obtain ⟨inner, rest, hinner, htext⟩ := ihleft h.1 hleft
      refine ⟨inner, rest ++ (spaces (before + 1) ++ (type.text ++ (spaces (behind + 1) ++ right.text))),
        hinner, ?_⟩
      rw [Expr.text, htext, List.append_assoc]

theorem not_staysOpen {inner rest : Text} (hinner : Balanced inner) (hrest : rest ≠ []) :
    ¬ staysOpen 1 (enclosed inner ++ rest).tail.dropLast := by
  obtain ⟨front, last, rfl⟩ := (List.eq_nil_or_concat' rest).resolve_left hrest
  have hinside : (enclosed inner ++ (front ++ [last])).tail.dropLast = inner ++ ')' :: front := by
    rw [enclosed_append, List.tail_cons, ← List.cons_append, ← List.append_assoc,
      List.dropLast_concat]
  rw [hinside, hinner.staysOpen_append (by decide)]
  exact fun h => nomatch h

/-- An operation is not enclosed as a whole. -/
theorem bare_leftPart {left : Expr} (h : left.WellFormed) (count : Nat) (type : BinaryOperator)
    {rest : Text} (hlast : rest.getLast? ≠ some ' ') (hne : rest ≠ []) :
    Bare (leftPart left.text count type rest) := by
  obtain ⟨c, cs, hcs, hc, -⟩ := exists_head_text h
  have hhead : (leftPart left.text count type rest).head? = some c := by
    rw [leftPart, hcs]
    rfl
  refine ⟨?_, ?_, ?_, ?_⟩
  · intro hnil
    rw [hnil] at hhead
    cases hhead
  · rw [hhead]
    exact fun heq => hc (Option.some.inj heq)
  · have hsplit : leftPart left.text count type rest =
        (left.text ++ (spaces (count + 1) ++ (type.text ++ [' ']))) ++ rest := by
      simp [leftPart]
    rw [hsplit, getLast?_append_of_ne_nil _ hne]
    exact hlast
  · rintro ⟨hopen, -, hstays⟩
    have hleft : left.text.head? = some '(' := by
      rw [hcs]
      exact hhead.symm.trans hopen
    obtain ⟨inner, behind, hinner, htext⟩ := exists_enclosed_of_head h hleft
    rw [leftPart, htext, List.append_assoc] at hstays
    refine not_staysOpen hinner ?_ hstays
    exact List.append_ne_nil_of_right_ne_nil _ (List.append_ne_nil_of_left_ne_nil
      (List.cons_ne_nil _ _) _)

theorem bare_unaryText {sub : Expr} (h : sub.WellFormed) (type : UnaryOperator) (count : Nat) :
    Bare (Expr.unary type count sub).text := by
  have hspace : type.char ≠ ' ' := by cases type <;> decide
  have hopen : type.char ≠ '(' := by cases type <;> decide
  refine ⟨List.cons_ne_nil _ _, ?_, ?_, ?_⟩
  · exact fun hhead => hspace (Option.some.inj hhead)
  · have hne := text_ne_nil h
    rw [Expr.text, ← List.cons_append, getLast?_append_of_ne_nil _ hne]
    exact last_text h
  · exact fun hparens => hopen (Option.some.inj hparens.1)

theorem mem_spaces {count : Nat} : ∀ c ∈ spaces count, c = ' ' := fun _ hc =>
  List.eq_of_mem_replicate hc

/-- Spaces around a text do not matter. -/
theorem strip_spaces {text : Text} (h : Bare text) (before behind : Nat) (after : Text) :
    strip ⟨spaces before ++ (text ++ spaces behind), after⟩ = .ok ⟨text, spaces behind ++ after⟩ := by
  have hleft : View.trimLeft ⟨spaces before ++ (text ++ spaces behind), after⟩ =
      ⟨text ++ spaces behind, after⟩ := by
    have hhead : (text ++ spaces behind).head? ≠ some ' ' := by
      rw [List.head?_append_of_ne_nil _ h.ne_nil]
      exact h.first
    rw [View.trimLeft, dropWhile_spaces_append mem_spaces, dropWhile_of_head hhead]
  have hright : View.trimRight ⟨text ++ spaces behind, after⟩ = ⟨text, spaces behind ++ after⟩ := by
    have hdrop : (text ++ spaces behind).rdropWhile (· = ' ') = text := by
      have hreverse : (spaces behind).reverse = spaces behind := List.reverse_replicate
      rw [List.rdropWhile, List.reverse_append, hreverse, dropWhile_spaces_append mem_spaces,
        ← List.rdropWhile]
      exact rdropWhile_of_last h.last
    rw [View.trimRight, hdrop, View.take, List.take_left, List.drop_left]
  have hround : stripRound ⟨spaces before ++ (text ++ spaces behind), after⟩ =
      .ok ⟨text, spaces behind ++ after⟩ := by
    have hne : text ++ spaces behind ≠ [] := List.append_ne_nil_of_left_ne_nil h.ne_nil _
    simp only [stripRound, hleft, hright, if_neg hne, if_neg h.parens]
  rw [strip_eq, hround, ok_bind]
  split
  · rfl
  · exact strip_of_bare h

theorem parseExpr_spaces {text : Text} (h : Bare text) (before behind : Nat) (after : Text) :
    parseExpr ⟨spaces before ++ (text ++ spaces behind), after⟩ =
      parseStripped parseExpr ⟨text, spaces behind ++ after⟩ :=
  parseExpr_of_strip (strip_spaces h before behind after) h.ne_nil

/-! ## Constants and lookups -/

/-- What may follow an expression: the lookups read on behind their texts. -/
def Stops (after : Text) : Prop := ∀ c ∈ after.head?, c = ' ' ∨ c = ')'

theorem Stops.startsWithDigit {after : Text} (h : Stops after) (base : Nat) :
    startsWithDigit base after = false := by
  cases after with
  | nil => rfl
  | cons c cs =>
      rcases h c rfl with rfl | rfl
      · rfl
      · rfl

theorem Stops.spaces {after : Text} (h : Stops after) (count : Nat) : Stops (spaces count ++ after) := by
  cases count with
  | zero => exact h
  | succ count =>
      intro c hc
      exact .inl (Option.some.inj hc).symm

theorem stops_paren (after : Text) : Stops (')' :: after) := by
  intro c hc
  exact .inr (Option.some.inj hc).symm

theorem takePrefix_sixteen {text : Text} (h : ∀ c ∈ text[1]?, c ≠ 'x' ∧ c ≠ 'X') :
    takePrefix 16 text = (16, text) := by
  unfold takePrefix
  split
  · rename_i x cs
    obtain ⟨hx, hX⟩ := h x rfl
    rw [if_neg fun hfront => hfront.1.elim hx hX, if_neg (by decide)]
  · rfl
  · rfl

theorem takeSign_of_ne {c : Char} (hminus : c ≠ '-') (hplus : c ≠ '+') (cs : Text) :
    takeSign (c :: cs) = (false, c :: cs) := by
  unfold takeSign
  split
  · rename_i heq
    exact absurd (List.cons.inj heq).1 hminus
  · rename_i heq
    exact absurd (List.cons.inj heq).1 hplus
  · rfl

/-- The digits of a flag are read to their end. -/
theorem strtoul_flag {digits after : Text} (hne : digits ≠ [])
    (hdigits : ∀ c ∈ digits, (digit? 16 c).isSome) (hlt : (scanDigits 16 0 digits).1 < 0x400)
    (hafter : Stops after) :
    strtoul 16 (digits ++ after) = (UInt64.ofNat (scanDigits 16 0 digits).1, after) := by
  have hscan := scanDigits_append 0 hdigits (hafter.startsWithDigit 16)
  obtain ⟨c, cs, rfl⟩ := List.exists_cons_of_ne_nil hne
  have hc := hdigits c List.mem_cons_self
  have hchar : ∀ d : Char, (digit? 16 d).isSome = false → c ≠ d := by
    rintro d hd rfl
    rw [hd] at hc
    cases hc
  have hspace : isSpace c = false := by
    refine decide_eq_false ?_
    simp only [hchar ' ' rfl, hchar '\t' rfl, hchar '\n' rfl, hchar '\x0B' rfl, hchar '\x0C' rfl,
      hchar '\r' rfl, or_self, not_false_eq_true]
  have hdrop : (c :: cs ++ after).dropWhile isSpace = c :: cs ++ after := by
    rw [List.cons_append, List.dropWhile_cons, hspace]
    rfl
  have hsecond : ∀ d ∈ (c :: cs ++ after)[1]?, d ≠ 'x' ∧ d ≠ 'X' := by
    intro d hd
    rw [List.cons_append, List.getElem?_cons_succ] at hd
    cases cs with
    | nil =>
        have hhead : d ∈ after.head? := by
          rw [List.head?_eq_getElem?]
          exact hd
        rcases hafter d hhead with rfl | rfl
        · exact ⟨by decide, by decide⟩
        · exact ⟨by decide, by decide⟩
    | cons e es =>
        obtain rfl : e = d := Option.some.inj hd
        have he := hdigits e (List.mem_cons_of_mem c List.mem_cons_self)
        constructor
        · rintro rfl
          cases he
        · rintro rfl
          cases he
  have hsign : takeSign (c :: cs ++ after) = (false, c :: cs ++ after) :=
    takeSign_of_ne (hchar '-' rfl) (hchar '+' rfl) (cs ++ after)
  have hstarts : startsWithDigit 16 (c :: cs ++ after) = true := hc
  rw [strtoul]
  simp only [scanInteger, hdrop, hsign, takePrefix_sixteen hsecond, hstarts, if_true, hscan]
  rw [if_pos (by omega)]
  rfl

theorem parseLeaf_flag {digits after : Text} (hne : digits ≠ [])
    (hdigits : ∀ c ∈ digits, (digit? 16 c).isSome) (hlt : (scanDigits 16 0 digits).1 < 0x400)
    (hafter : Stops after) :
    parseLeaf ⟨"F_".toList ++ digits, after⟩ =
      .ok (.flagLookup (UInt16.ofNat (scanDigits 16 0 digits).1)) := by
  have hleaf : parseLeaf ⟨"F_".toList ++ digits, after⟩ =
      parseFlagLookup ⟨"F_".toList ++ digits, after⟩ := rfl
  have hdrop : ("F_".toList ++ digits).drop 2 = digits := rfl
  have hvalue : (UInt64.ofNat (scanDigits 16 0 digits).1).toNat = (scanDigits 16 0 digits).1 :=
    UInt64.toNat_ofNat_of_lt' (Nat.lt_trans hlt (by decide))
  have hfits : ¬ UInt64.ofNat (scanDigits 16 0 digits).1 ≥ 0x400 := by
    rw [ge_iff_le, UInt64.le_iff_toNat_le, hvalue]
    exact Nat.not_le.mpr hlt
  have hflag : (UInt64.ofNat (scanDigits 16 0 digits).1).toUInt16 =
      UInt16.ofNat (scanDigits 16 0 digits).1 := by
    rw [← UInt16.toNat_inj, UInt64.toNat_toUInt16, hvalue, UInt16.toNat_ofNat']
  rw [hleaf, parseFlagLookup]
  simp only [hdrop, strtoul_flag hne hdigits hlt hafter, ne_eq, not_true_eq_false, if_false,
    if_neg hfits, hflag]

theorem parseLeaf_toDigits {value : Nat} (h : value < 2 ^ 63) (after : Text) :
    parseLeaf ⟨Nat.toDigits 10 value, after⟩ = .ok (.constant (Int64.ofNat value)) := by
  obtain ⟨c, cs, hcs⟩ := List.exists_cons_of_ne_nil (@Nat.toDigits_ne_nil value 10)
  have hdigit : c.isDigit :=
    Nat.isDigit_of_mem_toDigits (by decide) (by decide) (hcs ▸ List.mem_cons_self)
  rw [hcs, parseLeaf_of_isDigit hdigit, ← hcs, parseConstant, stoll_toDigits h]

theorem parseLeaf_stage {episode : Episode} {stage : Nat} (hpos : 1 ≤ stage)
    (h : episode = .ep1 ∧ stage ≤ 9 ∨ episode = .ep2 ∧ stage ≤ 5) {after : Text}
    (hafter : startsWithDigit 10 after = false) :
    parseLeaf ⟨(Leaf.challengeCompletionLookup episode stage).text, after⟩ =
      .ok (.challengeCompletionLookup episode (UInt8.ofNat (stage - 1))) := by
  have hle : stage ≤ 9 := h.elim (fun h => h.2) (fun h => by omega)
  have hnat : (UInt8.ofNat (stage - 1)).toNat = stage - 1 := by
    rw [UInt8.toNat_ofNat']
    omega
  have hsucc : (UInt8.ofNat (stage - 1) + 1).toNat = stage := by
    have hadd := @toNat_add_one_of_le (UInt8.ofNat (stage - 1)) (by rw [hnat]; omega)
    rw [hadd, hnat]
    omega
  have hindex : (episode = .ep1 ∧ (UInt8.ofNat (stage - 1)).toNat ≤ 8) ∨
      (episode = .ep2 ∧ (UInt8.ofNat (stage - 1)).toNat ≤ 4) := by
    rw [hnat]
    exact h.imp (fun h => ⟨h.1, by omega⟩) (fun h => ⟨h.1, by omega⟩)
  have htext : (Leaf.challengeCompletionLookup episode stage).text =
      (Node.challengeCompletionLookup episode (UInt8.ofNat (stage - 1))).str :=
    congrArg (fun n => "CC_".toList ++ (abbreviationForEpisode episode ++ '_' :: Nat.toDigits 10 n))
      hsucc.symm
  rw [htext]
  exact parseLeaf_challengeCompletionLookup hindex hafter

theorem parseLeaf_text {word : Leaf} (h : word.Valid) {after : Text} (hafter : Stops after) :
    parseLeaf ⟨word.text, after⟩ = .ok word.node := by
  cases word with
  | constant value => exact parseLeaf_toDigits h after
  | truth value => cases value <;> rfl
  | flagLookup digits => exact parseLeaf_flag h.1 h.2.1 h.2.2 hafter
  | challengeCompletionLookup episode stage =>
      exact parseLeaf_stage h.1 h.2 (hafter.startsWithDigit 10)
  | teamRewardLookup rewardName => rfl
  | numPlayersLookup => rfl
  | eventLookup => rfl
  | v1PresenceLookup => rfl

/-! ## Whole expressions -/

/-- What is known of the text behind an operator. -/
structure Tail (type : BinaryOperator) (rest after : Text) (node : Node) : Prop where
  ne_nil : rest ≠ []
  last : rest.getLast? ≠ some ' '
  silent : ∀ operators ∈ levelsBelow (level type), Silent operators rest
  parse : parseExpr ⟨' ' :: rest, after⟩ = .ok node

/-- The expression is read, whatever spaces are around it. -/
def Parses (e : Expr) : Prop := ∀ before behind after, Stops (spaces behind ++ after) →
  parseExpr ⟨spaces before ++ (e.text ++ spaces behind), after⟩ = .ok (e.attach none)

/-- The expression is read in front of an operator that does not bind tighter. -/
def ParsesBefore (e : Expr) : Prop := ∀ type count rest after node, level type ≤ e.level →
  Tail type rest after node →
    parseStripped parseExpr ⟨leftPart e.text count type rest, after⟩ =
      .ok (e.attach (some (type, node)))

/-- An operator below the level of an expression is the first one to be found. -/
theorem Parses.before_of_lt {e : Expr} (h : Parses e) (hformed : e.WellFormed)
    (hminus : e.MinusFree) {type : BinaryOperator} (hlevel : level type < e.level) (count : Nat)
    {rest after : Text} {node : Node} (htail : Tail type rest after node) :
    parseStripped parseExpr ⟨leftPart e.text count type rest, after⟩ =
      .ok (e.attach (some (type, node))) := by
  have hsilent : ∀ operators ∈ levelsBelow (level type + 1), Silent operators e.text :=
    fun operators hmem => silent_text hformed hminus operators (levelsBelow_mono hlevel hmem)
  have hroot := findRootOperator_leftPart hsilent count htail.ne_nil htail.silent
  have hlength : (e.text ++ spaces (count + 1)).length = e.text.length + (count + 1) := by
    rw [List.length_append, spaces, List.length_replicate]
  have hsplit : leftPart e.text count type rest =
      (e.text ++ spaces (count + 1)) ++ (type.text ++ ' ' :: rest) := (List.append_assoc _ _ _).symm
  have htake : View.take (e.text.length + (count + 1)) ⟨leftPart e.text count type rest, after⟩ =
      ⟨e.text ++ spaces (count + 1), type.text ++ ' ' :: (rest ++ after)⟩ := by
    rw [View.take, hsplit, ← hlength, List.take_left, List.drop_left, List.append_assoc]
    rfl
  have hdrop : View.drop (e.text.length + (count + 1) + type.text.length)
      ⟨leftPart e.text count type rest, after⟩ = ⟨' ' :: rest, after⟩ := by
    rw [View.drop, hsplit, ← hlength, ← List.drop_drop, List.drop_left, List.drop_left]
  -- the left side ends with a space, whatever is behind it
  have hleft : parseExpr ⟨e.text ++ spaces (count + 1), type.text ++ ' ' :: (rest ++ after)⟩ =
      .ok (e.attach none) :=
    h 0 (count + 1) _ fun c hc => .inl (Option.some.inj hc).symm
  rw [parseStripped]
  simp only [hroot, htake, hdrop, hleft, htail.parse]
  rw [attach_of_level_ne (Nat.ne_of_gt hlevel)]
  rfl

theorem findRootOperator_text {e : Expr} (h : e.WellFormed) (hminus : e.MinusFree)
    (hlevel : 10 ≤ e.level) : findRootOperator e.text = none := by
  refine findRootOperator_eq_none fun operators hmem => ?_
  have hall : operators ∈ levelsBelow e.level :=
    levelsBelow_mono hlevel hmem
  exact (silent_text h hminus operators hall).findOperator_eq_none

theorem parses_leaf {word : Leaf} (h : word.Valid) : Parses (.leaf word) := by
  intro before behind after hstops
  have hword := Leaf.text_word h
  have hne := Leaf.text_ne_nil word
  refine (parseExpr_spaces (bare_of_word hne hword) before behind after).trans ?_
  have hunary : unaryOperator? word.text = none := by
    rcases hunary : unaryOperator? word.text with _ | type
    · rfl
    · have hchar := hword _ (List.mem_of_head? (unaryOperator?_eq_some hunary))
      cases type <;> cases hchar
  rw [parseStripped]
  simp only [findRootOperator_word hword, hunary]
  exact parseLeaf_text h hstops

theorem Parses.parens {sub : Expr} (h : Parses sub) (hformed : sub.WellFormed)
    (before behind : Nat) : Parses (.parens before sub behind) := by
  intro before' behind' after hstops
  have hinner : Balanced (spaces before ++ (sub.text ++ spaces behind)) :=
    (balanced_spaces before).append ((balanced_text hformed).append (balanced_spaces behind))
  refine (parseExpr_enclosed mem_spaces mem_spaces hinner after).trans ?_
  exact h before behind _ (Stops.spaces (stops_paren _) behind)

theorem Parses.unary {sub : Expr} (h : Parses sub) {type : UnaryOperator} {count : Nat}
    (hformed : (Expr.unary type count sub).WellFormed)
    (hminus : (Expr.unary type count sub).MinusFree) : Parses (.unary type count sub) := by
  intro before behind after hstops
  refine (parseExpr_spaces (bare_unaryText hformed.1 type count) before behind after).trans ?_
  have hroot := findRootOperator_text hformed hminus (Nat.le_refl 10)
  have hunary : unaryOperator? (Expr.unary type count sub).text = some type := by
    cases type <;> rfl
  have hdrop : View.drop 1 ⟨(Expr.unary type count sub).text, spaces behind ++ after⟩ =
      ⟨spaces count ++ (sub.text ++ spaces 0), spaces behind ++ after⟩ := by
    rw [View.drop]
    simp [Expr.text, spaces]
  have hsub : parseExpr ⟨spaces count ++ (sub.text ++ spaces 0), spaces behind ++ after⟩ =
      .ok (sub.attach none) := h count 0 _ hstops
  rw [parseStripped]
  simp only [hroot, hunary, hdrop, hsub]
  rfl

/-- The right side of an operator, when the expression ends with it. -/
theorem Parses.tail {right : Expr} (h : Parses right) (hformed : right.WellFormed)
    (hminus : right.MinusFree) {type : BinaryOperator} (hlevel : level type < right.level)
    (count : Nat) {after : Text} (hstops : Stops after) :
    Tail type (spaces count ++ right.text) after (right.attach none) where
  ne_nil := List.append_ne_nil_of_right_ne_nil _ (text_ne_nil hformed)
  last := by
    rw [getLast?_append_of_ne_nil _ (text_ne_nil hformed)]
    exact last_text hformed
  silent := fun operators hmem => (silent_spaces operators count).append
    (silent_text hformed hminus operators (levelsBelow_mono (Nat.le_of_lt hlevel) hmem))
  parse := by
    have hparse := h (count + 1) 0 after hstops
    rwa [show spaces 0 = [] from rfl, List.append_nil] at hparse

/-- The right side of an operator, when another one of its level follows: the
second operator is part of it. -/
theorem Parses.tail_before {right : Expr} (h : Parses right) (hformed : right.WellFormed)
    (hminus : right.MinusFree) {type type' : BinaryOperator} (hsame : level type' = level type)
    (hlevel : level type < right.level) (count count' : Nat) {rest after : Text} {node : Node}
    (htail : Tail type' rest after node) :
    Tail type (spaces count ++ leftPart right.text count' type' rest) after
      (.binaryOperator type' (right.attach none) node) where
  ne_nil := List.append_ne_nil_of_right_ne_nil _
    (bare_leftPart hformed count' type' htail.last htail.ne_nil).ne_nil
  last := by
    have hbare := bare_leftPart hformed count' type' htail.last htail.ne_nil
    rw [getLast?_append_of_ne_nil _ hbare.ne_nil]
    exact hbare.last
  silent := fun operators hmem => by
    have hright := silent_text hformed hminus operators (levelsBelow_mono (Nat.le_of_lt hlevel) hmem)
    rw [← hsame] at hmem
    exact (silent_spaces operators count).append (hright.leftPart (levelsBelow_subset hmem) count'
      (not_mem_of_levelsBelow type' operators hmem) htail.ne_nil (htail.silent operators hmem))
  parse := by
    have hbare := bare_leftPart hformed count' type' htail.last htail.ne_nil
    have hparse := parseExpr_spaces hbare (count + 1) 0 after
    rw [show spaces 0 = [] from rfl, List.append_nil] at hparse
    have hlt : level type' < right.level := hsame ▸ hlevel
    refine hparse.trans ?_
    rw [List.nil_append, h.before_of_lt hformed hminus hlt count' htail,
      attach_of_level_ne (Nat.ne_of_gt hlt)]

theorem parses_binary {left right : Expr} {before behind : Nat} {type : BinaryOperator}
    (hleft : ParsesBefore left) (hright : Parses right)
    (hformed : (Expr.binary left before type behind right).WellFormed)
    (hminus : (Expr.binary left before type behind right).MinusFree) :
    Parses (.binary left before type behind right) := by
  intro before' behind' after hstops
  have htail := hright.tail hformed.2.1 hminus.2 hformed.2.2.2 behind hstops
  rw [text_binary]
  refine (parseExpr_spaces (bare_leftPart hformed.1 before type htail.last htail.ne_nil)
    before' behind' after).trans ?_
  exact hleft type before _ _ _ hformed.2.2.1 htail

theorem parsesBefore_binary {left right : Expr} {before behind : Nat} {type : BinaryOperator}
    (hleft : ParsesBefore left) (hright : Parses right)
    (hformed : (Expr.binary left before type behind right).WellFormed)
    (hminus : (Expr.binary left before type behind right).MinusFree) :
    ParsesBefore (.binary left before type behind right) := by
  intro type' count rest after node hlevel htail
  rcases Nat.lt_or_eq_of_le hlevel with hlt | heq
  · exact (parses_binary hleft hright hformed hminus).before_of_lt hformed hminus hlt count htail
  · have hsame : level type' = level type := heq
    have hrest := hright.tail_before hformed.2.1 hminus.2 hsame hformed.2.2.2 behind count htail
    have htext : leftPart (Expr.binary left before type behind right).text count type' rest =
        leftPart left.text before type (spaces behind ++ leftPart right.text count type' rest) := by
      simp only [text_binary, leftPart, List.append_assoc, List.cons_append]
    rw [htext]
    refine (hleft type before _ _ _ hformed.2.2.1 hrest).trans ?_
    simp only [Expr.attach, if_pos hsame]

theorem ParsesBefore.of_level {e : Expr} (h : Parses e) (hformed : e.WellFormed)
    (hminus : e.MinusFree) (hlevel : 10 ≤ e.level) : ParsesBefore e := by
  intro type count rest after node _ htail
  exact h.before_of_lt hformed hminus (Nat.lt_of_lt_of_le (level_lt type) hlevel) count htail

theorem parses_and_before {e : Expr} (h : e.WellFormed) (hminus : e.MinusFree) :
    Parses e ∧ ParsesBefore e := by
  induction e with
  | leaf word =>
      have hparses := parses_leaf h
      have hlevel : 10 ≤ 11 := by decide
      exact ⟨hparses, .of_level hparses h hminus hlevel⟩
  | parens before sub behind ih =>
      have hparses := (ih h hminus).1.parens h before behind
      have hlevel : 10 ≤ 11 := by decide
      exact ⟨hparses, .of_level hparses h hminus hlevel⟩
  | unary type count sub ih =>
      have hparses := (ih h.1 hminus.2).1.unary h hminus
      have hlevel : 10 ≤ 10 := Nat.le_refl 10
      exact ⟨hparses, .of_level hparses h hminus hlevel⟩
  | binary left before type behind right ihleft ihright =>
      have hleft := (ihleft h.1 hminus.1).2
      have hright := (ihright h.2.1 hminus.2).1
      exact ⟨parses_binary hleft hright h hminus, parsesBefore_binary hleft hright h hminus⟩

/-- Without a unary minus, the operators of one level are applied from right to
left. -/
theorem parse_text {e : Expr} (h : e.WellFormed) (hminus : e.MinusFree) :
    parse e.text = .ok (e.attach none) := by
  have hparse := (parses_and_before h hminus).1 0 0 [] fun c hc => nomatch hc
  rwa [show spaces 0 = [] from rfl, List.nil_append, List.append_nil] at hparse

theorem minusFree_of_readable {e : Expr} (h : Readable e.tree) : e.MinusFree := by
  induction e with
  | leaf word => trivial
  | parens before sub behind ih => exact ih h
  | unary type count sub ih => exact ⟨h.1, ih h.2⟩
  | binary left before type behind right ihleft ihright => exact ⟨ihleft h.1, ihright h.2⟩

/-- An expression is read as the grammar says exactly when it has no unary minus
and no operators of one level that follow each other without parentheses. -/
theorem parse_text_iff {e : Expr} (h : e.WellFormed) :
    parse e.text = .ok e.tree ↔ e.MinusFree ∧ e.ChainFree := by
  constructor
  · intro hparse
    have hminus := minusFree_of_readable (readable_parseExpr hparse)
    rw [parse_text h hminus] at hparse
    exact ⟨hminus, (attach_eq_tree_iff e).mp (Except.ok.inj hparse)⟩
  · rintro ⟨hminus, hchain⟩
    rw [parse_text h hminus, (attach_eq_tree_iff e).mpr hchain]

/-- `10 - 4 - 3`. -/
def subtractions : Expr :=
  .binary (.binary (.leaf (.constant 10)) 0 .subtract 0 (.leaf (.constant 4))) 0 .subtract 0
    (.leaf (.constant 3))

/-- The second subtraction is made first. -/
theorem subtractions_from_right : subtractions.WellFormed ∧
    parse subtractions.text ≠ .ok subtractions.tree ∧
    parse subtractions.text = .ok (.binaryOperator .subtract (.constant 10)
      (.binaryOperator .subtract (.constant 4) (.constant 3))) := by
  refine ⟨?_, by decide +kernel, by decide +kernel⟩
  have hconstant : ∀ value < 11, (Expr.leaf (.constant value)).WellFormed := fun value hlt =>
    Nat.lt_trans hlt (by decide)
  exact ⟨⟨hconstant 10 (by decide), hconstant 4 (by decide), by decide, by decide⟩,
    hconstant 3 (by decide), by decide, by decide⟩

/-- `F_12 || !(3 < 8)`. -/
def flagOrNot : Expr :=
  .binary (.leaf (.flagLookup ['1', '2'])) 0 .logicalOr 0
    (.unary .logicalNot 0 (.parens 0
      (.binary (.leaf (.constant 3)) 0 .lessThan 0 (.leaf (.constant 8))) 0))

theorem flagOrNot_parse_iff :
    parse flagOrNot.text = .ok flagOrNot.tree ↔ flagOrNot.MinusFree ∧ flagOrNot.ChainFree := by
  have hconstant : ∀ value < 11, (Expr.leaf (.constant value)).WellFormed := fun value hlt =>
    Nat.lt_trans hlt (by decide)
  refine parse_text_iff ⟨⟨by decide, forall_mem_of_all (by decide), by decide⟩, ⟨?_, by decide⟩, by decide, by decide⟩
  exact ⟨hconstant 3 (by decide), hconstant 8 (by decide), by decide, by decide⟩

end HuntersGuild.ExpressionParsing
