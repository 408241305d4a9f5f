import HuntersGuild.ExceptionRules
import HuntersGuild.QuestExpressions

/-!
What the parser does with spaces, parentheses and operators: the equations of
its loops, and how they run over the parts of a text.
-/

namespace HuntersGuild.ExpressionScans

open HuntersGuild.ExceptionRules
open HuntersGuild.Numerals
open HuntersGuild.QuestExpressions

/-! The loop that strips. -/

theorem trimRight_length_le (view : View) : view.trimRight.text.length ≤ view.text.length := by
  rw [View.trimRight, View.take, List.length_take]
  exact Nat.min_le_right _ _

theorem stripRound_length_le {view stripped : View} (h : stripRound view = .ok stripped) :
    stripped.text.length ≤ view.text.length := by
  have hleft : view.trimLeft.text.length ≤ view.text.length :=
    (List.dropWhile_suffix _).length_le
  have hright := trimRight_length_le view.trimLeft
  simp only [stripRound] at h
  split_ifs at h with hempty hparens
  · obtain rfl := Except.ok.inj h
    rw [View.take, View.drop, List.length_take, List.length_drop]
    omega
  · obtain rfl := Except.ok.inj h
    omega

theorem stripRounds_of_le {n m : Nat} {view : View} (hn : view.text.length ≤ n) (hm : n ≤ m) :
    stripRounds n view = stripRounds m view := by
  induction n generalizing m view with
  | zero =>
      have hnil : view.text = [] := List.length_eq_zero_iff.mp (Nat.le_zero.mp hn)
      cases m with
      | zero => rfl
      | succ m =>
          obtain ⟨text, after⟩ := view
          obtain rfl : text = [] := hnil
          rfl
  | succ n ih =>
      obtain ⟨m, rfl⟩ := Nat.exists_eq_succ_of_ne_zero (Nat.ne_of_gt (Nat.lt_of_lt_of_le n.succ_pos hm))
      rw [stripRounds, stripRounds]
      cases hround : stripRound view with
      | error e => rfl
      | ok stripped =>
          have hle := stripRound_length_le hround
          rw [ok_bind, ok_bind]
          split_ifs with hsame
          · rfl
          · exact ih (by omega) (by omega)

/-- The loop, round by round. -/
theorem strip_eq (view : View) :
    strip view = (stripRound view >>= fun stripped =>
      if stripped.text.length = view.text.length then .ok stripped else strip stripped) := by
  have hrounds : strip view = stripRounds (view.text.length + 1) view :=
    stripRounds_of_le (Nat.le_refl _) (Nat.le_succ _)
  rw [hrounds, stripRounds]
  cases hround : stripRound view with
  | error e => rfl
  | ok stripped =>
      rw [ok_bind, ok_bind, strip, stripRounds_of_le (Nat.le_refl _) (stripRound_length_le hround)]

theorem strip_length_le {view stripped : View} (h : strip view = .ok stripped) :
    stripped.text.length ≤ view.text.length := by
  induction hn : view.text.length using Nat.strongRecOn generalizing view with
  | ind n ih =>
      rw [strip_eq] at h
      obtain ⟨round, hround, hrest⟩ := bind_eq_ok.mp h
      have hle := stripRound_length_le hround
      split_ifs at hrest with hsame
      · obtain rfl := Except.ok.inj hrest
        exact hn ▸ hle
      · have := ih round.text.length (by omega) hrest rfl
        omega

/-! The calls of the parser to itself. -/

theorem findOperator_spec {operators : List BinaryOperator} {level : Int} {before after : Text}
    {z : Nat} {type : BinaryOperator} (h : findOperator operators level before after = some (z, type)) :
    z + type.text.length < before.length + after.length := by
  fun_induction findOperator operators level before after with
  | case1 level before d cs ih =>
      have := ih h
      simp only [List.length_cons] at this ⊢
      omega
  | case2 level before d cs hne ih =>
      have := ih h
      simp only [List.length_cons] at this ⊢
      omega
  | case3 before c d cs hopen hclose found hfind =>
      obtain ⟨rfl, rfl⟩ := Prod.mk.inj (Option.some.inj h)
      have hmatches := List.find?_some hfind
      simp only [matchesHere, Bool.and_eq_true, decide_eq_true_eq] at hmatches
      omega
  | case4 before c d cs hopen hclose hfind ih =>
      have := ih h
      simp only [List.length_cons] at this ⊢
      omega
  | case5 level before c d cs hopen hclose hlevel ih =>
      have := ih h
      simp only [List.length_cons] at this ⊢
      omega
  | case6 => cases h

theorem BinaryOperator.text_ne_nil (type : BinaryOperator) : type.text ≠ [] := by
  cases type <;> decide

theorem findRootOperator_spec {text : Text} {z : Nat} {type : BinaryOperator}
    (h : findRootOperator text = some (z, type)) : z + type.text.length < text.length := by
  obtain ⟨operators, -, hfind⟩ := List.exists_of_findSome?_eq_some h
  have := findOperator_spec hfind
  rwa [List.length_nil, Nat.zero_add] at this

/-- Only calls on shorter texts are made. -/
theorem parseBody_congr {parse parse' : View → Except Exception Node} {view : View}
    (h : ∀ part : View, part.text.length < view.text.length → parse part = parse' part) :
    parseBody parse view = parseBody parse' view := by
  rw [parseBody, parseBody]
  cases hstrip : strip view with
  | error e => rfl
  | ok stripped =>
      have hle := strip_length_le hstrip
      rw [ok_bind, ok_bind]
      split_ifs with hempty
      · rfl
      · have hpos : 0 < stripped.text.length := List.length_pos_of_ne_nil hempty
        rw [parseStripped, parseStripped]
        rcases hroot : findRootOperator stripped.text with _ | ⟨z, type⟩
        · cases unaryOperator? stripped.text with
          | none => rfl
          | some type =>
              have hsub : parse (stripped.drop 1) = parse' (stripped.drop 1) := by
                refine h _ ?_
                rw [View.drop, List.length_drop]
                omega
              simp only [hsub]
        · have hlt := findRootOperator_spec hroot
          have htype := List.length_pos_of_ne_nil (BinaryOperator.text_ne_nil type)
          have hleft : parse (stripped.take z) = parse' (stripped.take z) := by
            refine h _ ?_
            rw [View.take, List.length_take]
            omega
          have hright : parse (stripped.drop (z + type.text.length)) =
              parse' (stripped.drop (z + type.text.length)) := by
            refine h _ ?_
            rw [View.drop, List.length_drop]
            omega
          simp only [hleft, hright]

theorem parseCalls_of_le {n m : Nat} {view : View} (hn : view.text.length ≤ n) (hm : n ≤ m) :
    parseCalls n view = parseCalls m view := by
  induction n generalizing m view with
  | zero =>
      cases m with
      | zero => rfl
      | succ m =>
          obtain ⟨text, after⟩ := view
          obtain rfl : text = [] := List.length_eq_zero_iff.mp (Nat.le_zero.mp hn)
          rfl
  | succ n ih =>
      obtain ⟨m, rfl⟩ := Nat.exists_eq_succ_of_ne_zero (Nat.ne_of_gt (Nat.lt_of_lt_of_le n.succ_pos hm))
      refine parseBody_congr ?_
      intro part hlt
      exact ih (by omega) (by omega)

/-- The parser as the source has it. -/
theorem parseExpr_eq (view : View) : parseExpr view = parseBody parseExpr view := by
  have hcalls : parseExpr view = parseCalls (view.text.length + 1) view :=
    parseCalls_of_le (Nat.le_refl _) (Nat.le_succ _)
  rw [hcalls]
  refine parseBody_congr ?_
  intro part hlt
  exact (parseCalls_of_le (Nat.le_refl _) (by omega)).symm

theorem parseExpr_of_strip {view stripped : View} (h : strip view = .ok stripped)
    (hne : stripped.text ≠ []) : parseExpr view = parseStripped parseExpr stripped := by
  rw [parseExpr_eq, parseBody, h, ok_bind, if_neg hne]

/-! Parentheses. -/

/-- A text whose parentheses match. -/
inductive Balanced : Text → Prop where
  | nil : Balanced []
  | char {c : Char} {cs : Text} (hopen : c ≠ '(') (hclose : c ≠ ')') (rest : Balanced cs) :
    Balanced (c :: cs)
  | group {inner rest : Text} (hinner : Balanced inner) (hrest : Balanced rest) :
    Balanced (enclosed inner ++ rest)

theorem Balanced.append {text rest : Text} (h : Balanced text) (hrest : Balanced rest) :
    Balanced (text ++ rest) := by
  induction h with
  | nil => exact hrest
  | char hopen hclose _ ih => exact .char hopen hclose ih
  | group hinner _ _ ih =>
      rw [List.append_assoc]
      exact .group hinner ih

theorem Balanced.parens {text : Text} (h : Balanced text) : Balanced (enclosed text) := by
  have hgroup := Balanced.group h .nil
  rwa [List.append_nil] at hgroup

theorem Balanced.of_chars {text : Text} (h : ∀ c ∈ text, c ≠ '(' ∧ c ≠ ')') : Balanced text := by
  induction text with
  | nil => exact .nil
  | cons c cs ih =>
      obtain ⟨hopen, hclose⟩ := h c List.mem_cons_self
      exact .char hopen hclose (ih fun c' hc' => h c' (List.mem_cons_of_mem c hc'))

theorem enclosed_append (inner rest : Text) :
    enclosed inner ++ rest = '(' :: (inner ++ ')' :: rest) := by
  simp only [enclosed, List.cons_append, List.append_assoc, List.nil_append]

theorem Balanced.staysOpen_append {text : Text} (h : Balanced text) {level : Nat}
    (hlevel : 0 < level) (rest : Text) : staysOpen level (text ++ rest) = staysOpen level rest := by
  induction h generalizing level rest with
  | nil => rfl
  | char hopen hclose _ ih =>
      rw [List.cons_append, staysOpen, if_neg hopen, if_neg hclose]
      exact ih hlevel rest
  | @group inner outer _ _ ihinner ihrest =>
      rw [List.append_assoc, enclosed_append, staysOpen, if_pos rfl, ihinner (Nat.succ_pos level),
        staysOpen, if_neg (by decide), if_pos rfl, if_neg (by omega), Nat.succ_sub_one]
      exact ihrest hlevel rest

theorem Balanced.open_inside {text : Text} (h : Balanced text) : staysOpen 1 text = true := by
  have happend := h.staysOpen_append (Nat.succ_pos 0) []
  rwa [List.append_nil] at happend

/-! Stripping. -/

/-- No space at the ends, and no parentheses around all of the text. -/
structure Bare (text : Text) : Prop where
  ne_nil : text ≠ []
  first : text.head? ≠ some ' '
  last : text.getLast? ≠ some ' '
  parens : ¬ (text.head? = some '(' ∧ text.getLast? = some ')' ∧
    staysOpen 1 text.tail.dropLast)

theorem dropWhile_of_head {text : Text} (h : text.head? ≠ some ' ') :
    text.dropWhile (· = ' ') = text := by
  cases text with
  | nil => rfl
  | cons c cs =>
      have hc : c ≠ ' ' := fun heq => h (congrArg some heq)
      rw [List.dropWhile_cons, decide_eq_false hc]
      rfl

theorem rdropWhile_of_last {text : Text} (h : text.getLast? ≠ some ' ') :
    text.rdropWhile (· = ' ') = text := by
  rw [List.rdropWhile, dropWhile_of_head (by rwa [List.head?_reverse]), List.reverse_reverse]

theorem trimLeft_of_head {view : View} (h : view.text.head? ≠ some ' ') : view.trimLeft = view := by
  rw [View.trimLeft, dropWhile_of_head h]

theorem trimRight_of_last {view : View} (h : view.text.getLast? ≠ some ' ') :
    view.trimRight = view := by
  rw [View.trimRight, View.take, rdropWhile_of_last h, List.take_length, List.drop_length]
  rfl

theorem strip_of_bare {view : View} (h : Bare view.text) : strip view = .ok view := by
  have hround : stripRound view = .ok view := by
    simp only [stripRound, trimLeft_of_head h.first, trimRight_of_last h.last, if_neg h.ne_nil,
      if_neg h.parens]
  rw [strip_eq, hround, ok_bind, if_pos rfl]

theorem dropWhile_spaces_append {spaces : Text} (h : ∀ c ∈ spaces, c = ' ') (rest : Text) :
    (spaces ++ rest).dropWhile (· = ' ') = rest.dropWhile (· = ' ') := by
  rw [List.dropWhile_append_of_pos]
  intro c hc
  exact decide_eq_true (h c hc)

/-- One round takes the spaces and the parentheses off. -/
theorem strip_enclosed {before inner behind : Text} (hbefore : ∀ c ∈ before, c = ' ')
    (hbehind : ∀ c ∈ behind, c = ' ') (hinner : Balanced inner) (after : Text) :
    strip ⟨before ++ (enclosed inner ++ behind), after⟩ =
      strip ⟨inner, ')' :: (behind ++ after)⟩ := by
  have hleft : View.trimLeft ⟨before ++ (enclosed inner ++ behind), after⟩ =
      ⟨enclosed inner ++ behind, after⟩ := by
    rw [View.trimLeft, dropWhile_spaces_append hbefore, dropWhile_of_head]
    intro h
    cases h
  have hlast : ('(' :: inner ++ [')']).getLast? = some ')' := List.getLast?_concat
  have hlength : (enclosed inner).length = inner.length + 2 := by
    rw [enclosed, List.length_cons, List.length_append]
    rfl
  have hright : View.trimRight ⟨enclosed inner ++ behind, after⟩ =
      ⟨enclosed inner, behind ++ after⟩ := by
    have hdrop : (enclosed inner ++ behind).rdropWhile (· = ' ') = enclosed inner := by
      rw [List.rdropWhile, List.reverse_append, dropWhile_spaces_append, dropWhile_of_head,
        List.reverse_reverse]
      · rw [List.head?_reverse]
        intro h
        cases hlast.symm.trans h
      · intro c hc
        exact hbehind c (List.mem_reverse.mp hc)
    rw [View.trimRight, hdrop, View.take, List.take_left, List.drop_left]
  have hround : stripRound ⟨before ++ (enclosed inner ++ behind), after⟩ =
      .ok ⟨inner, ')' :: (behind ++ after)⟩ := by
    have hne : enclosed inner ++ behind ≠ [] := List.cons_ne_nil _ _
    have hparens : (enclosed inner).head? = some '(' ∧ (enclosed inner).getLast? = some ')' ∧
        staysOpen 1 (enclosed inner).tail.dropLast := by
      refine ⟨rfl, hlast, ?_⟩
      rw [enclosed, List.tail_cons, List.dropLast_concat]
      exact hinner.open_inside
    simp only [stripRound, hleft, hright, if_neg hne, if_pos hparens, hlength]
    rw [View.take, View.drop, enclosed, List.drop_one, List.tail_cons, Nat.add_sub_cancel,
      List.take_left, List.drop_left]
    rfl
  rw [strip_eq, hround, ok_bind, if_neg]
  rw [List.length_append, List.length_append, hlength]
  dsimp only
  omega

theorem head_of_rdropWhile {text : Text} {c : Char} (h : text.head? = some c) (hc : c ≠ ' ') :
    (text.rdropWhile (· = ' ')).head? = some c := by
  obtain ⟨behind, hbehind⟩ := List.rdropWhile_prefix (· = ' ') text
  cases hrest : text.rdropWhile (· = ' ') with
  | nil =>
      have := List.rdropWhile_eq_nil_iff.mp hrest c (List.mem_of_head? h)
      exact absurd (of_decide_eq_true this) hc
  | cons d ds =>
      rw [hrest] at hbehind
      rw [← hbehind] at h
      exact h

/-- A leading minus stays in front. -/
theorem head_of_strip {view stripped : View} (hminus : view.text.head? = some '-')
    (h : strip view = .ok stripped) : stripped.text.head? = some '-' := by
  induction hn : view.text.length using Nat.strongRecOn generalizing view with
  | ind n ih =>
      rw [strip_eq] at h
      obtain ⟨round, hround, hrest⟩ := bind_eq_ok.mp h
      have hle := stripRound_length_le hround
      have hleft : view.trimLeft = view := by
        refine trimLeft_of_head ?_
        rw [hminus]
        decide
      have hright : view.trimRight.text.head? = some '-' := by
        rw [View.trimRight, View.take, ← List.prefix_iff_eq_take.mp (List.rdropWhile_prefix _ _)]
        exact head_of_rdropWhile hminus (by decide)
      have hhead : round.text.head? = some '-' := by
        simp only [stripRound, hleft] at hround
        split_ifs at hround with hempty hparens
        · rw [hright] at hparens
          exact absurd hparens.1 (by decide)
        · rw [← Except.ok.inj hround]
          exact hright
      split_ifs at hrest with hsame
      · obtain rfl := Except.ok.inj hrest
        exact hhead
      · exact ih round.text.length (by omega) hhead hrest rfl

/-! Scanning for an operator. -/

/-- What is in parentheses is passed over. -/
theorem Balanced.findOperator_inside {text : Text} (h : Balanced text)
    (operators : List BinaryOperator) {level : Int} (hlevel : 0 < level) (before : Text)
    {rest : Text} (hrest : rest ≠ []) :
    findOperator operators level before (text ++ rest) =
      findOperator operators level (text.reverse ++ before) rest := by
  induction h generalizing level before rest with
  | nil => rfl
  | @char c cs hopen hclose _ ih =>
      obtain ⟨d, ds, hcons⟩ := List.exists_cons_of_ne_nil (List.append_ne_nil_of_right_ne_nil cs hrest)
      rw [List.cons_append, hcons, findOperator, if_neg hopen, if_neg hclose,
        if_neg (Int.ne_of_gt hlevel), ← hcons, ih hlevel (c :: before) hrest,
        List.reverse_cons, List.append_assoc]
      rfl
  | @group inner outer _ _ ihinner ihouter =>
      obtain ⟨d, ds, hcons⟩ := List.exists_cons_of_ne_nil
        (List.append_ne_nil_of_right_ne_nil inner (List.cons_ne_nil ')' (outer ++ rest)))
      obtain ⟨e, es, hcons'⟩ := List.exists_cons_of_ne_nil
        (List.append_ne_nil_of_right_ne_nil outer hrest)
      rw [List.append_assoc, enclosed_append, hcons, findOperator, if_pos rfl, ← hcons,
        ihinner (by omega) _ (List.cons_ne_nil _ _), hcons', findOperator, if_neg (by decide),
        if_pos rfl, ← hcons', Int.add_sub_cancel, ihouter hlevel _ hrest]
      refine congrArg (fun passed => findOperator operators level passed rest) ?_
      simp only [enclosed, List.reverse_append, List.reverse_cons, List.append_assoc,
        List.cons_append, List.nil_append]

/-- A text in parentheses at the end holds no operator. -/
theorem findOperator_enclosed {inner : Text} (h : Balanced inner) (operators : List BinaryOperator)
    (before : Text) : findOperator operators 0 before (enclosed inner) = none := by
  obtain ⟨d, ds, hcons⟩ := List.exists_cons_of_ne_nil
    (List.append_ne_nil_of_right_ne_nil inner (List.cons_ne_nil ')' []))
  rw [enclosed, hcons, findOperator, if_pos rfl, ← hcons,
    h.findOperator_inside operators (by decide) _ (List.cons_ne_nil _ _), findOperator]
  intro c d cs heq
  cases heq

theorem findOperator_group {inner rest : Text} (h : Balanced inner)
    (operators : List BinaryOperator) (before : Text) (hrest : rest ≠ []) :
    findOperator operators 0 before (enclosed inner ++ rest) =
      findOperator operators 0 (')' :: (inner.reverse ++ '(' :: before)) rest := by
  obtain ⟨d, ds, hcons⟩ := List.exists_cons_of_ne_nil
    (List.append_ne_nil_of_right_ne_nil inner (List.cons_ne_nil ')' rest))
  obtain ⟨e, es, rfl⟩ := List.exists_cons_of_ne_nil hrest
  rw [enclosed_append, hcons, findOperator, if_pos rfl, ← hcons,
    h.findOperator_inside operators (by decide) _ (List.cons_ne_nil _ _), findOperator,
    if_neg (by decide), if_pos rfl]
  rfl

/-! Operators. -/

theorem space_not_mem_text (type : BinaryOperator) : ' ' ∉ type.text := by
  cases type <;> decide

theorem isPrefixOf_append_space {token : Text} (htoken : ' ' ∉ token) (text rest : Text) :
    token.isPrefixOf (text ++ ' ' :: rest) = token.isPrefixOf text := by
  induction token generalizing text with
  | nil => rfl
  | cons c token ih =>
      have hc : c ≠ ' ' := fun heq => htoken (heq ▸ List.mem_cons_self)
      cases text with
      | nil =>
          change (c == ' ' && token.isPrefixOf rest) = false
          rw [beq_false_of_ne hc]
          rfl
      | cons d text =>
          rw [List.cons_append, List.isPrefixOf, List.isPrefixOf,
            ih fun hmem => htoken (List.mem_cons_of_mem c hmem)]

/-- Between spaces only the text between them counts. -/
theorem matchesHere_between (type : BinaryOperator) (left right before : Text) (c : Char)
    (cs : Text) :
    matchesHere (left ++ ' ' :: before) (right ++ ' ' :: c :: cs) type =
      matchesHere left (right ++ [' ']) type := by
  have htext := space_not_mem_text type
  have hreverse : ' ' ∉ type.text.reverse := mt List.mem_reverse.mp htext
  simp only [matchesHere, isPrefixOf_append_space htext, isPrefixOf_append_space hreverse]
  cases hfront : type.text.isPrefixOf right with
  | false => simp only [Bool.and_false, Bool.false_and]
  | true =>
      have hle : type.text.length ≤ right.length := (List.isPrefixOf_iff_prefix.mp hfront).length_le
      have hlt (rest : Text) : decide (type.text.length < (right ++ ' ' :: rest).length) = true := by
        refine decide_eq_true ?_
        rw [List.length_append, List.length_cons]
        omega
      rw [hlt, hlt, List.drop_append_of_le_length hle, List.drop_append_of_le_length hle,
        isPrefixOf_append_space htext, isPrefixOf_append_space htext]

theorem findOperator_between (operators : List BinaryOperator) (left before : Text) {right : Text}
    (hright : ∀ c ∈ right, c ≠ '(' ∧ c ≠ ')') (c : Char) (cs : Text) :
    findOperator operators 0 (left ++ ' ' :: before) (right ++ ' ' :: c :: cs) =
      match findOperator operators 0 left (right ++ [' ']) with
      | some (z, type) => some (z + (before.length + 1), type)
      | none => findOperator operators 0 (right.reverse ++ (left ++ ' ' :: before)) (' ' :: c :: cs) := by
  induction right generalizing left with
  | nil => rfl
  | cons d ds ih =>
      obtain ⟨hopen, hclose⟩ := hright d List.mem_cons_self
      have hrest := ih (d :: left) fun c' hc' => hright c' (List.mem_cons_of_mem d hc')
      obtain ⟨e, es, hcons⟩ := List.exists_cons_of_ne_nil
        (List.append_ne_nil_of_right_ne_nil ds (List.cons_ne_nil ' ' (c :: cs)))
      obtain ⟨e', es', hcons'⟩ := List.exists_cons_of_ne_nil
        (List.append_ne_nil_of_right_ne_nil ds (List.cons_ne_nil ' ' []))
      have hmatches : operators.find? (matchesHere (left ++ ' ' :: before) (d :: e :: es)) =
          operators.find? (matchesHere left (d :: e' :: es')) := by
        refine congrArg (operators.find? ·) ?_
        funext type
        rw [← hcons, ← hcons']
        exact matchesHere_between type left (d :: ds) before c cs
      rw [List.cons_append, List.cons_append, hcons, hcons', findOperator, findOperator,
        if_neg hopen, if_neg hclose, if_neg hopen, if_neg hclose, if_pos rfl, if_pos rfl, hmatches]
      cases operators.find? (matchesHere left (d :: e' :: es')) with
      | some type =>
          dsimp only
          rw [List.length_append, List.length_cons]
      | none =>
          dsimp only
          rw [← hcons, ← hcons', List.reverse_cons, List.append_assoc]
          exact hrest

theorem matchesHere_of_head {before cs : Text} {c : Char} {type : BinaryOperator}
    (h : type.text.head? ≠ some c) : matchesHere before (c :: cs) type = false := by
  obtain ⟨d, ds, htext⟩ := List.exists_cons_of_ne_nil (BinaryOperator.text_ne_nil type)
  rw [htext] at h
  have hd : d ≠ c := fun heq => h (congrArg some heq)
  have hfront : type.text.isPrefixOf (c :: cs) = false := by
    rw [htext]
    change (d == c && ds.isPrefixOf cs) = false
    rw [beq_false_of_ne hd]
    rfl
  rw [matchesHere, hfront, Bool.and_false, Bool.false_and]

/-- No operator starts here. -/
theorem findOperator_skip {operators : List BinaryOperator} {before cs : Text} {c d : Char}
    (hopen : c ≠ '(') (hclose : c ≠ ')')
    (h : ∀ type ∈ operators, matchesHere before (c :: d :: cs) type = false) :
    findOperator operators 0 before (c :: d :: cs) =
      findOperator operators 0 (c :: before) (d :: cs) := by
  have hfind : operators.find? (matchesHere before (c :: d :: cs)) = none := by
    refine List.find?_eq_none.mpr ?_
    intro type hmem
    rw [h type hmem]
    decide
  rw [findOperator, if_neg hopen, if_neg hclose, if_pos rfl, hfind]

theorem findOperator_alone (type : BinaryOperator) : ∀ operators ∈ binaryOperatorLevels,
    findOperator operators 0 [] (type.text ++ [' ']) =
      if type ∈ operators then some (0, type) else none := by
  cases type <;> decide

/-- The levels are tried in their order, and only the one with the operator between
the parentheses finds it. -/
theorem findOperator_binary {left right : Text} (hleft : Balanced left) (hright : Balanced right)
    (type : BinaryOperator) {operators : List BinaryOperator}
    (hmem : operators ∈ binaryOperatorLevels) :
    findOperator operators 0 [] (enclosed left ++ ' ' :: (type.text ++ ' ' :: enclosed right)) =
      if type ∈ operators then some (left.length + 3, type) else none := by
  have hspace {before cs : Text} {d : Char} : findOperator operators 0 before (' ' :: d :: cs) =
      findOperator operators 0 (' ' :: before) (d :: cs) := by
    refine findOperator_skip (by decide) (by decide) ?_
    intro other _
    refine matchesHere_of_head ?_
    intro hhead
    exact space_not_mem_text other (List.mem_of_head? hhead)
  have hparens : ∀ c ∈ type.text, c ≠ '(' ∧ c ≠ ')' := forall_mem_of_all (by cases type <;> decide)
  obtain ⟨d, ds, htext⟩ := List.exists_cons_of_ne_nil (BinaryOperator.text_ne_nil type)
  have hscan := findOperator_between operators [] (')' :: (left.reverse ++ '(' :: [])) hparens '('
    (right ++ [')'])
  rw [findOperator_alone type operators hmem] at hscan
  rw [findOperator_group hleft operators [] (List.cons_ne_nil _ _), htext, List.cons_append, hspace]
  rw [htext] at hscan
  refine hscan.trans ?_
  split_ifs with hin
  · simp only [List.length_cons, List.length_append, List.length_reverse, List.length_nil]
    rw [Nat.zero_add]
  · exact hspace.trans (findOperator_enclosed hright operators _)

theorem findRootOperator_eq_none {text : Text}
    (h : ∀ operators ∈ binaryOperatorLevels, findOperator operators 0 [] text = none) :
    findRootOperator text = none :=
  List.findSome?_eq_none_iff.mpr h

theorem findSome?_congr {ι κ : Type} {f g : ι → Option κ} {items : List ι}
    (h : ∀ item ∈ items, f item = g item) : items.findSome? f = items.findSome? g := by
  induction items with
  | nil => rfl
  | cons item items ih =>
      rw [List.findSome?_cons, List.findSome?_cons, h item List.mem_cons_self,
        ih fun other hmem => h other (List.mem_cons_of_mem item hmem)]

theorem findRootOperator_binary {left right : Text} (hleft : Balanced left)
    (hright : Balanced right) (type : BinaryOperator) :
    findRootOperator (enclosed left ++ ' ' :: (type.text ++ ' ' :: enclosed right)) =
      some (left.length + 3, type) := by
  have hlevels : findRootOperator (enclosed left ++ ' ' :: (type.text ++ ' ' :: enclosed right)) =
      binaryOperatorLevels.findSome? fun operators =>
        if type ∈ operators then some (left.length + 3, type) else none :=
    findSome?_congr fun operators hmem => findOperator_binary hleft hright type hmem
  rw [hlevels]
  cases type <;> rfl

theorem findRootOperator_unary {sub : Text} (hsub : Balanced sub) {type : UnaryOperator}
    (htype : type ≠ .negative) : findRootOperator (type.char :: enclosed sub) = none := by
  refine findRootOperator_eq_none ?_
  intro operators _
  have hnone (other : BinaryOperator) : matchesHere [] (type.char :: enclosed sub) other = false := by
    have hfront : other.text.isPrefixOf (type.char :: enclosed sub) = false := by
      cases type with
      | logicalNot => cases other <;> rfl
      | bitwiseNot => cases other <;> rfl
      | negative => exact absurd rfl htype
    rw [matchesHere, hfront, Bool.and_false, Bool.false_and]
  have hskip : findOperator operators 0 [] (type.char :: enclosed sub) =
      findOperator operators 0 [type.char] (enclosed sub) := by
    refine findOperator_skip ?_ ?_ fun other _ => hnone other
    · cases type <;> decide
    · cases type <;> decide
  rw [hskip, findOperator_enclosed hsub]

/-- The characters of names and numbers. -/
def isWordChar (c : Char) : Bool := c.isAlphanum || c = '_'

theorem not_isWordChar_of_text (type : BinaryOperator) :
    ∀ c ∈ type.text.head?, isWordChar c = false := by
  intro c hc
  cases type <;>
  · obtain rfl := Option.some.inj hc
    rfl

theorem ne_paren_of_isWordChar {c : Char} (h : isWordChar c) : c ≠ '(' ∧ c ≠ ')' := by
  constructor
  · rintro rfl
    cases h
  · rintro rfl
    cases h

theorem Balanced.of_word {text : Text} (h : ∀ c ∈ text, isWordChar c) : Balanced text :=
  .of_chars fun c hc => ne_paren_of_isWordChar (h c hc)

theorem findRootOperator_word {text : Text} (h : ∀ c ∈ text, isWordChar c) :
    findRootOperator text = none := by
  refine findRootOperator_eq_none ?_
  intro operators _
  have hall (before : Text) : findOperator operators 0 before text = none := by
    induction text generalizing before with
    | nil => rfl
    | cons c cs ih =>
        have hc := h c List.mem_cons_self
        obtain ⟨hopen, hclose⟩ := ne_paren_of_isWordChar hc
        cases cs with
        | nil => rfl
        | cons d ds =>
            rw [findOperator_skip hopen hclose]
            · exact ih (fun c' hc' => h c' (List.mem_cons_of_mem c hc')) (c :: before)
            · intro type _
              refine matchesHere_of_head ?_
              intro hhead
              rw [not_isWordChar_of_text type c hhead] at hc
              cases hc
  exact hall []

theorem bare_of_word {text : Text} (hne : text ≠ []) (h : ∀ c ∈ text, isWordChar c) : Bare text where
  ne_nil := hne
  first := fun hhead => nomatch h ' ' (List.mem_of_head? hhead)
  last := fun hlast => nomatch h ' ' (List.mem_of_getLast? hlast)
  parens := fun hparens => nomatch h '(' (List.mem_of_head? hparens.1)

/-! A leading minus. -/

/-- A single minus is taken for the operator between two sides. -/
theorem findRootOperator_minus {spaces rest : Text} {d : Char}
    (hspaces : ∀ c ∈ spaces, c ≠ '-' ∧ c ≠ '(' ∧ c ≠ ')') (hd : d ≠ '-') :
    findRootOperator (spaces ++ '-' :: d :: rest) ≠ none := by
  have hall (before : Text) (hbefore : before.head? ≠ some '-') :
      findOperator [.add, .subtract] 0 before (spaces ++ '-' :: d :: rest) ≠ none := by
    induction spaces generalizing before with
    | nil =>
        have hfront : ['-'].isPrefixOf before = false := by
          cases before with
          | nil => rfl
          | cons c cs =>
              have hc : '-' ≠ c := fun heq => hbefore (congrArg some heq.symm)
              change ('-' == c && _) = false
              rw [beq_false_of_ne hc]
              rfl
        have hnext : ['-'].isPrefixOf (d :: rest) = false := by
          change ('-' == d && _) = false
          rw [beq_false_of_ne hd.symm]
          rfl
        have hmatches : matchesHere before ('-' :: d :: rest) .subtract = true := by
          change (decide (1 < rest.length + 1 + 1) && !(['-'].isPrefixOf before) && true &&
            !(['-'].isPrefixOf (d :: rest))) = true
          rw [hfront, hnext, decide_eq_true (by omega)]
          rfl
        have hfind : [BinaryOperator.add, .subtract].find? (matchesHere before ('-' :: d :: rest)) =
            some .subtract := by
          rw [List.find?_cons, matchesHere_of_head (by decide), List.find?_cons, hmatches]
        rw [List.nil_append, findOperator, if_neg (by decide), if_neg (by decide), if_pos rfl, hfind]
        exact Option.some_ne_none _
    | cons c spaces ih =>
        obtain ⟨hminus, hopen, hclose⟩ := hspaces c List.mem_cons_self
        obtain ⟨e, es, hcons⟩ := List.exists_cons_of_ne_nil
          (List.append_ne_nil_of_right_ne_nil spaces (List.cons_ne_nil '-' (d :: rest)))
        rw [List.cons_append, hcons, findOperator, if_neg hopen, if_neg hclose, if_pos rfl]
        split
        · exact Option.some_ne_none _
        · rw [← hcons]
          refine ih (fun c' hc' => hspaces c' (List.mem_cons_of_mem c hc')) (c :: before) ?_
          exact fun heq => hminus (Option.some.inj heq)
  intro hnone
  exact hall [] (by decide) (List.findSome?_eq_none_iff.mp hnone _ (by decide))

/-- A part in front of an operator is empty or starts with the minus again. -/
theorem parseStripped_minus_of {parse : View → Except Exception Node} {view : View}
    (hminus : view.text.head? = some '-')
    (hparts : ∀ part : View, part.text.length < view.text.length →
      part.text = [] ∨ part.text.head? = some '-' → ∀ node, parse part ≠ .ok node) (node : Node) :
    parseStripped parse view ≠ .ok node := by
  intro hparse
  obtain ⟨cs, hcs⟩ := List.head?_eq_some_iff.mp hminus
  rw [parseStripped] at hparse
  rcases hroot : findRootOperator view.text with _ | ⟨z, type⟩
  · have hunary : unaryOperator? view.text = some .negative := by rw [hcs]; rfl
    simp only [hroot, hunary] at hparse
    obtain ⟨sub, hsub, -⟩ := bind_eq_ok.mp hparse
    have hdrop : (view.drop 1).text = cs := by
      rw [View.drop, hcs, List.drop_one, List.tail_cons]
    refine hparts (view.drop 1) ?_ ?_ sub hsub
    · rw [hdrop, hcs]
      exact Nat.lt_succ_self _
    · rw [hdrop]
      rcases cs with _ | ⟨d, rest⟩
      · exact .inl rfl
      · by_cases hd : d = '-'
        · exact .inr (congrArg some hd)
        · rw [hcs] at hroot
          exact absurd hroot (@findRootOperator_minus [] rest d (fun c hc => nomatch hc) hd)
  · simp only [hroot] at hparse
    obtain ⟨left, hleft, -⟩ := bind_eq_ok.mp hparse
    have hlt := findRootOperator_spec hroot
    refine hparts (view.take z) ?_ ?_ left hleft
    · rw [View.take, List.length_take]
      omega
    · rw [View.take, hcs]
      cases z with
      | zero => exact .inl rfl
      | succ z => exact .inr rfl

/-- No text with a leading minus is accepted. -/
theorem parseExpr_minus {view : View} (hminus : view.text = [] ∨ view.text.head? = some '-')
    (node : Node) : parseExpr view ≠ .ok node := by
  induction hn : view.text.length using Nat.strongRecOn generalizing view node with
  | ind n ih =>
      intro hparse
      rcases hminus with hnil | hminus
      · rw [parseExpr, hnil] at hparse
        cases hparse
      · rw [parseExpr_eq] at hparse
        obtain ⟨stripped, hstrip, hbody⟩ := bind_eq_ok.mp hparse
        have hle := strip_length_le hstrip
        split_ifs at hbody
        refine parseStripped_minus_of (head_of_strip hminus hstrip) ?_ node hbody
        intro part hlt hpart node
        exact ih part.text.length (by omega) hpart node rfl

theorem parseStripped_minus {view : View} (hminus : view.text.head? = some '-') (node : Node) :
    parseStripped parseExpr view ≠ .ok node :=
  parseStripped_minus_of hminus (fun _ _ hpart => parseExpr_minus hpart) node

end HuntersGuild.ExpressionScans
