import HuntersGuild.ExpressionScans

/-!
Accepted expressions are read back from their own texts.
-/

namespace HuntersGuild.ExpressionRoundTrip

open HuntersGuild.ExceptionRules
open HuntersGuild.Numerals
open HuntersGuild.QuestExpressions
open HuntersGuild.ExpressionScans

/-! What is accepted. -/

/-- What the parser can make of a text. -/
def Readable : Node → Prop
  | .binaryOperator _ left right => Readable left ∧ Readable right
  | .unaryOperator type sub => type ≠ .negative ∧ Readable sub
  | .flagLookup flagIndex => flagIndex.toNat < 0x400
  | .challengeCompletionLookup episode stageIndex =>
    (episode = .ep1 ∧ stageIndex.toNat ≤ 8) ∨ (episode = .ep2 ∧ stageIndex.toNat ≤ 4)
  | .constant value => 0 ≤ value.toInt
  | _ => True

/-- The names of team rewards consist of letters, digits and underscores. -/
def HasPlainNames : Node → Prop
  | .binaryOperator _ left right => HasPlainNames left ∧ HasPlainNames right
  | .unaryOperator _ sub => HasPlainNames sub
  | .teamRewardLookup rewardName => ∀ c ∈ rewardName, isWordChar c
  | _ => True

theorem readable_flagLookup {view : View} {node : Node} (h : parseFlagLookup view = .ok node) :
    Readable node := by
  simp only [parseFlagLookup] at h
  split_ifs at h with hend hflag
  obtain rfl := Except.ok.inj h
  have hlt := UInt64.lt_iff_toNat_lt.mp (UInt64.not_le.mp hflag)
  rw [Readable, UInt64.toNat_toUInt16]
  exact Nat.lt_of_le_of_lt (Nat.mod_le _ _) hlt

theorem readable_challengeStage {episode : Episode} (hepisode : episode = .ep1 ∨ episode = .ep2)
    {view : View} {node : Node} (h : parseChallengeStage episode view = .ok node) :
    Readable node := by
  simp only [parseChallengeStage] at h
  split_ifs at h with hend hstage
  obtain rfl := Except.ok.inj h
  obtain ⟨hep1, hep2⟩ := not_or.mp hstage
  rw [Readable, UInt64.toNat_toUInt8]
  refine hepisode.imp (fun heq => ⟨heq, ?_⟩) (fun heq => ⟨heq, ?_⟩)
  · have hle := UInt64.le_iff_toNat_le.mp (UInt64.not_lt.mp (not_and.mp hep1 heq))
    exact Nat.le_trans (Nat.mod_le _ _) hle
  · have hle := UInt64.le_iff_toNat_le.mp (UInt64.not_lt.mp (not_and.mp hep2 heq))
    exact Nat.le_trans (Nat.mod_le _ _) hle

theorem readable_constant {text : Text} {node : Node} (hroot : findRootOperator text = none)
    (h : parseConstant text = .ok node) : Readable node := by
  unfold parseConstant at h
  split at h
  · rename_i value hvalue
    obtain rfl := Except.ok.inj h
    unfold stoll at hvalue
    split at hvalue
    · cases hvalue
    · rename_i scanned hscan
      split_ifs at hvalue with hrange
      obtain ⟨rfl, -⟩ := Prod.mk.inj (Except.ok.inj hvalue)
      rw [Readable, Int64.toInt_ofInt_of_le (by omega) (by omega)]
      cases hsign : scanned.negative with
      | false =>
          rw [Scanned.value, hsign]
          exact Int.natCast_nonneg _
      | true =>
          exfalso
          obtain ⟨d, ds, hminus, hd⟩ := exists_of_negative hscan hsign
          have htext := List.takeWhile_append_dropWhile (p := isSpace) (l := text)
          rw [hminus] at htext
          refine findRootOperator_minus ?_ hd (htext ▸ hroot)
          intro c hc
          have hspace := List.mem_takeWhile_imp hc
          refine ⟨?_, ?_, ?_⟩
          all_goals
            rintro rfl
            cases hspace
  · cases h

theorem readable_leaf {view : View} {node : Node} (hroot : findRootOperator view.text = none)
    (h : parseLeaf view = .ok node) : Readable node := by
  unfold parseLeaf at h
  split_ifs at h
  · exact readable_flagLookup h
  · unfold parseChallengeCompletionLookup at h
    split_ifs at h
    · exact readable_challengeStage (.inl rfl) h
    · exact readable_challengeStage (.inr rfl) h
  · obtain rfl := Except.ok.inj h
    trivial
  · obtain rfl := Except.ok.inj h
    trivial
  · obtain rfl := Except.ok.inj h
    trivial
  · obtain rfl := Except.ok.inj h
    trivial
  · obtain rfl := Except.ok.inj h
    exact (by decide : 0 ≤ (1 : Int64).toInt)
  · obtain rfl := Except.ok.inj h
    exact (by decide : 0 ≤ (0 : Int64).toInt)
  · exact readable_constant hroot h

theorem unaryOperator?_eq_some {text : Text} {type : UnaryOperator}
    (h : unaryOperator? text = some type) : text.head? = some type.char := by
  unfold unaryOperator? at h
  split at h
  · rw [← Option.some.inj h]
    rfl
  · rw [← Option.some.inj h]
    rfl
  · rw [← Option.some.inj h]
    rfl
  · cases h

theorem readable_parseExpr {view : View} {node : Node} (h : parseExpr view = .ok node) :
    Readable node := by
  induction hn : view.text.length using Nat.strongRecOn generalizing view node with
  | ind n ih =>
      rw [parseExpr_eq] at h
      obtain ⟨stripped, hstrip, hbody⟩ := bind_eq_ok.mp h
      have hle := strip_length_le hstrip
      split_ifs at hbody with hempty
      have hpos := List.length_pos_of_ne_nil hempty
      rw [parseStripped] at hbody
      rcases hroot : findRootOperator stripped.text with _ | ⟨z, type⟩
      · rcases hunary : unaryOperator? stripped.text with _ | type
        · simp only [hroot, hunary] at hbody
          exact readable_leaf hroot hbody
        · simp only [hroot, hunary] at hbody
          have hhead := unaryOperator?_eq_some hunary
          have htype : type ≠ .negative := by
            rintro rfl
            refine parseStripped_minus hhead node ?_
            rw [parseStripped]
            simp only [hroot, hunary]
            exact hbody
          obtain ⟨sub, hsub, hnode⟩ := bind_eq_ok.mp hbody
          obtain rfl := Except.ok.inj hnode
          refine ⟨htype, ih _ ?_ hsub rfl⟩
          rw [View.drop, List.length_drop]
          omega
      · simp only [hroot] at hbody
        obtain ⟨left, hleft, hbody⟩ := bind_eq_ok.mp hbody
        obtain ⟨right, hright, hnode⟩ := bind_eq_ok.mp hbody
        obtain rfl := Except.ok.inj hnode
        have hlt := findRootOperator_spec hroot
        refine ⟨ih _ ?_ hleft rfl, ih _ ?_ hright rfl⟩
        · rw [View.take, List.length_take]
          omega
        · rw [View.drop, List.length_drop]
          have := List.length_pos_of_ne_nil (BinaryOperator.text_ne_nil type)
          omega

/-! The texts of the leaves. -/

theorem isWordChar_of_isDigit {c : Char} (h : c.isDigit) : isWordChar c := by
  rw [isWordChar, Char.isAlphanum, h, Bool.or_true, Bool.true_or]

theorem isWordChar_toDigits (n : Nat) : ∀ c ∈ Nat.toDigits 10 n, isWordChar c := fun _ hc =>
  isWordChar_of_isDigit (Nat.isDigit_of_mem_toDigits (by decide) (by decide) hc)

/-- The four digits of a flag, none of which looks like a prefix. -/
theorem formatFlag_digits : ∀ flag : Fin 0x400,
    ((formatFlag (UInt16.ofNat flag)).all fun c => isWordChar c && (digit? 16 c).isSome) ∧
      scanDigits 16 0 (formatFlag (UInt16.ofNat flag)) = (flag.val, []) ∧
      (formatFlag (UInt16.ofNat flag)).length = 4 ∧
      (formatFlag (UInt16.ofNat flag))[0]? = some '0' ∧
      (formatFlag (UInt16.ofNat flag))[1]? ≠ some 'x' ∧
      (formatFlag (UInt16.ofNat flag))[1]? ≠ some 'X' := by
  decide +kernel

theorem formatFlag_spec {flagIndex : UInt16} (h : flagIndex.toNat < 0x400) :
    (∀ c ∈ formatFlag flagIndex, isWordChar c) ∧ Digits 16 (formatFlag flagIndex) flagIndex.toNat ∧
      ∃ c cs, formatFlag flagIndex = '0' :: c :: cs ∧ c ≠ 'x' ∧ c ≠ 'X' := by
  obtain ⟨hchars, hscan, hlength, hzero, hx, hX⟩ := formatFlag_digits ⟨flagIndex.toNat, h⟩
  simp only [UInt16.ofNat_toNat] at hchars hscan hlength hzero hx hX
  match htext : formatFlag flagIndex, hlength with
  | [c, d, e, f], _ =>
    rw [htext] at hchars hscan hzero hx hX
    obtain rfl := Option.some.inj hzero
    simp only [List.all_eq_true, Bool.and_eq_true] at hchars
    refine ⟨fun c hc => (hchars c hc).1, ⟨fun c hc => (hchars c hc).2, List.cons_ne_nil _ _, hscan⟩, ?_⟩
    exact ⟨d, [e, f], rfl, fun heq => hx (congrArg some heq), fun heq => hX (congrArg some heq)⟩

theorem scanInteger_formatFlag {flagIndex : UInt16} (h : flagIndex.toNat < 0x400) {rest : Text}
    (hrest : startsWithDigit 16 rest = false) :
    scanInteger 16 (formatFlag flagIndex ++ rest) = some ⟨false, flagIndex.toNat, rest⟩ := by
  obtain ⟨-, hdigits, c, cs, htext, hx, hX⟩ := formatFlag_spec h
  have hstarts := hdigits.startsWithDigit rest
  have hscan := hdigits.scan hrest
  have hfront : takePrefix 16 (formatFlag flagIndex ++ rest) = (16, formatFlag flagIndex ++ rest) := by
    rw [htext]
    change (if (c = 'x' ∨ c = 'X') ∧ _ then _ else _) = _
    rw [if_neg fun hfront => hfront.1.elim hx hX]
    rfl
  have hsign : takeSign ((formatFlag flagIndex ++ rest).dropWhile isSpace) =
      (false, formatFlag flagIndex ++ rest) := by
    rw [htext]
    rfl
  simp only [scanInteger, hsign, hfront, hstarts, if_true, hscan]

theorem toNat_add_one_of_le {stageIndex : UInt8} (h : stageIndex.toNat ≤ 8) :
    (stageIndex + 1).toNat = stageIndex.toNat + 1 := by
  rw [UInt8.toNat_add]
  change (stageIndex.toNat + 1) % 256 = _
  omega

/-- What follows a leaf in a text: nothing, or the parenthesis around it. -/
def Delimits (after : Text) : Prop := after = [] ∨ after.head? = some ')'

theorem Delimits.startsWithDigit {after : Text} (h : Delimits after) (base : Nat) :
    startsWithDigit base after = false := by
  rcases h with rfl | h
  · rfl
  · obtain ⟨cs, rfl⟩ := List.head?_eq_some_iff.mp h
    rfl

theorem parseExpr_word {text : Text} (hne : text ≠ []) (h : ∀ c ∈ text, isWordChar c) (after : Text) :
    parseExpr ⟨text, after⟩ = parseLeaf ⟨text, after⟩ := by
  have hunary : unaryOperator? text = none := by
    rcases hunary : unaryOperator? text with _ | type
    · rfl
    · have hchar := h _ (List.mem_of_head? (unaryOperator?_eq_some hunary))
      cases type <;> cases hchar
  have hstrip : strip ⟨text, after⟩ = .ok ⟨text, after⟩ := strip_of_bare (bare_of_word hne h)
  rw [parseExpr_of_strip hstrip hne, parseStripped]
  simp only [findRootOperator_word h, hunary]

theorem parseLeaf_flagLookup {flagIndex : UInt16} (h : flagIndex.toNat < 0x400) {after : Text}
    (hafter : startsWithDigit 16 after = false) :
    parseLeaf ⟨"F_".toList ++ formatFlag flagIndex, after⟩ = .ok (.flagLookup flagIndex) := by
  have hscan := scanInteger_formatFlag h hafter
  have hlt : flagIndex.toNat < 2 ^ 64 := by omega
  have hvalue : (UInt64.ofNat flagIndex.toNat).toNat = flagIndex.toNat := UInt64.toNat_ofNat_of_lt' hlt
  have hfits : ¬ UInt64.ofNat flagIndex.toNat ≥ 0x400 := by
    rw [ge_iff_le, UInt64.le_iff_toNat_le, hvalue]
    exact Nat.not_le.mpr h
  have hflag : (UInt64.ofNat flagIndex.toNat).toUInt16 = flagIndex := by
    rw [← UInt16.toNat_inj, UInt64.toNat_toUInt16, hvalue]
    exact Nat.mod_eq_of_lt flagIndex.toNat_lt
  have hleaf : parseLeaf ⟨"F_".toList ++ formatFlag flagIndex, after⟩ =
      parseFlagLookup ⟨"F_".toList ++ formatFlag flagIndex, after⟩ := rfl
  have hdrop : ("F_".toList ++ formatFlag flagIndex).drop 2 = formatFlag flagIndex := rfl
  rw [hleaf, parseFlagLookup]
  simp only [hdrop, strtoul, hscan, if_pos hlt, Scanned.unsigned, Bool.false_eq_true, if_false,
    ne_eq, not_true_eq_false, if_neg hfits, hflag]

theorem strtoul_toDigits {n : Nat} (hpos : 0 < n) (hlt : n < 2 ^ 64) {after : Text}
    (hafter : startsWithDigit 10 after = false) :
    strtoul 0 (Nat.toDigits 10 n ++ after) = (UInt64.ofNat n, after) := by
  rw [strtoul, scanInteger_toDigits hpos hafter]
  dsimp only
  rw [if_pos hlt]
  rfl

theorem parseChallengeStage_toDigits {episode : Episode} {stageIndex : UInt8}
    (h : (episode = .ep1 ∧ stageIndex.toNat ≤ 8) ∨ (episode = .ep2 ∧ stageIndex.toNat ≤ 4))
    {view : View} (hview : view.text.drop 7 = Nat.toDigits 10 (stageIndex + 1).toNat)
    (hafter : startsWithDigit 10 view.after = false) :
    parseChallengeStage episode view = .ok (.challengeCompletionLookup episode stageIndex) := by
  have hle : stageIndex.toNat ≤ 8 := h.elim (fun h => h.2) (fun h => by omega)
  have hnat := toNat_add_one_of_le hle
  have hindex : (UInt64.ofNat (stageIndex.toNat + 1) - 1).toNat = stageIndex.toNat := by
    rw [UInt64.toNat_sub, UInt64.toNat_ofNat_of_lt' (Nat.lt_of_le_of_lt (Nat.succ_le_succ hle) (by decide))]
    change (2 ^ 64 - 1 + (stageIndex.toNat + 1)) % 2 ^ 64 = _
    omega
  have hfits : ¬ ((episode = .ep1 ∧ UInt64.ofNat (stageIndex.toNat + 1) - 1 > 8) ∨
      (episode = .ep2 ∧ UInt64.ofNat (stageIndex.toNat + 1) - 1 > 4)) := by
    simp only [gt_iff_lt, UInt64.lt_iff_toNat_lt, hindex]
    change ¬ ((episode = .ep1 ∧ 8 < stageIndex.toNat) ∨ (episode = .ep2 ∧ 4 < stageIndex.toNat))
    rcases h with ⟨rfl, hle⟩ | ⟨rfl, hle⟩
    · simp only [reduceCtorEq, false_and, or_false, true_and]
      omega
    · simp only [reduceCtorEq, false_and, false_or, true_and]
      omega
  have hstage : (UInt64.ofNat (stageIndex.toNat + 1) - 1).toUInt8 = stageIndex := by
    rw [← UInt8.toNat_inj, UInt64.toNat_toUInt8, hindex]
    exact Nat.mod_eq_of_lt stageIndex.toNat_lt
  rw [parseChallengeStage, hview, hnat, strtoul_toDigits (Nat.succ_pos _) (by omega) hafter]
  simp only [ne_eq, not_true_eq_false, if_false, if_neg hfits, hstage]

theorem parseLeaf_challengeCompletionLookup {episode : Episode} {stageIndex : UInt8}
    (h : (episode = .ep1 ∧ stageIndex.toNat ≤ 8) ∨ (episode = .ep2 ∧ stageIndex.toNat ≤ 4))
    {after : Text} (hafter : startsWithDigit 10 after = false) :
    parseLeaf ⟨(Node.challengeCompletionLookup episode stageIndex).str, after⟩ =
      .ok (.challengeCompletionLookup episode stageIndex) := by
  have hleaf : parseLeaf ⟨(Node.challengeCompletionLookup episode stageIndex).str, after⟩ =
      parseChallengeStage episode ⟨(Node.challengeCompletionLookup episode stageIndex).str, after⟩ := by
    rcases h with ⟨rfl, -⟩ | ⟨rfl, -⟩ <;> rfl
  rw [hleaf]
  refine parseChallengeStage_toDigits h ?_ hafter
  rcases h with ⟨rfl, -⟩ | ⟨rfl, -⟩ <;> rfl

theorem formatInteger_of_nonneg {value : Int64} (h : 0 ≤ value.toInt) :
    formatInteger value = Nat.toDigits 10 value.toInt.natAbs := by
  have hnot : ¬ value < 0 := by
    rw [Int64.lt_iff_toInt_lt]
    exact Int.not_lt.mpr h
  rw [formatInteger, if_neg hnot]

theorem stoll_toDigits {n : Nat} (h : n < 2 ^ 63) :
    stoll 0 (Nat.toDigits 10 n) = .ok (Int64.ofNat n, []) := by
  have hscan : scanInteger 0 (Nat.toDigits 10 n) = some ⟨false, n, []⟩ := by
    rcases Nat.eq_zero_or_pos n with rfl | hpos
    · rfl
    · have hscan := @scanInteger_toDigits n [] hpos rfl
      rwa [List.append_nil] at hscan
  have hrange : -2 ^ 63 ≤ (n : Int) ∧ (n : Int) < 2 ^ 63 := by omega
  rw [stoll, hscan]
  change (if -2 ^ 63 ≤ (n : Int) ∧ (n : Int) < 2 ^ 63 then _ else _) = _
  rw [if_pos hrange]
  rfl

/-- A number does not look like any of the names. -/
theorem parseLeaf_of_isDigit {c : Char} (h : c.isDigit) (cs after : Text) :
    parseLeaf ⟨c :: cs, after⟩ = parseConstant (c :: cs) := by
  have hne {d : Char} (hd : d.isDigit = false) (ds : Text) : c :: cs ≠ d :: ds := by
    intro heq
    rw [(List.cons.inj heq).1, hd] at h
    cases h
  have hfront {d : Char} (hd : d.isDigit = false) (ds : Text) :
      ¬ (d :: ds).isPrefixOf (c :: cs) = true := by
    intro heq
    obtain ⟨rest, hrest⟩ := List.isPrefixOf_iff_prefix.mp heq
    exact hne hd (ds ++ rest) hrest.symm
  have hflag : ¬ "F_".toList.isPrefixOf (c :: cs) = true := hfront (by decide) _
  have hchallenge : ¬ "CC_".toList.isPrefixOf (c :: cs) = true := hfront (by decide) _
  have hteam : ¬ "T_".toList.isPrefixOf (c :: cs) = true := hfront (by decide) _
  have hplayers : c :: cs ≠ "V_NumPlayers".toList := hne (by decide) _
  have hevent : c :: cs ≠ "V_Event".toList := hne (by decide) _
  have hv1 : c :: cs ≠ "V_V1Present".toList := hne (by decide) _
  have htrue : c :: cs ≠ "true".toList := hne (by decide) _
  have hfalse : c :: cs ≠ "false".toList := hne (by decide) _
  simp only [parseLeaf, if_neg hflag, if_neg hchallenge, if_neg hteam, if_neg hplayers,
    if_neg hevent, if_neg hv1, if_neg htrue, if_neg hfalse]

theorem parseLeaf_constant {value : Int64} (h : 0 ≤ value.toInt) (after : Text) :
    parseLeaf ⟨formatInteger value, after⟩ = .ok (.constant value) := by
  have hlt : value.toInt.natAbs < 2 ^ 63 := by
    have := value.toInt_lt
    omega
  have hvalue : Int64.ofNat value.toInt.natAbs = value := by
    rw [← Int64.ofInt_eq_ofNat, Int.natAbs_of_nonneg h, Int64.ofInt_toInt]
  obtain ⟨c, cs, hcs⟩ := List.exists_cons_of_ne_nil (@Nat.toDigits_ne_nil value.toInt.natAbs 10)
  have hdigit : c.isDigit :=
    Nat.isDigit_of_mem_toDigits (by decide) (by decide) (hcs ▸ List.mem_cons_self)
  rw [formatInteger_of_nonneg h, hcs, parseLeaf_of_isDigit hdigit, ← hcs, parseConstant,
    stoll_toDigits hlt, hvalue]

theorem isWordChar_append {text rest : Text} (h : ∀ c ∈ text, isWordChar c)
    (hrest : ∀ c ∈ rest, isWordChar c) : ∀ c ∈ text ++ rest, isWordChar c := by
  intro c hc
  exact (List.mem_append.mp hc).elim (h c) (hrest c)

/-- The text of a node without parts is a word that is read back. -/
structure IsLeaf (node : Node) : Prop where
  ne_nil : node.str ≠ []
  word : ∀ c ∈ node.str, isWordChar c
  parse : ∀ after, Delimits after → parseLeaf ⟨node.str, after⟩ = .ok node

theorem isLeaf_flagLookup {flagIndex : UInt16} (h : flagIndex.toNat < 0x400) :
    IsLeaf (.flagLookup flagIndex) where
  ne_nil := List.cons_ne_nil _ _
  word := by
    have hname : ∀ c ∈ "F_".toList, isWordChar c := forall_mem_of_all (by decide)
    exact isWordChar_append hname (formatFlag_spec h).1
  parse := fun _ hafter => parseLeaf_flagLookup h (hafter.startsWithDigit 16)

theorem isLeaf_challengeCompletionLookup {episode : Episode} {stageIndex : UInt8}
    (h : (episode = .ep1 ∧ stageIndex.toNat ≤ 8) ∨ (episode = .ep2 ∧ stageIndex.toNat ≤ 4)) :
    IsLeaf (.challengeCompletionLookup episode stageIndex) where
  ne_nil := List.cons_ne_nil _ _
  word := by
    have hname : ∀ c ∈ "CC_".toList, isWordChar c := forall_mem_of_all (by decide)
    have hepisode : ∀ c ∈ abbreviationForEpisode episode ++ ['_'], isWordChar c :=
      forall_mem_of_all (by cases episode <;> decide)
    have hdigits := isWordChar_append hepisode (isWordChar_toDigits (stageIndex + 1).toNat)
    rw [List.append_assoc] at hdigits
    exact isWordChar_append hname hdigits
  parse := fun _ hafter => parseLeaf_challengeCompletionLookup h (hafter.startsWithDigit 10)

theorem isLeaf_teamRewardLookup {rewardName : Text} (h : ∀ c ∈ rewardName, isWordChar c) :
    IsLeaf (.teamRewardLookup rewardName) where
  ne_nil := List.cons_ne_nil _ _
  word := by
    have hname : ∀ c ∈ "T_".toList, isWordChar c := forall_mem_of_all (by decide)
    exact isWordChar_append hname h
  parse := fun _ _ => rfl

theorem isLeaf_numPlayersLookup : IsLeaf .numPlayersLookup where
  ne_nil := List.cons_ne_nil _ _
  word := forall_mem_of_all (by decide)
  parse := fun _ _ => rfl

theorem isLeaf_eventLookup : IsLeaf .eventLookup where
  ne_nil := List.cons_ne_nil _ _
  word := forall_mem_of_all (by decide)
  parse := fun _ _ => rfl

theorem isLeaf_v1PresenceLookup : IsLeaf .v1PresenceLookup where
  ne_nil := List.cons_ne_nil _ _
  word := forall_mem_of_all (by decide)
  parse := fun _ _ => rfl

theorem isLeaf_constant {value : Int64} (h : 0 ≤ value.toInt) : IsLeaf (.constant value) := by
  have htext : (Node.constant value).str = Nat.toDigits 10 value.toInt.natAbs :=
    formatInteger_of_nonneg h
  refine ⟨?_, ?_, fun after _ => parseLeaf_constant h after⟩
  · rw [htext]
    exact Nat.toDigits_ne_nil
  · rw [htext]
    exact isWordChar_toDigits _

theorem IsLeaf.parseExpr_str {node : Node} (h : IsLeaf node) {after : Text}
    (hafter : Delimits after) : parseExpr ⟨node.str, after⟩ = .ok node :=
  (parseExpr_word h.ne_nil h.word after).trans (h.parse after hafter)

/-! Whole texts. -/

theorem balanced_str {node : Node} (h : Readable node) (hnames : HasPlainNames node) :
    Balanced node.str := by
  induction node with
  | binaryOperator type left right ihleft ihright =>
      have htype : Balanced (type.text ++ [' ']) := .of_chars (forall_mem_of_all (by cases type <;> decide))
      have hright := htype.append (ihright h.2 hnames.2).parens
      rw [List.append_assoc] at hright
      exact (ihleft h.1 hnames.1).parens.append (.char (by decide) (by decide) hright)
  | unaryOperator type sub ih =>
      refine .char ?_ ?_ (ih h.2 hnames).parens
      · cases type <;> decide
      · cases type <;> decide
  | flagLookup flagIndex => exact .of_word (isLeaf_flagLookup h).word
  | challengeCompletionLookup episode stageIndex =>
      exact .of_word (isLeaf_challengeCompletionLookup h).word
  | teamRewardLookup rewardName => exact .of_word (isLeaf_teamRewardLookup hnames).word
  | numPlayersLookup => exact .of_word isLeaf_numPlayersLookup.word
  | eventLookup => exact .of_word isLeaf_eventLookup.word
  | v1PresenceLookup => exact .of_word isLeaf_v1PresenceLookup.word
  | constant value => exact .of_word (isLeaf_constant h).word

/-- Spaces and one pair of parentheses around a text do not matter. -/
theorem parseExpr_enclosed {before inner behind : Text} (hbefore : ∀ c ∈ before, c = ' ')
    (hbehind : ∀ c ∈ behind, c = ' ') (hinner : Balanced inner) (after : Text) :
    parseExpr ⟨before ++ (enclosed inner ++ behind), after⟩ =
      parseExpr ⟨inner, ')' :: (behind ++ after)⟩ := by
  rw [parseExpr_eq, parseExpr_eq ⟨inner, _⟩, parseBody, parseBody,
    strip_enclosed hbefore hbehind hinner]

theorem getLast?_append_enclosed (text inner : Text) :
    (text ++ enclosed inner).getLast? = some ')' := by
  rw [enclosed, ← List.cons_append, ← List.append_assoc]
  exact List.getLast?_concat

theorem bare_binary {left : Text} (hleft : Balanced left) (type : BinaryOperator) (right : Text) :
    Bare (enclosed left ++ ' ' :: (type.text ++ ' ' :: enclosed right)) where
  ne_nil := List.cons_ne_nil _ _
  first := by
    intro h
    cases h
  last := by
    have hsplit : enclosed left ++ ' ' :: (type.text ++ ' ' :: enclosed right) =
        (enclosed left ++ ' ' :: (type.text ++ [' '])) ++ enclosed right := by
      simp only [List.append_assoc, List.cons_append, List.nil_append]
    rw [hsplit, getLast?_append_enclosed]
    decide
  parens := by
    rintro ⟨-, -, hopen⟩
    have hinside : (enclosed left ++ ' ' :: (type.text ++ ' ' :: enclosed right)).tail.dropLast =
        left ++ ')' :: ' ' :: (type.text ++ ' ' :: '(' :: right) := by
      have hsplit : left ++ ')' :: ' ' :: (type.text ++ ' ' :: enclosed right) =
          (left ++ ')' :: ' ' :: (type.text ++ ' ' :: '(' :: right)) ++ [')'] := by
        simp only [enclosed, List.append_assoc, List.cons_append]
      rw [enclosed_append, List.tail_cons, hsplit, List.dropLast_concat]
    rw [hinside, hleft.staysOpen_append (by decide)] at hopen
    cases hopen

theorem bare_unary (type : UnaryOperator) (sub : Text) : Bare (type.char :: enclosed sub) := by
  have hspace : type.char ≠ ' ' := by cases type <;> decide
  have hopen : type.char ≠ '(' := by cases type <;> decide
  refine ⟨List.cons_ne_nil _ _, ?_, ?_, ?_⟩
  · exact fun h => hspace (Option.some.inj h)
  · have hlast := getLast?_append_enclosed [type.char] sub
    rw [List.singleton_append] at hlast
    rw [hlast]
    decide
  · exact fun h => hopen (Option.some.inj h.1)

theorem parseExpr_binary {left right : Text} (hleft : Balanced left) (hright : Balanced right)
    (type : BinaryOperator) (after : Text) :
    parseExpr ⟨enclosed left ++ ' ' :: (type.text ++ ' ' :: enclosed right), after⟩ = do
      let leftNode ← parseExpr
        ⟨left, ')' :: ' ' :: (type.text ++ ' ' :: (enclosed right ++ after))⟩
      let rightNode ← parseExpr ⟨right, ')' :: after⟩
      return .binaryOperator type leftNode rightNode := by
  have hbare := bare_binary hleft type right
  have hlength : (enclosed left ++ [' ']).length = left.length + 3 := by
    simp only [enclosed, List.length_append, List.length_cons, List.length_nil]
  have htext : enclosed left ++ ' ' :: (type.text ++ ' ' :: enclosed right) =
      (enclosed left ++ [' ']) ++ (type.text ++ ' ' :: enclosed right) := by
    simp only [List.append_assoc, List.cons_append, List.nil_append]
  have htake : View.take (left.length + 3)
      ⟨enclosed left ++ ' ' :: (type.text ++ ' ' :: enclosed right), after⟩ =
        ⟨enclosed left ++ [' '], type.text ++ ' ' :: (enclosed right ++ after)⟩ := by
    rw [View.take, htext, ← hlength, List.take_left, List.drop_left, List.append_assoc]
    rfl
  have hdrop : View.drop (left.length + 3 + type.text.length)
      ⟨enclosed left ++ ' ' :: (type.text ++ ' ' :: enclosed right), after⟩ =
        ⟨' ' :: enclosed right, after⟩ := by
    rw [View.drop, htext, ← hlength, ← List.drop_drop, List.drop_left, List.drop_left]
  have hleftpart (rest : Text) : parseExpr ⟨enclosed left ++ [' '], rest⟩ =
      parseExpr ⟨left, ')' :: ' ' :: rest⟩ :=
    @parseExpr_enclosed [] left [' '] (List.forall_mem_nil _) (forall_mem_of_all (by decide)) hleft rest
  have hrightpart : parseExpr ⟨' ' :: enclosed right, after⟩ = parseExpr ⟨right, ')' :: after⟩ := by
    have hpart := @parseExpr_enclosed [' '] right [] (forall_mem_of_all (by decide)) (List.forall_mem_nil _) hright after
    rwa [List.append_nil] at hpart
  have hstrip : strip ⟨enclosed left ++ ' ' :: (type.text ++ ' ' :: enclosed right), after⟩ =
      .ok ⟨enclosed left ++ ' ' :: (type.text ++ ' ' :: enclosed right), after⟩ := strip_of_bare hbare
  rw [parseExpr_of_strip hstrip hbare.ne_nil, parseStripped]
  simp only [findRootOperator_binary hleft hright type, htake, hdrop, hleftpart, hrightpart]

theorem parseExpr_unary {sub : Text} (hsub : Balanced sub) {type : UnaryOperator}
    (htype : type ≠ .negative) (after : Text) :
    parseExpr ⟨type.char :: enclosed sub, after⟩ = do
      return .unaryOperator type (← parseExpr ⟨sub, ')' :: after⟩) := by
  have hbare := bare_unary type sub
  have hstrip : strip ⟨type.char :: enclosed sub, after⟩ = .ok ⟨type.char :: enclosed sub, after⟩ :=
    strip_of_bare hbare
  have hunary : unaryOperator? (type.char :: enclosed sub) = some type := by cases type <;> rfl
  have hdrop : View.drop 1 ⟨type.char :: enclosed sub, after⟩ = ⟨enclosed sub, after⟩ := rfl
  have hpart : parseExpr ⟨enclosed sub, after⟩ = parseExpr ⟨sub, ')' :: after⟩ := by
    have hpart := @parseExpr_enclosed [] sub [] (fun c hc => nomatch hc) (fun c hc => nomatch hc)
      hsub after
    rwa [List.nil_append, List.append_nil] at hpart
  rw [parseExpr_of_strip hstrip hbare.ne_nil, parseStripped]
  simp only [findRootOperator_unary hsub htype, hunary, hdrop, hpart]

theorem parseExpr_str {node : Node} (h : Readable node) (hnames : HasPlainNames node)
    {after : Text} (hafter : Delimits after) : parseExpr ⟨node.str, after⟩ = .ok node := by
  induction node generalizing after with
  | binaryOperator type left right ihleft ihright =>
      have hleft := balanced_str h.1 hnames.1
      have hright := balanced_str h.2 hnames.2
      refine (parseExpr_binary hleft hright type after).trans ?_
      rw [ihleft h.1 hnames.1 (.inr rfl), ok_bind, ihright h.2 hnames.2 (.inr rfl)]
      rfl
  | unaryOperator type sub ih =>
      refine (parseExpr_unary (balanced_str h.2 hnames) h.1 after).trans ?_
      rw [ih h.2 hnames (.inr rfl)]
      rfl
  | flagLookup flagIndex => exact (isLeaf_flagLookup h).parseExpr_str hafter
  | challengeCompletionLookup episode stageIndex =>
      exact (isLeaf_challengeCompletionLookup h).parseExpr_str hafter
  | teamRewardLookup rewardName => exact (isLeaf_teamRewardLookup hnames).parseExpr_str hafter
  | numPlayersLookup => exact isLeaf_numPlayersLookup.parseExpr_str hafter
  | eventLookup => exact isLeaf_eventLookup.parseExpr_str hafter
  | v1PresenceLookup => exact isLeaf_v1PresenceLookup.parseExpr_str hafter
  | constant value => exact (isLeaf_constant h).parseExpr_str hafter

theorem equals_self (node : Node) : node.equals node = true := by
  induction node with
  | binaryOperator type left right ihleft ihright =>
      simp only [Node.equals, ihleft, ihright, decide_true, Bool.and_true]
  | unaryOperator type sub ih => simp only [Node.equals, ih, decide_true, Bool.and_true]
  | challengeCompletionLookup episode stageIndex =>
      simp only [Node.equals, decide_true, Bool.and_true]
  | flagLookup flagIndex => simp only [Node.equals, decide_true]
  | teamRewardLookup rewardName => simp only [Node.equals, decide_true]
  | constant value => simp only [Node.equals, decide_true]
  | numPlayersLookup => simp only [Node.equals]
  | eventLookup => simp only [Node.equals]
  | v1PresenceLookup => simp only [Node.equals]

/-- An accepted expression is read back from its text as an equal one. -/
theorem parse_str {text : Text} {node : Node} (hparse : parse text = .ok node)
    (hnames : HasPlainNames node) :
    ∃ reparsed, parse node.str = .ok reparsed ∧ reparsed.equals node = true ∧
      ∀ env, reparsed.evaluate env = node.evaluate env :=
  ⟨node, parseExpr_str (readable_parseExpr hparse) hnames (.inl rfl), equals_self node, fun _ => rfl⟩

theorem parse_str_flags : ∃ reparsed,
    parse (Node.binaryOperator .logicalOr (.flagLookup 0x12)
      (.binaryOperator .lessThan (.teamRewardLookup ['T', '1']) (.constant 8))).str = .ok reparsed ∧
    reparsed.equals (.binaryOperator .logicalOr (.flagLookup 0x12)
      (.binaryOperator .lessThan (.teamRewardLookup ['T', '1']) (.constant 8))) = true ∧
    ∀ env, reparsed.evaluate env = (Node.binaryOperator .logicalOr (.flagLookup 0x12)
      (.binaryOperator .lessThan (.teamRewardLookup ['T', '1']) (.constant 8))).evaluate env :=
  @parse_str "F_12 || (T_T1 < 010)".toList _ (by decide +kernel)
    ⟨trivial, (forall_mem_of_all (by decide) : ∀ c ∈ ['T', '1'], isWordChar c), trivial⟩

end HuntersGuild.ExpressionRoundTrip
