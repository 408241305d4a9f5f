import HuntersGuild.DcSerialChecks
import HuntersGuild.ExceptionRules

/-!
The iterator visits every place of the tables in its range once, so that all serial numbers
that are valid in the range are collected, and no others.
-/

namespace HuntersGuild.DcSerialIteration

open HuntersGuild.DcSerialChecks
open HuntersGuild.DcSerialNumbers
open HuntersGuild.DcSerialTables
open HuntersGuild.ExceptionRules

/-- A place in the range of an iterator that goes over whole domains. -/
structure InRange (iter : DCSerialNumberIterator) : Prop where
  started : iter.started = true
  running : iter.complete = false
  startDomain_le : iter.startDomain ≤ iter.domain
  domain_lt : iter.domain < iter.endDomain
  endDomain_le : iter.endDomain ≤ 3
  startSubdomain_le : iter.startSubdomain ≤ iter.subdomain
  subdomain_lt : iter.subdomain < iter.endSubdomain
  endSubdomain_le : iter.endSubdomain ≤ 3
  index2_lt : iter.index2.toNat < primes2.length
  index3_lt : iter.index3.toNat < primes3.length

/-- The same iterator at another place. -/
def movedTo (iter : DCSerialNumberIterator) (domain subdomain : UInt8) (index2 index3 : UInt16) :
    DCSerialNumberIterator :=
  { iter with domain, subdomain, index2, index3 }

variable {iter : DCSerialNumberIterator}

theorem progress_eq (iter : DCSerialNumberIterator) :
    iter.progress = (iter.domain.toNat - iter.startDomain.toNat) *
        (iter.endSubdomain.toNat - iter.startSubdomain.toNat) * 8862533 +
      (iter.subdomain.toNat - iter.startSubdomain.toNat) * 8862533 +
        iter.index2.toNat * 8353 + iter.index3.toNat := by
  rw [DCSerialNumberIterator.progress, primes2_length, primes3_length, Nat.mul_assoc _ 1061, Nat.mul_assoc _ 1061]

theorem totalCount_eq (iter : DCSerialNumberIterator) :
    iter.totalCount = (iter.endDomain.toNat - iter.startDomain.toNat) *
      (iter.endSubdomain.toNat - iter.startSubdomain.toNat) * 8862533 := by
  rw [DCSerialNumberIterator.totalCount, primes2_length, primes3_length, Nat.mul_assoc _ 1061]

/-- A step goes to the place that comes next, or it was the last one. -/
theorem advance_cases (h : InRange iter) :
    (∃ domain subdomain index2 index3, iter.advance = movedTo iter domain subdomain index2 index3 ∧
        InRange (movedTo iter domain subdomain index2 index3) ∧
        (movedTo iter domain subdomain index2 index3).progress = iter.progress + 1) ∨
      (iter.advance.complete = true ∧ iter.advance.started = true ∧ iter.progress + 1 = iter.totalCount) := by
  obtain ⟨hstarted, hrunning, hstart, hdomain, hend, hstartSub, hsub, hendSub, h2, h3⟩ := h
  simp only [UInt8.le_iff_toNat_le, UInt8.lt_iff_toNat_lt] at hstart hdomain hend hstartSub hsub hendSub
  have hlength2 := primes2_length
  have hlength3 := primes3_length
  have hzero : (0 : UInt16).toNat = 0 := rfl
  have hthird : (3 : UInt8).toNat = 3 := rfl
  have htwo : (iter.index2 + 1).toNat = iter.index2.toNat + 1 := by
    rw [UInt16.toNat_add]
    exact Nat.mod_eq_of_lt (show iter.index2.toNat + 1 < 2 ^ 16 by omega)
  have hthree : (iter.index3 + 1).toNat = iter.index3.toNat + 1 := by
    rw [UInt16.toNat_add]
    exact Nat.mod_eq_of_lt (show iter.index3.toNat + 1 < 2 ^ 16 by omega)
  have hnextSub : (iter.subdomain + 1).toNat = iter.subdomain.toNat + 1 := by
    rw [UInt8.toNat_add]
    exact Nat.mod_eq_of_lt (show iter.subdomain.toNat + 1 < 2 ^ 8 by omega)
  have hnextDomain : (iter.domain + 1).toNat = iter.domain.toNat + 1 := by
    rw [UInt8.toNat_add]
    exact Nat.mod_eq_of_lt (show iter.domain.toNat + 1 < 2 ^ 8 by omega)
  have hplace : ∀ domain subdomain index2 index3, iter.startDomain.toNat ≤ domain.toNat →
      domain.toNat < iter.endDomain.toNat → iter.startSubdomain.toNat ≤ subdomain.toNat →
      subdomain.toNat < iter.endSubdomain.toNat → index2.toNat < primes2.length → index3.toNat < primes3.length →
      InRange (movedTo iter domain subdomain index2 index3) :=
    fun domain subdomain index2 index3 h₁ h₂ h₃ h₄ h₅ h₆ =>
      ⟨hstarted, hrunning, h₁, h₂, hend, h₃, h₄, hendSub, h₅, h₆⟩
  rw [DCSerialNumberIterator.advance, progress_eq iter]
  dsimp only
  simp only [hthree, htwo]
  by_cases hlast3 : iter.index3.toNat + 1 ≥ primes3.length
  swap
  · rw [if_neg hlast3]
    refine .inl ⟨iter.domain, iter.subdomain, iter.index2, iter.index3 + 1, rfl,
      hplace _ _ _ _ hstart hdomain hstartSub hsub h2 (by omega), ?_⟩
    rw [progress_eq]
    dsimp only [movedTo]
    omega
  rw [if_pos hlast3]
  by_cases hlast2 : iter.index2.toNat + 1 ≥ primes2.length
  swap
  · rw [if_neg hlast2]
    refine .inl ⟨iter.domain, iter.subdomain, iter.index2 + 1, 0, rfl,
      hplace _ _ _ _ hstart hdomain hstartSub hsub (by omega) (by omega), ?_⟩
    rw [progress_eq]
    dsimp only [movedTo]
    omega
  rw [if_pos hlast2]
  by_cases hlastSub : iter.subdomain + 1 ≥ iter.endSubdomain
  swap
  · rw [if_neg hlastSub]
    rw [ge_iff_le, UInt8.le_iff_toNat_le] at hlastSub
    refine .inl ⟨iter.domain, iter.subdomain + 1, 0, 0, rfl,
      hplace _ _ _ _ hstart hdomain (by omega) (by omega) (by omega) (by omega), ?_⟩
    rw [progress_eq]
    dsimp only [movedTo]
    omega
  rw [if_pos hlastSub]
  rw [ge_iff_le, UInt8.le_iff_toNat_le] at hlastSub
  have hdone : iter.domain.toNat + 1 - iter.startDomain.toNat = iter.domain.toNat - iter.startDomain.toNat + 1 := by
    omega
  by_cases hlastDomain : iter.domain + 1 ≥ iter.endDomain
  swap
  · rw [if_neg hlastDomain]
    rw [ge_iff_le, UInt8.le_iff_toNat_le] at hlastDomain
    refine .inl ⟨iter.domain + 1, iter.startSubdomain, 0, 0, rfl,
      hplace _ _ _ _ (by omega) (by omega) (by omega) (by omega) (by omega) (by omega), ?_⟩
    rw [progress_eq]
    dsimp only [movedTo]
    rw [hnextDomain, hdone, Nat.succ_mul]
    omega
  · rw [if_pos hlastDomain]
    rw [ge_iff_le, UInt8.le_iff_toNat_le] at hlastDomain
    refine .inr ⟨rfl, hstarted, ?_⟩
    have hall : iter.endDomain.toNat = iter.domain.toNat + 1 := by omega
    rw [totalCount_eq, hall, hdone, Nat.succ_mul]
    omega

theorem progress_lt (h : InRange iter) : iter.progress < iter.totalCount := by
  obtain ⟨-, -, hstart, hdomain, -, hstartSub, hsub, -, h2, h3⟩ := h
  simp only [UInt8.le_iff_toNat_le, UInt8.lt_iff_toNat_lt] at hstart hdomain hstartSub hsub
  rw [primes2_length] at h2
  rw [primes3_length] at h3
  have hdone : (iter.domain.toNat - iter.startDomain.toNat + 1) *
      (iter.endSubdomain.toNat - iter.startSubdomain.toNat) ≤
      (iter.endDomain.toNat - iter.startDomain.toNat) * (iter.endSubdomain.toNat - iter.startSubdomain.toNat) :=
    Nat.mul_le_mul_right _ (by omega)
  rw [Nat.succ_mul] at hdone
  rw [progress_eq, totalCount_eq]
  omega

/-- Different places are reached at different times. -/
theorem place_unique {domain subdomain domain' subdomain' : UInt8} {index2 index3 index2' index3' : UInt16}
    (h : InRange (movedTo iter domain subdomain index2 index3))
    (h' : InRange (movedTo iter domain' subdomain' index2' index3'))
    (heq : (movedTo iter domain subdomain index2 index3).progress =
      (movedTo iter domain' subdomain' index2' index3').progress) :
    domain = domain' ∧ subdomain = subdomain' ∧ index2 = index2' ∧ index3 = index3' := by
  obtain ⟨-, -, hstart, -, -, hstartSub, hsub, hendSub, h2, h3⟩ := h
  obtain ⟨-, -, hstart', -, -, hstartSub', hsub', -, h2', h3'⟩ := h'
  simp only [movedTo, UInt8.le_iff_toNat_le, UInt8.lt_iff_toNat_lt]
    at hstart hstartSub hsub hendSub hstart' hstartSub' hsub'
  simp only [movedTo, primes2_length, primes3_length] at h2 h3 h2' h3'
  have hthird : (3 : UInt8).toNat = 3 := rfl
  rw [progress_eq, progress_eq] at heq
  dsimp only [movedTo] at heq
  simp only [← UInt8.toNat_inj, ← UInt16.toNat_inj]
  obtain hcount | hcount | hcount : iter.endSubdomain.toNat - iter.startSubdomain.toNat = 1 ∨
      iter.endSubdomain.toNat - iter.startSubdomain.toNat = 2 ∨
      iter.endSubdomain.toNat - iter.startSubdomain.toNat = 3 := by omega
  all_goals
    rw [hcount] at heq
    omega

/-- The serial number of a place. -/
def serialAt (iter : DCSerialNumberIterator) : UInt32 :=
  encodeDcSerialNumberInt (.ofNat (product (30 * iter.domain.toNat + iter.subdomain.toNat % 3)
    (primes2.getD iter.index2.toNat 0) (primes3.getD iter.index3.toNat 0)))

theorem tag_eq (h : InRange iter) : (iter.domain <<< 2) &&& 3 ||| iter.subdomain &&& 3 = iter.subdomain := by
  have hall : ∀ domain < 3, ∀ subdomain < 3,
      (UInt8.ofNat domain <<< 2) &&& 3 ||| UInt8.ofNat subdomain &&& 3 = UInt8.ofNat subdomain := by
    decide
  have hdomain : iter.domain.toNat < 3 := Nat.lt_of_lt_of_le h.domain_lt h.endDomain_le
  have hsubdomain : iter.subdomain.toNat < 3 := Nat.lt_of_lt_of_le h.subdomain_lt h.endSubdomain_le
  have htag := hall _ hdomain _ hsubdomain
  rw [UInt8.ofNat_toNat, UInt8.ofNat_toNat] at htag
  exact htag

/-- Nothing that can be divided by a prime of the second table has a third prime left. -/
theorem zero_not_product {domain : UInt8} (hdomain : domain ≤ 2) {index prime2 prime3 : Nat} (hindex : index < 3)
    (h2 : prime2 ∈ primes2) (h3 : prime3 ∈ primes3) :
    product (domain.toNat * 30 + index) prime2 prime3 ≠ (decodeDcSerialNumberInt 0).toNat := by
  have hall : (List.range 3).all (fun domain => (List.range 3).all fun index => (List.range 0xE8).all fun high =>
      (high * 2 ^ 32 + 0x55555555) % primes1.getD (domain * 30 + index) 0 ≠ 0 ||
        primes2.all fun prime2 =>
          (high * 2 ^ 32 + 0x55555555) / primes1.getD (domain * 30 + index) 0 % prime2 ≠ 0 ||
            0x1861F < (high * 2 ^ 32 + 0x55555555) / primes1.getD (domain * 30 + index) 0 / prime2) = true := by
    decide +kernel
  simp only [List.all_eq_true, List.mem_range, Bool.or_eq_true, decide_eq_true_eq] at hall
  have hzero : (decodeDcSerialNumberInt 0).toNat = 0x55555555 := by
    decide
  have hpos := (prime1_bounds hdomain hindex).1
  have hpos2 := (primes2_bounds prime2 h2).1
  have hhigh := (Nat.div_lt_iff_lt_mul (by decide)).mpr (product_bound hdomain hindex h2 h3)
  intro heq
  rw [hzero, product] at heq
  have hsplit : primes1.getD (domain.toNat * 30 + index) 0 * prime2 * prime3 / 2 ^ 32 * 2 ^ 32 + 0x55555555 =
      primes1.getD (domain.toNat * 30 + index) 0 * (prime2 * prime3) := by
    rw [← heq, Nat.div_add_mod', Nat.mul_assoc]
  have hcase := hall domain.toNat (Nat.lt_succ_of_le hdomain) index hindex _ hhigh
  rw [hsplit, Nat.mul_mod_right, Nat.mul_div_cancel_left _ hpos] at hcase
  rcases hcase.resolve_left (fun h => h rfl) prime2 h2 with hmod | hlarge
  · exact hmod (Nat.mul_mod_right prime2 prime3)
  · rw [Nat.mul_div_cancel_left _ hpos2] at hlarge
    exact absurd hlarge (Nat.not_lt_of_le (primes3_bounds prime3 h3).2)

/-- No serial number in range is the zero that ends the iteration. -/
theorem serialAt_ne_zero (h : InRange iter) : serialAt iter ≠ 0 := by
  intro hzero
  have hdecoded := congrArg decodeDcSerialNumberInt hzero
  rw [serialAt, decode_encode] at hdecoded
  have hproduct := congrArg UInt32.toNat hdecoded
  rw [ofNat_toNat_lt (product_lt _ _ _)] at hproduct
  rw [Nat.mul_comm 30] at hproduct
  have hdomain : iter.domain.toNat < 3 := Nat.lt_of_lt_of_le h.domain_lt h.endDomain_le
  exact zero_not_product (Nat.le_of_lt_succ hdomain) (Nat.mod_lt _ (by decide)) (getD_mem h.index2_lt)
    (getD_mem h.index3_lt) hproduct

/-- The loop collects the subdomains of all later places for their serial numbers. -/
theorem collect_spec (fuel : Nat) (h : InRange iter) (hfuel : iter.totalCount ≤ iter.progress + fuel)
    (ret : UInt32 → List UInt8) :
    ∃ ret', collect fuel iter ret = .ok ret' ∧ ∀ n tag, tag ∈ ret' n ↔ tag ∈ ret n ∨
      ∃ domain index2 index3, InRange (movedTo iter domain tag index2 index3) ∧
        iter.progress < (movedTo iter domain tag index2 index3).progress ∧
        serialAt (movedTo iter domain tag index2 index3) = n := by
  induction fuel generalizing iter ret with
  | zero =>
      have hlt := progress_lt h
      omega
  | succ fuel ih =>
      have hnext : iter.next = if iter.advance.complete = true then (0, iter.advance)
          else (serialAt iter.advance, iter.advance) := by
        rw [DCSerialNumberIterator.next, h.started, h.running]
        cases hcomplete : iter.advance.complete <;> simp [hcomplete, serialAt]
      rw [collect, hnext]
      rcases advance_cases h with ⟨domain, subdomain, index2, index3, hadvance, hplace, hprogress⟩ | ⟨hdone, -, hlast⟩
      · have hserial := serialAt_ne_zero hplace
        have htag := tag_eq hplace
        rw [hadvance, hplace.running, if_neg Bool.false_ne_true]
        dsimp only
        rw [if_neg hserial, htag]
        obtain ⟨ret', hcollect, hret'⟩ := ih hplace (show iter.totalCount ≤ _ by omega)
          (Function.update ret (serialAt (movedTo iter domain subdomain index2 index3))
            (ret (serialAt (movedTo iter domain subdomain index2 index3)) ++ [subdomain]))
        refine ⟨ret', hcollect, fun n tag => ?_⟩
        have hupdate : tag ∈ Function.update ret (serialAt (movedTo iter domain subdomain index2 index3))
              (ret (serialAt (movedTo iter domain subdomain index2 index3)) ++ [subdomain]) n ↔
            tag ∈ ret n ∨ tag = subdomain ∧ serialAt (movedTo iter domain subdomain index2 index3) = n := by
          by_cases hn : n = serialAt (movedTo iter domain subdomain index2 index3)
          · subst hn
            rw [Function.update_self, List.mem_append, List.mem_singleton, and_iff_left rfl]
          · rw [Function.update_of_ne hn, or_iff_left fun h => hn h.2.symm]
        rw [hret', hupdate, or_assoc, hprogress]
        refine or_congr_right ⟨?_, ?_⟩
        · rintro (⟨rfl, hn⟩ | ⟨domain', index2', index3', hplace', hlater, hn⟩)
          · exact ⟨domain, index2, index3, hplace, by omega, hn⟩
          · exact ⟨domain', index2', index3', hplace', Nat.lt_of_succ_lt hlater, hn⟩
        · rintro ⟨domain', index2', index3', hplace', hlater, hn⟩
          rcases Nat.eq_or_lt_of_le (Nat.succ_le_of_lt hlater) with hsame | hlater
          · obtain ⟨rfl, rfl, rfl, rfl⟩ := place_unique hplace hplace' (hprogress.trans hsame)
            exact .inl ⟨rfl, hn⟩
          · exact .inr ⟨domain', index2', index3', hplace', hlater, hn⟩
      · rw [hdone, if_pos rfl]
        refine ⟨ret, rfl, fun n tag => ?_⟩
        refine (or_iff_left ?_).symm
        rintro ⟨domain, index2, index3, hplace, hlater, -⟩
        have hlt := progress_lt hplace
        have htotal : (movedTo iter domain tag index2 index3).totalCount = iter.totalCount := rfl
        omega

/-- The values below three from a first one up to a limit are those that are asked for. -/
def Selects (asked first limit : UInt8) : Prop :=
  first < limit ∧ limit ≤ 3 ∧ ∀ x, first ≤ x ∧ x < limit ↔ x < 3 ∧ (asked = 0xFF ∨ x = asked)

theorem selects_one {asked : UInt8} (h : asked < 3) : Selects asked asked (asked + 1) := by
  have hsmall : asked.toNat < 3 := h
  have hnext : (asked + 1).toNat = asked.toNat + 1 := by
    rw [UInt8.toNat_add]
    exact Nat.mod_eq_of_lt (show asked.toNat + 1 < 2 ^ 8 by omega)
  have hall : (0xFF : UInt8).toNat = 255 := rfl
  have hthird : (3 : UInt8).toNat = 3 := rfl
  refine ⟨?_, ?_, fun x => ?_⟩
  · rw [UInt8.lt_iff_toNat_lt]
    omega
  · rw [UInt8.le_iff_toNat_le]
    omega
  · simp only [UInt8.lt_iff_toNat_lt, UInt8.le_iff_toNat_le, ← UInt8.toNat_inj]
    omega

theorem selects_all : Selects 0xFF 0 3 := by
  refine ⟨by decide, by decide, fun x => ?_⟩
  simp only [UInt8.lt_iff_toNat_lt, UInt8.le_iff_toNat_le, true_or, and_true]
  exact ⟨fun h => h.2, fun h => ⟨Nat.zero_le _, h⟩⟩

theorem limitDomain_cases (domain : UInt8) :
    (∃ first limit, limitDomain domain .new =
        .ok { DCSerialNumberIterator.new with domain := first, endDomain := limit } ∧
        Selects domain first limit) ∧ (domain < 3 ∨ domain = 0xFF) ∨
      ¬ (domain < 3 ∨ domain = 0xFF) ∧ limitDomain domain .new = .error (.runtimeError "invalid domain") := by
  rw [limitDomain]
  by_cases hone : domain < 3
  · rw [if_pos hone]
    exact .inl ⟨⟨domain, domain + 1, rfl, selects_one hone⟩, .inl hone⟩
  rw [if_neg hone]
  by_cases hall : domain = 0xFF
  · subst hall
    exact .inl ⟨⟨0, 3, rfl, selects_all⟩, .inr rfl⟩
  · rw [if_pos hall]
    exact .inr ⟨not_or_intro hone hall, rfl⟩

theorem limitSubdomain_cases (subdomain : UInt8) {iter : DCSerialNumberIterator} (hfirst : iter.subdomain = 0)
    (hstart : iter.startSubdomain = 0) (hend : iter.endSubdomain = 3) :
    (∃ first limit, limitSubdomain subdomain iter = .ok { iter with
          subdomain := first, startSubdomain := first, endSubdomain := limit } ∧
        Selects subdomain first limit) ∧ (subdomain < 3 ∨ subdomain = 0xFF) ∨
      ¬ (subdomain < 3 ∨ subdomain = 0xFF) ∧
        limitSubdomain subdomain iter = .error (.runtimeError "invalid subdomain") := by
  rw [limitSubdomain]
  by_cases hone : subdomain < 3
  · rw [if_pos hone]
    exact .inl ⟨⟨subdomain, subdomain + 1, rfl, selects_one hone⟩, .inl hone⟩
  rw [if_neg hone]
  by_cases hall : subdomain = 0xFF
  · subst hall
    refine .inl ⟨⟨0, 3, ?_, selects_all⟩, .inr rfl⟩
    rw [if_neg (fun h => h rfl)]
    obtain ⟨_, _, _, _, _, _, _, _, _, _, _⟩ := iter
    obtain rfl := hfirst
    obtain rfl := hstart
    obtain rfl := hend
    rfl
  · rw [if_pos hall]
    exact .inr ⟨not_or_intro hone hall, rfl⟩

/-- A place of the range comes no earlier than its first place if its domain does. -/
theorem progress_le_iff (h : InRange iter) (hfirst : iter.subdomain = iter.startSubdomain ∧ iter.index2 = 0 ∧
    iter.index3 = 0) {domain subdomain : UInt8} {index2 index3 : UInt16}
    (hplace : InRange (movedTo iter domain subdomain index2 index3)) :
    iter.progress ≤ (movedTo iter domain subdomain index2 index3).progress ↔ iter.domain ≤ domain := by
  obtain ⟨hsub, htwo, hthree⟩ := hfirst
  obtain ⟨-, -, hstart, -, -, -, hlt, hendSub, -, -⟩ := h
  obtain ⟨-, -, hstart', -, -, hstartSub', hsub', -, h2, h3⟩ := hplace
  simp only [movedTo, UInt8.le_iff_toNat_le, UInt8.lt_iff_toNat_lt] at hstart hlt hendSub hstart' hstartSub' hsub'
  simp only [movedTo, primes2_length, primes3_length] at h2 h3
  have hthird : (3 : UInt8).toNat = 3 := rfl
  have hzero : (0 : UInt16).toNat = 0 := rfl
  rw [hsub] at hlt
  rw [progress_eq, progress_eq, UInt8.le_iff_toNat_le, hsub, htwo, hthree]
  dsimp only [movedTo]
  obtain hcount | hcount | hcount : iter.endSubdomain.toNat - iter.startSubdomain.toNat = 1 ∨
      iter.endSubdomain.toNat - iter.startSubdomain.toNat = 2 ∨
      iter.endSubdomain.toNat - iter.startSubdomain.toNat = 3 := by omega
  all_goals
    rw [hcount]
    omega

/-- The serial numbers of the places of a domain and a subdomain are the valid ones. -/
theorem exists_serialAt_iff {domain subdomain : UInt8} (hsubdomain : subdomain < 3) (hdomain : domain < 3)
    (n : UInt32) :
    (∃ index2 index3 : UInt16, index2.toNat < primes2.length ∧ index3.toNat < primes3.length ∧
      serialAt (movedTo iter domain subdomain index2 index3) = n) ↔
        dcSerialNumberIsValidFastInt n domain subdomain = true := by
  have hone : subdomain ≠ 0xFF := by
    rintro rfl
    exact absurd hsubdomain (by decide)
  rw [dcSerialNumberIsValidFastInt, decodedDcSerialNumberIsValidFast_iff, IsProduct]
  simp only [if_neg hone, exists_eq_left]
  have hencode : ∀ v < 2 ^ 32, encodeDcSerialNumberInt (.ofNat v) = n ↔ v = (decodeDcSerialNumberInt n).toNat := by
    intro v hv
    constructor
    · rintro rfl
      rw [decode_encode, ofNat_toNat_lt hv]
    · rintro rfl
      rw [UInt32.ofNat_toNat, encode_decode]
  have hindex : ∀ {primes : List Nat}, primes.length < 2 ^ 16 → ∀ prime ∈ primes,
      ∃ i : UInt16, i.toNat < primes.length ∧ primes.getD i.toNat 0 = prime := by
    intro primes hlength prime hmem
    obtain ⟨i, hi, hprime⟩ := exists_getD hmem
    have htoNat : (UInt16.ofNat i).toNat = i := UInt16.toNat_ofNat_of_lt' (hi.trans hlength)
    exact ⟨.ofNat i, by rw [htoNat]; exact hi, by rw [htoNat]; exact hprime⟩
  constructor
  · rintro ⟨index2, index3, h2, h3, hserial⟩
    refine ⟨Nat.le_of_lt_succ hdomain, _, getD_mem h2, _, getD_mem h3, ?_⟩
    rw [Nat.mul_comm _ 30]
    exact (hencode _ (product_lt _ _ _)).mp hserial
  · rintro ⟨-, prime2, h2, prime3, h3, hproduct⟩
    obtain ⟨index2, hlt2, rfl⟩ := hindex (by rw [primes2_length]; decide) prime2 h2
    obtain ⟨index3, hlt3, rfl⟩ := hindex (by rw [primes3_length]; decide) prime3 h3
    refine ⟨index2, index3, hlt2, hlt3, (hencode _ (product_lt _ _ _)).mpr ?_⟩
    rw [← hproduct, Nat.mul_comm _ 30]
    rfl

/-- The loop of a new iterator collects all places from its first one on. -/
theorem collect_new (h : InRange iter) :
    ∃ ret, collect (iter.totalCount + 1) { iter with started := false } (fun _ => []) = .ok ret ∧
      ∀ n tag, tag ∈ ret n ↔ ∃ domain index2 index3, InRange (movedTo iter domain tag index2 index3) ∧
        iter.progress ≤ (movedTo iter domain tag index2 index3).progress ∧
        serialAt (movedTo iter domain tag index2 index3) = n := by
  have hnext : { iter with started := false }.next = (serialAt iter, iter) := by
    obtain ⟨started, complete, _, _, _, _, _, _, _, _, _⟩ := iter
    obtain rfl : started = true := h.started
    obtain rfl : complete = false := h.running
    rfl
  rw [collect, hnext]
  dsimp only
  rw [if_neg (serialAt_ne_zero h), tag_eq h, List.nil_append]
  obtain ⟨ret, hcollect, hret⟩ := collect_spec iter.totalCount h (Nat.le_add_left _ _)
    (Function.update (fun _ => []) (serialAt iter) [iter.subdomain])
  refine ⟨ret, hcollect, fun n tag => ?_⟩
  have hupdate : tag ∈ Function.update (fun _ => []) (serialAt iter) [iter.subdomain] n ↔
      tag = iter.subdomain ∧ serialAt iter = n := by
    by_cases hn : n = serialAt iter
    · subst hn
      rw [Function.update_self, List.mem_singleton, and_iff_left rfl]
    · rw [Function.update_of_ne hn]
      exact iff_of_false List.not_mem_nil fun h => hn h.2.symm
  rw [hret, hupdate]
  constructor
  · rintro (⟨rfl, hn⟩ | ⟨domain, index2, index3, hplace, hlater, hn⟩)
    · exact ⟨iter.domain, iter.index2, iter.index3, h, Nat.le_refl _, hn⟩
    · exact ⟨domain, index2, index3, hplace, hlater.le, hn⟩
  · rintro ⟨domain, index2, index3, hplace, hlater, hn⟩
    rcases Nat.eq_or_lt_of_le hlater with hsame | hlater
    · obtain ⟨rfl, rfl, rfl, rfl⟩ :=
        place_unique (show InRange (movedTo iter iter.domain iter.subdomain iter.index2 iter.index3) from h) hplace
          hsame
      exact .inl ⟨rfl, hn⟩
    · exact .inr ⟨domain, index2, index3, hplace, hlater, hn⟩

/-- All valid serial numbers are collected, each with the subdomains it is valid in, and no
others. Their domains are lost. -/
theorem generateAllDcSerialNumbers_valid (domain subdomain : UInt8) :
    if (domain < 3 ∨ domain = 0xFF) ∧ (subdomain < 3 ∨ subdomain = 0xFF) then
      ∃ ret, generateAllDcSerialNumbers domain subdomain = .ok ret ∧ ∀ n tag, tag ∈ ret n ↔
        tag < 3 ∧ (subdomain = 0xFF ∨ tag = subdomain) ∧ ∃ place, place < 3 ∧ (domain = 0xFF ∨ place = domain) ∧
          dcSerialNumberIsValidFastInt n place tag = true
    else ∃ what, generateAllDcSerialNumbers domain subdomain = .error (.runtimeError what) := by
  rw [generateAllDcSerialNumbers]
  rcases limitDomain_cases domain with ⟨⟨first, limit, hlimit, hselects⟩, hdomain⟩ | ⟨hdomain, hlimit⟩
  swap
  · rw [if_neg fun h => hdomain h.1, hlimit]
    exact ⟨_, rfl⟩
  rw [hlimit, ok_bind]
  rcases @limitSubdomain_cases subdomain { DCSerialNumberIterator.new with domain := first, endDomain := limit } rfl rfl
    rfl with ⟨⟨firstSub, limitSub, hlimitSub, hselectsSub⟩, hsubdomain⟩ | ⟨hsubdomain, hlimitSub⟩
  swap
  · rw [if_neg fun h => hsubdomain h.2, hlimitSub]
    exact ⟨_, rfl⟩
  rw [hlimitSub, ok_bind, if_pos ⟨hdomain, hsubdomain⟩]
  have hlength2 : 0 < primes2.length := by
    rw [primes2_length]
    decide
  have hlength3 : 0 < primes3.length := by
    rw [primes3_length]
    decide
  have hstart : InRange ⟨true, false, first, 0, limit, firstSub, firstSub, limitSub, 0, 0, 0⟩ :=
    ⟨rfl, rfl, UInt8.zero_le, hselects.1, hselects.2.1, UInt8.le_refl _, hselectsSub.1, hselectsSub.2.1, hlength2,
      hlength3⟩
  obtain ⟨ret, hcollect, hret⟩ := collect_new hstart
  refine ⟨ret, hcollect, fun n tag => ?_⟩
  rw [hret, ← and_assoc, ← hselectsSub.2.2 tag]
  constructor
  · rintro ⟨place, index2, index3, hplace, hlater, hn⟩
    have hfirst := (progress_le_iff hstart ⟨rfl, rfl, rfl⟩ hplace).mp hlater
    have htag := (hselectsSub.2.2 tag).mp ⟨hplace.startSubdomain_le, hplace.subdomain_lt⟩
    have hwanted := (hselects.2.2 place).mp ⟨hfirst, hplace.domain_lt⟩
    exact ⟨⟨hplace.startSubdomain_le, hplace.subdomain_lt⟩, place, hwanted.1, hwanted.2,
      (exists_serialAt_iff htag.1 hwanted.1 n).mp ⟨index2, index3, hplace.index2_lt, hplace.index3_lt, hn⟩⟩
  · rintro ⟨htag, place, hlt, hwanted, hvalid⟩
    obtain ⟨hfirst, hlimited⟩ := (hselects.2.2 place).mpr ⟨hlt, hwanted⟩
    obtain ⟨index2, index3, h2, h3, hn⟩ :=
      (exists_serialAt_iff ((hselectsSub.2.2 tag).mp htag).1 hlt n).mpr hvalid
    have hplace : InRange (movedTo ⟨true, false, first, 0, limit, firstSub, firstSub, limitSub, 0, 0, 0⟩ place tag index2
        index3) :=
      ⟨rfl, rfl, UInt8.zero_le, hlimited, hselects.2.1, htag.1, htag.2, hselectsSub.2.1, h2, h3⟩
    exact ⟨place, index2, index3, hplace, (progress_le_iff hstart ⟨rfl, rfl, rfl⟩ hplace).mpr hfirst, hn⟩

end HuntersGuild.DcSerialIteration
