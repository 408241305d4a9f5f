import Mathlib.Data.List.Forall2
import HuntersGuild.ExceptionRules
import Mathlib.Algebra.GroupWithZero.Nat

/-!
Senders and receivers of messages over a stream, whatever the messages are:
a sender and a receiver that stay in step message by message stay in step over
every sequence of messages.
-/

namespace HuntersGuild.MessageStreams

open HuntersGuild.ExceptionRules

variable {σ τ μ ν β ε : Type}

/-- The bytes of a sequence of messages. -/
def sendAll (send : σ → μ → Except ε (List β × σ)) : σ → List μ → Except ε (List β × σ)
  | s, [] => .ok ([], s)
  | s, m :: ms => do
      let (out, s) ← send s m
      let (rest, s) ← sendAll send s ms
      return (out ++ rest, s)

/-- Receive `n` messages. -/
def recvAll (recv : τ → List β → Except ε (ν × List β × τ)) :
    Nat → τ → List β → Except ε (List ν × List β × τ)
  | 0, t, input => .ok ([], input, t)
  | n + 1, t, input => do
      let (v, input, t) ← recv t input
      let (vs, input, t) ← recvAll recv n t input
      return (v :: vs, input, t)

variable {send : σ → μ → Except ε (List β × σ)} {recv : τ → List β → Except ε (ν × List β × τ)}

theorem sendAll_cons_eq_ok {s : σ} {m : μ} {ms : List μ} {r : List β × σ} :
    sendAll send s (m :: ms) = .ok r ↔
      ∃ out s₁ rest, send s m = .ok (out, s₁) ∧ sendAll send s₁ ms = .ok (rest, r.2) ∧
        r.1 = out ++ rest := by
  simp only [sendAll, bind_eq_ok]
  constructor
  · rintro ⟨⟨out, s₁⟩, hsend, ⟨rest, s₂⟩, hrest, h⟩
    obtain rfl := Except.ok.inj h
    exact ⟨out, s₁, rest, hsend, hrest, rfl⟩
  · rintro ⟨out, s₁, rest, hsend, hrest, h⟩
    refine ⟨(out, s₁), hsend, (rest, r.2), hrest, ?_⟩
    rw [← h]
    rfl

theorem recvAll_succ_eq_ok {n : Nat} {t t' : τ} {input rest : List β} {vs : List ν} :
    recvAll recv (n + 1) t input = .ok (vs, rest, t') ↔
      ∃ v input₁ t₁ vs₁, recv t input = .ok (v, input₁, t₁) ∧
        recvAll recv n t₁ input₁ = .ok (vs₁, rest, t') ∧ vs = v :: vs₁ := by
  simp only [recvAll, bind_eq_ok]
  constructor
  · rintro ⟨⟨v, input₁, t₁⟩, hrecv, ⟨vs₁, rest₁, t₂⟩, hrest, h⟩
    obtain ⟨hvs, hrest'⟩ := Prod.mk.inj (Except.ok.inj h)
    obtain ⟨rfl, rfl⟩ := Prod.mk.inj hrest'
    obtain rfl := hvs
    exact ⟨v, input₁, t₁, vs₁, hrecv, hrest, rfl⟩
  · rintro ⟨v, input₁, t₁, vs₁, hrecv, hrest, rfl⟩
    exact ⟨(v, input₁, t₁), hrecv, (vs₁, rest, t'), hrest, rfl⟩

/-- The two ends stay in step. -/
theorem recvAll_sendAll {InStep : σ → τ → Prop} {Sendable : μ → Prop} {Carries : μ → ν → Prop}
    (hstep : ∀ s t m, InStep s t → Sendable m → ∃ out s' v t', send s m = .ok (out, s') ∧
      (∀ rest, recv t (out ++ rest) = .ok (v, rest, t')) ∧ Carries m v ∧ InStep s' t')
    {ms : List μ} (hms : ∀ m ∈ ms, Sendable m) {s : σ} {t : τ} (h : InStep s t) :
    ∃ out s' vs t', sendAll send s ms = .ok (out, s') ∧
      (∀ rest, recvAll recv ms.length t (out ++ rest) = .ok (vs, rest, t')) ∧
        List.Forall₂ Carries ms vs ∧ InStep s' t' := by
  induction ms generalizing s t with
  | nil => exact ⟨[], s, [], t, rfl, fun rest => rfl, .nil, h⟩
  | cons m ms ih =>
      obtain ⟨hm, hms⟩ := List.forall_mem_cons.mp hms
      obtain ⟨out, s₁, v, t₁, hsend, hrecv, hcarries, h₁⟩ := hstep s t m h hm
      obtain ⟨outs, s₂, vs, t₂, hsends, hrecvs, hall, h₂⟩ := ih hms h₁
      refine ⟨out ++ outs, s₂, v :: vs, t₂, ?_, ?_, .cons hcarries hall, h₂⟩
      · exact sendAll_cons_eq_ok.mpr ⟨out, s₁, outs, hsend, hsends, rfl⟩
      · intro rest
        rw [List.append_assoc, List.length_cons]
        exact recvAll_succ_eq_ok.mpr ⟨v, outs ++ rest, t₁, vs, hrecv (outs ++ rest), hrecvs rest, rfl⟩

/-- A receiver takes off the sizes of what it receives, in a sequence of
messages too. -/
theorem recvAll_length {P : τ → Prop} {size : ν → Nat}
    (hrecv : ∀ t input v rest t', P t → recv t input = .ok (v, rest, t') →
      input.length = size v + rest.length ∧ P t')
    {n : Nat} {t t' : τ} {input rest : List β} {vs : List ν} (ht : P t)
    (h : recvAll recv n t input = .ok (vs, rest, t')) :
    input.length = (vs.map size).sum + rest.length := by
  induction n generalizing t input vs with
  | zero =>
      obtain ⟨rfl, hrest⟩ := Prod.mk.inj (Except.ok.inj h)
      obtain ⟨rfl, -⟩ := Prod.mk.inj hrest
      rw [List.map_nil, List.sum_nil, Nat.zero_add]
  | succ n ih =>
      obtain ⟨v, input₁, t₁, vs₁, hfirst, hothers, rfl⟩ := recvAll_succ_eq_ok.mp h
      obtain ⟨hlength, ht₁⟩ := hrecv t input v input₁ t₁ ht hfirst
      rw [hlength, ih ht₁ hothers, List.map_cons, List.sum_cons, Nat.add_assoc]

theorem sendAll_length {P : σ → Prop} {size : μ → Nat}
    (hsend : ∀ s m out s', P s → send s m = .ok (out, s') → out.length = size m ∧ P s')
    {s s' : σ} {ms : List μ} {out : List β} (hs : P s) (h : sendAll send s ms = .ok (out, s')) :
    out.length = (ms.map size).sum := by
  induction ms generalizing s out with
  | nil =>
      obtain ⟨rfl, -⟩ := Prod.mk.inj (Except.ok.inj h)
      rfl
  | cons m ms ih =>
      obtain ⟨first, s₁, rest, hfirst, hothers, rfl⟩ := sendAll_cons_eq_ok.mp h
      obtain ⟨hlength, hs₁⟩ := hsend s m first s₁ hs hfirst
      rw [List.length_append, hlength, ih hs₁ hothers, List.map_cons, List.sum_cons]

/-- Messages that are at least as long as what they carry, and as long in
total, are as long one by one. -/
theorem forall₂_eq_of_sum_eq {size : μ → Nat} {size' : ν → Nat} {ms : List μ} {vs : List ν}
    (hle : List.Forall₂ (fun m v => size m ≤ size' v) ms vs)
    (hsum : (ms.map size).sum = (vs.map size').sum) :
    List.Forall₂ (fun m v => size m = size' v) ms vs := by
  have hsum_le {ms : List μ} {vs : List ν} (hle : List.Forall₂ (fun m v => size m ≤ size' v) ms vs) :
      (ms.map size).sum ≤ (vs.map size').sum := by
    induction hle with
    | nil => exact Nat.le_refl _
    | cons hfirst _ ih =>
        rw [List.map_cons, List.map_cons, List.sum_cons, List.sum_cons]
        exact Nat.add_le_add hfirst ih
  induction hle with
  | nil => exact .nil
  | cons hfirst hothers ih =>
      have hothers_le := hsum_le hothers
      simp only [List.map_cons, List.sum_cons] at hsum
      exact .cons (by omega) (ih (by omega))

end HuntersGuild.MessageStreams
