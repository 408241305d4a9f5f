import Mathlib.Data.Prod.Basic

/-!
Feistel networks with whitening keys. The only property needed of the
operation that mixes the halves is that mixing the same value in twice does
nothing; the round function need not be invertible.
-/

namespace HuntersGuild.FeistelNetwork

universe u v

variable {W : Type u} {κ : Type v} (xor : W → W → W) (f : κ → W → W)

def round (p : W × W) (key : κ) : W × W :=
  (xor p.2 (f key p.1), p.1)

def rounds (keys : List κ) (p : W × W) : W × W :=
  keys.foldl (round xor f) p

/-- The rounds between a whitening of one half at the beginning and of the
other half at the end. -/
def network (first : W) (keys : List κ) (last : W) (p : W × W) : W × W :=
  let q := rounds xor f keys (xor p.1 first, p.2)
  (xor q.2 last, q.1)

variable {xor f}

theorem round_swap_round (hcancel : ∀ a b, xor (xor a b) b = a) (p : W × W) (key : κ) :
    round xor f (round xor f p key).swap key = p.swap := by
  simp only [round, Prod.fst_swap, Prod.snd_swap, hcancel]
  rfl

/-- The rounds with the keys in reverse order undo the rounds. -/
theorem rounds_reverse (hcancel : ∀ a b, xor (xor a b) b = a) (keys : List κ) (p : W × W) :
    rounds xor f keys.reverse (rounds xor f keys p).swap = p.swap := by
  induction keys generalizing p with
  | nil => rfl
  | cons key keys ih =>
      have hinner := ih (round xor f p key)
      simp only [rounds, List.foldl_cons, List.reverse_cons, List.foldl_append,
        List.foldl_nil] at hinner ⊢
      rw [hinner, round_swap_round hcancel]

/-- A network with its keys in reverse order is the inverse network. -/
theorem network_reverse (hcancel : ∀ a b, xor (xor a b) b = a) (first last : W)
    (keys : List κ) (p : W × W) :
    network xor f last keys.reverse first (network xor f first keys last p) = p := by
  have hrounds := rounds_reverse (f := f) hcancel keys (xor p.1 first, p.2)
  change rounds xor f keys.reverse (_, _) = _ at hrounds
  simp only [network, hcancel, hrounds, Prod.fst_swap, Prod.snd_swap]

end HuntersGuild.FeistelNetwork
