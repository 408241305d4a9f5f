import Mathlib.Data.List.Basic
import Mathlib.Order.Bounds.Basic

/-!
Shortest paths in a graph whose nodes are numbered and whose edges go forward.
Relaxing the edges of the nodes in order gives every node a cheapest cost and
the node from which it is reached; following these back from the last node
links every node of a cheapest path to the next one.
-/

namespace HuntersGuild.ForwardRelaxation

universe u

/-- An edge leads `size` nodes further. -/
structure Edge (κ : Type u) where
  size : Nat
  kind : κ
  cost : Nat
  deriving DecidableEq

/-- How a node is reached. A node that has not been reached has no cost. -/
structure PathNode (κ : Type u) where
  fromOffset : Nat
  kind : κ
  cost : Option Nat
  deriving DecidableEq

variable {κ : Type u} (edges : Nat → List (Edge κ))

def costAt (nodes : List (PathNode κ)) (v : Nat) : Option Nat :=
  nodes[v]?.bind PathNode.cost

/-- Having no cost is more than every cost. -/
def exceeds : Option Nat → Nat → Bool
  | none, _ => true
  | some c, cost => cost < c

def relaxEdge (z base : Nat) (nodes : List (PathNode κ)) (e : Edge κ) : List (PathNode κ) :=
  if exceeds (costAt nodes (z + e.size)) (base + e.cost) then
    nodes.set (z + e.size) ⟨z, e.kind, some (base + e.cost)⟩
  else nodes

def relaxNode (nodes : List (PathNode κ)) (z : Nat) : List (PathNode κ) :=
  match costAt nodes z with
  | some base => (edges z).foldl (relaxEdge z base) nodes
  | none => nodes

def relaxAll (n : Nat) (nodes : List (PathNode κ)) : List (PathNode κ) :=
  (List.range n).foldl (relaxNode edges) nodes

/-- Only the first node has been reached, at the cost `base`. -/
def initialNodes (n base : Nat) (kind : κ) : List (PathNode κ) :=
  ⟨0, kind, some base⟩ :: List.replicate n ⟨0, kind, none⟩

/-- The costs of the ways from the first node to a node. -/
inductive Walk (n : Nat) : Nat → Nat → Prop where
  | start : Walk n 0 0
  | step {u c : Nat} {e : Edge κ} (walk : Walk n u c) (hu : u < n) (he : e ∈ edges u) :
      Walk n (u + e.size) (c + e.cost)

/-- Edges go forward, stay within the nodes, and include one to the next node. -/
structure Forward (n : Nat) : Prop where
  size_pos : ∀ z < n, ∀ e ∈ edges z, 0 < e.size
  size_le : ∀ z < n, ∀ e ∈ edges z, z + e.size ≤ n
  exists_next : ∀ z < n, ∃ e ∈ edges z, e.size = 1

variable {edges} {n : Nat}

theorem relaxEdge_length (z base : Nat) (nodes : List (PathNode κ)) (e : Edge κ) :
    (relaxEdge z base nodes e).length = nodes.length := by
  rw [relaxEdge]
  split <;> simp

theorem relaxEdge_getElem?_of_ne {z base v : Nat} {nodes : List (PathNode κ)} {e : Edge κ}
    (h : v ≠ z + e.size) : (relaxEdge z base nodes e)[v]? = nodes[v]? := by
  rw [relaxEdge]
  split
  · exact List.getElem?_set_ne (Ne.symm h)
  · rfl

theorem costAt_relaxEdge_of_ne {z base v : Nat} {nodes : List (PathNode κ)} {e : Edge κ}
    (h : v ≠ z + e.size) : costAt (relaxEdge z base nodes e) v = costAt nodes v := by
  rw [costAt, relaxEdge_getElem?_of_ne h, costAt]

/-- The target of a relaxed edge is kept, or is now reached by this edge. -/
theorem relaxEdge_target {z : Nat} (base : Nat) {nodes : List (PathNode κ)} {e : Edge κ}
    (hlt : z + e.size < nodes.length) :
    ((relaxEdge z base nodes e)[z + e.size]? = nodes[z + e.size]? ∧
        ∃ c, costAt nodes (z + e.size) = some c ∧ c ≤ base + e.cost) ∨
      ((relaxEdge z base nodes e)[z + e.size]? = some ⟨z, e.kind, some (base + e.cost)⟩ ∧
        ∀ c, costAt nodes (z + e.size) = some c → base + e.cost < c) := by
  rw [relaxEdge]
  cases hcost : costAt nodes (z + e.size) with
  | none =>
      refine .inr ⟨?_, fun c hc => nomatch hc⟩
      simp [exceeds, hlt]
  | some c =>
      by_cases hless : base + e.cost < c
      · refine .inr ⟨?_, fun c' hc' => Option.some.inj hc' ▸ hless⟩
        simp [exceeds, hless, hlt]
      · refine .inl ⟨?_, c, rfl, by omega⟩
        simp [exceeds, hless]

/-- All edges of the nodes before `z`, and the edges `done` of `z` itself, have
been relaxed. -/
structure Relaxed (edges : Nat → List (Edge κ)) (n base z : Nat) (done : List (Edge κ))
    (nodes : List (PathNode κ)) : Prop where
  length_eq : nodes.length = n + 1
  start : costAt nodes 0 = some base
  reached : ∀ v ≤ z, v ≤ n → ∃ c, costAt nodes v = some c
  from_edge : ∀ v node c, 0 < v → nodes[v]? = some node → node.cost = some c →
    node.fromOffset < v ∧ node.fromOffset ≤ z ∧ ∃ e ∈ edges node.fromOffset,
      node.fromOffset + e.size = v ∧ e.kind = node.kind ∧
        ∃ cu, costAt nodes node.fromOffset = some cu ∧ c = cu + e.cost
  relaxed : ∀ u cu e, (u < z ∧ e ∈ edges u) ∨ (u = z ∧ e ∈ done) → costAt nodes u = some cu →
    ∃ c, costAt nodes (u + e.size) = some c ∧ c ≤ cu + e.cost

theorem initialNodes_relaxed (base : Nat) (kind : κ) :
    Relaxed edges n base 0 [] (initialNodes n base kind) where
  length_eq := by simp [initialNodes]
  start := rfl
  reached := by
    intro v hv _
    obtain rfl : v = 0 := by omega
    exact ⟨base, rfl⟩
  from_edge := by
    intro v node c hv hnode hc
    obtain ⟨v, rfl⟩ : ∃ k, v = k + 1 := ⟨v - 1, by omega⟩
    simp only [initialNodes, List.getElem?_cons_succ, List.getElem?_replicate] at hnode
    split at hnode
    · obtain rfl := Option.some.inj hnode
      cases hc
    · cases hnode
  relaxed := by
    rintro u cu e (⟨hu, -⟩ | ⟨-, he⟩)
    · omega
    · cases he

/-- Relaxing lowers costs only, and only those of later nodes. -/
theorem costAt_relaxEdge {z v c : Nat} (base : Nat) {nodes : List (PathNode κ)} {e : Edge κ}
    (hlt : z + e.size < nodes.length) (hc : costAt nodes v = some c) :
    ∃ c', costAt (relaxEdge z base nodes e) v = some c' ∧ c' ≤ c := by
  by_cases hv : v = z + e.size
  · subst hv
    rcases relaxEdge_target base hlt with ⟨hkeep, -⟩ | ⟨hnew, hless⟩
    · exact ⟨c, by rw [costAt, hkeep]; exact hc, le_rfl⟩
    · exact ⟨base + e.cost, by rw [costAt, hnew]; rfl, (hless c hc).le⟩
  · exact ⟨c, by rw [costAt_relaxEdge_of_ne hv, hc], le_rfl⟩

theorem Relaxed.relaxEdge {base z cz : Nat} {done : List (Edge κ)} {nodes : List (PathNode κ)}
    {e : Edge κ} (hforward : Forward edges n) (h : Relaxed edges n base z done nodes)
    (hz : z < n) (hcz : costAt nodes z = some cz) (he : e ∈ edges z) :
    Relaxed edges n base z (done ++ [e]) (relaxEdge z cz nodes e) := by
  have hpos := hforward.size_pos z hz e he
  have hle := hforward.size_le z hz e he
  have hlt : z + e.size < nodes.length := by
    rw [h.length_eq]
    omega
  -- The costs of the nodes up to `z` are final.
  have hfinal : ∀ u ≤ z, costAt (ForwardRelaxation.relaxEdge z cz nodes e) u = costAt nodes u :=
    fun u hu => costAt_relaxEdge_of_ne (by omega)
  refine ⟨?_, ?_, ?_, ?_, ?_⟩
  · rw [relaxEdge_length, h.length_eq]
  · rw [hfinal 0 (Nat.zero_le z), h.start]
  · intro v hv hvn
    rw [hfinal v hv]
    exact h.reached v hv hvn
  · intro v node c hv hnode hc
    by_cases htarget : v = z + e.size
    · subst htarget
      rcases relaxEdge_target cz hlt with ⟨hkeep, -⟩ | ⟨hnew, -⟩
      · rw [hkeep] at hnode
        obtain ⟨hfrom, hfromz, e', he', hsize, hkind, cu, hcu, rfl⟩ :=
          h.from_edge _ node c hv hnode hc
        exact ⟨hfrom, hfromz, e', he', hsize, hkind, cu, by rw [hfinal _ hfromz, hcu], rfl⟩
      · rw [hnew] at hnode
        obtain rfl := Option.some.inj hnode
        obtain rfl := Option.some.inj hc
        exact ⟨Nat.lt_add_of_pos_right hpos, le_rfl, e, he, rfl, rfl, cz, by rw [hfinal z le_rfl, hcz], rfl⟩
    · rw [relaxEdge_getElem?_of_ne htarget] at hnode
      obtain ⟨hfrom, hfromz, e', he', hsize, hkind, cu, hcu, rfl⟩ :=
        h.from_edge v node c hv hnode hc
      exact ⟨hfrom, hfromz, e', he', hsize, hkind, cu, by rw [hfinal _ hfromz, hcu], rfl⟩
  · intro u cu e' hcase hcu
    have hu : u ≤ z := by
      rcases hcase with ⟨hlt, -⟩ | ⟨rfl, -⟩ <;> omega
    rw [hfinal u hu] at hcu
    by_cases hnew : u = z ∧ e' = e
    · obtain ⟨rfl, rfl⟩ := hnew
      obtain rfl : cz = cu := Option.some.inj (hcz.symm.trans hcu)
      rcases relaxEdge_target cz hlt with ⟨hkeep, c, hc, hcle⟩ | ⟨hnew, -⟩
      · exact ⟨c, by rw [costAt, hkeep]; exact hc, hcle⟩
      · exact ⟨cz + e'.cost, by rw [costAt, hnew]; rfl, le_rfl⟩
    · have hold : (u < z ∧ e' ∈ edges u) ∨ (u = z ∧ e' ∈ done) := by
        rcases hcase with hbefore | ⟨rfl, hmem⟩
        · exact .inl hbefore
        · rcases List.mem_append.mp hmem with hmem | hmem
          · exact .inr ⟨rfl, hmem⟩
          · exact absurd ⟨rfl, List.mem_singleton.mp hmem⟩ hnew
      obtain ⟨c, hc, hcle⟩ := h.relaxed u cu e' hold hcu
      obtain ⟨c', hc', hle'⟩ := costAt_relaxEdge cz hlt hc
      exact ⟨c', hc', hle'.trans hcle⟩

theorem Relaxed.foldl_relaxEdge {base z cz : Nat} {done : List (Edge κ)}
    (rest : List (Edge κ)) {nodes : List (PathNode κ)} (hforward : Forward edges n)
    (h : Relaxed edges n base z done nodes) (hz : z < n) (hcz : costAt nodes z = some cz)
    (hrest : ∀ e ∈ rest, e ∈ edges z) :
    Relaxed edges n base z (done ++ rest)
      (rest.foldl (ForwardRelaxation.relaxEdge z cz) nodes) := by
  induction rest generalizing done nodes with
  | nil => simpa using h
  | cons e rest ih =>
      have he := hrest e List.mem_cons_self
      have hpos := hforward.size_pos z hz e he
      have hstep := h.relaxEdge hforward hz hcz he
      have hcz' : costAt (ForwardRelaxation.relaxEdge z cz nodes e) z = some cz := by
        rw [costAt_relaxEdge_of_ne (by omega), hcz]
      have hall := ih hstep hcz' fun e' he' => hrest e' (List.mem_cons_of_mem e he')
      simpa using hall

theorem Relaxed.relaxNode {base z : Nat} {nodes : List (PathNode κ)}
    (hforward : Forward edges n) (h : Relaxed edges n base z [] nodes) (hz : z < n) :
    Relaxed edges n base (z + 1) [] (relaxNode edges nodes z) := by
  obtain ⟨cz, hcz⟩ := h.reached z le_rfl hz.le
  have hall := h.foldl_relaxEdge (edges z) hforward hz hcz fun _ he => he
  rw [List.nil_append] at hall
  rw [ForwardRelaxation.relaxNode, hcz]
  have hcz' : ∃ cz', costAt ((edges z).foldl (ForwardRelaxation.relaxEdge z cz) nodes) z =
      some cz' := hall.reached z le_rfl hz.le
  refine ⟨hall.length_eq, hall.start, ?_, ?_, ?_⟩
  · intro v hv hvn
    by_cases hvz : v ≤ z
    · exact hall.reached v hvz hvn
    · -- The next node has an edge from `z`.
      obtain rfl : v = z + 1 := by omega
      obtain ⟨e, he, hsize⟩ := hforward.exists_next z hz
      obtain ⟨cz', hcz'⟩ := hcz'
      obtain ⟨c, hc, -⟩ := hall.relaxed z cz' e (.inr ⟨rfl, he⟩) hcz'
      exact ⟨c, hsize ▸ hc⟩
  · intro v node c hv hnode hc
    obtain ⟨hfrom, hfromz, hedge⟩ := hall.from_edge v node c hv hnode hc
    exact ⟨hfrom, by omega, hedge⟩
  · rintro u cu e (⟨hu, he⟩ | ⟨-, he⟩) hcu
    · refine hall.relaxed u cu e ?_ hcu
      rcases Nat.lt_succ_iff_lt_or_eq.mp hu with hlt | rfl
      · exact .inl ⟨hlt, he⟩
      · exact .inr ⟨rfl, he⟩
    · cases he

theorem relaxAll_relaxed {base : Nat} (kind : κ) (hforward : Forward edges n) :
    Relaxed edges n base n [] (relaxAll edges n (initialNodes n base kind)) := by
  have hall : ∀ z ≤ n, Relaxed edges n base z []
      ((List.range z).foldl (ForwardRelaxation.relaxNode edges) (initialNodes n base kind)) := by
    intro z hz
    induction z with
    | zero => exact initialNodes_relaxed base kind
    | succ z ih =>
        rw [List.range_succ, List.foldl_append]
        exact (ih (by omega)).relaxNode hforward hz
  exact hall n le_rfl

/-- A node other than the first is reached by the edge that it records. -/
theorem Relaxed.edge_of_node {base : Nat} {nodes : List (PathNode κ)}
    (h : Relaxed edges n base n [] nodes) {v : Nat} {node : PathNode κ} (hv : v ≤ n)
    (hpos : 0 < v) (hnode : nodes[v]? = some node) :
    ∃ e ∈ edges node.fromOffset, node.fromOffset + e.size = v ∧ e.kind = node.kind ∧
      ∃ cu, costAt nodes node.fromOffset = some cu ∧ costAt nodes v = some (cu + e.cost) := by
  obtain ⟨c, hc⟩ := h.reached v hv hv
  obtain ⟨node', hnode', hcost⟩ := Option.bind_eq_some_iff.mp hc
  obtain rfl := Option.some.inj (hnode.symm.trans hnode')
  obtain ⟨-, -, e, he, hsize, hkind, cu, hcu, rfl⟩ := h.from_edge v node c hpos hnode hcost
  exact ⟨e, he, hsize, hkind, cu, hcu, hc⟩

/-- The cost of a node that is reached is that of a walk. -/
theorem Relaxed.exists_walk {base : Nat} {nodes : List (PathNode κ)}
    (h : Relaxed edges n base n [] nodes) {v c : Nat} (hv : v ≤ n)
    (hc : costAt nodes v = some c) : ∃ w, Walk edges n v w ∧ c = base + w := by
  induction v using Nat.strong_induction_on generalizing c with
  | _ v ih =>
      rcases Nat.eq_zero_or_pos v with rfl | hpos
      · exact ⟨0, .start, Option.some.inj (hc.symm.trans h.start)⟩
      · obtain ⟨node, hnode, hcost⟩ := Option.bind_eq_some_iff.mp hc
        obtain ⟨hfrom, -, e, he, hsize, -, cu, hcu, rfl⟩ :=
          h.from_edge v node c hpos hnode hcost
        obtain ⟨w, hw, rfl⟩ := ih _ hfrom (by omega) hcu
        have hwalk := Walk.step hw (by omega) he
        rw [hsize] at hwalk
        exact ⟨w + e.cost, hwalk, by omega⟩

theorem Relaxed.cost_le_of_walk {base : Nat} {nodes : List (PathNode κ)}
    (h : Relaxed edges n base n [] nodes) {v w : Nat} (hwalk : Walk edges n v w) :
    ∃ c, costAt nodes v = some c ∧ c ≤ base + w := by
  induction hwalk with
  | start => exact ⟨base, h.start, by omega⟩
  | @step u w e walk hu he ih =>
      obtain ⟨cu, hcu, hle⟩ := ih
      obtain ⟨c, hc, hcle⟩ := h.relaxed u cu e (.inl ⟨hu, he⟩) hcu
      exact ⟨c, hc, by omega⟩

/-- The cost of the last node is that of a cheapest walk. -/
theorem Relaxed.isLeast {base : Nat} {nodes : List (PathNode κ)}
    (h : Relaxed edges n base n [] nodes) :
    ∃ w, costAt nodes n = some (base + w) ∧ IsLeast {w | Walk edges n n w} w := by
  obtain ⟨c, hc⟩ := h.reached n le_rfl le_rfl
  obtain ⟨w, hwalk, rfl⟩ := h.exists_walk le_rfl hc
  refine ⟨w, hc, hwalk, fun w' hw' => ?_⟩
  obtain ⟨c', hc', hle⟩ := h.cost_le_of_walk hw'
  obtain rfl := Option.some.inj (hc.symm.trans hc')
  omega

/-- Follow the path back from node `z`; `toOffset` links each node of it to
the next one. The fuel is a bound on the number of nodes. -/
def backtrace (nodes : List (PathNode κ)) : Nat → Nat → List Nat → List Nat
  | 0, _, toOffset => toOffset
  | fuel + 1, z, toOffset =>
      if z > 0 then
        let fromOffset := (nodes[z]?.map PathNode.fromOffset).getD 0
        backtrace nodes fuel fromOffset (toOffset.set fromOffset z)
      else toOffset

/-- Following `toOffset` leads to node `n` along the path. -/
inductive Linked (nodes : List (PathNode κ)) (toOffset : List Nat) (n : Nat) : Nat → Prop where
  | finish : Linked nodes toOffset n n
  | step {u v : Nat} {node : PathNode κ} (hto : toOffset[u]? = some v)
      (hnode : nodes[v]? = some node) (hfrom : node.fromOffset = u) (hlt : u < v)
      (rest : Linked nodes toOffset n v) : Linked nodes toOffset n u

theorem Linked.le {nodes : List (PathNode κ)} {toOffset : List Nat} {v : Nat}
    (h : Linked nodes toOffset n v) : v ≤ n := by
  induction h with
  | finish => exact le_rfl
  | step _ _ _ hlt _ ih => exact hlt.le.trans ih

/-- A link before the linked nodes can be changed. -/
theorem Linked.set {nodes : List (PathNode κ)} {toOffset : List Nat} {u v : Nat}
    (h : Linked nodes toOffset n v) (hu : u < v) (z : Nat) :
    Linked nodes (toOffset.set u z) n v := by
  induction h with
  | finish => exact .finish
  | step hto hnode hfrom hlt _ ih =>
      refine .step ?_ hnode hfrom hlt (ih (by omega))
      rw [List.getElem?_set_ne (by omega), hto]

theorem backtrace_linked {base : Nat} {nodes : List (PathNode κ)}
    (h : Relaxed edges n base n [] nodes) {fuel z : Nat} {toOffset : List Nat}
    (hfuel : z ≤ fuel) (hlen : toOffset.length = n + 1) (hz : Linked nodes toOffset n z) :
    Linked nodes (backtrace nodes fuel z toOffset) n 0 := by
  induction fuel generalizing z toOffset with
  | zero =>
      obtain rfl : z = 0 := by omega
      exact hz
  | succ fuel ih =>
      rw [backtrace]
      split
      · rename_i hpos
        obtain ⟨c, hc⟩ := h.reached z hz.le hz.le
        obtain ⟨node, hnode, hcost⟩ := Option.bind_eq_some_iff.mp hc
        obtain ⟨hfrom, -⟩ := h.from_edge z node c hpos hnode hcost
        have hzn := hz.le
        simp only [hnode, Option.map_some, Option.getD_some]
        refine ih (by omega) (by simpa using hlen) ?_
        refine .step ?_ hnode rfl hfrom (hz.set hfrom z)
        exact List.getElem?_set_self (by omega)
      · obtain rfl : z = 0 := by omega
        exact hz

end HuntersGuild.ForwardRelaxation
