/-
Distances are worked out in an order that puts parents first.

* `measure?`, `distances?`: distances worked out with care: a node is given up, and
  all with it, if the distance of its parent is not known yet;
* `Filled`: what is known of the distances at some point; `Filled.measure`: a node
  that comes after its parent is not given up;
* `distances?_eq_some`: **so none is given up in a topological order**, and the
  distances are the same as without care;
* `parents_come_first`: the order of an acyclic graph is such an order.
-/
import CausalTrace.Proofs.CriticalPath.Chain

namespace CausalTrace
namespace Graph

variable {g : Graph} {order done : List Nat} {node : Nat} {times : Array Nat}
  {known : Array (Option Nat)}

/-! ### Distances with care -/

/-- The time along the chain in front of a node, if it is known. -/
def before? (g : Graph) (known : Array (Option Nat)) (node : Nat) : Option Nat :=
  match g.parent? node with
  | some parent => known.getD parent none
  | none => some 0

/-- Fills in the time along the chain to a node, if that in front of it is known. -/
def measure? (g : Graph) (known : Array (Option Nat)) (node : Nat) :
    Option (Array (Option Nat)) :=
  (g.before? known node).map fun before =>
    known.setIfInBounds node (some (before + g.duration node))

/-- The distances of all nodes, if none is asked for before it is known. -/
def distances? (g : Graph) (order : List Nat) : Option (Array (Option Nat)) :=
  order.foldlM g.measure? (Array.replicate g.size none)

/-- The distances of some nodes are known, and of no others. -/
structure Filled (g : Graph) (done : List Nat) (times : Array Nat)
    (known : Array (Option Nat)) : Prop where
  times_size : times.size = g.size
  known_size : known.size = g.size
  getElem?_eq : ∀ node < g.size, known[node]? = some (if node ∈ done then times[node]? else none)

/-- At first none is known. -/
lemma filled_nil (g : Graph) :
    g.Filled [] (Array.replicate g.size 0) (Array.replicate g.size none) where
  times_size := Array.size_replicate
  known_size := Array.size_replicate
  getElem?_eq := by
    intro node hnode
    rw [Array.getElem?_replicate, if_pos hnode, if_neg List.not_mem_nil]

/-- The time in front of a node that comes after its parent is known, and it is the
one that is added to. -/
lemma Filled.before?_eq (hg : g.Linked) (h : g.Filled done times known)
    (hparent : ∀ parent, g.Edge parent node → parent ∈ done) :
    ∃ before, g.before? known node = some before ∧
      g.measure times node = times.setIfInBounds node (before + g.duration node) := by
  rw [before?, measure]
  cases hnode : g.parent? node with
  | none => exact ⟨0, rfl, rfl⟩
  | some parent =>
    have hbound : parent < g.size := hg.parent_lt hnode
    have hdone : parent ∈ done := hparent parent (hg.edge_iff.2 hnode)
    have hentry : known[parent]? = some (some (times.getD parent 0)) := by
      rw [h.getElem?_eq parent hbound, if_pos hdone, Array.getD_eq_getD_getElem?,
        Array.getElem?_eq_getElem (h.times_size ▸ hbound), Option.getD_some]
    refine ⟨times.getD parent 0, ?_, rfl⟩
    simp only
    rw [Array.getD_eq_getD_getElem?, hentry, Option.getD_some]

/-- **A node that comes after its parent is filled in.** -/
lemma Filled.measure (hg : g.Linked) (h : g.Filled done times known) (hnode : node < g.size)
    (hparent : ∀ parent, g.Edge parent node → parent ∈ done) :
    ∃ known', g.measure? known node = some known' ∧
      g.Filled (done ++ [node]) (g.measure times node) known' := by
  obtain ⟨before, hbefore, htimes⟩ := h.before?_eq hg hparent
  obtain ⟨htimesSize, hknownSize, hentries⟩ := h
  refine ⟨_, by rw [measure?, hbefore, Option.map_some], ?_⟩
  rw [htimes]
  refine ⟨by rw [Array.size_setIfInBounds, htimesSize],
    by rw [Array.size_setIfInBounds, hknownSize], fun other hother => ?_⟩
  rw [Array.getElem?_setIfInBounds, Array.getElem?_setIfInBounds]
  by_cases heq : node = other
  · subst heq
    have hdone : node ∈ done ++ [node] := List.mem_append_right _ List.mem_cons_self
    rw [if_pos rfl, if_pos rfl, if_pos (hknownSize ▸ hnode), if_pos hdone,
      if_pos (htimesSize ▸ hnode)]
  · rw [if_neg heq, if_neg heq, hentries other hother]
    simp [Ne.symm heq]

/-- **In a topological order every distance is known when it is asked for.** -/
lemma distances?_eq_some (hg : g.Linked) (horder : g.TopologicalOrder order) :
    g.distances? order = some ((g.distances order).map some) := by
  obtain ⟨known, hknown, hfilled⟩ :
      ∃ known, g.distances? order = some known ∧ g.Filled order (g.distances order) known := by
    refine horder.induction
      (motive := fun front => ∃ known, g.distances? front = some known ∧
        g.Filled front (g.distances front) known)
      ⟨_, rfl, filled_nil g⟩ fun front node hfront hnode hparent => ?_
    obtain ⟨known, hknown, hfilled⟩ := hfront
    obtain ⟨known', hknown', hfilled'⟩ := hfilled.measure hg hnode hparent
    rw [distances?] at hknown
    refine ⟨known', ?_, ?_⟩
    · rw [distances?, List.foldlM_append, hknown]
      simpa using hknown'
    · rwa [distances, List.foldl_append]
  rw [hknown, Option.some.injEq]
  refine Array.ext (by rw [hfilled.known_size, Array.size_map, hfilled.times_size]) ?_
  intro node hbound hbound'
  have hnode : node < g.size := hfilled.known_size ▸ hbound
  have hentry := hfilled.getElem?_eq node hnode
  rw [if_pos (horder.perm.mem_iff.2 (List.mem_range.2 hnode)),
    Array.getElem?_eq_getElem hbound, Option.some.injEq] at hentry
  rw [hentry, Array.getElem_map, Array.getElem?_eq_getElem]

/-- **Parents come first**: every acyclic graph is put in an order that holds each of
its nodes once, and every parent before its children, though the search for it may
begin below nodes that were not met yet. So no distance is asked for before it is
known. -/
theorem parents_come_first {spans : List Span} (h : OneTrace spans) :
    ∃ g, ofSpans spans = .ok g ∧ (¬ g.Cyclic →
      ∃ order, g.order? = .ok order ∧ order.Perm g.nodes ∧ order.Nodup ∧
        (∀ parent child, g.Edge parent child → order.idxOf parent < order.idxOf child) ∧
        g.distances? order = some ((g.distances order).map some)) := by
  have hg := linked_build spans
  refine ⟨build spans, ofSpans_of_oneTrace h, fun hcycle => ?_⟩
  obtain ⟨order, hok, horder⟩ := exists_order?_eq_ok hg hcycle
  exact ⟨order, hok, horder.perm, horder.perm.nodup_iff.2 List.nodup_range,
    fun _ _ => horder.before, distances?_eq_some hg horder⟩

/-- A span, one that it is part of, and one that both are part of, which is part of
one that is missing; and a span beside them. -/
def orphanLast : List Span :=
  [{ name := "read", startTime := 2, endTime := 5, clock := 2, process := 1, thread := 1,
     traceId := .ofNat 16 7, spanId := .ofNat 8 1, parentId := some (.ofNat 8 2) },
   { name := "load", startTime := 1, endTime := 6, clock := 1, process := 1, thread := 1,
     traceId := .ofNat 16 7, spanId := .ofNat 8 2, parentId := some (.ofNat 8 3) },
   { name := "serve", startTime := 0, endTime := 7, clock := 0, process := 1, thread := 1,
     traceId := .ofNat 16 7, spanId := .ofNat 8 3, parentId := some (.ofNat 8 9) },
   { name := "idle", startTime := 0, endTime := 1, clock := 3, process := 2, thread := 1,
     traceId := .ofNat 16 7, spanId := .ofNat 8 4, parentId := none }]

/-- After the only root, the search begins at the end of a chain whose other nodes
were not met yet. -/
theorem orphan_last_comes_first :
    OneTrace orphanLast ∧ ∃ g order, ofSpans orphanLast = .ok g ∧ ¬ g.Cyclic ∧
      g.starts = [3, 0, 1, 2] ∧ g.parent? 0 = some 1 ∧ g.order? = .ok order ∧
      order = [2, 1, 0, 3] ∧
      g.distances? order = some #[some 15, some 12, some 7, some 1] := by
  have hone : OneTrace orphanLast := ⟨.ofNat 16 7, by simp [orphanLast]⟩
  obtain ⟨g, hg, hfirst⟩ := parents_come_first hone
  obtain rfl : build orphanLast = g := Except.ok.inj ((ofSpans_of_oneTrace hone).symm.trans hg)
  have hcycle : ¬ (build orphanLast).Cyclic :=
    (isAcyclic_iff (linked_build orphanLast)).1 (by cbv)
  obtain ⟨order, hok, -, -, -, hdistances⟩ := hfirst hcycle
  have horder : (build orphanLast).order? = .ok [2, 1, 0, 3] := by cbv
  obtain rfl := Except.ok.inj (hok.symm.trans horder)
  exact ⟨hone, _, _, hg, hcycle, by cbv, by cbv, hok, rfl, by rw [hdistances]; cbv⟩

end Graph
end CausalTrace
