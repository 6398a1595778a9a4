/-
What a search for cycles finds.

* `Cyclic`: some node is below itself;
* `Searching`: the invariant of a search. The entered nodes are those of
  the path, each a child of the one behind it, and every node that was
  left comes after its children;
* `Searching.leave`, `Searching.enter`, `Searching.pass`: each step of a
  search keeps the invariant; `Searching.cyclic`: a child on the path
  closes a cycle;
* `search_spec`, `searchFrom_spec`: so a run finds a cycle or leaves all
  nodes that it met;
* `TopologicalOrder`: every node once, and parents before children;
* `searchAll_spec`: a graph with a cycle has no order, and any other is
  put in a topological order.
-/
import CausalTrace.Graph.Sweep
import CausalTrace.Proofs.Graph.Edge
import Mathlib.Data.List.Basic
import Mathlib.Logic.Relation

namespace CausalTrace
namespace Graph

variable {g : Graph} {marks : Array Mark} {path : List Frame} {found ahead : List Nat}
  {node child : Nat}

/-- A node is below itself: a closed walk of one edge or more leads from it
back to it. -/
def Cyclic (g : Graph) : Prop :=
  ∃ node, Relation.TransGen g.Edge node node

/-! ### The invariant -/

/-- Every node was left once, and after its children. -/
def Settled (g : Graph) : (found : List Nat) → Prop
  | [] => True
  | node :: found => node ∉ found ∧ (∀ child, g.Edge node child → child ∈ found) ∧ g.Settled found

/-- The children of each node of a path are still ahead, or have been left,
or are the node that was entered from it. -/
def Followed (g : Graph) (found : List Nat) : (entered : List Nat) → (path : List Frame) → Prop
  | _, [] => True
  | entered, frame :: path =>
    (∀ child ∈ frame.ahead ++ entered, g.Edge frame.node child) ∧
      (∀ child, g.Edge frame.node child → child ∈ found ∨ child ∈ frame.ahead ++ entered) ∧
      g.Followed found [frame.node] path

/-- The state of a search that follows a path. -/
structure Searching (g : Graph) (marks : Array Mark) (path : List Frame) (found : List Nat) :
    Prop where
  size_eq : marks.size = g.size
  entered_iff : ∀ node : Nat, marks[node]? = some .entered ↔ node ∈ path.map (·.node)
  left_iff : ∀ node : Nat, marks[node]? = some .left ↔ node ∈ found
  nodup : (path.map (·.node)).Nodup
  settled : g.Settled found
  followed : g.Followed found [] path

/-- A path stays followed when more nodes are left. -/
lemma Followed.mono {entered more : List Nat} (hsub : ∀ node ∈ found, node ∈ more)
    (h : g.Followed found entered path) : g.Followed more entered path := by
  induction path generalizing entered with
  | nil => trivial
  | cons frame path ih =>
    obtain ⟨hedge, hchild, hrest⟩ := h
    exact ⟨hedge, fun child hbelow => (hchild child hbelow).imp_left (hsub child), ih hrest⟩

/-- From every node of a path its last node can be reached. -/
lemma Followed.reaches {entered : List Nat} {frame : Frame}
    (h : g.Followed found entered (frame :: path)) :
    ∀ above ∈ frame :: path, Relation.ReflTransGen g.Edge above.node frame.node := by
  induction path generalizing entered frame with
  | nil =>
    intro above habove
    rw [List.mem_singleton.1 habove]
  | cons next path ih =>
    obtain ⟨-, -, hrest⟩ := h
    intro above habove
    rcases List.mem_cons.1 habove with rfl | habove
    · exact Relation.ReflTransGen.refl
    · have hlast : g.Edge next.node frame.node := hrest.1 _ (by simp)
      exact (ih hrest above habove).tail hlast

/-! ### The steps -/

/-- Setting the mark of a node changes it and no other. -/
lemma getElem?_set_mark (h : node < marks.size) (mark : Mark) (other : Nat) :
    (marks.setIfInBounds node mark)[other]? =
      if node = other then some mark else marks[other]? := by
  rw [Array.getElem?_setIfInBounds, if_pos h]

/-- A node with a mark is a node. -/
lemma lt_size_of_mark {mark : Mark} (h : marks[node]? = some mark) : node < marks.size :=
  (Array.getElem?_eq_some_iff.1 h).1

/-- In a search every node has a mark. -/
lemma Searching.exists_mark (h : g.Searching marks path found) (hlt : node < g.size) :
    ∃ mark, marks[node]? = some mark :=
  ⟨_, Array.getElem?_eq_getElem (h.size_eq ▸ hlt)⟩

/-- The last node of a path is left when all its children are looked at. -/
lemma Searching.leave (h : g.Searching marks (⟨node, []⟩ :: path) found) :
    g.Searching (marks.setIfInBounds node .left) path (node :: found) := by
  obtain ⟨hsize, hentered, hleft, hnodup, hsettled, -, hchild, hrest⟩ := h
  have hmark : marks[node]? = some .entered := (hentered node).2 (by simp)
  have hset := getElem?_set_mark (lt_size_of_mark hmark) .left
  obtain ⟨hnotin, hnodup⟩ := List.nodup_cons.1 hnodup
  refine ⟨by simpa using hsize, ?_, ?_, hnodup, ⟨?_, ?_, hsettled⟩, ?_⟩
  · intro other
    rw [hset]
    by_cases hother : node = other
    · subst hother
      simpa using hnotin
    · rw [if_neg hother, hentered]
      simp [Ne.symm hother]
  · intro other
    rw [hset]
    by_cases hother : node = other
    · simp [hother]
    · rw [if_neg hother, hleft]
      simp [Ne.symm hother]
  · rw [← hleft, hmark]
    simp
  · intro child hbelow
    simpa using hchild child hbelow
  · cases path with
    | nil => trivial
    | cons frame path =>
      obtain ⟨hedge, hchild, hrest⟩ := hrest
      refine ⟨?_, ?_, hrest.mono (by simp_all)⟩
      · intro child hmem
        exact hedge child (by simp_all)
      · intro child hbelow
        rcases hchild child hbelow with hfound | hmem
        · exact Or.inl (List.mem_cons_of_mem _ hfound)
        · rcases List.mem_append.1 hmem with hahead | hnode
          · exact Or.inr (by simpa using hahead)
          · exact Or.inl (by simpa using Or.inl (List.mem_singleton.1 hnode))

/-- A fresh node is entered below a path that is followed up to it. -/
lemma Searching.push {below : List Frame} (h : g.Searching marks path found)
    (hfresh : marks[child]? = some .fresh) (hnodes : below.map (·.node) = path.map (·.node))
    (hbelow : g.Followed found [child] below) :
    g.Searching (marks.setIfInBounds child .entered) (⟨child, g.childrenOf child⟩ :: below)
      found := by
  obtain ⟨hsize, hentered, hleft, hnodup, hsettled, -⟩ := h
  have hset := getElem?_set_mark (lt_size_of_mark hfresh) .entered
  have hnotin : child ∉ path.map (·.node) := by
    rw [← hentered, hfresh]
    simp
  refine ⟨by simpa using hsize, ?_, ?_, ?_, hsettled, ?_, ?_, hbelow⟩
  · intro other
    rw [hset, List.map_cons, hnodes]
    by_cases hother : child = other
    · simp [hother]
    · rw [if_neg hother, hentered]
      simp [Ne.symm hother]
  · intro other
    rw [hset]
    by_cases hother : child = other
    · subst hother
      rw [← hleft, hfresh]
      simp
    · rw [if_neg hother, hleft]
  · rw [List.map_cons, hnodes]
    exact List.nodup_cons.2 ⟨hnotin, hnodup⟩
  · intro other hmem
    simpa [Edge] using hmem
  · intro other hother
    exact Or.inr (by simpa [Edge] using hother)

/-- A fresh start is a path of its own. -/
lemma Searching.start (h : g.Searching marks [] found) (hfresh : marks[node]? = some .fresh) :
    g.Searching (marks.setIfInBounds node .entered) [⟨node, g.childrenOf node⟩] found :=
  h.push hfresh rfl trivial

/-- A fresh child is entered. -/
lemma Searching.enter (h : g.Searching marks (⟨node, child :: ahead⟩ :: path) found)
    (hfresh : marks[child]? = some .fresh) :
    g.Searching (marks.setIfInBounds child .entered)
      (⟨child, g.childrenOf child⟩ :: ⟨node, ahead⟩ :: path) found := by
  obtain ⟨hedge, hchild, hrest⟩ := h.followed
  refine h.push hfresh rfl ⟨?_, ?_, hrest⟩
  · intro other hmem
    exact hedge other (by simp_all [or_comm])
  · intro other hother
    exact (hchild other hother).imp_right (by simp_all [or_comm])

/-- A child that was left is passed over. -/
lemma Searching.pass (h : g.Searching marks (⟨node, child :: ahead⟩ :: path) found)
    (hleft : marks[child]? = some .left) : g.Searching marks (⟨node, ahead⟩ :: path) found := by
  obtain ⟨hsize, hentered, hfound, hnodup, hsettled, hedge, hchild, hrest⟩ := h
  refine ⟨hsize, hentered, hfound, hnodup, hsettled, ?_, ?_, hrest⟩
  · intro below hmem
    exact hedge below (by simp_all)
  · intro below hbelow
    rcases hchild below hbelow with hbelow | hmem
    · exact Or.inl hbelow
    · rw [List.append_nil, List.mem_cons] at hmem
      rcases hmem with rfl | hmem
      · exact Or.inl ((hfound _).1 hleft)
      · exact Or.inr (by simpa using hmem)

/-- A child that is neither on the path nor fresh was left. -/
lemma Searching.eq_left (hg : g.Linked)
    (h : g.Searching marks (⟨node, child :: ahead⟩ :: path) found)
    (hentered : marks[child]? ≠ some .entered) (hfresh : marks[child]? ≠ some .fresh) :
    marks[child]? = some .left := by
  have hedge : g.Edge node child := h.followed.1 child (by simp)
  obtain ⟨mark, hmark⟩ := h.exists_mark (hg.child_lt hedge)
  cases mark with
  | fresh => exact absurd hmark hfresh
  | entered => exact absurd hmark hentered
  | left => exact hmark

/-- A child that is on the path is below itself. -/
lemma Searching.cyclic (h : g.Searching marks (⟨node, child :: ahead⟩ :: path) found)
    (hentered : marks[child]? = some .entered) : g.Cyclic := by
  obtain ⟨frame, hframe, rfl⟩ := List.mem_map.1 ((h.entered_iff child).1 hentered)
  have hreach : Relation.ReflTransGen g.Edge frame.node node := h.followed.reaches frame hframe
  have hback : g.Edge node frame.node := h.followed.1 _ (by simp)
  exact ⟨frame.node, Relation.TransGen.tail' hreach hback⟩

/-! ### The run -/

/-- A search finds a cycle, or it leaves all nodes of its path beside those
that were left before. -/
lemma search_spec (hg : g.Linked) (h : g.Searching marks path found) :
    (search g.childrenOf marks path found = none ∧ g.Cyclic) ∨
      ∃ marks' found', search g.childrenOf marks path found = some (marks', found') ∧
        g.Searching marks' [] found' ∧
          ∀ node, node ∈ found ∨ node ∈ path.map (·.node) → node ∈ found' := by
  -- one case for each step of the search; the step lemmas carry the invariant along
  fun_induction search g.childrenOf marks path found with
  | case1 marks found => exact Or.inr ⟨marks, found, rfl, h, by simp⟩
  | case2 marks found node path ih =>
    refine (ih h.leave).imp_right fun ⟨marks', found', hsome, hdone, hkept⟩ => ?_
    refine ⟨marks', found', hsome, hdone, fun other hother => hkept other ?_⟩
    simp only [List.map_cons, List.mem_cons] at hother ⊢
    tauto
  | case3 marks found node child ahead path hentered =>
    exact Or.inl ⟨rfl, h.cyclic hentered⟩
  | case4 marks found node child ahead path hfresh ih =>
    refine (ih (h.enter hfresh)).imp_right fun ⟨marks', found', hsome, hdone, hkept⟩ => ?_
    refine ⟨marks', found', hsome, hdone, fun other hother => hkept other ?_⟩
    exact hother.imp_right (List.mem_cons_of_mem _)
  | case5 marks found node child ahead path hentered hfresh ih =>
    exact ih (h.pass (h.eq_left hg hentered hfresh))

/-- Before its first start a search has met nothing. -/
lemma searching_replicate (g : Graph) :
    g.Searching (Array.replicate g.size .fresh) [] [] where
  size_eq := by simp
  entered_iff := by simp [Array.getElem?_replicate]
  left_iff := by simp [Array.getElem?_replicate]
  nodup := by simp
  settled := trivial
  followed := trivial

/-- Between two starts every node that was met was left. -/
lemma Searching.mem_found (h : g.Searching marks [] found) (hlt : node < g.size)
    (hfresh : marks[node]? ≠ some .fresh) : node ∈ found := by
  obtain ⟨mark, hmark⟩ := h.exists_mark hlt
  cases mark with
  | fresh => exact absurd hmark hfresh
  | entered =>
    have hpath := (h.entered_iff node).1 hmark
    simp at hpath
  | left => exact (h.left_iff node).1 hmark

/-- A search from several starts finds a cycle, or it leaves all of them
beside what was left before. -/
lemma searchFrom_spec (hg : g.Linked) {starts : List Nat} (h : g.Searching marks [] found) :
    (g.searchFrom starts marks found = none ∧ g.Cyclic) ∨
      ∃ marks' found', g.searchFrom starts marks found = some found' ∧
        g.Searching marks' [] found' ∧
          ∀ node < g.size, node ∈ found ∨ node ∈ starts → node ∈ found' := by
  induction starts generalizing marks found with
  | nil => exact Or.inr ⟨marks, found, rfl, h, by simp⟩
  | cons start starts ih =>
    rw [searchFrom]
    by_cases hfresh : marks[start]? = some .fresh
    · rw [if_pos hfresh]
      rcases search_spec hg (h.start hfresh) with
        ⟨hnone, hcycle⟩ | ⟨marks', found', hsome, hdone, hkept⟩
      · rw [hnone]
        exact Or.inl ⟨rfl, hcycle⟩
      · rw [hsome]
        refine (ih hdone).imp_right fun ⟨marks'', found'', hrest, hdone', hkept'⟩ => ?_
        refine ⟨marks'', found'', hrest, hdone', fun node hlt hnode => hkept' node hlt ?_⟩
        rcases hnode with hfound | hstart
        · exact Or.inl (hkept node (Or.inl hfound))
        · rcases List.mem_cons.1 hstart with rfl | hstart
          · exact Or.inl (hkept node (Or.inr (by simp)))
          · exact Or.inr hstart
    · rw [if_neg hfresh]
      refine (ih h).imp_right fun ⟨marks', found', hsome, hdone, hkept⟩ => ?_
      refine ⟨marks', found', hsome, hdone, fun node hlt hnode => hkept node hlt ?_⟩
      rcases hnode with hfound | hstart
      · exact Or.inl hfound
      · rcases List.mem_cons.1 hstart with rfl | hstart
        · exact Or.inl (h.mem_found hlt hfresh)
        · exact Or.inr hstart

/-! ### Topological orders -/

/-- Every node once, and parents before children. -/
structure TopologicalOrder (g : Graph) (order : List Nat) : Prop where
  perm : order.Perm g.nodes
  before : ∀ {parent child}, g.Edge parent child → order.idxOf parent < order.idxOf child

/-- What was left is a list without repetition. -/
lemma Settled.nodup (h : g.Settled found) : found.Nodup := by
  induction found with
  | nil => exact List.nodup_nil
  | cons node found ih => exact List.nodup_cons.2 ⟨h.1, ih h.2.2⟩

/-- The children of what was left were left too. -/
lemma Settled.mem_of_edge (h : g.Settled found) (hnode : node ∈ found)
    (hedge : g.Edge node child) : child ∈ found := by
  induction found with
  | nil => simp at hnode
  | cons last found ih =>
    obtain ⟨-, hchild, hsettled⟩ := h
    rcases List.mem_cons.1 hnode with rfl | hnode
    · exact List.mem_cons_of_mem _ (hchild child hedge)
    · exact List.mem_cons_of_mem _ (ih hsettled hnode)

/-- Parents were left after their children, and so come before them. -/
lemma Settled.idxOf_lt (h : g.Settled found) (hnode : node ∈ found) (hedge : g.Edge node child) :
    found.idxOf node < found.idxOf child := by
  induction found with
  | nil => simp at hnode
  | cons last found ih =>
    obtain ⟨hlast, hchild, hsettled⟩ := h
    rcases List.mem_cons.1 hnode with rfl | hnode
    · have hne : node ≠ child := fun heq => hlast (heq ▸ hchild child hedge)
      rw [List.idxOf_cons_self, List.idxOf_cons_ne _ hne]
      exact Nat.succ_pos _
    · have hne : last ≠ node := fun heq => hlast (heq ▸ hnode)
      have hne' : last ≠ child := fun heq => hlast (heq ▸ hsettled.mem_of_edge hnode hedge)
      rw [List.idxOf_cons_ne _ hne, List.idxOf_cons_ne _ hne']
      exact Nat.succ_lt_succ (ih hsettled hnode)

/-- A graph with a topological order has no cycle. -/
lemma TopologicalOrder.not_cyclic {order : List Nat} (h : g.TopologicalOrder order) :
    ¬ g.Cyclic := by
  have hlt : ∀ {a b}, Relation.TransGen g.Edge a b → order.idxOf a < order.idxOf b := by
    intro a b hab
    induction hab with
    | single hedge => exact h.before hedge
    | tail _ hedge ih => exact Nat.lt_trans ih (h.before hedge)
  rintro ⟨node, hcycle⟩
  exact Nat.lt_irrefl _ (hlt hcycle)

/-- Every node is a start. -/
lemma mem_starts_iff (hg : g.Linked) : node ∈ g.starts ↔ node < g.size := by
  have hroot : node ∈ g.roots → node < g.size := by
    intro hmem
    rw [hg.roots_eq] at hmem
    exact List.mem_range.1 (List.mem_of_mem_filter hmem)
  rw [starts, List.mem_append, mem_nodesWithout_iff]
  tauto

/-- **A search decides acyclicity**: it stops at a cycle, or it puts all
nodes in a topological order. -/
lemma searchAll_spec (hg : g.Linked) :
    (g.searchAll = none ∧ g.Cyclic) ∨
      ∃ order, g.searchAll = some order ∧ g.TopologicalOrder order := by
  refine (searchFrom_spec hg (searching_replicate g)).imp_right
    fun ⟨marks, order, hsome, hdone, hkept⟩ => ⟨order, hsome, ?_, ?_⟩
  · have hmem : ∀ node, node ∈ order ↔ node ∈ g.nodes := by
      intro node
      rw [nodes, List.mem_range]
      constructor
      · intro hnode
        exact hdone.size_eq ▸ lt_size_of_mark ((hdone.left_iff node).2 hnode)
      · intro hlt
        exact hkept node hlt (Or.inr ((mem_starts_iff hg).2 hlt))
    exact (List.perm_ext_iff_of_nodup hdone.settled.nodup List.nodup_range).2 hmem
  · intro parent child hedge
    have hlt : parent < g.size := hg.parent_lt (hg.edge_iff.1 hedge)
    exact hdone.settled.idxOf_lt (hkept parent hlt (Or.inr ((mem_starts_iff hg).2 hlt))) hedge

/-- A graph is acyclic exactly if no node is below itself. -/
lemma isAcyclic_iff (hg : g.Linked) : g.isAcyclic = true ↔ ¬ g.Cyclic := by
  rw [isAcyclic]
  rcases searchAll_spec hg with ⟨hnone, hcycle⟩ | ⟨order, hsome, horder⟩
  · simp [hnone, hcycle]
  · simp [hsome, horder.not_cyclic]

/-- An acyclic graph is put in a topological order. -/
lemma exists_order?_eq_ok (hg : g.Linked) (h : ¬ g.Cyclic) :
    ∃ order, g.order? = .ok order ∧ g.TopologicalOrder order := by
  rcases searchAll_spec hg with ⟨-, hcycle⟩ | ⟨order, hsome, horder⟩
  · exact absurd hcycle h
  · exact ⟨order, by rw [order?, hsome], horder⟩

/-- A graph with a cycle is refused. -/
lemma order?_eq_error (hg : g.Linked) (h : g.Cyclic) : g.order? = .error .cyclic := by
  rcases searchAll_spec hg with ⟨hnone, -⟩ | ⟨order, -, horder⟩
  · rw [order?, hnone]
  · exact absurd h horder.not_cyclic

end Graph
end CausalTrace
