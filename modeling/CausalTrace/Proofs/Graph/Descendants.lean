/-
What is below a node of a causal graph.

* `Hangs`: a node is the one a visit started from, or a child of one that was found;
  `Grown`: every node was found once, after one it hangs from;
* `Sweeping`: the invariant of a visit; `Sweeping.visit`, `Sweeping.skip`: each step
  keeps it; `sweep_spec`: so a run finds all that waits, and what is found has no
  children beside;
* `Descends`: a list of what is below a node; `descends_descendants`: **the
  descendants of a node are such a list**;
* `eq_of_reaches`, `grounded_iff_exists_top`: a node is below one top at most, and
  below one exactly if the walk along its parents ends;
* `descendants_listed_once`: the two together, on every batch of one trace.
-/
import CausalTrace.Proofs.Graph.Cycle

namespace CausalTrace
namespace Graph

variable {g : Graph} {root node child parent : Nat} {fresh : Array Bool}
  {waiting found : List Nat}

/-! ### The invariant -/

/-- A node is the one a visit started from, or a child of one that was found. -/
def Hangs (g : Graph) (root : Nat) (found : List Nat) (node : Nat) : Prop :=
  node = root ∨ ∃ parent ∈ found, g.Edge parent node

/-- Every node was found once, and after one it hangs from. The latest comes first. -/
def Grown (g : Graph) (root : Nat) : (found : List Nat) → Prop
  | [] => True
  | node :: found => node ∉ found ∧ g.Hangs root found node ∧ g.Grown root found

/-- The state of a visit: what waits hangs from what was found, and the children of
what was found were found too or wait. -/
structure Sweeping (g : Graph) (root : Nat) (fresh : Array Bool) (waiting found : List Nat) :
    Prop where
  size_eq : fresh.size = g.size
  fresh_iff : ∀ node < g.size, fresh[node]? = some true ↔ node ∉ found
  hangs : ∀ node ∈ waiting, g.Hangs root found node
  grown : g.Grown root found
  covered : ∀ node ∈ found, ∀ child, g.Edge node child → child ∈ found ∨ child ∈ waiting

/-- What hangs from some nodes hangs from more. -/
lemma Hangs.cons (h : g.Hangs root found node) (other : Nat) :
    g.Hangs root (other :: found) node :=
  h.imp_right fun ⟨parent, hparent, hedge⟩ => ⟨parent, List.mem_cons_of_mem _ hparent, hedge⟩

/-- What hangs from nodes is a node. -/
lemma Hangs.lt_size (hg : g.Linked) (hroot : root < g.size) (h : g.Hangs root found node) :
    node < g.size := by
  rcases h with rfl | ⟨parent, -, hedge⟩
  · exact hroot
  · exact hg.child_lt hedge

/-! ### The steps -/

/-- The first node that waits is found, and its children wait in its place. -/
lemma Sweeping.visit (hg : g.Linked) (hroot : root < g.size)
    (h : g.Sweeping root fresh (node :: waiting) found)
    (hbound : node < fresh.size) (hfresh : fresh[node] = true) :
    g.Sweeping root (fresh.set node false hbound) ((g.childrenOf node).reverse ++ waiting)
      (node :: found) := by
  obtain ⟨hsize, hfreshIff, hhangs, hgrown, hcovered⟩ := h
  have hnode : g.Hangs root found node := hhangs node List.mem_cons_self
  have hnew : node ∉ found := by
    rw [← hfreshIff node (hnode.lt_size hg hroot), Array.getElem?_eq_getElem hbound, hfresh]
  refine ⟨by simpa using hsize, ?_, ?_, ⟨hnew, hnode, hgrown⟩, ?_⟩
  · intro other hother
    rw [Array.getElem?_set]
    by_cases heq : node = other
    · simp [heq]
    · rw [if_neg heq, hfreshIff other hother]
      simp [Ne.symm heq]
  · intro other hother
    rcases List.mem_append.1 hother with hchild | hwaiting
    · exact Or.inr ⟨node, List.mem_cons_self, List.mem_reverse.1 hchild⟩
    · exact (hhangs other (List.mem_cons_of_mem _ hwaiting)).cons node
  · intro other hother child hedge
    rcases List.mem_cons.1 hother with rfl | hother
    · exact Or.inr (List.mem_append_left _ (List.mem_reverse.2 hedge))
    · rcases hcovered other hother child hedge with hfound | hwaiting
      · exact Or.inl (List.mem_cons_of_mem _ hfound)
      · rcases List.mem_cons.1 hwaiting with rfl | hwaiting
        · exact Or.inl List.mem_cons_self
        · exact Or.inr (List.mem_append_right _ hwaiting)

/-- A node that waits and is not fresh was found before. -/
lemma Sweeping.mem_found (hg : g.Linked) (hroot : root < g.size)
    (h : g.Sweeping root fresh (node :: waiting) found)
    (hfresh : ¬ ∃ bound : node < fresh.size, fresh[node] = true) : node ∈ found := by
  have hnode : node < g.size := (h.hangs node List.mem_cons_self).lt_size hg hroot
  by_contra hnew
  have hmark := (h.fresh_iff node hnode).2 hnew
  exact hfresh (Array.getElem?_eq_some_iff.1 hmark)

/-- It is passed over. -/
lemma Sweeping.skip (h : g.Sweeping root fresh (node :: waiting) found) (hnode : node ∈ found) :
    g.Sweeping root fresh waiting found := by
  obtain ⟨hsize, hfreshIff, hhangs, hgrown, hcovered⟩ := h
  refine ⟨hsize, hfreshIff, fun other hother => hhangs other (List.mem_cons_of_mem _ hother),
    hgrown, fun other hother child hedge => ?_⟩
  rcases hcovered other hother child hedge with hfound | hwaiting
  · exact Or.inl hfound
  · rcases List.mem_cons.1 hwaiting with rfl | hwaiting
    · exact Or.inl hnode
    · exact Or.inr hwaiting

/-! ### The run -/

/-- A visit finds all that waits beside what was found before, and then the children
of what was found were found too. -/
lemma sweep_spec (hg : g.Linked) (hroot : root < g.size)
    (h : g.Sweeping root fresh waiting found) :
    ∃ fresh' found', sweep g.childrenOf fresh waiting found = (fresh', found') ∧
      g.Sweeping root fresh' [] found' ∧
        ∀ node, node ∈ found ∨ node ∈ waiting → node ∈ found' := by
  -- one case for each step of the visit; the step lemmas carry the invariant along
  fun_induction sweep g.childrenOf fresh waiting found with
  | case1 fresh found => exact ⟨fresh, found, rfl, h, by simp⟩
  | case2 fresh found node waiting hfresh ih =>
    obtain ⟨hbound, htrue⟩ := hfresh
    obtain ⟨fresh', found', heq, hdone, hkept⟩ := ih (h.visit hg hroot hbound htrue)
    refine ⟨fresh', found', heq, hdone, fun other hother => hkept other ?_⟩
    simp only [List.mem_cons, List.mem_append] at hother ⊢
    tauto
  | case3 fresh found node waiting hfresh ih =>
    have hnode : node ∈ found := h.mem_found hg hroot hfresh
    obtain ⟨fresh', found', heq, hdone, hkept⟩ := ih (h.skip hnode)
    refine ⟨fresh', found', heq, hdone, fun other hother => hkept other ?_⟩
    rcases hother with hfound | hwaiting
    · exact Or.inl hfound
    · rcases List.mem_cons.1 hwaiting with rfl | hwaiting
      · exact Or.inl hnode
      · exact Or.inr hwaiting

/-- At its start nothing was found yet, and one node waits. -/
lemma sweeping_allFresh (g : Graph) (root : Nat) : g.Sweeping root g.allFresh [root] [] where
  size_eq := by simp [allFresh]
  fresh_iff := by
    intro node hnode
    simp [allFresh, hnode]
  hangs := by simp [Hangs]
  grown := trivial
  covered := by simp

/-! ### Descendants -/

/-- A list of what is below a node: each of these nodes once, the node itself first,
and every other one after its parent. -/
structure Descends (g : Graph) (root : Nat) (order : List Nat) : Prop where
  head : order.head? = some root
  nodup : order.Nodup
  mem_iff : ∀ node, node ∈ order ↔ Relation.ReflTransGen g.Edge root node
  before : ∀ {parent node}, node ∈ order → node ≠ root → g.Edge parent node →
    order.idxOf parent < order.idxOf node

/-- What has grown is a list without repetition. -/
lemma Grown.nodup (h : g.Grown root found) : found.Nodup := by
  induction found with
  | nil => exact List.nodup_nil
  | cons node found ih => exact List.nodup_cons.2 ⟨h.1, ih h.2.2⟩

/-- It has grown from one node, which was found first. -/
lemma Grown.getLast? (h : g.Grown root found) (hne : found ≠ []) :
    found.getLast? = some root := by
  induction found with
  | nil => exact absurd rfl hne
  | cons node found ih =>
    obtain ⟨-, hnode, hgrown⟩ := h
    cases found with
    | nil =>
      rcases hnode with rfl | ⟨parent, hparent, -⟩
      · rfl
      · cases hparent
    | cons next found => rw [List.getLast?_cons_cons, ih hgrown (by simp)]

/-- All of it is below that node. -/
lemma Grown.reaches (h : g.Grown root found) (hnode : node ∈ found) :
    Relation.ReflTransGen g.Edge root node := by
  induction found generalizing node with
  | nil => cases hnode
  | cons last found ih =>
    obtain ⟨-, hlast, hgrown⟩ := h
    rcases List.mem_cons.1 hnode with rfl | hnode
    · rcases hlast with rfl | ⟨parent, hparent, hedge⟩
      · exact .refl
      · exact (ih hgrown hparent).tail hedge
    · exact ih hgrown hnode

/-- In the order of the visit, every other node comes after its parent. -/
lemma Grown.idxOf_lt (hg : g.Linked) (h : g.Grown root found) (hnode : node ∈ found)
    (hne : node ≠ root) (hedge : g.Edge parent node) :
    found.reverse.idxOf parent < found.reverse.idxOf node := by
  induction found with
  | nil => cases hnode
  | cons last found ih =>
    obtain ⟨hnew, hlast, hgrown⟩ := h
    rw [List.reverse_cons]
    rcases List.mem_cons.1 hnode with rfl | hnode
    · obtain ⟨other, hother, hedge'⟩ := hlast.resolve_left hne
      -- the node hangs from its only parent
      obtain rfl : other = parent := hg.eq_of_edge hedge' hedge
      have hmem : other ∈ found.reverse := List.mem_reverse.2 hother
      have hnotin : node ∉ found.reverse := by simpa using hnew
      rw [List.idxOf_append_of_mem hmem, List.idxOf_append_of_notMem hnotin,
        List.idxOf_cons_self]
      exact List.idxOf_lt_length_of_mem hmem
    · have hlt := ih hgrown hnode
      have hmem : node ∈ found.reverse := List.mem_reverse.2 hnode
      have hparent : parent ∈ found.reverse :=
        List.idxOf_lt_length_iff.1 (Nat.lt_trans hlt (List.idxOf_lt_length_of_mem hmem))
      rwa [List.idxOf_append_of_mem hparent, List.idxOf_append_of_mem hmem]

/-- **The descendants of a node are what is below it.** -/
lemma descends_descendants (hg : g.Linked) (hroot : root < g.size) :
    g.Descends root (g.descendants root) := by
  obtain ⟨fresh', found, heq, hdone, hkept⟩ := sweep_spec hg hroot (sweeping_allFresh g root)
  have horder : g.descendants root = found.reverse := by
    change (sweep g.childrenOf g.allFresh [root] []).2.reverse = _
    rw [heq]
  have hmem : root ∈ found := hkept root (Or.inr List.mem_cons_self)
  rw [horder]
  refine ⟨?_, List.nodup_reverse.2 hdone.grown.nodup, fun node => ?_, ?_⟩
  · rw [List.head?_reverse, hdone.grown.getLast? (List.ne_nil_of_mem hmem)]
  · rw [List.mem_reverse]
    refine ⟨hdone.grown.reaches, fun hreach => ?_⟩
    induction hreach with
    | refl => exact hmem
    | tail _ hedge ih => exact (hdone.covered _ ih _ hedge).resolve_right (by simp)
  · intro parent node hnode hne hedge
    exact hdone.grown.idxOf_lt hg (List.mem_reverse.1 hnode) hne hedge

/-- What is no node has no descendants. -/
lemma descendants_eq_nil {number : Int} (h : number < 0 ∨ g.size ≤ number) :
    g.descendants number = [] := by
  cases number with
  | negSucc _ => rfl
  | ofNat node =>
    have hsize : g.size ≤ node := by
      rw [Int.ofNat_eq_natCast] at h
      omega
    rw [descendants, sweep, dif_neg, sweep, List.reverse_nil]
    rintro ⟨hbound, -⟩
    rw [allFresh, Array.size_replicate] at hbound
    omega

/-! ### Tops and what is below them -/

/-- A node is below one top at most: the way up from it leads nowhere else. -/
lemma eq_of_reaches (hg : g.Linked) {top other : Nat} (htop : g.IsTop top)
    (hother : g.IsTop other) (h : Relation.ReflTransGen g.Edge top node)
    (h' : Relation.ReflTransGen g.Edge other node) : top = other := by
  induction h with
  | refl =>
    rcases Relation.ReflTransGen.cases_tail h' with heq | ⟨parent, -, hedge⟩
    · exact heq
    · exact absurd hedge (hg.not_edge_of_isTop htop)
  | @tail parent node _ hedge ih =>
    rcases Relation.ReflTransGen.cases_tail h' with rfl | ⟨parent', hreach, hedge'⟩
    · exact absurd hedge (hg.not_edge_of_isTop hother)
    · obtain rfl : parent = parent' := hg.eq_of_edge hedge hedge'
      exact ih hreach

/-- The walk along the parents of a node ends exactly if the node is below a top. -/
lemma grounded_iff_exists_top (hg : g.Linked) :
    g.Grounded node ↔ ∃ top, g.IsTop top ∧ Relation.ReflTransGen g.Edge top node := by
  constructor
  · intro h
    induction h with
    | @ofTop node htop => exact ⟨node, htop, .refl⟩
    | ofParent hparent _ ih =>
      obtain ⟨top, htop, hreach⟩ := ih
      exact ⟨top, htop, hreach.tail (hg.edge_iff.2 (hg.mem_parents_iff.1 hparent))⟩
  · rintro ⟨top, htop, hreach⟩
    induction hreach with
    | refl => exact .ofTop htop
    | tail _ hedge ih => exact .ofParent (hg.mem_parents_iff.2 (hg.edge_iff.1 hedge)) ih

/-- No node is listed twice among the roots and the orphans. -/
lemma nodup_roots_append_orphans (hg : g.Linked) : (g.roots ++ g.orphans).Nodup := by
  rw [hg.roots_eq, hg.orphans_eq]
  refine List.nodup_append.2 ⟨List.nodup_range.filter _, List.nodup_range.filter _, ?_⟩
  intro root hroot orphan horphan heq
  have horigin : g.origin root = .root := of_decide_eq_true (List.mem_filter.1 hroot).2
  have horigin' : g.origin orphan = .orphan := of_decide_eq_true (List.mem_filter.1 horphan).2
  rw [heq, horigin'] at horigin
  cases horigin

/-- **Every node below another is listed once**, whether the graph has a cycle or
not: the descendants of a node are the nodes that can be reached from it along
edges, the node itself first and every other one after its parent. What is no node
has none. No node is below two roots or orphans, and every node is below one of them
exactly if the graph is acyclic. -/
theorem descendants_listed_once {spans : List Span} (h : OneTrace spans) :
    ∃ g, ofSpans spans = .ok g ∧
      (∀ number : Int, number < 0 ∨ g.size ≤ number → g.descendants number = []) ∧
      (∀ node < g.size, ∃ below, g.descendants node = node :: below ∧
        (g.descendants node).Nodup ∧
        (∀ other, other ∈ g.descendants node ↔ Relation.ReflTransGen g.Edge node other) ∧
        ∀ other ∈ below, ∃ parent, g.parent? other = some parent ∧
          (g.descendants node).idxOf parent < (g.descendants node).idxOf other) ∧
      ((g.roots ++ g.orphans).Pairwise fun (top other : Nat) =>
        (g.descendants top).Disjoint (g.descendants other)) ∧
      ((∀ node < g.size, ∃ top ∈ g.roots ++ g.orphans, node ∈ g.descendants (top : Nat)) ↔
        g.isAcyclic = true) := by
  have hg := linked_build spans
  have htops : ∀ {top}, top ∈ (build spans).roots ++ (build spans).orphans →
      (build spans).IsTop top := fun htop => List.mem_append.1 htop
  have hlists : ∀ {top}, (build spans).IsTop top →
      (build spans).Descends top ((build spans).descendants top) := fun htop =>
    descends_descendants hg (hg.isTop_iff.1 htop).1
  refine ⟨build spans, ofSpans_of_oneTrace h, fun _ => descendants_eq_nil, ?_, ?_, ?_⟩
  · intro node hnode
    have hlist := descends_descendants hg hnode
    obtain ⟨below, hbelow⟩ := List.head?_eq_some_iff.1 hlist.head
    refine ⟨below, hbelow, hlist.nodup, hlist.mem_iff, fun other hother => ?_⟩
    have hmem : other ∈ (build spans).descendants node := hbelow ▸ List.mem_cons_of_mem _ hother
    have hne : other ≠ node := by
      rintro rfl
      exact (List.nodup_cons.1 (hbelow ▸ hlist.nodup)).1 hother
    -- the last step to another node comes from its parent
    rcases Relation.ReflTransGen.cases_tail ((hlist.mem_iff other).1 hmem) with
      heq | ⟨parent, -, hedge⟩
    · exact absurd heq hne
    · exact ⟨parent, hg.edge_iff.1 hedge, hlist.before hmem hne hedge⟩
  · refine (nodup_roots_append_orphans hg).pairwise_of_forall_ne ?_
    intro top htop other hother hne node hnode hnode'
    have hreach := ((hlists (htops htop)).mem_iff node).1 hnode
    have hreach' := ((hlists (htops hother)).mem_iff node).1 hnode'
    exact hne (eq_of_reaches hg (htops htop) (htops hother) hreach hreach')
  · rw [isAcyclic_iff hg, not_cyclic_iff_grounded hg]
    refine forall₂_congr fun node _ => ?_
    rw [grounded_iff_exists_top hg]
    refine exists_congr fun top => ?_
    rw [List.mem_append]
    exact and_congr_right fun htop => (hlists htop).mem_iff node

/-- Two spans that name each other, beside a span with a child. -/
def cycleBesideTree : List Span :=
  mutualParents ++
    [{ name := "serve", startTime := 0, endTime := 9, clock := 2, process := 1, thread := 1,
       traceId := .ofNat 16 7, spanId := .ofNat 8 3, parentId := none },
     { name := "store", startTime := 2, endTime := 7, clock := 3, process := 1, thread := 1,
       traceId := .ofNat 16 7, spanId := .ofNat 8 4, parentId := some (.ofNat 8 3) }]

/-- A visit goes once around the cycle of the two spans, which is below no root. -/
theorem cycle_beside_tree_not_covered :
    OneTrace cycleBesideTree ∧ ∃ g, ofSpans cycleBesideTree = .ok g ∧
      g.roots ++ g.orphans = [2] ∧ g.descendants 2 = [2, 3] ∧ g.descendants 0 = [0, 1] ∧
      Relation.ReflTransGen g.Edge 0 1 ∧ g.isAcyclic = false := by
  have hone : OneTrace cycleBesideTree := ⟨.ofNat 16 7, by simp [cycleBesideTree, mutualParents]⟩
  obtain ⟨g, hg, -, hbelow, -, hcover⟩ := descendants_listed_once hone
  obtain rfl : build cycleBesideTree = g :=
    Except.ok.inj ((ofSpans_of_oneTrace hone).symm.trans hg)
  have htops : (build cycleBesideTree).roots ++ (build cycleBesideTree).orphans = [2] := by cbv
  have htree : (build cycleBesideTree).descendants 2 = [2, 3] := by cbv
  have hcycle : (build cycleBesideTree).descendants 0 = [0, 1] := by cbv
  have hsize : (build cycleBesideTree).size = 4 := size_build cycleBesideTree
  obtain ⟨-, -, -, hreach, -⟩ := hbelow 0 (by omega)
  refine ⟨hone, _, hg, htops, htree, hcycle, (hreach 1).1 ?_, ?_⟩
  · rw [Int.natCast_zero, hcycle]
    simp
  · rw [← Bool.not_eq_true, ← hcover, htops]
    intro hall
    obtain ⟨top, htop, hmem⟩ := hall 0 (by omega)
    obtain rfl := List.mem_singleton.1 htop
    rw [show ((2 : Nat) : Int) = 2 from rfl, htree] at hmem
    simp at hmem

end Graph
end CausalTrace
