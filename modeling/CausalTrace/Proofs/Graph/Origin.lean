/-
Where the nodes of a batch hang, read off its spans.

* `index_eq_none_iff`, `index_eq_some_iff_exists`: an identifier leads to the last
  span that carries it, and to no node if there is none;
* `mem_roots_build_iff`, `mem_orphans_build_iff`: a node is a root if its span has
  no parent, and an orphan if no span carries the identifier of its parent;
* `HangsBelow`: a span names another, and no later one has its identifier;
  `edge_build_iff`: **so the edges of a batch lead**, and no others.
-/
import CausalTrace.Proofs.Graph.Edge

namespace CausalTrace
namespace Graph

variable {spans : List Span} {span : Span} {id : SpanId} {node parent child : Nat}

/-! ### Identifiers -/

/-- What leads to no node is carried by no span. -/
lemma index_eq_none_iff : (index spans)[id]? = none ↔ id ∉ spans.map (·.spanId) := by
  induction spans using List.reverseRecOn with
  | nil => simp [index]
  | append_singleton spans span ih =>
    rw [index_append_singleton, Std.HashMap.getElem?_insert]
    by_cases hid : span.spanId = id
    · simp [hid]
    · simp [hid, ih, Ne.symm hid]

/-- An identifier leads to the last span that carries it. -/
lemma index_eq_some_iff_exists : (index spans)[id]? = some node ↔
    ∃ span, spans[node]? = some span ∧ span.spanId = id ∧
      ∀ later other, node < later → spans[later]? = some other → other.spanId ≠ id := by
  simp only [index_eq_some_iff, List.getElem?_map, Option.map_eq_some_iff, ne_eq, not_exists,
    not_and]
  constructor
  · rintro ⟨⟨span, hspan, hid⟩, hlast⟩
    exact ⟨span, hspan, hid, fun later other hlater => hlast later hlater other⟩
  · rintro ⟨span, hspan, hid, hlast⟩
    exact ⟨⟨span, hspan, hid⟩, fun later hlater other => hlast later other hlater⟩

/-! ### Origins -/

/-- A span whose parent leads to no node hangs nowhere either. -/
lemma originOf_eq_orphan_iff {lastNode : Std.HashMap SpanId Nat} :
    originOf lastNode span = .orphan ↔ ∃ id, span.parentId = some id ∧ lastNode[id]? = none := by
  rw [originOf]
  cases span.parentId with
  | none => simp
  | some id =>
    simp only [Option.some.injEq, exists_eq_left']
    cases hnode : lastNode[id]? <;> simp

/-- Any other span hangs below the node that its parent leads to. -/
lemma originOf_eq_child_iff {lastNode : Std.HashMap SpanId Nat} :
    originOf lastNode span = .child parent ↔
      ∃ id, span.parentId = some id ∧ lastNode[id]? = some parent := by
  rw [originOf]
  cases span.parentId with
  | none => simp
  | some id => cases hnode : lastNode[id]? <;> simp [hnode]

/-- The nodes of one origin are those whose spans have it. -/
lemma mem_filter_origin_iff {origin : Origin} :
    node ∈ ((build spans).nodes.filter fun node => (build spans).origin node = origin) ↔
      ∃ span, spans[node]? = some span ∧ originOf (index spans) span = origin := by
  rw [List.mem_filter, nodes, List.mem_range, size_build, decide_eq_true_eq]
  constructor
  · rintro ⟨hnode, horigin⟩
    have hspan := List.getElem?_eq_getElem hnode
    exact ⟨_, hspan, origin_build hspan ▸ horigin⟩
  · rintro ⟨span, hspan, horigin⟩
    exact ⟨(List.getElem?_eq_some_iff.1 hspan).1, (origin_build hspan).trans horigin⟩

/-- Roots are the nodes whose spans have no parent. -/
lemma mem_roots_build_iff :
    node ∈ (build spans).roots ↔ ∃ span, spans[node]? = some span ∧ span.parentId = none := by
  simp only [(linked_build spans).roots_eq, mem_filter_origin_iff, originOf_eq_root_iff]

/-- Orphans are the nodes whose parents no span carries. -/
lemma mem_orphans_build_iff :
    node ∈ (build spans).orphans ↔ ∃ span id, spans[node]? = some span ∧
      span.parentId = some id ∧ id ∉ spans.map (·.spanId) := by
  simp only [(linked_build spans).orphans_eq, mem_filter_origin_iff, originOf_eq_orphan_iff,
    index_eq_none_iff, exists_and_left]

/-! ### Edges -/

/-- A node hangs below another: its span names the identifier of the other, and
no later span carries that. -/
def HangsBelow (spans : List Span) (parent child : Nat) : Prop :=
  ∃ above below, spans[parent]? = some above ∧ spans[child]? = some below ∧
    below.parentId = some above.spanId ∧
    ∀ later other, parent < later → spans[later]? = some other → other.spanId ≠ above.spanId

/-- **Edges lead to the nodes that hang below others.** -/
lemma edge_build_iff : (build spans).Edge parent child ↔ HangsBelow spans parent child := by
  rw [(linked_build spans).edge_iff, (linked_build spans).parent?_eq_some_iff]
  cases hbelow : spans[child]? with
  | none =>
    simp [HangsBelow, hbelow, origin_build_of_length_le (List.getElem?_eq_none_iff.1 hbelow)]
  | some below =>
    simp only [origin_build hbelow, originOf_eq_child_iff, index_eq_some_iff_exists, HangsBelow,
      hbelow, Option.some.injEq]
    constructor
    · rintro ⟨id, hid, above, habove, rfl, hlast⟩
      exact ⟨above, below, habove, rfl, hid, hlast⟩
    · rintro ⟨above, _, habove, rfl, hid, hlast⟩
      exact ⟨_, hid, above, habove, rfl, hlast⟩

end Graph
end CausalTrace
