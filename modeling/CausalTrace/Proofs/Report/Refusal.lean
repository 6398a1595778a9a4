/-
Why a batch is refused.

* `NeverRefuses`: a step can fail, but refuses nothing; `NeverRefuses.bind`: nor do
  such steps together; `neverRefuses_findings`: detectors only overflow, or miss a
  process;
* `refused_of_cyclic`: a batch of one trace is refused for a cycle;
* `refused_of_oneTrace`: **a batch of one trace is refused only for a cycle or for the
  length of runs**, whatever its times are.
-/
import CausalTrace.Proofs.Report.Stages

namespace CausalTrace

open CausalTrace.Graph (OneTrace build linked_build)

variable {α β : Type} {settings : Settings} {given : Option Int} {spans : List Span}
  {error : TraceError}

/-! ### Steps that refuse nothing -/

/-- A step can fail, but refuses nothing. -/
def NeverRefuses (x : Except Failure α) : Prop :=
  ∀ error, x ≠ .error (.refused error)

namespace NeverRefuses

lemma ok (a : α) : NeverRefuses (.ok a) := by
  intro error h
  cases h

lemma orOverflow (x : Except Overflow α) : NeverRefuses (orOverflow x) := by
  intro error h
  cases x <;> cases h

lemma orUnwritable (x : Option String) : NeverRefuses (orUnwritable x) := by
  intro error h
  cases x <;> cases h

/-- Steps that refuse nothing refuse nothing together. -/
lemma bind {x : Except Failure α} {f : α → Except Failure β} (hx : NeverRefuses x)
    (hf : ∀ a, NeverRefuses (f a)) : NeverRefuses (x >>= f) := by
  intro error h
  rcases bind_eq_error_iff.1 h with hfirst | ⟨a, -, hrest⟩
  · exact hx error hfirst
  · exact hf a error hrest

end NeverRefuses

/-! ### Detectors -/

section Detectors

variable (g : Graph)

lemma neverRefuses_dominantProcess? (path : CriticalPath) (bands : Bands Binary64)
    (minProcesses : Int) : NeverRefuses (g.dominantProcess? path bands minProcesses) := by
  rw [Graph.dominantProcess?]
  split
  · exact .ok _
  dsimp only
  split
  · exact .ok _
  cases Tally.leader? (g.processTimes path.path) with
  | none =>
    intro error h
    cases h
  | some leader =>
    dsimp only
    split
    · exact .ok _
    · exact .bind (.orOverflow _) fun _ => .ok _

lemma neverRefuses_transferBottleneck? (bands : Bands Binary64) :
    NeverRefuses (g.transferBottleneck? settings bands) := by
  rw [Graph.transferBottleneck?]
  split
  · exact .ok _
  · exact .bind (.orOverflow _) fun _ => .ok _

/-- Whatever fails while findings are looked for, no batch is refused for it. -/
lemma neverRefuses_findings (path : CriticalPath) : NeverRefuses (g.findings path settings) :=
  .bind (neverRefuses_dominantProcess? g path _ _) fun _ =>
    .bind (neverRefuses_transferBottleneck? g _) fun _ => .ok _

end Detectors

/-! ### The analysis -/

/-- A batch of one trace with a cycle is refused for the cycle. -/
lemma refused_of_cyclic (hone : OneTrace spans) (hcycle : (build spans).Cyclic) :
    analyze settings given spans = .error (.refused .cyclic) := by
  have herror : (build spans).criticalPath = .error .cyclic :=
    Graph.criticalPath_eq_error_iff.2
      ((Graph.order?_eq_error_iff (linked_build spans)).2 ⟨rfl, hcycle⟩)
  simp only [analyze, Graph.ofSpans_of_oneTrace hone, orRefused, herror, bind, Except.bind]

/-- Compression refuses only lengths of runs below one. -/
lemma compress_eq_refused {minRun : Int} (h : compress minRun spans = .error (.refused error)) :
    minRun < 1 ∧ error = .badMinRun minRun := by
  rw [compress] at h
  split at h
  · rename_i hmin
    cases h
    exact ⟨hmin, rfl⟩
  · exact absurd h (NeverRefuses.bind (.orOverflow _) (fun _ => .ok _) error)

/-- **A batch of one trace is refused only for a cycle or for the length of runs**: it
has a graph, this has a critical path unless it has a cycle, and what is made of the
path and of the runs can overflow or be too long for words, but refuses nothing. -/
lemma refused_of_oneTrace (hone : OneTrace spans)
    (h : analyze settings given spans = .error (.refused error)) :
    error = .cyclic ∧ (build spans).Cyclic ∨
      error = .badMinRun (given.getD settings.minRunLength) ∧
        given.getD settings.minRunLength < 1 := by
  rw [analyze, Graph.ofSpans_of_oneTrace hone] at h
  change (orRefused (build spans).criticalPath >>= _) = _ at h
  rcases bind_eq_error_iff.1 h with hpath | ⟨path, -, h⟩
  · have herror := Graph.criticalPath_eq_error_iff.1 (orRefused_eq_refused_iff.1 hpath)
    exact .inl ((Graph.order?_eq_error_iff (linked_build spans)).1 herror)
  rcases bind_eq_error_iff.1 h with hfindings | ⟨findings, -, h⟩
  · exact absurd hfindings (neverRefuses_findings _ path error)
  rcases bind_eq_error_iff.1 h with hcompress | ⟨c, -, h⟩
  · exact .inr (compress_eq_refused hcompress).symm
  refine absurd h (NeverRefuses.bind (.orOverflow _) (fun criticalPath => ?_) error)
  exact .bind (.orOverflow _) fun compression => .bind (.orUnwritable _) fun summary => .ok _

end CausalTrace
