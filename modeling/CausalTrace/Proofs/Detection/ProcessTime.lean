/-
The time that each process takes on a path.

* `Keyed.mem_iff_lookup`: with each key once, an entry is what is found
  under its key; `Keyed.sum_put`: setting a value replaces it in the sum;
* `timeByProcess`: the times of some spans by process;
* `mem_timeByProcess_iff`: **a process is listed with the time of its own
  spans**, and only if it has any;
* `sum_timeByProcess`, `length_timeByProcess`: the times add up to that of all
  spans, and there are as many as there are processes.
-/
import CausalTrace.Detection
import CausalTrace.Proofs.Graph.Build
import CausalTrace.Proofs.Time
import Mathlib.Algebra.Ring.Int.Defs
import Mathlib.Data.List.Dedup
import Mathlib.Data.List.Induction

namespace CausalTrace
namespace Keyed

variable {κ α : Type} [DecidableEq κ] {entries : List (κ × α)} {key : κ} {value : α}

/-- With each key once, an entry is what is found under its key. -/
lemma mem_iff_lookup (h : (entries.map (·.1)).Nodup) :
    (key, value) ∈ entries ↔ entries.lookup key = some value := by
  induction entries with
  | nil => simp
  | cons entry rest ih =>
    obtain ⟨k, v⟩ := entry
    rw [List.map_cons, List.nodup_cons] at h
    rw [List.mem_cons, ih h.2, List.lookup_cons]
    by_cases hk : key = k
    · subst hk
      have hnone : rest.lookup key ≠ some value := fun hsome =>
        h.1 (List.mem_map.2 ⟨_, (ih h.2).2 hsome, rfl⟩)
      simp [hnone, eq_comm]
    · have hbeq : (key == k) = false := by simpa using hk
      simp [hk, hbeq]

/-- Setting a value lists no key twice. -/
lemma nodup_keys_put (h : (entries.map (·.1)).Nodup) :
    ((put key value entries).map (·.1)).Nodup := by
  rw [keys_put]
  split
  · exact h
  · rename_i hkey
    refine List.nodup_append.2 ⟨h, List.nodup_singleton key, fun other hother last hlast => ?_⟩
    rw [List.mem_singleton.1 hlast]
    exact fun heq => hkey (heq ▸ hother)

/-- Setting a value replaces, in the sum of all values, what is found under its
key. -/
lemma sum_put (key : κ) (value : Int) (entries : List (κ × Int)) :
    ((put key value entries).map (·.2)).sum + (entries.lookup key).getD 0 =
      (entries.map (·.2)).sum + value := by
  induction entries with
  | nil => simp [put]
  | cons entry rest ih =>
    obtain ⟨k, v⟩ := entry
    by_cases hk : k = key
    · subst hk
      simp only [put, if_true, List.map_cons, List.sum_cons, List.lookup_cons, beq_self_eq_true,
        Option.getD_some]
      omega
    · have hbeq : (key == k) = false := by simpa using Ne.symm hk
      simp only [put, hk, if_false, List.map_cons, List.sum_cons, List.lookup_cons, hbeq]
      omega

end Keyed

/-- The times of some spans by process, in the order in which the processes
come. -/
def timeByProcess (spans : List Span) : List (Int × Int) :=
  spans.foldl (fun times span => Keyed.update span.process 0 (· + (span.duration : Int)) times) []

/-- The times on a path are those of its spans. -/
lemma processTimes_eq (g : Graph) (path : List Int) :
    g.processTimes path = timeByProcess (path.filterMap g.span?) :=
  rfl

/-- The times along some nodes of a batch are those of its spans there. -/
lemma processTimes_build (spans : List Span) (nodes : List Nat) :
    (Graph.build spans).processTimes (nodes.map Int.ofNat) =
      timeByProcess (nodes.filterMap fun node => spans[node]?) := by
  have hspan : ∀ node : Nat, (Graph.build spans).span? (Int.ofNat node) = spans[node]? := by
    intro node
    rw [Graph.span?, Graph.spans_build, List.getElem?_toArray]
  rw [processTimes_eq, List.filterMap_map]
  exact congrArg timeByProcess (List.filterMap_congr fun node _ => hspan node)

/-- One more span adds its time to that of its process. -/
lemma timeByProcess_append_singleton (spans : List Span) (span : Span) :
    timeByProcess (spans ++ [span]) =
      Keyed.update span.process 0 (· + (span.duration : Int)) (timeByProcess spans) := by
  rw [timeByProcess, List.foldl_append]
  rfl

/-- No process is listed twice. -/
lemma nodup_keys_timeByProcess (spans : List Span) :
    ((timeByProcess spans).map (·.1)).Nodup := by
  induction spans using List.reverseRecOn with
  | nil => exact List.nodup_nil
  | append_singleton spans span ih =>
    rw [timeByProcess_append_singleton]
    exact Keyed.nodup_keys_put ih

/-- The time found under a process is that of its spans. -/
lemma lookup_timeByProcess (spans : List Span) (process : Int) :
    (timeByProcess spans).lookup process =
      if process ∈ spans.map (·.process) then
        some (Span.timeTogether (spans.filter (·.process = process)) : Int)
      else none := by
  induction spans using List.reverseRecOn with
  | nil => rfl
  | append_singleton spans span ih =>
    rw [timeByProcess_append_singleton, Keyed.update, List.filter_append, timeTogether_append,
      List.map_append, List.map_singleton]
    by_cases hspan : process = span.process
    · subst hspan
      have hown : Span.timeTogether ([span].filter (·.process = span.process)) = span.duration := by
        simp [Span.timeTogether]
      rw [Keyed.lookup_put_self, ih,
        if_pos (List.mem_append_right _ (List.mem_singleton_self _)), hown]
      split
      · simp
      · rename_i hnone
        have hnil : spans.filter (·.process = span.process) = [] := by
          rw [List.filter_eq_nil_iff]
          simpa using hnone
        simp [hnil, Span.timeTogether]
    · have hother : [span].filter (·.process = process) = [] := by simp [Ne.symm hspan]
      simp only [Keyed.lookup_put_of_ne hspan, ih, List.mem_append, List.mem_singleton, hspan,
        or_false, hother]
      rfl

/-- **A process is listed with the time of its own spans**, and only if it
has any. -/
lemma mem_timeByProcess_iff {spans : List Span} {process time : Int} :
    (process, time) ∈ timeByProcess spans ↔
      process ∈ spans.map (·.process) ∧
        time = Span.timeTogether (spans.filter (·.process = process)) := by
  rw [Keyed.mem_iff_lookup (nodup_keys_timeByProcess spans), lookup_timeByProcess]
  split <;> simp_all [eq_comm]

/-- The times of all processes add up to that of all spans. -/
lemma sum_timeByProcess (spans : List Span) :
    ((timeByProcess spans).map (·.2)).sum = Span.timeTogether spans := by
  induction spans using List.reverseRecOn with
  | nil => rfl
  | append_singleton spans span ih =>
    have hput := Keyed.sum_put span.process
      (((timeByProcess spans).lookup span.process).getD 0 + span.duration) (timeByProcess spans)
    have hlast : Span.timeTogether [span] = span.duration := Nat.add_zero _
    rw [timeByProcess_append_singleton, Keyed.update, timeTogether_append, hlast]
    push_cast
    omega

/-- There are as many times as there are processes. -/
lemma length_timeByProcess (spans : List Span) :
    (timeByProcess spans).length = (spans.map (·.process)).dedup.length := by
  rw [← List.length_map (f := (·.1))]
  refine List.Perm.length_eq ?_
  refine (List.perm_ext_iff_of_nodup (nodup_keys_timeByProcess spans) (List.nodup_dedup _)).2 ?_
  intro process
  rw [List.mem_dedup, List.mem_map]
  constructor
  · rintro ⟨⟨_, time⟩, hentry, rfl⟩
    exact (mem_timeByProcess_iff.1 hentry).1
  · exact fun hprocess => ⟨(process, _), mem_timeByProcess_iff.2 ⟨hprocess, rfl⟩, rfl⟩

/-- Where there are spans there are processes. -/
lemma timeByProcess_ne_nil {spans : List Span} (h : spans ≠ []) : timeByProcess spans ≠ [] := by
  obtain ⟨span, hspan⟩ := List.exists_mem_of_ne_nil spans h
  exact List.ne_nil_of_mem (mem_timeByProcess_iff.2 ⟨List.mem_map_of_mem hspan, rfl⟩)

end CausalTrace
