/-
Durations and their sums.

* `natCast_duration`: the duration of a span, read off its start and its end;
* `timeTogether_append`, `timeTogether_perm`, `timeTogether_filter`: the
  time of some spans is that of their parts, in whatever order;
* `duration_le_timeTogether`: no span takes more time than all together;
* `timeTogether_le_mul`, `mul_le_timeTogether`, `timeTogether_eq_mul`: the
  time of spans that all take no more than a limit, at least some time, or
  the same.
-/
import CausalTrace.Span
import Mathlib.Data.List.Basic

namespace CausalTrace

variable {spans others : List Span} {time limit : Nat}

/-- A span takes the time from its start to its end. -/
lemma natCast_duration (span : Span) :
    (span.duration : Int) = max (span.endTime - span.startTime) 0 :=
  Int.toNat_eq_max ..

lemma timeTogether_cons (span : Span) (spans : List Span) :
    Span.timeTogether (span :: spans) = span.duration + Span.timeTogether spans :=
  rfl

lemma timeTogether_append (spans others : List Span) :
    Span.timeTogether (spans ++ others) = Span.timeTogether spans + Span.timeTogether others := by
  induction spans with
  | nil => exact (Nat.zero_add _).symm
  | cons span spans ih => rw [List.cons_append, timeTogether_cons, timeTogether_cons, ih,
      Nat.add_assoc]

/-- The order of the spans makes no difference. -/
lemma timeTogether_perm (h : spans.Perm others) :
    Span.timeTogether spans = Span.timeTogether others := by
  induction h with
  | nil => rfl
  | cons span _ ih => rw [timeTogether_cons, timeTogether_cons, ih]
  | swap a b spans => simp only [timeTogether_cons, Nat.add_left_comm]
  | trans _ _ ih ih' => exact ih.trans ih'

/-- The time of some spans is that of those that pass a test and of those
that do not. -/
lemma timeTogether_filter (test : Span → Bool) (spans : List Span) :
    Span.timeTogether (spans.filter test) +
        Span.timeTogether (spans.filter fun span => !test span) =
      Span.timeTogether spans := by
  rw [← timeTogether_append]
  exact timeTogether_perm (List.filter_append_perm test spans)

lemma timeTogether_filter_le (test : Span → Bool) (spans : List Span) :
    Span.timeTogether (spans.filter test) ≤ Span.timeTogether spans :=
  Nat.le_of_add_right_le (Nat.le_of_eq (timeTogether_filter test spans))

/-- No span takes more time than all together. -/
lemma duration_le_timeTogether {span : Span} (h : span ∈ spans) :
    span.duration ≤ Span.timeTogether spans := by
  induction spans with
  | nil => simp at h
  | cons other spans ih =>
    rw [timeTogether_cons]
    rcases List.mem_cons.1 h with rfl | h
    · exact Nat.le_add_right _ _
    · exact Nat.le_trans (ih h) (Nat.le_add_left _ _)

/-- The time of spans that all keep to a limit. -/
lemma timeTogether_le_mul (h : ∀ span ∈ spans, span.duration ≤ limit) :
    Span.timeTogether spans ≤ spans.length * limit := by
  induction spans with
  | nil => simp [Span.timeTogether]
  | cons span spans ih =>
    have hrest := ih fun other hother => h other (List.mem_cons_of_mem _ hother)
    have hspan := h span List.mem_cons_self
    rw [timeTogether_cons, List.length_cons, Nat.add_one_mul]
    omega

/-- The time of spans that all take at least some time. -/
lemma mul_le_timeTogether (h : ∀ span ∈ spans, time ≤ span.duration) :
    spans.length * time ≤ Span.timeTogether spans := by
  induction spans with
  | nil => simp [Span.timeTogether]
  | cons span spans ih =>
    have hrest := ih fun other hother => h other (List.mem_cons_of_mem _ hother)
    have hspan := h span List.mem_cons_self
    rw [timeTogether_cons, List.length_cons, Nat.add_one_mul]
    omega

/-- The time of spans that all take the same. -/
lemma timeTogether_eq_mul (h : ∀ span ∈ spans, span.duration = time) :
    Span.timeTogether spans = spans.length * time :=
  Nat.le_antisymm (timeTogether_le_mul fun span hspan => Nat.le_of_eq (h span hspan))
    (mul_le_timeTogether fun span hspan => Nat.le_of_eq (h span hspan).symm)

end CausalTrace
