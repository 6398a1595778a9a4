/-
Logical clocks keep the order of causes and effects.

* `ClockSession`: a run of steps at clocks that share a variable;
* `ClockSession.Precedes`: a tick comes directly before another, at the same
  clock or because the later clock took a value from the earlier one, handed
  over outright or through the variable; `ClockSession.HappensBefore`: the
  least transitive relation that contains it;
* `counter_mono`, `get?_before_eq`: what holds of one step holds of a run:
  clocks only advance, and the variable keeps what was written last;
* `ticks_increase`: **of two ticks one of which happens before the other,
  the later one hands out the greater value**.
-/
import CausalTrace.Proofs.Clock.Step
import Mathlib.Logic.Relation
import Mathlib.Order.Basic

namespace CausalTrace

/-- Clocks that share a variable, and the steps taken at them. -/
structure ClockSession where
  shared : String
  start : ClockNetwork
  steps : List (String × ClockStep)

namespace ClockSession

variable {s : ClockSession} {i j k l : Nat} {name other : String} {action : ClockStep}

/-! ### What happens at a position -/

/-- A step is taken at a position, at the clock of a name. -/
def TakesAt (s : ClockSession) (i : Nat) (name : String) (action : ClockStep) : Prop :=
  s.steps[i]? = some (name, action)

/-- What the step at a position answers. -/
def answer? (s : ClockSession) (i : Nat) : Option ClockAnswer :=
  ((s.start.run s.shared s.steps)[i]?).map (·.1)

/-- The network before the step at a position. -/
def before (s : ClockSession) (i : Nat) : ClockNetwork :=
  (s.steps.take i).foldl (fun net entry => (net.step s.shared entry.1 entry.2).2) s.start

/-- A clock hands out a value: it ticks, it is read, or it is written into
the variable. -/
def HandsOutAt (s : ClockSession) (i : Nat) (name : String) (value : Nat) : Prop :=
  ∃ action, s.TakesAt i name action ∧ (action = .tick ∨ action = .now ∨ action = .propagate) ∧
    s.answer? i = some (.number value)

/-- A clock takes a value: one that is given, or the last that any step
answered. -/
def SyncsAt (s : ClockSession) (i : Nat) (name : String) (value : Int) : Prop :=
  ∃ remote, s.TakesAt i name (.sync remote) ∧
    (remote = .given value ∨ remote = .latest ∧ (s.before i).latest = value)

/-- The shared variable is written, by a clock or by anybody else. -/
def WritesAt (s : ClockSession) (i : Nat) : Prop :=
  ∃ name action answer, s.TakesAt i name action ∧ s.answer? i = some answer ∧
    ClockNetwork.Writes s.shared action answer

/-- A tick comes directly before another:

* at the same clock;
* its clock hands out a value from then on, which the later clock takes
  before it ticks;
* its clock is written into the variable, where the later clock finds it
  before it ticks. -/
inductive Precedes (s : ClockSession) : (i j : Nat) → Prop where
  | atClock {i j : Nat} {name : String} :
      s.TakesAt i name .tick → s.TakesAt j name .tick → i < j → Precedes s i j
  | byValue {i j k l : Nat} {name other : String} {value : Nat} :
      s.TakesAt i name .tick → s.TakesAt j other .tick →
      i ≤ k → s.HandsOutAt k name value → s.SyncsAt l other value → l < j → Precedes s i j
  | byVariable {i j k l : Nat} {name other : String} {value : Nat} :
      s.TakesAt i name .tick → s.TakesAt j other .tick →
      i < k → s.TakesAt k name .propagate → s.answer? k = some (.number value) →
      k < l → (∀ m, k < m → m < l → ¬ s.WritesAt m) → s.TakesAt l other .init → l < j →
      Precedes s i j

/-- A tick happens before another. -/
def HappensBefore (s : ClockSession) : (i j : Nat) → Prop :=
  Relation.TransGen s.Precedes

/-- No clock is ever reset. -/
def NeverResets (s : ClockSession) : Prop :=
  ∀ entry ∈ s.steps, entry.2 ≠ .reset

/-! ### Runs -/

/-- A step leads from one network to the next. -/
lemma before_succ (h : s.TakesAt i name action) :
    s.before (i + 1) = ((s.before i).step s.shared name action).2 := by
  rw [before, List.take_add_one, h, Option.toList_some, List.foldl_append]
  rfl

/-- Behind the last step nothing changes. -/
lemma before_succ_of_none (h : s.steps[i]? = none) : s.before (i + 1) = s.before i := by
  rw [before, List.take_add_one, h, Option.toList_none, List.append_nil, before]

/-- The network of a run is carried along step by step. -/
lemma getElem?_run (shared : String) (net : ClockNetwork) (steps : List (String × ClockStep))
    (i : Nat) :
    (net.run shared steps)[i]? = (steps[i]?).map fun entry =>
      ((steps.take i).foldl (fun net entry => (net.step shared entry.1 entry.2).2) net).step
        shared entry.1 entry.2 := by
  induction steps generalizing net i with
  | nil => rfl
  | cons entry steps ih =>
    cases i with
    | zero => rfl
    | succ i => exact ih (net.step shared entry.1 entry.2).2 i

/-- What a step answers. -/
lemma answer?_eq (h : s.TakesAt i name action) :
    s.answer? i = some ((s.before i).step s.shared name action).1 := by
  rw [answer?, getElem?_run, h]
  rfl

/-- **Clocks only advance.** -/
lemma counter_mono (hs : s.NeverResets) (name : String) (hle : i ≤ j) :
    ((s.before i).clock name).counter ≤ ((s.before j).clock name).counter := by
  induction j, hle using Nat.le_induction with
  | base => exact Nat.le_refl _
  | succ j hle ih =>
    refine ih.trans ?_
    cases hstep : s.steps[j]? with
    | none => rw [before_succ_of_none hstep]
    | some entry =>
      have htakes : s.TakesAt j entry.1 entry.2 := hstep
      rw [before_succ htakes]
      exact ClockNetwork.counter_le_step (hs entry (List.mem_of_getElem? hstep)) name

/-- **The variable keeps what was written last.** -/
lemma get?_before_eq (hle : i ≤ j) (h : ∀ m, i ≤ m → m < j → ¬ s.WritesAt m) :
    (s.before j).environment.get? s.shared = (s.before i).environment.get? s.shared := by
  induction j, hle using Nat.le_induction with
  | base => rfl
  | succ j hle ih =>
    rw [← ih fun m hm hlt => h m hm (Nat.lt_succ_of_lt hlt)]
    cases hstep : s.steps[j]? with
    | none => rw [before_succ_of_none hstep]
    | some entry =>
      have htakes : s.TakesAt j entry.1 entry.2 := hstep
      rw [before_succ htakes]
      refine ClockNetwork.get?_step fun hwrites => h j hle (Nat.lt_succ_self j) ?_
      exact ⟨entry.1, entry.2, _, htakes, answer?_eq htakes, hwrites⟩

/-! ### Values -/

/-- A tick answers the value of its clock, which is beyond it then. -/
lemma answer?_tick (h : s.TakesAt i name .tick) :
    s.answer? i = some (.number ((s.before i).clock name).counter) ∧
      ((s.before (i + 1)).clock name).counter = ((s.before i).clock name).counter + 1 := by
  rw [answer?_eq h, before_succ h]
  exact ⟨congrArg some ClockNetwork.step_tick.1, ClockNetwork.step_tick.2⟩

/-- What a clock hands out is its value. -/
lemma HandsOutAt.eq_counter {value : Nat} (h : s.HandsOutAt i name value) :
    value = ((s.before i).clock name).counter := by
  obtain ⟨action, htakes, haction, hanswer⟩ := h
  rw [answer?_eq htakes, Option.some.injEq] at hanswer
  exact ClockNetwork.eq_counter_of_answer haction hanswer

/-- A clock is beyond each value that it took. -/
lemma SyncsAt.lt_counter {value : Int} (h : s.SyncsAt i name value) :
    value < ((s.before (i + 1)).clock name).counter := by
  obtain ⟨remote, htakes, hremote⟩ := h
  rw [before_succ htakes]
  exact ClockNetwork.lt_counter_step_sync hremote

/-- A clock that finds a value in the variable is beyond it. -/
lemma counter_lt_of_init {value : Nat} (hwrites : s.TakesAt k name .propagate)
    (hanswer : s.answer? k = some (.number value)) (hlt : k < l)
    (hkept : ∀ m, k < m → m < l → ¬ s.WritesAt m) (htakes : s.TakesAt l other .init) :
    ((s.before k).clock name).counter < ((s.before (l + 1)).clock other).counter := by
  rw [answer?_eq hwrites, Option.some.injEq] at hanswer
  have hwritten := ClockNetwork.clockValue?_step_propagate hanswer
  rw [← before_succ hwrites, ← get?_before_eq hlt hkept] at hwritten
  rw [before_succ htakes]
  exact ClockNetwork.lt_counter_step_init hwritten

/-- A tick that comes directly after another hands out the greater value. -/
lemma Precedes.increases (hs : s.NeverResets) (h : s.Precedes i j) :
    ∃ earlier later : Nat, s.answer? i = some (.number earlier) ∧
      s.answer? j = some (.number later) ∧ earlier < later := by
  -- in each case the clock of the later tick is beyond the first value before it ticks
  cases h with
  | @atClock name hi hj hlt =>
    refine ⟨_, _, (answer?_tick hi).1, (answer?_tick hj).1, ?_⟩
    have hnext := (answer?_tick hi).2
    have hle := counter_mono hs name (show i + 1 ≤ j from hlt)
    omega
  | @byValue k l name other value hi hj hik hk hl hlj =>
    refine ⟨_, _, (answer?_tick hi).1, (answer?_tick hj).1, ?_⟩
    have hhanded := hk.eq_counter
    have htaken := hl.lt_counter
    have hbefore := counter_mono hs name hik
    have hafter := counter_mono hs other (show l + 1 ≤ j from hlj)
    omega
  | @byVariable k l name other value hi hj hik hk hanswer hkl hkept hl hlj =>
    refine ⟨_, _, (answer?_tick hi).1, (answer?_tick hj).1, ?_⟩
    have hfound := counter_lt_of_init hk hanswer hkl hkept hl
    have hbefore := counter_mono hs name (Nat.le_of_lt hik)
    have hafter := counter_mono hs other (show l + 1 ≤ j from hlj)
    omega

/-- **Ticks increase along causality**: in every run without a reset, whatever
the clocks and the order of their steps, a tick that happens before another
hands out the smaller value. Others may write the variable as well; what they
write only takes the place of what a clock wrote. -/
theorem ticks_increase (hs : s.NeverResets) (h : s.HappensBefore i j) :
    ∃ earlier later : Nat, s.answer? i = some (.number earlier) ∧
      s.answer? j = some (.number later) ∧ earlier < later := by
  induction h with
  | single hstep => exact hstep.increases hs
  | @tail middle last _ hstep ih =>
    obtain ⟨first, second, hfirst, hsecond, hlt⟩ := ih
    obtain ⟨second', third, hsecond', hthird, hlt'⟩ := hstep.increases hs
    rw [hsecond, Option.some.injEq, ClockAnswer.number.injEq] at hsecond'
    exact ⟨first, third, hfirst, hthird, by omega⟩

/-- A parent that writes its clock for a child, and a child that answers a
third process, whose clock was behind both. -/
def threeProcesses : ClockSession where
  shared := "CLOCK"
  start := { clocks := [("parent", ⟨5⟩)], environment := ⟨[("CLOCK", "40")]⟩ }
  steps := [("parent", .tick), ("parent", .propagate), ("child", .init), ("child", .tick),
    ("other", .sync (.given 7)), ("other", .tick)]

/-- The tick of the third process comes after that of the parent, by way of
the child. -/
theorem third_process_ticks_later :
    threeProcesses.NeverResets ∧ threeProcesses.HappensBefore 0 5 ∧
      ∃ earlier later : Nat, threeProcesses.answer? 0 = some (.number earlier) ∧
        threeProcesses.answer? 5 = some (.number later) ∧ earlier < later := by
  have hnever : threeProcesses.NeverResets := by
    rw [NeverResets]
    decide
  have hwritten : threeProcesses.answer? 1 = some (.number 6) := rfl
  have hhanded : threeProcesses.answer? 3 = some (.number 7) := rfl
  have hchild : threeProcesses.Precedes 0 3 :=
    .byVariable (k := 1) (l := 2) rfl rfl (by decide) rfl hwritten (by decide) (by omega) rfl
      (by decide)
  have hother : threeProcesses.Precedes 3 5 :=
    .byValue (k := 3) (l := 4) rfl rfl (by decide) ⟨.tick, rfl, Or.inl rfl, hhanded⟩
      ⟨.given 7, rfl, Or.inl rfl⟩ (by decide)
  have hbefore : threeProcesses.HappensBefore 0 5 :=
    (Relation.TransGen.single hchild).tail hother
  exact ⟨hnever, hbefore, ticks_increase hnever hbefore⟩

end ClockSession
end CausalTrace
