/-
What one step at a clock changes.

* `counter_le_step`: no step but a reset takes a clock back;
* `get?_step`: only writing the shared variable changes it;
* `lt_counter_step_sync`, `lt_counter_step_init`: a clock is beyond each
  value that it takes;
* `clockValue?_step_propagate`: what a clock wrote is read as its value.
-/
import CausalTrace.Clock.Network
import CausalTrace.Proofs.Text.NumeralForm

namespace CausalTrace
namespace ClockNetwork

variable {shared : String} {net : ClockNetwork} {name other : String} {action : ClockStep}

-- The equations of a step are worked out here, once for all proofs below.
attribute [local simp] step

/-! ### Clocks by name -/

@[simp] lemma clock_setClock_self (clock : LamportClock) :
    (net.setClock name clock).clock name = clock := by
  simp [setClock, ClockNetwork.clock, Keyed.lookup_put_self]

@[simp] lemma clock_setClock_of_ne (h : other ≠ name) (clock : LamportClock) :
    (net.setClock name clock).clock other = net.clock other := by
  simp [setClock, ClockNetwork.clock, Keyed.lookup_put_of_ne h]

@[simp] lemma clock_answered (value : Nat) :
    (net.answered value).clock name = net.clock name :=
  rfl

/-- Changing a clock to one that is no earlier takes no clock back. -/
lemma counter_le_setClock {clock : LamportClock} (h : (net.clock name).counter ≤ clock.counter)
    (other : String) :
    (net.clock other).counter ≤ ((net.setClock name clock).clock other).counter := by
  by_cases hother : other = name
  · subst hother
    rwa [clock_setClock_self]
  · rw [clock_setClock_of_ne hother]

/-! ### Counters -/

/-- Taking what a variable holds takes no clock back. -/
lemma counter_le_initFrom (clock : LamportClock) (name : String) (env : Environment) :
    clock.counter ≤ (clock.initFrom name env).2.counter := by
  rw [LamportClock.initFrom]
  split
  · exact Nat.le_of_lt (clock.lt_sync _).1
  · exact Nat.le_refl _

/-- **No step but a reset takes a clock back.** -/
lemma counter_le_step (h : action ≠ .reset) (other : String) :
    (net.clock other).counter ≤ ((net.step shared name action).2.clock other).counter := by
  cases action with
  | tick => exact counter_le_setClock (Nat.le_succ _) other
  | now => exact Nat.le_refl _
  | reset => exact absurd rfl h
  | describe => cases hdescribe : (net.clock name).describe? <;> simp [step, hdescribe]
  | sync remote =>
    cases remote <;> exact counter_le_setClock (Nat.le_of_lt ((net.clock name).lt_sync _).1) other
  | setVariable key text => exact Nat.le_refl _
  | propagate =>
    cases hwritten : (net.clock name).propagate? shared net.environment with
    | none => simp [step, hwritten]
    | some written =>
      simp only [step, hwritten]
      exact Nat.le_refl _
  | init =>
    have hle := counter_le_initFrom (net.clock name) shared net.environment
    simp only [step]
    split
    · rename_i heq
      rw [heq] at hle
      exact counter_le_setClock hle other
    · exact Nat.le_refl _

/-- A clock that ticks hands out its value and goes on. -/
lemma step_tick :
    (net.step shared name .tick).1 = .number (net.clock name).counter ∧
      ((net.step shared name .tick).2.clock name).counter = (net.clock name).counter + 1 := by
  simp [step, LamportClock.tick]

/-- A clock is beyond each value that it takes. -/
lemma lt_counter_step_sync {remote : RemoteValue} {value : Int}
    (h : remote = .given value ∨ remote = .latest ∧ net.latest = value) :
    value < ((net.step shared name (.sync remote)).2.clock name).counter := by
  rcases h with rfl | ⟨rfl, rfl⟩ <;>
    simpa [step, LamportClock.now] using ((net.clock name).lt_sync _).2

/-! ### The shared variable -/

/-- Whoever answers with a number after ticking, showing or writing a clock
answers with its value. -/
lemma eq_counter_of_answer {value : Nat}
    (haction : action = .tick ∨ action = .now ∨ action = .propagate)
    (h : (net.step shared name action).1 = .number value) : value = (net.clock name).counter := by
  rcases haction with rfl | rfl | rfl
  · exact (ClockAnswer.number.inj h).symm
  · exact (ClockAnswer.number.inj h).symm
  · simp only [step, LamportClock.propagate?] at h
    cases hnumeral : writeInteger? (net.clock name).now with
    | none => simp [hnumeral] at h
    | some numeral =>
      simp only [hnumeral, Option.map_some, ClockAnswer.number.injEq] at h
      exact h.symm

/-- What a clock wrote into the variable is its value. -/
lemma clockValue?_step_propagate {value : Nat}
    (h : (net.step shared name .propagate).1 = .number value) :
    ((net.step shared name .propagate).2.environment.get? shared).bind clockValue? =
      some (net.clock name).counter := by
  simp only [step, LamportClock.propagate?] at h ⊢
  cases hnumeral : writeInteger? (net.clock name).now with
  | none => simp [hnumeral] at h
  | some numeral =>
    simp only [Option.map_some, answered, Environment.get?_set_self, Option.bind_some]
    exact clockValue?_of_writeInteger? hnumeral

/-- A clock that takes the value of the variable is beyond it. -/
lemma lt_counter_step_init {value : Nat}
    (h : (net.environment.get? shared).bind clockValue? = some value) :
    value < ((net.step shared name .init).2.clock name).counter := by
  have hlt := ((net.clock name).lt_sync value).2
  simp only [step, LamportClock.initFrom, h, clock_answered, clock_setClock_self]
  exact Int.ofNat_lt.1 hlt

/-- A step writes the shared variable. -/
def Writes (shared : String) (action : ClockStep) (answer : ClockAnswer) : Prop :=
  (action = .propagate ∧ ∃ value, answer = .number value) ∨
    ∃ text, action = .setVariable shared text

/-- **Only writing the shared variable changes it.** -/
lemma get?_step (h : ¬ Writes shared action (net.step shared name action).1) :
    (net.step shared name action).2.environment.get? shared = net.environment.get? shared := by
  cases action with
  | tick => rfl
  | now => rfl
  | reset => rfl
  | describe => cases hdescribe : (net.clock name).describe? <;> simp [step, hdescribe]
  | sync remote => cases remote <;> rfl
  | setVariable key text =>
    refine Environment.get?_set_of_ne _ (fun heq => h (Or.inr ⟨text, ?_⟩)) text
    rw [heq]
  | propagate =>
    cases hwritten : (net.clock name).propagate? shared net.environment with
    | none => simp [step, hwritten]
    | some written => exact absurd (Or.inl ⟨rfl, written.1, by simp [step, hwritten]⟩) h
  | init =>
    simp only [step]
    split <;> rfl

end ClockNetwork
end CausalTrace
