/-
Clocks that exchange values through the environment.

* `Environment.HoldsValue`: the text of a variable is that of a clock value;
* `step_init_of_holdsValue`, `step_init_of_not_holdsValue`: a clock takes the value that
  the shared variable holds, and if it holds none then nothing changes;
* `exists_step_propagate`: a clock that is not too far on writes its value;
* `values_exchanged`: **so exactly the numerals are taken, and what one clock writes
  every other takes**.
-/
import CausalTrace.Proofs.Clock.Step

namespace CausalTrace

/-- The text of a variable is that of a clock value. -/
def Environment.HoldsValue (env : Environment) (name : String) (value : Nat) : Prop :=
  ∃ text, env.get? name = some text ∧ IsClockText text value

lemma Environment.holdsValue_iff {env : Environment} {name : String} {value : Nat} :
    env.HoldsValue name value ↔ (env.get? name).bind clockValue? = some value := by
  simp only [HoldsValue, Option.bind_eq_some_iff, clockValue?_eq_some_iff]

namespace ClockNetwork

variable {shared name : String} {net : ClockNetwork} {value : Nat}

/-- A clock takes the value that the shared variable holds, and goes beyond it. -/
lemma step_init_of_holdsValue (h : net.environment.HoldsValue shared value) :
    net.step shared name .init = (.number value,
      (net.setClock name ⟨max (net.clock name).counter value + 1⟩).answered value) := by
  rw [Environment.holdsValue_iff] at h
  simp only [step, LamportClock.initFrom, h]
  rfl

/-- If the variable holds no value then nothing changes. -/
lemma step_init_of_not_holdsValue (h : ∀ value, ¬ net.environment.HoldsValue shared value) :
    net.step shared name .init = (.nothing, net) := by
  have hnone : (net.environment.get? shared).bind clockValue? = none :=
    Option.eq_none_iff_forall_ne_some.2 fun value hvalue =>
      h value (Environment.holdsValue_iff.2 hvalue)
  simp only [step, LamportClock.initFrom, hnone]

/-- A clock whose value is not too long writes it into the variable. -/
lemma exists_step_propagate (shared : String)
    (h : (Nat.digits 10 (net.clock name).counter).length ≤ 4300) :
    ∃ numeral, IsClockText numeral (net.clock name).counter ∧
      net.step shared name .propagate = (.number (net.clock name).counter,
        { net with environment := net.environment.set shared numeral }.answered
          (net.clock name).counter) := by
  have hwritable : isWritable (net.clock name).counter :=
    (isWritable_iff _).2 ((Nat.digits_length_le_iff (by decide) _).1 h)
  have hnumeral : writeInteger? (net.clock name).now =
      some (toString ((net.clock name).counter : Int)) := if_pos hwritable
  refine ⟨_, clockValue?_eq_some_iff.1 (clockValue?_of_writeInteger? hnumeral), ?_⟩
  simp only [step, LamportClock.propagate?, hnumeral]
  rfl

/-- **Clocks exchange values through the environment.** A clock that starts from the shared
variable answers with a value, and then shows one more than the greater of that value and
its own, exactly if the text of the variable is that of the value: a numeral with blanks at
its ends, in digits of any script with single underscores between them, behind a sign that
may be left out, of at most 4300 digits and not negative. If the variable is not set or has
any other text, then the clock answers nothing, and neither it nor the environment changes.
A clock whose counter has at most 4300 digits writes it into the variable, and any clock that
starts from it afterwards answers with that counter. -/
theorem values_exchanged (shared name : String) (net : ClockNetwork) :
    (∀ value, net.step shared name .init = (.number value,
        (net.setClock name ⟨max (net.clock name).counter value + 1⟩).answered value) ↔
      net.environment.HoldsValue shared value) ∧
    (net.step shared name .init = (.nothing, net) ↔
      ∀ value, ¬ net.environment.HoldsValue shared value) ∧
    ((Nat.digits 10 (net.clock name).counter).length ≤ 4300 → ∃ numeral written,
      net.step shared name .propagate = (.number (net.clock name).counter, written) ∧
      written.environment = net.environment.set shared numeral ∧
      ∀ other, (written.step shared other .init).1 = .number (net.clock name).counter) := by
  have hany : net.step shared name .init = (.nothing, net) ∨
      ∃ value, net.environment.HoldsValue shared value := by
    by_cases h : ∃ value, net.environment.HoldsValue shared value
    · exact Or.inr h
    · exact Or.inl (step_init_of_not_holdsValue (not_exists.1 h))
  refine ⟨fun value => ⟨fun h => ?_, step_init_of_holdsValue⟩,
    ⟨fun h value hvalue => ?_, step_init_of_not_holdsValue⟩, fun h => ?_⟩
  · rcases hany with hnothing | ⟨held, hheld⟩
    · rw [hnothing] at h
      cases h
    · rw [step_init_of_holdsValue hheld] at h
      obtain rfl := ClockAnswer.number.inj (congrArg Prod.fst h)
      exact hheld
  · rw [step_init_of_holdsValue hvalue] at h
    cases h
  · obtain ⟨numeral, htext, hstep⟩ := exists_step_propagate shared h
    refine ⟨numeral, _, hstep, rfl, fun other => ?_⟩
    have hheld : (net.environment.set shared numeral).HoldsValue shared (net.clock name).counter :=
      ⟨numeral, Environment.get?_set_self _ _ _, htext⟩
    exact congrArg Prod.fst (step_init_of_holdsValue hheld)

/-- A clock beside a variable whose text is set in Arabic digits, with a sign in front, an
underscore between them, and an ideographic space and a newline at the ends. -/
def arabicDigits : ClockNetwork :=
  { clocks := [("main", ⟨5⟩)]
    environment := ⟨[("CLOCK", "\u3000+\u0661_\u0662\n")]⟩ }

/-- The clock takes twelve from it; what it would write itself is what another takes. -/
theorem arabic_digits_taken :
    (Nat.digits 10 (arabicDigits.clock "main").counter).length ≤ 4300 ∧
      arabicDigits.environment.HoldsValue "CLOCK" 12 ∧
      arabicDigits.step "CLOCK" "main" .init =
        (.number 12, (arabicDigits.setClock "main" ⟨13⟩).answered 12) ∧
      ∃ written, arabicDigits.step "CLOCK" "main" .propagate = (.number 5, written) ∧
        (written.step "CLOCK" "worker" .init).1 = .number 5 := by
  have hlength : (Nat.digits 10 (arabicDigits.clock "main").counter).length ≤ 4300 := by
    rw [show (arabicDigits.clock "main").counter = 5 from rfl]
    norm_num
  have hnumeral : IsNumeral ['+', '\u0661', '_', '\u0662'] 12 :=
    ⟨['+'], false, _, [1, 2], rfl, .plus, .underscore (by decide) (.last (by decide)), by decide,
      by decide⟩
  have hheld : arabicDigits.environment.HoldsValue "CLOCK" 12 :=
    ⟨_, rfl, ['\u3000'], _, ['\n'], by decide, List.forall_mem_singleton.2 (by decide),
      List.forall_mem_singleton.2 (by decide), hnumeral⟩
  obtain ⟨htaken, -, hexchanged⟩ := values_exchanged "CLOCK" "main" arabicDigits
  obtain ⟨_, written, hwritten, -, hothers⟩ := hexchanged hlength
  exact ⟨hlength, hheld, (htaken 12).2 hheld, written, hwritten, hothers "worker"⟩

end ClockNetwork
end CausalTrace
