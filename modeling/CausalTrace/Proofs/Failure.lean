/-
Steps that can fail, taken apart and compared.

* `bind_eq_ok_iff`, `orRefused_eq_ok_iff`, `orOverflow_eq_ok_iff`,
  `orUnwritable_eq_ok_iff`: steps succeed together exactly if each of them
  does; `bind_eq_error_iff`, `orRefused_eq_refused_iff`: they fail as the first of
  them that does; `toOption_eq_some_iff`: a result is kept if there is one;
* `bind_congr_ok`: steps that do the same with what is passed to them can be
  replaced;
* `refuse_eq_ok_iff`, `refuse_eq_error_iff`: the same for a check in front of
  further steps;
* `Failure.SameKind`: failures that differ at most in the traces they name;
* `Alike`: two results both succeed, with values that belong together, or
  both fail in the same way; `Alike.bind`: so do steps after them.
-/
import CausalTrace.Failure

namespace CausalTrace

variable {ε α α' β β' : Type}

/-! ### Steps that succeed -/

/-- Two steps succeed together exactly if the first does and then the second. -/
theorem bind_eq_ok_iff {x : Except ε α} {f : α → Except ε β} {b : β} :
    (x >>= f) = .ok b ↔ ∃ a, x = .ok a ∧ f a = .ok b := by
  cases x <;> simp [bind, Except.bind]

/-- Two steps fail together exactly if the first does, or the second after it. -/
theorem bind_eq_error_iff {x : Except ε α} {f : α → Except ε β} {e : ε} :
    (x >>= f) = .error e ↔ x = .error e ∨ ∃ a, x = .ok a ∧ f a = .error e := by
  cases x <;> simp [bind, Except.bind]

/-- Steps can be replaced if they do the same with what is passed to them. -/
theorem bind_congr_ok {x : Except ε α} {f f' : α → Except ε β} (h : ∀ a, x = .ok a → f a = f' a) :
    (x >>= f) = (x >>= f') := by
  cases x with
  | error e => rfl
  | ok a => exact h a rfl

/-- A check in front of further steps lets them go on exactly if its condition
does not hold. -/
theorem refuse_eq_ok_iff {p : Prop} [Decidable p] {e : ε} {next : Except ε α} {a : α} :
    (if p then (do throw e; next) else next) = .ok a ↔ ¬ p ∧ next = .ok a := by
  by_cases h : p <;> simp [h, throw, throwThe, MonadExceptOf.throw, bind, Except.bind]

theorem refuse_eq_error_iff {p : Prop} [Decidable p] {e e' : ε} {next : Except ε α} :
    (if p then (do throw e; next) else next) = .error e' ↔
      p ∧ e = e' ∨ ¬ p ∧ next = .error e' := by
  by_cases h : p <;> simp [h, throw, throwThe, MonadExceptOf.throw, bind, Except.bind]

/-- What is left of a step without its failures is what it succeeds with. -/
theorem toOption_eq_some_iff {x : Except ε α} {a : α} : x.toOption = some a ↔ x = .ok a := by
  cases x <;> simp [Except.toOption]

theorem orRefused_eq_ok_iff {x : Except TraceError α} {a : α} :
    orRefused x = .ok a ↔ x = .ok a := by
  cases x <;> simp [orRefused]

theorem orRefused_eq_refused_iff {x : Except TraceError α} {error : TraceError} :
    orRefused x = .error (.refused error) ↔ x = .error error := by
  cases x <;> simp [orRefused]

theorem orRefused_map (f : α → β) (x : Except TraceError α) :
    orRefused (f <$> x) = f <$> orRefused x := by
  cases x <;> rfl

theorem orOverflow_eq_ok_iff {x : Except Overflow α} {a : α} :
    orOverflow x = .ok a ↔ x = .ok a := by
  cases x <;> simp [orOverflow]

theorem orUnwritable_eq_ok_iff {x : Option String} {text : String} :
    orUnwritable x = .ok text ↔ x = some text := by
  cases x <;> simp [orUnwritable]

/-! ### Results that belong together -/

/-- Failures of one kind: the same, but of two batches that mix traces each may
name other traces. -/
inductive Failure.SameKind : Failure → Failure → Prop where
  | refl (failure : Failure) : SameKind failure failure
  | mixedTraces (expected got expected' got' : TraceId) :
      SameKind (.refused (.mixedTraces expected got)) (.refused (.mixedTraces expected' got'))

/-- Two results both succeed, with values that belong together, or both fail in
the same way. -/
inductive Alike (R : α → α' → Prop) : Except Failure α → Except Failure α' → Prop where
  | ok {a : α} {a' : α'} : R a a' → Alike R (.ok a) (.ok a')
  | error {failure failure' : Failure} :
      failure.SameKind failure' → Alike R (.error failure) (.error failure')

namespace Alike

/-- A result is alike itself. -/
theorem refl (x : Except Failure α) : Alike Eq x x := by
  cases x with
  | ok a => exact .ok rfl
  | error failure => exact .error (.refl failure)

/-- What is alike a value is a value that belongs to it. -/
theorem exists_ok {R : α → α' → Prop} {a : α} {x' : Except Failure α'} (h : Alike R (.ok a) x') :
    ∃ a', x' = .ok a' ∧ R a a' := by
  cases h with
  | ok hvalue => exact ⟨_, rfl, hvalue⟩

/-- Steps that are alike after alike results are alike. -/
theorem bind {R : α → α' → Prop} {S : β → β' → Prop} {x : Except Failure α}
    {x' : Except Failure α'} {f : α → Except Failure β} {f' : α' → Except Failure β'}
    (h : Alike R x x') (hstep : ∀ a a', R a a' → Alike S (f a) (f' a')) :
    Alike S (x >>= f) (x' >>= f') := by
  cases h with
  | ok hvalue => exact hstep _ _ hvalue
  | error hkind => exact .error hkind

end Alike
end CausalTrace
