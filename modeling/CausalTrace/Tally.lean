/-
Amounts kept by an integer key.

* `Tally.leader?`: the entry with the greatest amount, among equal
  amounts the one with the lowest key;
* `Tally.leader?_eq_some_iff`: the leader is the one entry that is no
  worse than any other.
-/
import CausalTrace.Keyed

namespace CausalTrace
namespace Tally

/-- The better of two entries: the greater amount, then the lower key. -/
def better (a b : Int × Int) : Int × Int :=
  if a.2 < b.2 ∨ (a.2 = b.2 ∧ b.1 < a.1) then b else a

/-- The best of all entries. -/
def leader? : List (Int × Int) → Option (Int × Int)
  | [] => none
  | entry :: rest => some (rest.foldl better entry)

/-- An entry is no worse than another: its amount is greater, or it is the
same and its key is not higher. -/
def NoWorse (a b : Int × Int) : Prop :=
  b.2 < a.2 ∨ (b.2 = a.2 ∧ a.1 ≤ b.1)

/-- Every entry is no worse than itself. -/
theorem NoWorse.refl (a : Int × Int) : NoWorse a a :=
  Or.inr ⟨rfl, Int.le_refl _⟩

/-- What is no worse than a better entry is no worse than the other. -/
theorem NoWorse.trans {a b c : Int × Int} (hab : NoWorse a b) (hbc : NoWorse b c) :
    NoWorse a c := by
  unfold NoWorse at *
  omega

/-- Two entries that are no worse than each other are the same. -/
theorem NoWorse.antisymm {a b : Int × Int} (hab : NoWorse a b) (hba : NoWorse b a) : a = b := by
  unfold NoWorse at *
  exact Prod.ext (by omega) (by omega)

/-- The better of two entries is one of them and no worse than either. -/
theorem better_spec (a b : Int × Int) :
    (better a b = a ∨ better a b = b) ∧ NoWorse (better a b) a ∧ NoWorse (better a b) b := by
  unfold better NoWorse
  split
  · exact ⟨Or.inr rfl, by omega, by omega⟩
  · exact ⟨Or.inl rfl, by omega, by omega⟩

/-- The best entry of a fold is an entry, and no worse than any other. -/
theorem foldl_better_spec (rest : List (Int × Int)) (entry : Int × Int) :
    rest.foldl better entry ∈ entry :: rest ∧
      ∀ other ∈ entry :: rest, NoWorse (rest.foldl better entry) other := by
  induction rest generalizing entry with
  | nil => simp [NoWorse.refl]
  | cons next rest ih =>
    obtain ⟨hone, hfirst, hnext⟩ := better_spec entry next
    obtain ⟨hmem, hbest⟩ := ih (better entry next)
    rw [List.foldl_cons]
    constructor
    · rcases List.mem_cons.1 hmem with heq | hrest
      · rw [heq]
        rcases hone with h | h <;> simp [h]
      · simp [hrest]
    · intro other hother
      have htwo := hbest _ (List.mem_cons_self ..)
      rcases List.mem_cons.1 hother with rfl | hother
      · exact htwo.trans hfirst
      · rcases List.mem_cons.1 hother with rfl | hother
        · exact htwo.trans hnext
        · exact hbest other (List.mem_cons_of_mem _ hother)

/-- The leader is the one entry that is no worse than any other. -/
theorem leader?_eq_some_iff {entries : List (Int × Int)} {entry : Int × Int} :
    leader? entries = some entry ↔
      entry ∈ entries ∧ ∀ other ∈ entries, NoWorse entry other := by
  cases entries with
  | nil => simp [leader?]
  | cons first rest =>
    obtain ⟨hmem, hbest⟩ := foldl_better_spec rest first
    constructor
    · intro h
      obtain rfl := Option.some.inj h
      exact ⟨hmem, hbest⟩
    · rintro ⟨hentry, hall⟩
      exact congrArg some ((hbest entry hentry).antisymm (hall _ hmem))

/-- There is a leader as soon as there are entries. -/
theorem exists_leader {entries : List (Int × Int)} (h : entries ≠ []) :
    ∃ entry, leader? entries = some entry := by
  cases entries with
  | nil => exact absurd rfl h
  | cons first rest => exact ⟨_, rfl⟩

end Tally
end CausalTrace
