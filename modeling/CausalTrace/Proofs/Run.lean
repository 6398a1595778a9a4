/-
The runs of a list are its maximal blocks of equal keys.

* `runsOn`: the blocks of consecutive elements with equal keys; `flatMap_runsOn`: they
  are the list, cut in pieces; `key_eq_of_mem_runsOn`: the elements of a block have
  one key;
* `Canonical`: the elements of each run have one key, and neighbouring runs
  have different ones;
* `canonical_runsOn`, `runsOn_flatMap`: the runs of a list are canonical,
  and no other canonical runs have the same elements;
* `cut_eq_runsOn`: **a list is cut into these runs**, when each element is compared with
  the first of its run;
* `exists_run_of_neighbours`: neighbours with one key are in one run;
* `map_toList_runsOn`: comparing each element with the first of its run
  cuts a list where comparing it with its neighbour does.
-/
import CausalTrace.Run
import Mathlib.Data.List.SplitBy

namespace CausalTrace

variable {α κ : Type} [DecidableEq κ] {key : α → κ}

/-! ### Blocks of equal keys -/

/-- Puts an element in front of blocks: into the first block if it has
the same key, else as a block of its own. -/
def extend (key : α → κ) (x : α) : List (Run α) → List (Run α)
  | [] => [⟨x, []⟩]
  | run :: runs =>
    if key x = key run.first then ⟨x, run.toList⟩ :: runs else ⟨x, []⟩ :: run :: runs

/-- The blocks of consecutive elements with equal keys. -/
def runsOn (key : α → κ) (xs : List α) : List (Run α) :=
  xs.foldr (extend key) []

/-- An element put in front of blocks comes in front of their
elements. -/
lemma flatMap_extend (key : α → κ) (x : α) (runs : List (Run α)) :
    (extend key x runs).flatMap Run.toList = x :: runs.flatMap Run.toList := by
  cases runs with
  | nil => rfl
  | cons run runs =>
    by_cases h : key x = key run.first <;> simp [extend, h, Run.toList]

/-- The blocks are the list, cut in pieces. -/
lemma flatMap_runsOn (key : α → κ) (xs : List α) :
    (runsOn key xs).flatMap Run.toList = xs := by
  induction xs with
  | nil => rfl
  | cons x xs ih =>
    rw [runsOn, List.foldr_cons, flatMap_extend]
    exact congrArg (x :: ·) ih

/-- The elements of a block have one key. -/
lemma key_eq_of_mem_runsOn (key : α → κ) (xs : List α) :
    ∀ run ∈ runsOn key xs, ∀ x ∈ run.toList, key x = key run.first := by
  induction xs with
  | nil => simp [runsOn]
  | cons y ys ih =>
    rw [runsOn, List.foldr_cons]
    change ∀ run ∈ extend key y (runsOn key ys), ∀ x ∈ run.toList, key x = key run.first
    cases hruns : runsOn key ys with
    | nil => simp [extend, Run.toList]
    | cons block blocks =>
      rw [hruns] at ih
      intro run hrun x hx
      by_cases h : key y = key block.first
      · simp only [extend, h, if_true, List.mem_cons] at hrun
        rcases hrun with rfl | hrun
        · simp only [Run.toList, List.mem_cons] at hx
          rcases hx with rfl | rfl | hx
          · rfl
          · exact h.symm
          · rw [ih block (by simp) x (by simp [Run.toList, hx])]
            exact h.symm
        · exact ih run (by simp [hrun]) x hx
      · simp only [extend, h, if_false, List.mem_cons] at hrun
        rcases hrun with rfl | rfl | hrun
        · simp [Run.toList] at hx
          rw [hx]
        · exact ih run (by simp) x hx
        · exact ih run (by simp [hrun]) x hx

/-! ### Canonical runs -/

/-- The elements of each run have one key, and neighbouring runs have
different ones. -/
structure Canonical (key : α → κ) (runs : List (Run α)) : Prop where
  alike : ∀ run ∈ runs, ∀ x ∈ run.toList, key x = key run.first
  maximal : runs.IsChain fun run next => key run.first ≠ key next.first

/-- No key comes twice in a row among the runs of a list. -/
lemma isChain_runsOn (key : α → κ) (xs : List α) :
    (runsOn key xs).IsChain fun run next => key run.first ≠ key next.first := by
  induction xs with
  | nil => exact List.isChain_nil
  | cons x xs ih =>
    rw [runsOn, List.foldr_cons, ← runsOn]
    cases hruns : runsOn key xs with
    | nil => exact List.isChain_singleton _
    | cons run runs =>
      rw [hruns] at ih
      rw [extend]
      split
      · rename_i hkey
        rw [List.isChain_cons] at ih ⊢
        exact ⟨fun next hnext => hkey ▸ ih.1 next hnext, ih.2⟩
      · rename_i hkey
        exact List.isChain_cons_cons.2 ⟨hkey, ih⟩

/-- The runs of a list are canonical. -/
lemma canonical_runsOn (key : α → κ) (xs : List α) : Canonical key (runsOn key xs) :=
  ⟨key_eq_of_mem_runsOn key xs, isChain_runsOn key xs⟩

/-- The elements of a run, put in front of runs with another key, become a
run of their own. -/
lemma foldr_extend (first : α) (rest : List α) {runs : List (Run α)}
    (halike : ∀ x ∈ rest, key x = key first)
    (hnext : ∀ next ∈ runs.head?, key first ≠ key next.first) :
    (first :: rest).foldr (extend key) runs = ⟨first, rest⟩ :: runs := by
  induction rest generalizing first with
  | nil =>
    cases runs with
    | nil => rfl
    | cons next runs =>
      rw [List.foldr_cons, List.foldr_nil, extend, if_neg (hnext next rfl)]
  | cons second rest ih =>
    have hsecond : key second = key first := halike second (by simp)
    have hrest := ih second (fun x hx => by rw [halike x (by simp [hx]), hsecond])
      (fun next hmem => hsecond ▸ hnext next hmem)
    rw [List.foldr_cons, hrest, extend, if_pos hsecond.symm]
    rfl

/-- Canonical runs are the runs of their elements. -/
lemma runsOn_flatMap {runs : List (Run α)} (h : Canonical key runs) :
    runsOn key (runs.flatMap Run.toList) = runs := by
  induction runs with
  | nil => rfl
  | cons run runs ih =>
    obtain ⟨halike, hmaximal⟩ := h
    rw [List.isChain_cons] at hmaximal
    have hrest := ih ⟨fun next hnext => halike next (List.mem_cons_of_mem _ hnext), hmaximal.2⟩
    rw [List.flatMap_cons, runsOn, List.foldr_append, ← runsOn, hrest]
    exact foldr_extend run.first run.rest
      (fun x hx => halike run List.mem_cons_self x (List.mem_cons_of_mem _ hx)) hmaximal.1

/-- The first run starts with the first element. -/
lemma exists_runsOn_cons (key : α → κ) (x : α) (xs : List α) :
    ∃ rest runs, runsOn key (x :: xs) = ⟨x, rest⟩ :: runs := by
  rw [runsOn, List.foldr_cons, ← runsOn]
  cases runsOn key xs with
  | nil => exact ⟨[], [], rfl⟩
  | cons run runs =>
    rw [extend]
    split
    · exact ⟨run.toList, runs, rfl⟩
    · exact ⟨[], run :: runs, rfl⟩

/-! ### Cutting a list -/

/-- The first run goes on for as long as its key does, and the others are those of what
is left. -/
lemma runsOn_cons (key : α → κ) (first : α) (others : List α) :
    runsOn key (first :: others) =
      ⟨first, others.takeWhile fun x => key x = key first⟩ ::
        runsOn key (others.dropWhile fun x => key x = key first) := by
  have hfront : ∀ x ∈ others.takeWhile fun x => key x = key first, key x = key first :=
    fun x hx => of_decide_eq_true (List.all_eq_true.1 List.all_takeWhile x hx)
  have hback : ∀ next ∈ (runsOn key (others.dropWhile fun x => key x = key first)).head?,
      key first ≠ key next.first := by
    have hstop := List.head?_dropWhile_not (fun x => decide (key x = key first)) others
    cases hleft : others.dropWhile fun x => key x = key first with
    | nil => simp [runsOn]
    | cons y ys =>
      obtain ⟨rest, runs, hruns⟩ := exists_runsOn_cons key y ys
      rw [hleft] at hstop
      rw [hruns]
      rintro next ⟨⟩
      exact Ne.symm (of_decide_eq_false hstop)
  conv_lhs => rw [← List.takeWhile_append_dropWhile (p := fun x => key x = key first) (l := others)]
  rw [runsOn, ← List.cons_append, List.foldr_append, ← runsOn]
  exact foldr_extend first _ hfront hback

/-- Behind the runs that are done come the runs of what is left. -/
lemma cutBehind_eq (key : α → κ) (xs : List α) (done : List (Run α)) :
    cutBehind (fun first x => key x = key first) xs done = done.reverse ++ runsOn key xs := by
  induction xs, done using cutBehind.induct (fun first x => decide (key x = key first)) with
  | case1 done => simp [cutBehind, runsOn]
  | case2 first others done ih =>
    rw [cutBehind, ih, runsOn_cons, List.reverse_cons, List.append_assoc, List.singleton_append]

/-- **Comparing each element with the first of its run cuts a list into its runs.** -/
lemma cut_eq_runsOn (key : α → κ) (xs : List α) :
    cut (fun first x => key x = key first) xs = runsOn key xs :=
  cutBehind_eq key xs []

/-! ### Neighbours -/

/-- An element put in front leaves each run the end of a run. -/
lemma exists_suffix_extend (key : α → κ) (x : α) {runs : List (Run α)} {run : Run α}
    (h : run ∈ runs) : ∃ longer ∈ extend key x runs, run.toList <:+ longer.toList := by
  cases runs with
  | nil => cases h
  | cons first runs =>
    rw [extend]
    split
    · rcases List.mem_cons.1 h with rfl | h
      · exact ⟨_, List.mem_cons_self, List.suffix_cons x run.toList⟩
      · exact ⟨run, List.mem_cons_of_mem _ h, List.suffix_rfl⟩
    · exact ⟨run, List.mem_cons_of_mem _ h, List.suffix_rfl⟩

/-- **Neighbours with one key are in one run.** -/
lemma exists_run_of_neighbours {a b : α} {xs : List α} (h : [a, b] <:+: xs)
    (hkey : key a = key b) : ∃ run ∈ runsOn key xs, [a, b] <:+: run.toList := by
  induction xs with
  | nil => cases List.infix_nil.1 h
  | cons x xs ih =>
    rcases List.infix_cons_iff.1 h with hstart | hlater
    · obtain ⟨rfl, hxs⟩ := List.cons_prefix_cons.1 hstart
      obtain ⟨ys, rfl⟩ := hxs
      obtain ⟨rest, runs, hruns⟩ := exists_runsOn_cons key b ys
      refine ⟨⟨a, b :: rest⟩, ?_, List.IsPrefix.isInfix ⟨rest, rfl⟩⟩
      rw [List.singleton_append, runsOn, List.foldr_cons, ← runsOn, hruns, extend, if_pos hkey]
      exact List.mem_cons_self
    · obtain ⟨run, hrun, hinfix⟩ := ih hlater
      obtain ⟨longer, hlonger, hsuffix⟩ := exists_suffix_extend key x hrun
      exact ⟨longer, hlonger, hinfix.trans hsuffix.isInfix⟩

/-- **The runs of a list are its maximal blocks**: comparing each element
with the first of its run cuts the list where comparing it with its
neighbour does, as equality of keys is transitive. -/
lemma map_toList_runsOn (key : α → κ) (xs : List α) :
    (runsOn key xs).map Run.toList = xs.splitBy fun a b => key a = key b := by
  obtain ⟨halike, hmaximal⟩ := canonical_runsOn key xs
  refine (List.splitBy_eq_iff.2 ⟨?_, ?_, ?_, ?_⟩).symm
  · rw [← List.flatMap_def, flatMap_runsOn]
  · simp [Run.toList]
  · intro block hblock
    obtain ⟨run, hrun, rfl⟩ := List.mem_map.1 hblock
    refine List.Pairwise.isChain (List.pairwise_of_forall_mem_list fun x hx y hy => ?_)
    exact decide_eq_true ((halike run hrun x hx).trans (halike run hrun y hy).symm)
  · rw [List.isChain_map]
    refine hmaximal.imp_of_mem_imp fun run next hrun hnext hne => ?_
    have hlast := halike run hrun _ (List.getLast_mem (by simp [Run.toList]))
    have hhead := halike next hnext _ (List.head_mem (by simp [Run.toList]))
    refine ⟨by simp [Run.toList], by simp [Run.toList], decide_eq_false fun heq => hne ?_⟩
    rw [← hlast, heq, hhead]

end CausalTrace
