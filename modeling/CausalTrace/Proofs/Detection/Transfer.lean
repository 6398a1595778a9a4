/-
What is found about transfers.

* `Marked`: a marker occurs in a name; `transfers`, `computations`: the spans that are
  marked so, no span among both: `transfers_append_computations_subperm`;
* `ofFloat?_mono`: **a value that is no smaller is no less severe**, whatever the order
  of the bands is;
* `transferTime_build`, `computeTime_build`: the times that are compared are those of the
  transfers and of the computations;
* `more_transfers_no_less_severe`: **so further transfers never ease what is found**.
-/
import CausalTrace.Proofs.Detection.Outcome

namespace CausalTrace

variable {settings : Settings} {spans others added : List Span}

/-! ### Marked names -/

/-- One of some markers occurs in a name. -/
def Marked (markers : List String) (name : String) : Prop :=
  ∃ marker ∈ markers, marker.toList <:+: name.toList

/-- A text occurs in another if it is a part of it. -/
lemma occursIn_iff {part text : List Char} : occursIn part text ↔ part <:+: text := by
  induction text with
  | nil => simp [occursIn]
  | cons c rest ih =>
    rw [occursIn, Bool.or_eq_true, ih, List.isPrefixOf_iff_prefix, List.infix_cons_iff]

lemma isMarked_iff {markers : List String} {name : String} :
    isMarked markers name ↔ Marked markers name := by
  simp only [isMarked, List.any_eq_true, occursIn_iff, Marked]

instance (markers : List String) (name : String) : Decidable (Marked markers name) :=
  decidable_of_iff _ isMarked_iff

/-- The spans that are marked as transfers. -/
def transfers (settings : Settings) (spans : List Span) : List Span :=
  spans.filter fun span => Marked settings.transferMarkers span.name

/-- The spans that are marked as computations, and not as transfers. -/
def computations (settings : Settings) (spans : List Span) : List Span :=
  spans.filter fun span =>
    ¬ Marked settings.transferMarkers span.name ∧ Marked settings.computeMarkers span.name

/-- No span is counted twice. -/
lemma transfers_append_computations_subperm (settings : Settings) (spans : List Span) :
    (transfers settings spans ++ computations settings spans).Subperm spans := by
  have hrest : (computations settings spans).Sublist
      (spans.filter fun span => !decide (Marked settings.transferMarkers span.name)) := by
    refine List.monotone_filter_right _ fun span hspan => ?_
    simp only [decide_eq_true_eq] at hspan
    simpa using hspan.1
  exact (hrest.append_left _).subperm.trans (List.filter_append_perm _ spans).subperm

/-- The durations of the transfers, added up. -/
def timeOfTransfers (settings : Settings) (spans : List Span) : Nat :=
  ((transfers settings spans).map Span.duration).sum

/-- The durations of the computations, added up. -/
def timeOfComputations (settings : Settings) (spans : List Span) : Nat :=
  ((computations settings spans).map Span.duration).sum

/-- Transfers and computations take no more time together than all spans. -/
lemma timeOfTransfers_add_le (settings : Settings) (spans : List Span) :
    timeOfTransfers settings spans + timeOfComputations settings spans ≤
      (spans.map Span.duration).sum := by
  obtain ⟨order, hperm, hsub⟩ := transfers_append_computations_subperm settings spans
  calc timeOfTransfers settings spans + timeOfComputations settings spans
      = ((transfers settings spans ++ computations settings spans).map Span.duration).sum := by
        rw [List.map_append, List.sum_append, timeOfTransfers, timeOfComputations]
    _ = (order.map Span.duration).sum := ((hperm.map Span.duration).sum_eq).symm
    _ ≤ (spans.map Span.duration).sum :=
        (hsub.map Span.duration).sum_le_sum fun _ _ => Nat.zero_le _

/-- What is marked as a transfer is no computation. -/
lemma computations_eq_nil (h : ∀ span ∈ added, Marked settings.transferMarkers span.name) :
    computations settings added = [] :=
  List.filter_eq_nil_iff.2 fun span hspan hnot => (of_decide_eq_true hnot).1 (h span hspan)

/-- Wherever further spans come, they add to the time of all that pass a test. -/
lemma sum_filter_of_perm_append (test : Span → Bool) (hperm : others.Perm (spans ++ added)) :
    ((others.filter test).map Span.duration).sum =
      ((spans.filter test).map Span.duration).sum +
        ((added.filter test).map Span.duration).sum := by
  rw [((hperm.filter test).map Span.duration).sum_eq, List.filter_append, List.map_append,
    List.sum_append]

/-- Further transfers add to the time of the transfers and leave that of the
computations. -/
lemma times_of_perm_append (hperm : others.Perm (spans ++ added))
    (h : ∀ span ∈ added, Marked settings.transferMarkers span.name) :
    timeOfTransfers settings spans ≤ timeOfTransfers settings others ∧
      timeOfComputations settings spans = timeOfComputations settings others := by
  have htransfers : timeOfTransfers settings others =
      timeOfTransfers settings spans + timeOfTransfers settings added :=
    sum_filter_of_perm_append _ hperm
  have hcomputations : timeOfComputations settings others =
      timeOfComputations settings spans + timeOfComputations settings added :=
    sum_filter_of_perm_append _ hperm
  have hnone : timeOfComputations settings added = 0 := by
    rw [timeOfComputations, computations_eq_nil h]
    rfl
  omega

/-! ### Severities of shares -/

/-- The weight of what may be found. -/
def weightOf (finding : Option Finding) : Nat :=
  finding.elim 0 (·.severity.weight)

/-- **A value that is no smaller is no less severe**, whatever the order of the bands
is. -/
lemma ofFloat?_mono {bands : Bands Binary64} {value value' : Binary64} (h : value.le value') :
    (bands.ofFloat? value).elim 0 Severity.weight ≤
      (bands.ofFloat? value').elim 0 Severity.weight := by
  by_cases hmedium : value.le bands.medium
  · rw [ofFloat?_eq_none_iff.2 hmedium]
    exact Nat.zero_le _
  -- what the smaller value is above, the greater one is above too
  have hmedium' : ¬ value'.le bands.medium := fun hle => hmedium (Binary64.le_trans h hle)
  have hcritical : bands.critical.lt value → bands.critical.lt value' :=
    fun hlt => Binary64.lt_of_lt_of_le hlt h
  have hhigh : bands.high.lt value → bands.high.lt value' :=
    fun hlt => Binary64.lt_of_lt_of_le hlt h
  simp only [Bands.ofFloat?, Bands.severity?, hmedium, hmedium']
  grind [Severity.weight]

namespace Graph

variable {g g' : Graph} {bands : Bands Binary64} {finding? finding?' : Option Finding}

/-- The time of the transfers of a batch. -/
lemma transferTime_build (settings : Settings) (spans : List Span) :
    (build spans).transferTime settings = timeOfTransfers settings spans := by
  simp only [transferTime, timeOf, spans_build, timeOfTransfers, transfers, timeTogether_eq_sum,
    ← isMarked_iff, Bool.decide_eq_true]

/-- The time of the computations of a batch. -/
lemma computeTime_build (settings : Settings) (spans : List Span) :
    (build spans).computeTime settings = timeOfComputations settings spans := by
  simp only [computeTime, timeOf, spans_build, timeOfComputations, computations,
    timeTogether_eq_sum, ← isMarked_iff]
  simp

/-- If something is computed, the share of the transfers decides. -/
lemma transferBottleneck?_eq_ok_iff :
    g.transferBottleneck? settings bands = .ok finding? ↔
      (g.computeTime settings = 0 ∧ finding? = none) ∨
      (g.computeTime settings ≠ 0 ∧ ∃ share,
        percentage (g.transferTime settings) (g.computeTime settings) = .ok share ∧
        finding? = (bands.ofFloat? share).map fun severity => ⟨severity,
          .transferBottleneck (g.transferTime settings) (g.computeTime settings) share⟩) := by
  simp only [transferBottleneck?]
  split_ifs with hcompute
  · simp [hcompute, eq_comm]
  · simp only [bind_eq_ok_iff, orOverflow_eq_ok_iff, pure, Except.pure, Except.ok.injEq]
    simp [hcompute, eq_comm]

/-- Transfers that take longer beside the same computations are no less severe. -/
lemma exists_transferBottleneck?_le (htransfer : g.transferTime settings ≤ g'.transferTime settings)
    (hcompute : g.computeTime settings = g'.computeTime settings)
    (h' : g'.transferBottleneck? settings bands = .ok finding?') :
    ∃ finding?, g.transferBottleneck? settings bands = .ok finding? ∧
      weightOf finding? ≤ weightOf finding?' := by
  have hweight : ∀ {severity? : Option Severity} {make : Severity → Pattern},
      weightOf (severity?.map fun severity => ⟨severity, make severity⟩) =
        severity?.elim 0 Severity.weight := by
    rintro (_ | severity) make <;> rfl
  simp only [transferBottleneck?_eq_ok_iff, hcompute] at h' ⊢
  rcases h' with ⟨hzero, rfl⟩ | ⟨hpos, share', hshare', rfl⟩
  · exact ⟨none, Or.inl ⟨hzero, rfl⟩, Nat.le_refl _⟩
  · have hwhole : (0 : Int) < g'.computeTime settings := by omega
    obtain ⟨share, hshare, hle⟩ := exists_percentage_le (Int.natCast_nonneg _) hwhole hwhole
      (Int.mul_le_mul_of_nonneg_right (Int.ofNat_le.2 htransfer) (Int.le_of_lt hwhole)) hshare'
    refine ⟨_, Or.inr ⟨hpos, share, hshare, rfl⟩, ?_⟩
    rw [hweight, hweight]
    exact ofFloat?_mono hle

/-- **Further transfers are no less severe.** In a batch of one trace, with any markers and
any bands, something is found about transfers exactly if there are computations that take
time, and the transfers, in percent of them, are in a band. Both times are then those of
the spans that are marked so: no span counts for both, and they take no more time than all
spans. Put further spans into the batch that are marked as transfers, wherever it may be.
If there is an answer about the larger batch then there was one before, and what was found
was no more severe, even if the first band is above the others. -/
theorem more_transfers_no_less_severe (hone : OneTrace spans) (settings : Settings)
    (bands : Bands Binary64) :
    ∃ g, ofSpans spans = .ok g ∧
      (∀ finding, g.transferBottleneck? settings bands = .ok (some finding) ↔
        timeOfComputations settings spans ≠ 0 ∧ ∃ share severity,
          percentage (timeOfTransfers settings spans) (timeOfComputations settings spans) =
            .ok share ∧ bands.ofFloat? share = some severity ∧
          finding = ⟨severity, .transferBottleneck (timeOfTransfers settings spans)
            (timeOfComputations settings spans) share⟩) ∧
      (transfers settings spans ++ computations settings spans).Subperm spans ∧
      timeOfTransfers settings spans + timeOfComputations settings spans ≤
        (spans.map Span.duration).sum ∧
      ∀ added others, others.Perm (spans ++ added) → OneTrace others →
        (∀ span ∈ added, Marked settings.transferMarkers span.name) →
        ∃ g', ofSpans others = .ok g' ∧
          ∀ finding?', g'.transferBottleneck? settings bands = .ok finding?' →
            ∃ finding?, g.transferBottleneck? settings bands = .ok finding? ∧
              weightOf finding? ≤ weightOf finding?' := by
  refine ⟨build spans, ofSpans_of_oneTrace hone, fun finding => ?_,
    transfers_append_computations_subperm settings spans,
    timeOfTransfers_add_le settings spans, fun added others hperm hothers hmarked => ?_⟩
  · rw [transferBottleneck?_eq_ok_iff, transferTime_build, computeTime_build]
    simp only [reduceCtorEq, and_false, false_or, ne_eq, eq_comm (a := some finding),
      eq_comm (a := finding), Option.map_eq_some_iff, exists_and_left]
  · obtain ⟨htransfer, hcompute⟩ := times_of_perm_append hperm hmarked
    rw [← transferTime_build, ← transferTime_build] at htransfer
    rw [← computeTime_build, ← computeTime_build] at hcompute
    exact ⟨build others, ofSpans_of_oneTrace hothers, fun _ hfinding =>
      exists_transferBottleneck?_le htransfer hcompute hfinding⟩

/-- A computation that takes a hundred, and a transfer that is named like one as well. -/
def kernelCopy : List Span :=
  [{ name := "kernel", startTime := 0, endTime := 100, clock := 0, process := 1, thread := 1,
     traceId := .ofNat 16 7, spanId := .ofNat 8 1, parentId := none },
   { name := "kernel H2D", startTime := 0, endTime := 130, clock := 1, process := 1, thread := 1,
     traceId := .ofNat 16 7, spanId := .ofNat 8 2, parentId := none }]

/-- Another transfer, which takes seventy. -/
def copyBack : Span :=
  { name := "D2H", startTime := 100, endTime := 170, clock := 2, process := 1, thread := 1,
    traceId := .ofNat 16 7, spanId := .ofNat 8 3, parentId := none }

/-- A transfer in front makes a critical finding of none, with a threshold that is above
the other bands. -/
theorem copy_back_is_critical :
    (copyBack :: kernelCopy).Perm (kernelCopy ++ [copyBack]) ∧ OneTrace kernelCopy ∧
      OneTrace (copyBack :: kernelCopy) ∧
      (∀ span ∈ [copyBack], Marked ["memcpy", "H2D", "D2H"] span.name) ∧
      ∃ g g', ofSpans kernelCopy = .ok g ∧ ofSpans (copyBack :: kernelCopy) = .ok g' ∧
        g.transferBottleneck? {} ⟨.ofNat 150, .ofNat 100, .ofNat 120⟩ = .ok none ∧
        g'.transferBottleneck? {} ⟨.ofNat 150, .ofNat 100, .ofNat 120⟩ =
          .ok (some ⟨.critical, .transferBottleneck 200 100 (.ofNat 200)⟩) := by
  have hone : OneTrace kernelCopy := ⟨.ofNat 16 7, by simp [kernelCopy]⟩
  have hothers : OneTrace (copyBack :: kernelCopy) :=
    ⟨.ofNat 16 7, by simp [kernelCopy, copyBack]⟩
  have hperm : (copyBack :: kernelCopy).Perm (kernelCopy ++ [copyBack]) :=
    (List.perm_append_singleton copyBack kernelCopy).symm
  have hmarked : ∀ span ∈ [copyBack], Marked ["memcpy", "H2D", "D2H"] span.name := by decide
  have htimes : timeOfTransfers {} kernelCopy = 130 ∧ timeOfComputations {} kernelCopy = 100 ∧
      timeOfTransfers {} (copyBack :: kernelCopy) = 200 ∧
      timeOfComputations {} (copyBack :: kernelCopy) = 100 := by decide
  obtain ⟨htransfer, hcompute, htransfer', hcompute'⟩ := htimes
  obtain ⟨g, hg, hfound, -, -, hmore⟩ :=
    more_transfers_no_less_severe hone {} ⟨.ofNat 150, .ofNat 100, .ofNat 120⟩
  obtain ⟨g', hg', hanswer⟩ := hmore [copyBack] _ hperm hothers hmarked
  obtain ⟨_, hg'', hfound', -⟩ :=
    more_transfers_no_less_severe hothers {} ⟨.ofNat 150, .ofNat 100, .ofNat 120⟩
  obtain rfl := Except.ok.inj (hg'.symm.trans hg'')
  rw [htransfer, hcompute] at hfound
  rw [htransfer', hcompute'] at hfound'
  have hlarge := (hfound' _).2 ⟨by decide, .ofNat 200, .critical, by decide +kernel,
    by decide +kernel, rfl⟩
  obtain ⟨finding?, hsmall, -⟩ := hanswer _ hlarge
  refine ⟨hperm, hone, hothers, hmarked, g, g', hg, hg', ?_, hlarge⟩
  cases finding? with
  | none => exact hsmall
  | some finding =>
    obtain ⟨-, share, severity, hshare, hseverity, -⟩ := (hfound finding).1 hsmall
    have hvalue : percentage (130 : Nat) (100 : Nat) = .ok (.ofNat 130) := by decide +kernel
    have hbelow : (⟨.ofNat 150, .ofNat 100, .ofNat 120⟩ : Bands Binary64).ofFloat?
        (.ofNat 130) = none := by decide +kernel
    obtain rfl := Except.ok.inj (hvalue.symm.trans hshare)
    rw [hbelow] at hseverity
    cases hseverity

end Graph
end CausalTrace
