/-
The identifiers of synthetic spans.

* `Ident.ofDigits_bytesOfNat`: the bytes of a number write it in base 256;
* `syntheticId_eq_iff`, `allZero_syntheticId`: identifiers are the same
  exactly for clocks that leave the same rest, and none is zero;
* `nodup_spanId_iff`: so spans of clocks within one turn are told apart by
  their identifiers as by their clocks;
* `nodup_clock_standIns_iff`: no clock comes twice among the stand-ins of
  some runs exactly if none counts past the start of a later one;
* `synthetic_ids_distinct_iff`: **this decides whether the synthetic spans of a
  batch have different identifiers**, and they do if its clocks are different.
-/
import CausalTrace.Proofs.Compression.RoundTrip
import Mathlib.Data.Nat.Digits.Defs

namespace CausalTrace

-- Powers are those of the natural numbers, whichever others are known.
attribute [local instance (high)] instPowNat

variable {minRun tick : Int} {run : Run Span} {runs : List (Run Span)} {spans : List Span}
  {c : Compressed}

/-! ### Identifiers of clocks -/

/-- The bytes of a number write it in base 256, as far as they reach. -/
lemma Ident.ofDigits_bytesOfNat (size n : Nat) :
    Nat.ofDigits 256 ((Ident.bytesOfNat size n).reverse.map UInt8.toNat) = n % 256 ^ size := by
  rw [Ident.bytesOfNat, List.reverse_reverse, List.map_map]
  induction size with
  | zero => simp [Nat.mod_one]
  | succ size ih =>
    rw [List.range_succ, List.map_append, Nat.ofDigits_append, ih, List.length_map,
      List.length_range, Nat.mod_pow_succ]
    simp

/-- The number whose bytes are the identifier of a clock. -/
lemma ofDigits_syntheticId (clock : Int) :
    Nat.ofDigits 256 ((syntheticId clock).reverse.map UInt8.toNat) =
      (clock % syntheticIds).toNat + 1 := by
  rw [syntheticId, Ident.ofDigits_bytesOfNat, Nat.mod_eq_of_lt]
  simp only [syntheticIds]
  omega

/-- Identifiers are the same exactly for clocks that leave the same rest. -/
lemma syntheticId_eq_iff {a b : Int} :
    syntheticId a = syntheticId b ↔ a % syntheticIds = b % syntheticIds := by
  constructor
  · intro h
    have hnumber := ofDigits_syntheticId a
    rw [h, ofDigits_syntheticId] at hnumber
    simp only [syntheticIds] at hnumber ⊢
    omega
  · intro h
    rw [syntheticId, syntheticId, h]

/-- No identifier is zero. -/
lemma allZero_syntheticId (clock : Int) : allZero (syntheticId clock) = false := by
  rw [← Bool.not_eq_true]
  intro hzero
  have hdigits : (syntheticId clock).reverse.map UInt8.toNat =
      List.replicate (syntheticId clock).reverse.length 0 := by
    rw [List.map_eq_replicate_iff]
    simpa [allZero, ← UInt8.toNat_inj] using hzero
  have hnumber := ofDigits_syntheticId clock
  rw [hdigits, Nat.ofDigits_replicate_zero] at hnumber
  omega

/-- Within one turn, spans are told apart by identifiers made of their clocks as by
their clocks. -/
lemma nodup_spanId_iff
    (hid : ∀ span ∈ spans, span.spanId.bytes = syntheticId span.clock)
    (hclock : ∀ span ∈ spans, 0 ≤ span.clock ∧ span.clock < syntheticIds) :
    (spans.map (·.spanId)).Nodup ↔ (spans.map (·.clock)).Nodup := by
  rw [List.Nodup, List.Nodup, List.pairwise_map, List.pairwise_map]
  refine List.Pairwise.iff_of_mem fun {a b} ha hb => not_congr ?_
  obtain ⟨hanonneg, halt⟩ := hclock a ha
  obtain ⟨hbnonneg, hblt⟩ := hclock b hb
  calc a.spanId = b.spanId ↔ a.spanId.bytes = b.spanId.bytes := Ident.bytes_inj.symm
    _ ↔ a.clock % syntheticIds = b.clock % syntheticIds := by
        rw [hid a ha, hid b hb, syntheticId_eq_iff]
    _ ↔ a.clock = b.clock := by
        rw [Int.emod_eq_of_lt hanonneg halt, Int.emod_eq_of_lt hbnonneg hblt]

/-! ### Stand-ins of many runs -/

/-- The summaries of some runs expand into their stand-ins. -/
lemma mapM_expand_summary (tick : Int) (runs : List (Run Span)) :
    (runs.map Segment.summary).mapM (Segment.expand tick) =
      .ok (runs.map fun run => (standIns tick run).toList) := by
  rw [List.mapM_map]
  exact mapM_eq_ok fun run _ => expand_summary

lemma spanId_standIns :
    ∀ span ∈ (standIns tick run).toList, span.spanId.bytes = syntheticId span.clock := by
  rw [toList_standIns, List.forall_mem_map]
  exact fun i _ => rfl

/-- The stand-ins of an earlier run have other clocks than those of a later one
exactly if they end before it starts. -/
lemma clock_standIns_ne_iff {next : Run Span} (h : run.first.clock ≤ next.first.clock) :
    (∀ a ∈ (standIns tick run).toList, ∀ b ∈ (standIns tick next).toList, a.clock ≠ b.clock) ↔
      run.first.clock + run.length ≤ next.first.clock := by
  simp only [toList_standIns, List.forall_mem_map, List.mem_range]
  constructor
  · intro hne
    by_contra hover
    -- the clock at which the later run starts is counted by the earlier one
    refine hne (next.first.clock - run.first.clock).toNat (by omega) 0 (Nat.succ_pos _) ?_
    simp only [standIn]
    omega
  · intro hle i hi j _
    simp only [standIn]
    omega

/-- No clock comes twice among the stand-ins of runs that start in order exactly
if none of them counts past the start of a later one. -/
lemma nodup_clock_standIns_iff
    (hstarts : runs.Pairwise fun run next => run.first.clock ≤ next.first.clock) :
    ((runs.flatMap fun run => (standIns tick run).toList).map (·.clock)).Nodup ↔
      runs.Pairwise fun run next : Run Span =>
        run.first.clock + run.length ≤ next.first.clock := by
  rw [List.Nodup, List.pairwise_map, List.pairwise_flatMap]
  constructor
  · rintro ⟨-, hdiffer⟩
    exact hstarts.imp₂ (fun _ _ hle => (clock_standIns_ne_iff hle).1) hdiffer
  · intro hapart
    refine ⟨fun run _ => ascending_standIns.imp Int.ne_of_lt, ?_⟩
    exact hstarts.imp₂ (fun _ _ hle => (clock_standIns_ne_iff hle).2) hapart

/-- A run of strictly increasing clocks has room to count in below whatever
bounds it. -/
lemma first_clock_add_length_le {bound : Int} (h : Ascending run.toList)
    (hbound : ∀ span ∈ run.toList, span.clock < bound) :
    run.first.clock + run.length ≤ bound := by
  obtain ⟨first, rest⟩ := run
  induction rest generalizing first with
  | nil =>
    have hfirst := hbound first List.mem_cons_self
    simp only [Run.length, List.length_nil]
    omega
  | cons second rest ih =>
    have hsecond := ih second h.of_cons fun span hspan => hbound span (List.mem_cons_of_mem _ hspan)
    have hlt : first.clock < second.clock := List.rel_of_pairwise_cons h List.mem_cons_self
    simp only [Run.length, List.length_cons] at hsecond ⊢
    omega

/-! ### The runs of a batch -/

/-- The runs of a batch start in the order of their clocks. -/
lemma pairwise_first_clock_operationRuns (spans : List Span) :
    (operationRuns spans).Pairwise fun run next => run.first.clock ≤ next.first.clock := by
  have hsorted := stablySorted_sortByClock spans
  have hordered := hsorted.ordered
  rw [← flatMap_operationRuns hsorted, List.pairwise_flatMap] at hordered
  exact hordered.2.imp fun hle => hle _ List.mem_cons_self _ List.mem_cons_self

/-- If all clocks are different, no run counts past the start of a later
one. -/
lemma pairwise_clock_operationRuns (h : (spans.map (·.clock)).Nodup) :
    (operationRuns spans).Pairwise fun run next : Run Span =>
      run.first.clock + run.length ≤ next.first.clock := by
  have hsorted := stablySorted_sortByClock spans
  have hascending := ascending_of_stablySorted hsorted h
  rw [← flatMap_operationRuns hsorted, Ascending, List.pairwise_flatMap] at hascending
  refine hascending.2.imp_of_mem fun {run next} hrun _ hlt => ?_
  exact first_clock_add_length_le (hascending.1 run hrun) fun span hspan =>
    hlt span hspan _ List.mem_cons_self

/-- The clocks of stand-ins keep within one turn if those of the batch are within
the limit, as no batch has more spans than that. -/
lemma clock_standIns_mem (hrun : run ∈ operationRuns spans)
    (hclocks : ∀ span ∈ spans, 0 ≤ span.clock ∧ span.clock ≤ durationLimit)
    (hlength : spans.length ≤ durationLimit) :
    ∀ span ∈ (standIns tick run).toList, 0 ≤ span.clock ∧ span.clock < syntheticIds := by
  have hperm := (stablySorted_sortByClock spans).perm
  have hsublist := sublist_of_mem_operationRuns hrun
  obtain ⟨hnonneg, hle⟩ := hclocks run.first
    (hperm.subset (hsublist.subset List.mem_cons_self))
  have hcount : run.length ≤ spans.length := by
    rw [← run.length_toList, ← hperm.length_eq]
    exact hsublist.length_le
  simp only [toList_standIns, List.forall_mem_map, List.mem_range, standIn, syntheticIds]
  simp only [durationLimit] at hle hlength
  omega

/-- **The synthetic spans of a batch have different identifiers exactly if no
segment counts past the start of a later one**, for clocks from zero up to the
limit. The clocks of synthetic spans count up from that of the first span of a
segment, so that a segment of few clock values, as of spans that share one, can
reach into the next. That is so for no batch of different clocks. No identifier
is ever zero. -/
theorem synthetic_ids_distinct_iff (h : compress minRun spans = .ok c)
    (hclocks : ∀ span ∈ spans, 0 ≤ span.clock ∧ span.clock ≤ durationLimit)
    (hlength : spans.length ≤ durationLimit) (tick : Int) :
    ∃ synthetic, c.segments.mapM (Segment.expand tick) = .ok synthetic ∧
      c.decompress tick = .ok (sortByClock (c.uncompressed ++ synthetic.flatten)) ∧
      (∀ span ∈ synthetic.flatten, allZero span.spanId.bytes = false) ∧
      ((synthetic.flatten.map (·.spanId)).Nodup ↔
        c.segments.Pairwise fun a b => a.startClock + a.count ≤ b.startClock) ∧
      ((spans.map (·.clock)).Nodup → (synthetic.flatten.map (·.spanId)).Nodup) := by
  obtain ⟨-, rfl⟩ := eq_of_compress_eq_ok h
  have hsub : (longRuns minRun (operationRuns spans)).Sublist (operationRuns spans) :=
    List.filter_sublist
  have hexpand := mapM_expand_summary tick (longRuns minRun (operationRuns spans))
  have hstarts := (pairwise_first_clock_operationRuns spans).sublist hsub
  have hid : ∀ span ∈ (longRuns minRun (operationRuns spans)).flatMap
      fun run => (standIns tick run).toList, span.spanId.bytes = syntheticId span.clock :=
    List.forall_mem_flatMap.2 fun run _ => spanId_standIns
  have hturn : ∀ span ∈ (longRuns minRun (operationRuns spans)).flatMap
      fun run => (standIns tick run).toList, 0 ≤ span.clock ∧ span.clock < syntheticIds :=
    List.forall_mem_flatMap.2 fun run hrun =>
      clock_standIns_mem (hsub.subset hrun) hclocks hlength
  have hnodup := nodup_spanId_iff hid hturn
  rw [nodup_clock_standIns_iff hstarts] at hnodup
  refine ⟨_, hexpand, ?_, ?_, ?_, ?_⟩
  · rw [Compressed.decompress, hexpand]
    rfl
  all_goals rw [← List.flatMap_def]
  · intro span hspan
    rw [hid span hspan, allZero_syntheticId]
  · rw [hnodup, List.pairwise_map]
    rfl
  · intro hdistinct
    exact hnodup.2 ((pairwise_clock_operationRuns hdistinct).sublist hsub)

/-- A read of a process at a clock value. -/
def readAt (id : Nat) (process clock : Int) : Span :=
  { plainSpan id "read" clock 0 100 with process }

/-- Two reads of one process, and then two of another. -/
def readsInTurn : List Span :=
  [readAt 1 1 5, readAt 2 1 6, readAt 3 2 7, readAt 4 2 8]

/-- The synthetic spans of reads at different clock values have different
identifiers. -/
theorem reads_in_turn_have_distinct_ids :
    ∃ c synthetic, compress 2 readsInTurn = .ok c ∧ c.segments.length = 2 ∧
      c.segments.mapM (Segment.expand 1000) = .ok synthetic ∧
      (synthetic.flatten.map (·.spanId)).Nodup := by
  have hlimit : ∀ span ∈ readsInTurn, span.duration ≤ durationLimit := by decide
  have hruns : operationRuns readsInTurn =
      [⟨readAt 1 1 5, [readAt 2 1 6]⟩, ⟨readAt 3 2 7, [readAt 4 2 8]⟩] := by
    cbv
  have hcompress := compress_eq_ok_of_forall (show (1 : Int) ≤ 2 by decide) hlimit
  obtain ⟨synthetic, hsynthetic, -, -, -, hdistinct⟩ :=
    synthetic_ids_distinct_iff hcompress (by decide) (by decide) 1000
  refine ⟨_, synthetic, hcompress, ?_, hsynthetic, hdistinct (by decide)⟩
  rw [hruns]
  rfl

/-- Two reads of each of two processes, all at one clock value. -/
def tiedReads : List Span :=
  [readAt 1 1 5, readAt 2 1 5, readAt 3 2 5, readAt 4 2 5]

/-- Both segments count up from the shared clock value, so that each
identifier comes twice. -/
theorem tied_reads_share_ids :
    (∀ span ∈ tiedReads, span.traceId = .ofNat 16 7) ∧
      ∃ c synthetic, compress 2 tiedReads = .ok c ∧
        c.segments.mapM (Segment.expand 1000) = .ok synthetic ∧
        synthetic.flatten.map (·.spanId) = [.ofNat 8 6, .ofNat 8 7, .ofNat 8 6, .ofNat 8 7] := by
  have hlimit : ∀ span ∈ tiedReads, span.duration ≤ durationLimit := by decide
  have hruns : operationRuns tiedReads =
      [⟨readAt 1 1 5, [readAt 2 1 5]⟩, ⟨readAt 3 2 5, [readAt 4 2 5]⟩] := by
    cbv
  have hcompress := compress_eq_ok_of_forall (show (1 : Int) ≤ 2 by decide) hlimit
  rw [hruns] at hcompress
  exact ⟨by decide, _, _, hcompress, mapM_expand_summary 1000 _, by decide⟩

end CausalTrace
