/-
Thresholds in percent, and the exact ratios that they stand for.

* `Binary64.IsInt`: a value that is a whole number; `exists_percentage_hundred`: such a
  threshold has a share in a hundred;
* `Kept`, `kept_iff`: that share is rounded to no more than the threshold;
  `kept_iff_of_le_hundred`: all whole numbers up to `100` are kept but five;
* `ExcludesProcesses`, `ExcludesTransfers`: no ratio up to a threshold is found;
  `threshold_excludes_iff`: **so it is exactly for the thresholds that are kept**.
-/
import CausalTrace.Proofs.Detection.Dominant

namespace CausalTrace

-- Powers are those of the natural numbers, whichever others are known.
attribute [local instance (high)] instPowNat

open Binary64 (one)

/-! ### Whole numbers as thresholds -/

namespace Binary64

variable {x y : Binary64} {n : Int}

/-- A value that is a whole number. -/
def IsInt (x : Binary64) (n : Int) : Prop :=
  x.isFinite ∧ x.position? = some (n * one)

/-- Small whole numbers are values. -/
lemma isInt_ofNat {n : Nat} (h : n < 2 ^ (53 : Nat)) : (ofNat n).IsInt n := by
  rw [ofNat_eq_finite h]
  exact ⟨rfl, congrArg some (Int.natCast_mul n one)⟩

/-- The units of a whole number that is not negative are a magnitude. -/
lemma IsInt.representable {n : Nat} (h : x.IsInt n) : Representable (n * one) := by
  obtain ⟨hfinite, hplace⟩ := h
  cases x with
  | finite negative units hunits =>
    have hplace : (if negative then -(units : Int) else units) = ((n * one : Nat) : Int) := by
      rw [Int.natCast_mul]
      exact Option.some.inj hplace
    -- the value is negative at most if it is zero
    generalize n * one = place at hplace ⊢
    obtain rfl : units = place := by
      split at hplace <;> omega
    exact hunits
  | infinite negative => cases hfinite
  | nan => cases hfinite

end Binary64

variable {threshold : Binary64} {t : Int} {n : Nat}

/-- The share of a number in a hundred, rounded twice, in units. -/
def shareUnits (n : Nat) : Nat :=
  roundSignificant (roundSignificant (n * one) 100 * (100 * one)) one

/-- A threshold that is a whole number has a share in a hundred. -/
lemma exists_percentage_hundred (h : threshold.IsInt n) : ∃ share,
    percentage n 100 = .ok share ∧
      share.position? = some ((min (shareUnits n) magnitudeLimit : Nat) : Int) := by
  have hround : roundSignificant (n * one) 100 ≤ n * one :=
    roundSignificant_le_of_dvd (by decide) h.representable.2 (by omega)
  have hlt := Nat.lt_of_le_of_lt hround h.representable.1
  exact ⟨_, (percentage_natCast n (by decide)).trans (if_pos hlt),
    Binary64.position?_ofMagnitude _ _⟩

/-- The share of a threshold itself is not rounded to more than the threshold. -/
def Kept (threshold : Binary64) (t : Int) : Prop :=
  0 ≤ t → ∀ share, percentage t 100 = .ok share → share.le threshold

/-- A threshold is kept exactly if it is no less than its share in units. -/
lemma kept_iff (h : threshold.IsInt n) : Kept threshold n ↔ shareUnits n ≤ n * one := by
  obtain ⟨share, hshare, hplace⟩ := exists_percentage_hundred h
  have hle : share.le threshold ↔ shareUnits n ≤ n * one := by
    have hlimit := h.representable.1
    rw [Binary64.le_iff, hplace, h.2, ← Int.natCast_mul]
    generalize magnitudeLimit = limit at hlimit ⊢
    simp only [Option.some.injEq, exists_and_left, exists_eq_left', Int.ofNat_le]
    omega
  rw [← hle]
  constructor
  · exact fun hkept => hkept (Int.natCast_nonneg n) share hshare
  · intro hle _ share' hshare'
    obtain rfl := Except.ok.inj (hshare.symm.trans hshare')
    exact hle

/-- Of the whole numbers up to `100` all are kept but five. -/
lemma kept_iff_of_le_hundred (h : threshold.IsInt n) (hn : n ≤ 100) :
    Kept threshold n ↔ n ∉ [7, 14, 28, 55, 56] := by
  have hraised : (List.range 101).filter (fun n => n * one < shareUnits n) =
      [7, 14, 28, 55, 56] := by
    decide +kernel
  rw [kept_iff h, ← hraised]
  simp only [List.mem_filter, List.mem_range, decide_eq_true_eq]
  omega

/-- **A kept threshold excludes every ratio that is not above it**: its share is rounded to
no more than the threshold. -/
lemma exists_percentage_le_threshold (h : threshold.IsInt t) (hkept : Kept threshold t)
    {part whole : Int} (hpart : 0 ≤ part) (hwhole : 0 < whole) (hle : 100 * part ≤ t * whole) :
    ∃ share, percentage part whole = .ok share ∧ share.le threshold := by
  have ht : 0 ≤ t := Int.nonneg_of_mul_nonneg_left (by omega : 0 ≤ t * whole) hwhole
  obtain ⟨n, rfl⟩ := Int.eq_ofNat_of_zero_le ht
  obtain ⟨share', hshare', -⟩ := exists_percentage_hundred h
  obtain ⟨share, hshare, hmono⟩ :=
    exists_percentage_le hpart hwhole (show (0 : Int) < 100 by decide) (by omega) hshare'
  exact ⟨share, hshare, Binary64.le_trans hmono (hkept ht share' hshare')⟩

/-! ### What thresholds exclude -/

namespace Graph

/-- No process is found that takes, in percent of the total of a path, no more time on it
than the threshold, whatever the batch, the path and the other bounds are. -/
def ExcludesProcesses (threshold : Binary64) (t : Int) : Prop :=
  ∀ spans g, ofSpans spans = .ok g → ∀ (path : CriticalPath) (high critical : Binary64)
    (minProcesses process : Int), Leads (path.path.filterMap g.span?) process →
    100 * timeOfProcess (path.path.filterMap g.span?) process ≤ t * path.total →
    g.dominantProcess? path ⟨threshold, high, critical⟩ minProcesses = .ok none

/-- No transfers are found that take, in percent of the compute time, no more time than
the threshold, whatever the batch, the settings and the other bounds are. -/
def ExcludesTransfers (threshold : Binary64) (t : Int) : Prop :=
  ∀ spans g, ofSpans spans = .ok g → ∀ (settings : Settings) (high critical : Binary64),
    100 * (g.transferTime settings : Int) ≤ t * g.computeTime settings →
    g.transferBottleneck? settings ⟨threshold, high, critical⟩ = .ok none

/-- A kept threshold excludes processes up to it. -/
lemma excludesProcesses_of_kept (h : threshold.IsInt t) (hkept : Kept threshold t) :
    ExcludesProcesses threshold t := by
  intro spans g _ path high critical minProcesses process hleads hle
  refine (dominantProcess?_eq_none_iff (leader?_timeByProcess_iff.2 ⟨hleads, rfl⟩)).2 ?_
  rcases Int.lt_or_le 0 path.total with htotal | htotal
  · exact Or.inr (exists_percentage_le_threshold h hkept (Int.natCast_nonneg _) htotal hle)
  · exact Or.inl (Or.inr (Or.inl htotal))

/-- A kept threshold excludes transfers up to it. -/
lemma excludesTransfers_of_kept (h : threshold.IsInt t) (hkept : Kept threshold t) :
    ExcludesTransfers threshold t := by
  intro spans g _ settings high critical hle
  rw [transferBottleneck?_eq_none_iff]
  rcases Nat.eq_zero_or_pos (g.computeTime settings) with hcompute | hcompute
  · exact Or.inl hcompute
  · exact Or.inr (exists_percentage_le_threshold h hkept (Int.natCast_nonneg _)
      (Int.natCast_pos.2 hcompute) hle)

/-- A transfer of some time beside a computation that takes a hundred. -/
def besideHundred (time : Nat) : List Span :=
  [{ name := "memcpy", startTime := 0, endTime := time, clock := 0, process := 1, thread := 1,
     traceId := .ofNat 16 7, spanId := .ofNat 8 1, parentId := none },
   { name := "kernel", startTime := 0, endTime := 100, clock := 1, process := 2, thread := 1,
     traceId := .ofNat 16 7, spanId := .ofNat 8 2, parentId := none }]

/-- The path of the transfer, which is said to take a hundred. -/
def ofHundred : CriticalPath :=
  { path := [0], total := 100 }

lemma ofSpans_besideHundred (time : Nat) :
    ofSpans (besideHundred time) = .ok (build (besideHundred time)) :=
  ofSpans_of_oneTrace ⟨.ofNat 16 7, by simp [besideHundred]⟩

lemma processTimes_ofHundred (time : Nat) :
    (build (besideHundred time)).processTimes ofHundred.path = [(1, (time : Int))] := by
  simp [processTimes, ofHundred, span?, besideHundred, Keyed.update, Keyed.put,
    Span.duration]

lemma times_besideHundred (time : Nat) :
    (build (besideHundred time)).transferTime {} = time ∧
      (build (besideHundred time)).computeTime {} = 100 := by
  have hmemcpy : isMarked ["memcpy", "H2D", "D2H"] "memcpy" = true := by decide
  have hkernel : isMarked ["memcpy", "H2D", "D2H"] "kernel" = false := by decide
  have hcompute : isMarked ["kernel", "GPU"] "kernel" = true := by decide
  constructor <;> simp [transferTime, computeTime, timeOf, besideHundred, hmemcpy,
    hkernel, hcompute, Span.timeTogether, Span.duration]

/-- A threshold that excludes processes is kept: the transfer takes so much of a path of a
hundred. -/
lemma ExcludesProcesses.kept (hint : threshold.IsInt t) (h : ExcludesProcesses threshold t) :
    Kept threshold t := by
  intro ht share hshare
  obtain ⟨n, rfl⟩ := Int.eq_ofNat_of_zero_le ht
  rcases Nat.eq_zero_or_pos n with rfl | hn
  · -- a process that takes no time is never found, but then the share is zero
    exact (kept_iff_of_le_hundred hint (Nat.zero_le _)).2 (by decide) ht share hshare
  have htimes := processTimes_ofHundred n
  have hleader : Tally.leader? ((build (besideHundred n)).processTimes ofHundred.path) =
      some (1, (n : Int)) := by
    rw [htimes]
    rfl
  obtain ⟨hleads, htime⟩ := leader?_timeByProcess_iff.1 (processTimes_eq _ _ ▸ hleader)
  have hnone := h _ _ (ofSpans_besideHundred n) ofHundred .nan .nan 1 1 hleads
    (by rw [← htime]; exact Int.le_of_eq (Int.mul_comm _ _))
  rw [dominantProcess?_eq_none_iff hleader, htimes] at hnone
  rcases hnone with hchecks | ⟨share', hshare', hle⟩
  · simp [ofHundred] at hchecks
    omega
  · obtain rfl := Except.ok.inj (hshare.symm.trans hshare')
    exact hle

/-- A threshold that excludes transfers is kept: the transfer takes so much of a hundred. -/
lemma ExcludesTransfers.kept (h : ExcludesTransfers threshold t) : Kept threshold t := by
  intro ht share hshare
  obtain ⟨n, rfl⟩ := Int.eq_ofNat_of_zero_le ht
  obtain ⟨htransfer, hcompute⟩ := times_besideHundred n
  have hnone := h _ _ (ofSpans_besideHundred n) {} .nan .nan (by rw [htransfer, hcompute]; omega)
  rw [transferBottleneck?_eq_none_iff, htransfer, hcompute] at hnone
  rcases hnone with hzero | ⟨share', hshare', hle⟩
  · cases hzero
  · obtain rfl := Except.ok.inj (hshare.symm.trans hshare')
    exact hle

/-- **A threshold excludes all ratios that are not above it exactly if it is kept**:
neither processes nor transfers are found at such a threshold or below, whatever the
batch, the path and the settings are. The share of a ratio is rounded after the division
and again after the multiplication, and that of the threshold itself may come out above
it; of the whole numbers up to `100` this happens to `7`, `14`, `28`, `55` and `56`. -/
theorem threshold_excludes_iff (h : threshold.IsInt t) :
    (ExcludesProcesses threshold t ↔ Kept threshold t) ∧
    (ExcludesTransfers threshold t ↔ Kept threshold t) ∧
    (t ≤ 100 → (Kept threshold t ↔ t ∉ [7, 14, 28, 55, 56])) := by
  refine ⟨⟨fun hexcludes => hexcludes.kept h, excludesProcesses_of_kept h⟩,
    ⟨ExcludesTransfers.kept, excludesTransfers_of_kept h⟩, fun hle => ?_⟩
  rcases Int.lt_or_le t 0 with hneg | ht
  · have hkept : Kept threshold t := fun hnonneg => absurd hneg (Int.not_lt.2 hnonneg)
    simp only [hkept, true_iff, List.mem_cons, List.not_mem_nil, or_false]
    omega
  · obtain ⟨n, rfl⟩ := Int.eq_ofNat_of_zero_le ht
    rw [kept_iff_of_le_hundred h (by omega)]
    simp only [List.mem_cons, List.not_mem_nil, or_false]
    omega

/-- At three quarters neither the process of the child nor a transfer is found. -/
theorem hot_child_not_above :
    (Binary64.ofNat 75).IsInt 75 ∧ ofSpans hotChild = .ok (build hotChild) ∧
      (build hotChild).dominantProcess? hotPath ⟨.ofNat 75, .ofNat 90, .ofNat 95⟩ 2 = .ok none ∧
      (build (besideHundred 75)).transferBottleneck? {} ⟨.ofNat 75, .ofNat 100, .ofNat 200⟩ =
        .ok none := by
  have hint : (Binary64.ofNat 75).IsInt (75 : Nat) := Binary64.isInt_ofNat (by decide)
  obtain ⟨hprocesses, htransfers, hkept⟩ := threshold_excludes_iff hint
  have hkept := (hkept (by decide)).2 (by decide)
  have hone : OneTrace hotChild := ⟨.ofNat 16 7, by simp [hotChild]⟩
  have hleader : Tally.leader? ((build hotChild).processTimes hotPath.path) = some (2, 3000) :=
    congrArg Tally.leader? processTimes_hotPath
  obtain ⟨hleads, htime⟩ := leader?_timeByProcess_iff.1 (processTimes_eq _ _ ▸ hleader)
  obtain ⟨htransfer, hcompute⟩ := times_besideHundred 75
  refine ⟨hint, ofSpans_of_oneTrace hone, ?_, ?_⟩
  · exact hprocesses.2 hkept _ _ (ofSpans_of_oneTrace hone) hotPath _ _ 2 2 hleads
      (by rw [← htime]; decide)
  · exact htransfers.2 hkept _ _ (ofSpans_besideHundred 75) {} _ _
      (by rw [htransfer, hcompute]; decide)

/-- A span of one process with a child of another that takes a little longer. -/
def nearHalves : List Span :=
  [{ name := "root", startTime := 0, endTime := 45, clock := 0, process := 1, thread := 1,
     traceId := .ofNat 16 7, spanId := .ofNat 8 1, parentId := none },
   { name := "child", startTime := 0, endTime := 55, clock := 1, process := 2, thread := 1,
     traceId := .ofNat 16 7, spanId := .ofNat 8 2, parentId := some (.ofNat 8 1) }]

/-- Transfers that take `7` in a hundred are found though that is the threshold, and so is a
process that takes `55` of the critical path. -/
theorem seven_and_fifty_five_found :
    (∃ g, ofSpans (besideHundred 7) = .ok g ∧
      100 * (g.transferTime {} : Int) ≤ 7 * g.computeTime {} ∧
      g.transferBottleneck? {} ⟨.ofNat 7, .ofNat 100, .ofNat 200⟩ =
        .ok (some ⟨.medium, .transferBottleneck 7 100 (.ofBits 0x401C000000000001)⟩)) ∧
    (∃ g path, ofSpans nearHalves = .ok g ∧ g.criticalPath = .ok path ∧
      Leads (path.path.filterMap g.span?) 2 ∧
      100 * timeOfProcess (path.path.filterMap g.span?) 2 ≤ 55 * path.total ∧
      g.dominantProcess? path ⟨.ofNat 55, .ofNat 90, .ofNat 95⟩ 2 =
        .ok (some ⟨.medium, .dominantProcess 2 (.ofBits 0x404B800000000001) 55⟩)) := by
  constructor
  · obtain ⟨htransfer, hcompute⟩ := times_besideHundred 7
    have hshare : percentage 7 100 = .ok (.ofBits 0x401C000000000001) := by decide +kernel
    have hseverity : (⟨.ofNat 7, .ofNat 100, .ofNat 200⟩ : Bands Binary64).ofFloat?
        (.ofBits 0x401C000000000001) = some .medium := by decide +kernel
    refine ⟨_, ofSpans_besideHundred 7, by rw [htransfer, hcompute]; decide, ?_⟩
    rw [transferBottleneck?, htransfer, hcompute]
    simp [hshare, hseverity, orOverflow, bind, Except.bind, pure, Except.pure]
  · have hone : OneTrace nearHalves := ⟨.ofNat 16 7, by simp [nearHalves]⟩
    have hpath : (build nearHalves).criticalPath = .ok
        { path := [0, 1], total := 100, durations := [(0, 45), (1, 55)],
          names := ["root", "child"] } := by
      have hok : (build nearHalves).order? = .ok [0, 1] := by cbv
      have hranking : (build nearHalves).ranking ((build nearHalves).distances [0, 1]) =
          [(0, 45), (1, 100)] := by
        cbv
      rw [criticalPath_eq_pathTo hok hranking rfl]
      cbv
    have htimes : (build nearHalves).processTimes [0, 1] = [(1, 45), (2, 55)] :=
      (processTimes_build nearHalves [0, 1]).trans rfl
    have hleader : Tally.leader? ((build nearHalves).processTimes [0, 1]) = some (2, 55) :=
      congrArg Tally.leader? htimes
    obtain ⟨hleads, htime⟩ := leader?_timeByProcess_iff.1 (processTimes_eq _ _ ▸ hleader)
    refine ⟨_, _, ofSpans_of_oneTrace hone, hpath, hleads, by rw [← htime]; decide, ?_⟩
    refine (dominantProcess?_eq_some_iff hleader).2 ⟨?_, _, _, ?_, ?_, rfl⟩
    · rw [htimes]
      decide
    · decide +kernel
    · decide +kernel

end Graph
end CausalTrace
