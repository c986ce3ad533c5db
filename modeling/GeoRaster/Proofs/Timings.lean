import GeoRaster.Metrics
import Mathlib.Algebra.GroupWithZero.Nat
import Mathlib.Data.List.DropRight
import Mathlib.Order.Bounds.Defs

namespace GeoRaster

namespace Timing

def recorded (ds : List UInt64) : Timing :=
  ds.foldl record none

/-- The durations after the last one that was zero. -/
def sinceZero (ds : List UInt64) : List UInt64 :=
  ds.rtakeWhile (· ≠ 0)

@[simp] theorem sinceZero_append_zero (ds : List UInt64) : sinceZero (ds ++ [0]) = [] :=
  List.rtakeWhile_concat_neg _ _ _ (by simp)

theorem sinceZero_append {d : UInt64} (ds : List UInt64) (hd : d ≠ 0) :
    sinceZero (ds ++ [d]) = sinceZero ds ++ [d] :=
  List.rtakeWhile_concat_pos _ _ _ (by simpa using hd)

theorem ne_zero_of_mem_sinceZero {ds : List UInt64} {d : UInt64} (h : d ∈ sinceZero ds) :
    d ≠ 0 := by
  simpa using List.mem_rtakeWhile_imp h

theorem sinceZero_eq_self {ds : List UInt64} (h : 0 ∉ ds) : sinceZero ds = ds := by
  rw [sinceZero, List.rtakeWhile_eq_self_iff]
  intro d hd
  simpa using ne_of_mem_of_not_mem hd h

theorem sinceZero_eq_nil_iff {ds : List UInt64} (hne : ds ≠ []) :
    sinceZero ds = [] ↔ ds.getLast hne = 0 := by
  rw [sinceZero, List.rtakeWhile_eq_nil_iff]
  simp [hne]

section Bounds

variable {xs : List UInt64} {m : UInt64}

theorem isLeast_append (h : IsLeast {x | x ∈ xs} m) (d : UInt64) :
    IsLeast {x | x ∈ xs ++ [d]} (if d < m then d else m) := by
  split
  · rename_i hlt
    refine ⟨List.mem_append_right _ (List.mem_singleton.mpr rfl), fun x hx => ?_⟩
    obtain hx | hx := List.mem_append.mp hx
    · exact UInt64.le_trans (UInt64.le_of_lt hlt) (h.2 hx)
    · exact List.mem_singleton.mp hx ▸ UInt64.le_refl d
  · rename_i hlt
    refine ⟨List.mem_append_left _ h.1, fun x hx => ?_⟩
    obtain hx | hx := List.mem_append.mp hx
    · exact h.2 hx
    · exact List.mem_singleton.mp hx ▸ UInt64.not_lt.mp hlt

theorem isGreatest_append (h : IsGreatest {x | x ∈ xs} m) (d : UInt64) :
    IsGreatest {x | x ∈ xs ++ [d]} (if m < d then d else m) := by
  split
  · rename_i hlt
    refine ⟨List.mem_append_right _ (List.mem_singleton.mpr rfl), fun x hx => ?_⟩
    obtain hx | hx := List.mem_append.mp hx
    · exact UInt64.le_trans (h.2 hx) (UInt64.le_of_lt hlt)
    · exact List.mem_singleton.mp hx ▸ UInt64.le_refl d
  · rename_i hlt
    refine ⟨List.mem_append_left _ h.1, fun x hx => ?_⟩
    obtain hx | hx := List.mem_append.mp hx
    · exact h.2 hx
    · exact List.mem_singleton.mp hx ▸ UInt64.not_lt.mp hlt

end Bounds

/-- What the times show of a history. Before the first record and right after a zero there is
nothing that the least duration could be the least of. -/
structure Tells (t : Timing) (ds : List UInt64) : Prop where
  count_eq : t.count = .ofNat ds.length
  total_eq : t.total = .ofNat (ds.map UInt64.toNat).sum
  least_isLeast : sinceZero ds = [] ∧ t.least = 0 ∨ IsLeast {d | d ∈ sinceZero ds} t.least
  greatest_isGreatest : IsGreatest {d | d ∈ 0 :: ds} t.greatest

theorem tells_none : none.Tells [] where
  count_eq := rfl
  total_eq := rfl
  least_isLeast := .inl ⟨rfl, rfl⟩
  greatest_isGreatest := ⟨List.mem_singleton.mpr rfl, fun _ hd =>
    List.mem_singleton.mp hd ▸ UInt64.le_refl 0⟩

namespace Tells

variable {t : Timing} {ds : List UInt64}

theorem least_record (h : t.Tells ds) (d : UInt64) :
    sinceZero (ds ++ [d]) = [] ∧ (t.record d).least = 0 ∨
      IsLeast {x | x ∈ sinceZero (ds ++ [d])} (t.record d).least := by
  by_cases hd : d = 0
  · -- a zero is taken whatever was least before
    subst hd
    refine .inl ⟨sinceZero_append_zero ds, ?_⟩
    show (if t.least = 0 ∨ 0 < t.least then 0 else t.least) = 0
    rw [if_pos]
    exact (Decidable.em (t.least = 0)).imp_right UInt64.pos_iff_ne_zero.mpr
  · right
    rw [sinceZero_append ds hd]
    show IsLeast _ (if t.least = 0 ∨ d < t.least then d else t.least)
    obtain ⟨hnil, hzero⟩ | hleast := h.least_isLeast
    · rw [hnil, if_pos (.inl hzero)]
      exact ⟨List.mem_singleton.mpr rfl, fun x hx =>
        List.mem_singleton.mp hx ▸ UInt64.le_refl d⟩
    · have hne : t.least ≠ 0 := ne_zero_of_mem_sinceZero hleast.1
      simp only [hne, false_or]
      exact isLeast_append hleast d

theorem record (h : t.Tells ds) (d : UInt64) : (t.record d).Tells (ds ++ [d]) where
  count_eq := by
    rw [List.length_append, UInt64.ofNat_add, ← h.count_eq]
    rfl
  total_eq := by
    rw [List.map_append, List.sum_append, UInt64.ofNat_add, ← h.total_eq]
    simp [Timing.record]
  least_isLeast := h.least_record d
  greatest_isGreatest := isGreatest_append h.greatest_isGreatest d

theorem foldl (h : t.Tells ds) (es : List UInt64) :
    (es.foldl Timing.record t).Tells (ds ++ es) := by
  induction es generalizing t ds with
  | nil => simpa using h
  | cons e es ih => simpa using ih (h.record e)

theorem greatest_of_ne_nil (h : t.Tells ds) (hne : ds ≠ []) :
    IsGreatest {d | d ∈ ds} t.greatest := by
  obtain ⟨hmem, hge⟩ := h.greatest_isGreatest
  refine ⟨?_, fun d hd => hge (List.mem_cons_of_mem 0 hd)⟩
  obtain hzero | hmem := List.mem_cons.mp hmem
  · -- nothing is below zero, so that a history with no greater duration has zeros alone
    obtain ⟨d, hd⟩ := List.exists_mem_of_ne_nil ds hne
    have hle : d ≤ 0 := hzero ▸ hge (List.mem_cons_of_mem 0 hd)
    have hd0 : d = 0 := UInt64.le_antisymm hle UInt64.zero_le
    exact hzero ▸ hd0 ▸ hd
  · exact hmem

/-- The least duration of the history is lost with the first record after a zero. -/
theorem least_isLeast_iff (h : t.Tells ds) (hne : ds ≠ []) :
    IsLeast {d | d ∈ ds} t.least ↔ (0 ∈ ds → ds.getLast hne = 0) := by
  rw [← sinceZero_eq_nil_iff hne]
  obtain ⟨hnil, hzero⟩ | hleast := h.least_isLeast
  · have hmem : 0 ∈ ds := (sinceZero_eq_nil_iff hne).mp hnil ▸ List.getLast_mem hne
    simp only [hnil, implies_true, iff_true, hzero]
    exact ⟨hmem, fun d _ => UInt64.zero_le⟩
  · have hmem : sinceZero ds ≠ [] := List.ne_nil_of_mem hleast.1
    simp only [hmem, imp_false]
    constructor
    · intro hall hzero
      have hle : t.least ≤ 0 := hall.2 hzero
      exact ne_zero_of_mem_sinceZero hleast.1 (UInt64.le_antisymm hle UInt64.zero_le)
    · intro hzero
      rwa [sinceZero_eq_self hzero] at hleast

end Tells

theorem tells_recorded (ds : List UInt64) : (recorded ds).Tells ds :=
  tells_none.foldl ds

end Timing

/-- One of the times of the metrics, and what each event adds to its history. -/
structure Clock where
  timing : Metrics → Timing
  duration? : Metrics.Event → Option UInt64
  timing_zero : timing .zero = .none
  timing_record : ∀ m e, timing (m.record e) =
    match duration? e with
    | some d => (timing m).record d
    | none => timing m

theorem Metrics.times_request (m : Metrics) (duration : UInt64) (error : Option ExceptionCode) :
    (m.record (.request duration error)).requestTimes = m.requestTimes.record duration ∧
      (m.record (.request duration error)).readTimes = m.readTimes ∧
      (m.record (.request duration error)).pipelineTimes = m.pipelineTimes := by
  cases error with
  | none => exact ⟨rfl, rfl, rfl⟩
  | some code => cases code <;> exact ⟨rfl, rfl, rfl⟩

namespace Clock

open Metrics

def requests : Clock where
  timing := Metrics.requestTimes
  duration?
    | .request duration _ => some duration
    | _ => none
  timing_zero := rfl
  timing_record m e := by
    cases e with
    | request duration error => exact (times_request m duration error).1
    | read duration => rfl
    | pipeline duration => rfl

def reads : Clock where
  timing := Metrics.readTimes
  duration?
    | .read duration => some duration
    | _ => none
  timing_zero := rfl
  timing_record m e := by
    cases e with
    | request duration error => exact (times_request m duration error).2.1
    | read duration => rfl
    | pipeline duration => rfl

def pipelines : Clock where
  timing := Metrics.pipelineTimes
  duration?
    | .pipeline duration => some duration
    | _ => none
  timing_zero := rfl
  timing_record m e := by
    cases e with
    | request duration error => exact (times_request m duration error).2.2
    | read duration => rfl
    | pipeline duration => rfl

theorem timing_foldl (k : Clock) (m : Metrics) (es : List Event) :
    k.timing (es.foldl Metrics.record m) =
      (es.filterMap k.duration?).foldl Timing.record (k.timing m) := by
  induction es generalizing m with
  | nil => rfl
  | cons e es ih =>
    rw [List.foldl_cons, ih, k.timing_record]
    cases hd : k.duration? e with
    | none => rw [List.filterMap_cons_none hd]
    | some d => rw [List.filterMap_cons_some hd, List.foldl_cons]

end Clock

namespace Timing

theorem Tells.summary_eq {α : Type} [Scalar α] {t : Timing} {ds : List UInt64} (h : t.Tells ds)
    (hne : ds ≠ []) (hlen : ds.length < 2 ^ 64) (hsum : (ds.map UInt64.toNat).sum < 2 ^ 64) :
    t.summary = (⟨ds.length,
      Scalar.ofNat (ds.map UInt64.toNat).sum / Scalar.ofNat ds.length / 1000.0,
      Scalar.ofNat t.least.toNat / 1000.0, Scalar.ofNat t.greatest.toNat / 1000.0⟩ :
        TimingSummary α) := by
  have hcount : t.count.toNat = ds.length := by
    rw [h.count_eq, UInt64.toNat_ofNat_of_lt' hlen]
  have htotal : t.total.toNat = (ds.map UInt64.toNat).sum := by
    rw [h.total_eq, UInt64.toNat_ofNat_of_lt' hsum]
  have hzero : t.count ≠ 0 := by
    intro hzero
    rw [hzero] at hcount
    exact hne (List.length_eq_zero_iff.mp hcount.symm)
  simp only [summary, hzero, if_false, hcount, htotal]

/-- The count, the sum and the greatest duration are those of the whole history, whichever of the
times of the metrics it is the history of. The least duration is the one since the last zero, and
none where the last record is zero: it is that of the history unless a zero was followed by another
record. -/
theorem recorded_shows {ds : List UInt64} (hne : ds ≠ [])
    (hsum : (ds.map UInt64.toNat).sum < 2 ^ 64) :
    (recorded ds).count = .ofNat ds.length ∧
    (recorded ds).total.toNat = (ds.map UInt64.toNat).sum ∧
    IsGreatest {d | d ∈ ds} (recorded ds).greatest ∧
    (ds.getLast hne = 0 ∧ (recorded ds).least = 0 ∨
      IsLeast {d | d ∈ sinceZero ds} (recorded ds).least) ∧
    (IsLeast {d | d ∈ ds} (recorded ds).least ↔ (0 ∈ ds → ds.getLast hne = 0)) ∧
    (∀ (α : Type) [Scalar α], ds.length < 2 ^ 64 → (recorded ds).summary = (⟨ds.length,
      Scalar.ofNat (ds.map UInt64.toNat).sum / Scalar.ofNat ds.length / 1000.0,
      Scalar.ofNat (recorded ds).least.toNat / 1000.0,
      Scalar.ofNat (recorded ds).greatest.toNat / 1000.0⟩ : TimingSummary α)) ∧
    ∀ (k : Clock) (es : List Metrics.Event), es.filterMap k.duration? = ds →
      k.timing (es.foldl Metrics.record .zero) = recorded ds := by
  have h := tells_recorded ds
  refine ⟨h.count_eq, ?_, h.greatest_of_ne_nil hne, ?_, h.least_isLeast_iff hne,
    fun α _ hlen => h.summary_eq hne hlen hsum, fun k es hes => ?_⟩
  · rw [h.total_eq, UInt64.toNat_ofNat_of_lt' hsum]
  · rw [← sinceZero_eq_nil_iff hne]
    exact h.least_isLeast
  · rw [k.timing_foldl, k.timing_zero, hes, recorded]

/-- After a zero and a record of five, five is the least duration. -/
theorem recorded_shows_forgotten :
    (recorded [3, 0, 5]).count = 3 ∧ (recorded [3, 0, 5]).total = 8 ∧
      (recorded [3, 0, 5]).least = 5 ∧
      ¬ IsLeast {d | d ∈ [3, 0, 5]} (recorded [3, 0, 5]).least := by
  have hne : ([3, 0, 5] : List UInt64) ≠ [] := by decide
  obtain ⟨hcount, htotal, -, -, hleast, -⟩ := recorded_shows hne (by decide)
  refine ⟨hcount, UInt64.toNat_inj.mp htotal, by decide, ?_⟩
  rw [hleast]
  simp

end Timing

end GeoRaster
