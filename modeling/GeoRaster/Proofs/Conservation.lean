import GeoRaster.Proofs.CallStages
import Mathlib.Algebra.BigOperators.Group.Finset.Basic
import Mathlib.Data.Fintype.BigOperators

namespace GeoRaster

/-- One count of the metrics, and how much each update adds to it. -/
structure Counter where
  value : Metrics → UInt64
  weight : Metrics.Update → ℕ
  value_zero : value .zero = 0
  value_apply : ∀ m u, value (m.apply u) = value m + .ofNat (weight u)

namespace Counter

open Metrics

def requests : Counter where
  value := Metrics.requests
  weight
    | .request => 1
    | _ => 0
  value_zero := rfl
  value_apply m u := by cases u <;> simp [apply]

def failures (code : ExceptionCode) : Counter where
  value m :=
    match code with
    | .invalidParameterValue => m.invalid
    | .noApplicableCode => m.failed
  weight u := if u = updateFor code then 1 else 0
  value_zero := by cases code <;> rfl
  value_apply m u := by cases code <;> cases u <;> simp [apply, updateFor]

def reads : Counter where
  value := Metrics.reads
  weight
    | .read => 1
    | _ => 0
  value_zero := rfl
  value_apply m u := by cases u <;> simp [apply]

def pipelines : Counter where
  value m := m.pipelineTimes.count
  weight
    | .pipelineTime _ => 1
    | _ => 0
  value_zero := rfl
  value_apply m u := by cases u <;> simp [apply, Timing.record]

variable (k : Counter)

def total (us : List Update) : ℕ :=
  (us.map k.weight).sum

@[simp] theorem total_nil : k.total [] = 0 := rfl

@[simp] theorem total_append (us vs : List Update) :
    k.total (us ++ vs) = k.total us + k.total vs := by
  simp [total]

theorem total_take_add_tail (us : List Update) :
    k.total (us.take 1) + k.total us.tail = k.total us := by
  cases us <;> simp [total]

theorem value_foldl (m : Metrics) (us : List Update) :
    k.value (us.foldl apply m) = k.value m + .ofNat (k.total us) := by
  induction us generalizing m with
  | nil => simp
  | cons u us ih =>
    have hcons : k.total (u :: us) = k.weight u + k.total us := by simp [total]
    rw [List.foldl_cons, ih, k.value_apply, hcons, UInt64.ofNat_add, UInt64.add_assoc]

end Counter

namespace Call

variable {α σ : Type} (call : Call α σ) (t : CallTimes)

theorem total_events (k : Counter) : k.total ((call.events t).flatMap Metrics.Event.updates) =
    (if call.progress.hasRead then k.weight .read + k.weight (.readTime t.read) else 0) +
      (if call.progress = .resampled then k.weight (.pipelineTime t.pipeline) else 0) +
      (k.weight .request + (call.errorCode.map fun c => k.weight (Metrics.updateFor c)).getD 0 +
        k.weight (.requestTime t.request)) := by
  obtain ⟨outcome, progress⟩ := call
  cases outcome <;> cases progress <;>
    simp [events, errorCode, Progress.hasRead, Metrics.Event.updates, Counter.total, Nat.add_assoc]

theorem total_events_of_unfailed {k : Counter}
    (h : ∀ code, k.weight (Metrics.updateFor code) = 0) :
    k.total ((call.events t).flatMap Metrics.Event.updates) =
      (if call.progress.hasRead then k.weight .read + k.weight (.readTime t.read) else 0) +
        (if call.progress = .resampled then k.weight (.pipelineTime t.pipeline) else 0) +
        (k.weight .request + k.weight (.requestTime t.request)) := by
  have hnone : (call.errorCode.map fun c => k.weight (Metrics.updateFor c)).getD 0 = 0 := by
    cases call.errorCode with
    | none => rfl
    | some code => exact h code
  rw [total_events, hnone, Nat.add_zero]

end Call

namespace Activity

variable {α σ : Type} (a : Activity α σ)

def updates : List Metrics.Update :=
  a.reports.flatMap Metrics.Event.updates

theorem updates_enter (stage : Stage α σ) (duration : UInt64) :
    (a.enter stage duration).updates = a.updates ++ (a.enter stage duration).pending := by
  simp [updates, enter]

theorem ended_once (h : a.isDone = true) : (if a.failedWith .invalidParameterValue then 1 else 0) +
    (if a.failedWith .noApplicableCode then 1 else 0) + (if a.succeeded then 1 else 0) = 1 := by
  rw [isDone, Bool.and_eq_true] at h
  rw [failedWith, failedWith, succeeded, answer?]
  cases hstage : a.stage with
  | answered call =>
    obtain ⟨outcome, progress⟩ := call
    cases outcome with
    | ok a => rfl
    | error e => cases hcode : e.code <;> simp [hcode]
  | _ =>
    rw [hstage] at h
    exact absurd h.1 Bool.false_ne_true

theorem total_enterIf (k : Counter) (may : Bool) (stage : Stage α σ) (duration : UInt64) :
    k.total (a.enterIf may stage duration).pending + k.total a.updates =
      k.total a.pending + k.total (a.enterIf may stage duration).updates := by
  obtain h | ⟨-, hpending, h⟩ := a.enterIf_cases may stage duration
  · rw [h]
  · rw [h, hpending, updates_enter, Counter.total_append, Counter.total_nil]
    omega

section

variable [Scalar α] [Scalar σ] [Narrowing α σ] [Atlas α]

/-- What becomes pending is reported, and what is settled is pending no more. -/
theorem total_act (k : Counter) (s : Service α σ) (job : Job α σ) (action : Action) :
    k.total (a.settles action) + k.total (a.act s job action).pending + k.total a.updates =
      k.total a.pending + k.total (a.act s job action).updates := by
  cases action with
  | cancel => simp only [settles, act, Counter.total_nil, Nat.zero_add, updates]
  | settle =>
    show k.total (a.pending.take 1) + k.total a.pending.tail + _ = _
    rw [k.total_take_add_tail]
    rfl
  | advance duration =>
    rw [act, show a.settles (.advance duration) = [] from rfl, Counter.total_nil, Nat.zero_add]
    exact a.total_enterIf ..
  | lose duration reason =>
    rw [act, show a.settles (.lose duration reason) = [] from rfl, Counter.total_nil, Nat.zero_add]
    exact a.total_enterIf ..

end

namespace Sound

variable {a} [Scalar α] [Atlas α] {s : Service α σ} {job : Job α σ}

theorem exists_total (h : a.Sound s job) (hdone : a.isDone = true) :
    ∃ call t, a.stage = .answered call ∧ ∀ k : Counter,
      k.total a.updates = k.total ((call.events t).flatMap Metrics.Event.updates) := by
  obtain ⟨call, t, hstage, -, hreports⟩ := h.exists_answer hdone
  exact ⟨call, t, hstage, fun k => by rw [updates, hreports]⟩

theorem total_requests (h : a.Sound s job) (hdone : a.isDone = true) :
    Counter.requests.total a.updates = 1 := by
  obtain ⟨call, t, -, htotal⟩ := h.exists_total hdone
  rw [htotal, call.total_events_of_unfailed t fun code => by cases code <;> rfl]
  simp [Counter.requests]

theorem total_failures (h : a.Sound s job) (hdone : a.isDone = true) (code : ExceptionCode) :
    (Counter.failures code).total a.updates = if a.failedWith code then 1 else 0 := by
  obtain ⟨⟨outcome, progress⟩, t, hstage, htotal⟩ := h.exists_total hdone
  rw [htotal, Call.total_events, failedWith, answer?, hstage]
  cases outcome with
  | ok a => cases code <;> simp [Counter.failures, Metrics.updateFor, Call.errorCode]
  | error e =>
    cases code <;> cases hcode : e.code <;>
      simp [Counter.failures, Metrics.updateFor, Call.errorCode, hcode]

theorem total_reads (h : a.Sound s job) (hdone : a.isDone = true) :
    Counter.reads.total a.updates = if a.received.isSome then 1 else 0 := by
  obtain ⟨call, t, hstage, htotal⟩ := h.exists_total hdone
  have hread : a.received.isSome = call.progress.hasRead := by
    rw [h.received_isSome, hstage, Stage.progress]
  rw [hread, htotal, call.total_events_of_unfailed t fun code => by cases code <;> rfl]
  simp [Counter.reads]

theorem total_pipelines (h : a.Sound s job) (hdone : a.isDone = true) :
    Counter.pipelines.total a.updates = if a.succeeded then 1 else 0 := by
  obtain ⟨call, t, hstage, htotal⟩ := h.exists_total hdone
  rw [if_congr (h.succeeded_iff hstage) rfl rfl, htotal,
    call.total_events_of_unfailed t fun code => by cases code <;> rfl]
  simp [Counter.pipelines]

end Sound

end Activity

namespace Session

variable {ι α σ : Type}

section Sums

variable [Fintype ι]

/-- Of everything reported so far, the count shows what is not pending. -/
def Balanced (k : Counter) (x : Session ι α σ) : Prop :=
  k.value x.metrics + .ofNat (∑ i, k.total (x.calls i).pending) =
    .ofNat (∑ i, k.total (x.calls i).updates)

theorem balanced_start (k : Counter) (jobs : ι → Job α σ) : (start jobs).Balanced k := by
  simp [Balanced, start, Activity.start, Activity.updates, k.value_zero]

theorem Balanced.value_eq {k : Counter} {x : Session ι α σ} (h : x.Balanced k)
    (hpending : ∀ i, (x.calls i).pending = []) {p : Activity α σ → Bool}
    (hp : ∀ i, k.total (x.calls i).updates = if p (x.calls i) then 1 else 0) :
    k.value x.metrics = .ofNat (Finset.card {i | p (x.calls i)}) := by
  have hzero : ∑ i, k.total (x.calls i).pending = 0 :=
    Finset.sum_eq_zero fun i _ => by rw [hpending i, Counter.total_nil]
  rw [Balanced, hzero] at h
  rw [Finset.card_filter, ← Finset.sum_congr rfl fun i _ => hp i, ← h]
  exact (UInt64.add_zero _).symm

theorem card_eq (x : Session ι α σ) (hdone : ∀ i, (x.calls i).isDone = true) :
    Fintype.card ι = Finset.card {i | (x.calls i).failedWith .invalidParameterValue} +
      Finset.card {i | (x.calls i).failedWith .noApplicableCode} +
      Finset.card {i | (x.calls i).succeeded} := by
  rw [Finset.card_filter, Finset.card_filter, Finset.card_filter, ← Finset.sum_add_distrib,
    ← Finset.sum_add_distrib, Finset.sum_congr rfl fun i _ => (x.calls i).ended_once (hdone i),
    Finset.sum_const, Finset.card_univ, smul_eq_mul, Nat.mul_one]

end Sums

section Steps

variable [DecidableEq ι] [Scalar α] [Scalar σ] [Narrowing α σ] [Atlas α] (s : Service α σ)
  (jobs : ι → Job α σ) (x : Session ι α σ)

theorem calls_step_self (move : ι × Action) : (x.step s jobs move).calls move.1 =
    (x.calls move.1).act s (jobs move.1) move.2 :=
  if_pos rfl

theorem calls_step_of_ne {move : ι × Action} {i : ι} (h : i ≠ move.1) :
    (x.step s jobs move).calls i = x.calls i :=
  if_neg h

/-- What every step of a schedule keeps holds at its end. -/
theorem run_induction {P : Session ι α σ → Prop} (schedule : List (ι × Action)) (h : P x)
    (hstep : ∀ y, P y → ∀ move ∈ schedule, P (y.step s jobs move)) :
    P (x.run s jobs schedule) :=
  schedule.foldlRecOn (step s jobs) h hstep

theorem sound_step (h : ∀ i, (x.calls i).Sound s (jobs i)) (move : ι × Action) (i : ι) :
    ((x.step s jobs move).calls i).Sound s (jobs i) := by
  by_cases hi : i = move.1
  · subst hi
    rw [calls_step_self]
    exact (h _).act move.2
  · rw [calls_step_of_ne s jobs x hi]
    exact h i

theorem sound_run (h : ∀ i, (x.calls i).Sound s (jobs i)) (schedule : List (ι × Action)) :
    ∀ i, ((x.run s jobs schedule).calls i).Sound s (jobs i) :=
  x.run_induction s jobs schedule h fun y hy move _ => y.sound_step s jobs hy move

theorem rest_step {move : ι × Action} {i : ι} (h : (x.calls i).Sound s (jobs i))
    (hown : move.1 = i → move.2.isOwn = true) (htoken : (x.calls i).token = (jobs i).cancelled) :
    ((x.step s jobs move).calls i).token = (jobs i).cancelled ∧
      s.rest (jobs i) ((x.step s jobs move).calls i).stage =
        s.rest (jobs i) (x.calls i).stage := by
  by_cases hi : i = move.1
  · subst hi
    rw [calls_step_self]
    exact h.rest_act htoken (hown rfl)
  · rw [calls_step_of_ne s jobs x hi]
    exact ⟨htoken, rfl⟩

/-- A call that is left alone keeps to its answer, whatever happens to the others. -/
theorem rest_run {schedule : List (ι × Action)} {i : ι}
    (h : ∀ i, (x.calls i).Sound s (jobs i)) (htoken : (x.calls i).token = (jobs i).cancelled)
    (hown : ∀ move ∈ schedule, move.1 = i → move.2.isOwn = true) :
    s.rest (jobs i) ((x.run s jobs schedule).calls i).stage =
      s.rest (jobs i) (x.calls i).stage := by
  have hkept := x.run_induction s jobs schedule
    (P := fun y => (∀ j, (y.calls j).Sound s (jobs j)) ∧
      (y.calls i).token = (jobs i).cancelled ∧
        s.rest (jobs i) (y.calls i).stage = s.rest (jobs i) (x.calls i).stage)
    ⟨h, htoken, rfl⟩ ?_
  · exact hkept.2.2
  · rintro y ⟨hsound, htoken, hrest⟩ move hmove
    obtain ⟨htoken', hrest'⟩ := y.rest_step s jobs (hsound i) (hown move hmove) htoken
    exact ⟨y.sound_step s jobs hsound move, htoken', hrest'.trans hrest⟩

variable [Fintype ι]

theorem sum_step (f : Activity α σ → ℕ) (move : ι × Action) :
    ∑ i, f ((x.step s jobs move).calls i) + f (x.calls move.1) =
      ∑ i, f (x.calls i) + f ((x.calls move.1).act s (jobs move.1) move.2) := by
  have hothers : ∑ i ∈ Finset.univ.erase move.1, f ((x.step s jobs move).calls i) =
      ∑ i ∈ Finset.univ.erase move.1, f (x.calls i) := by
    apply Finset.sum_congr rfl
    intro i hi
    rw [calls_step_of_ne s jobs x (Finset.ne_of_mem_erase hi)]
  rw [← Finset.add_sum_erase _ _ (Finset.mem_univ move.1), hothers, calls_step_self,
    ← Finset.add_sum_erase _ (fun i => f (x.calls i)) (Finset.mem_univ move.1)]
  omega

/-- The metrics take over from the pending updates what they gain. -/
theorem Balanced.step {k : Counter} {x : Session ι α σ} (h : x.Balanced k) (move : ι × Action) :
    (x.step s jobs move).Balanced k := by
  have hlocal := (x.calls move.1).total_act k s (jobs move.1) move.2
  have hpending := sum_step s jobs x (fun a => k.total a.pending) move
  have hupdates := sum_step s jobs x (fun a => k.total a.updates) move
  have hsum : k.total ((x.calls move.1).settles move.2) +
        ∑ i, k.total ((x.step s jobs move).calls i).pending + ∑ i, k.total (x.calls i).updates =
      ∑ i, k.total (x.calls i).pending + ∑ i, k.total ((x.step s jobs move).calls i).updates := by
    omega
  -- the sums are natural numbers, the count is a word
  have hword := congrArg UInt64.ofNat hsum
  simp only [UInt64.ofNat_add] at hword
  have hcount : k.value (x.step s jobs move).metrics = k.value x.metrics +
      .ofNat (k.total ((x.calls move.1).settles move.2)) :=
    k.value_foldl ..
  rw [Balanced] at h ⊢
  grind

theorem Balanced.run {k : Counter} {x : Session ι α σ} (h : x.Balanced k)
    (schedule : List (ι × Action)) : (x.run s jobs schedule).Balanced k :=
  x.run_induction s jobs schedule h fun _ hy move _ => hy.step s jobs move

/-- Once all calls are done, each is counted once, by how it ended; counts are words. The reader is
asked at most once for a call, and not for one that is refused. A call that nobody interferes with
ends as the service answers it. -/
theorem run_counts (schedule : List (ι × Action)) {x : Session ι α σ}
    (hx : (start jobs).run s jobs schedule = x) (hdone : ∀ i, (x.calls i).isDone = true) :
    x.metrics.requests = .ofNat (Fintype.card ι) ∧
      x.metrics.invalid = .ofNat
        (Finset.card {i | (x.calls i).failedWith .invalidParameterValue}) ∧
      x.metrics.failed = .ofNat (Finset.card {i | (x.calls i).failedWith .noApplicableCode}) ∧
      x.metrics.pipelineTimes.count = .ofNat (Finset.card {i | (x.calls i).succeeded}) ∧
      x.metrics.requests =
        x.metrics.invalid + x.metrics.failed + x.metrics.pipelineTimes.count ∧
      x.metrics.reads = .ofNat (Finset.card {i | (x.calls i).received.isSome}) ∧
      ∀ i, (x.calls i).asked ≤ 1 ∧
        (∀ raw, (x.calls i).received = some raw →
          (x.calls i).asked = 1 ∧ (jobs i).outcome = .raster raw) ∧
        (∀ e, s.validate (jobs i).request = .error e →
          (x.calls i).asked = 0 ∧ (x.calls i).answer? = some (.error e)) ∧
        (∀ v, s.validate (jobs i).request = .ok v → (jobs i).cancelled = true →
          (x.calls i).asked = 0 ∧ (x.calls i).answer? = some (.error .cancelled)) ∧
        ((∀ move ∈ schedule, move.1 = i → move.2.isOwn = true) →
          ∃ call, (s.answering (jobs i)).call (jobs i).request (jobs i).cancelled = call ∧
            (x.calls i).stage = .answered call ∧
            (x.calls i).received.isSome = call.progress.hasRead) := by
  have hsound : ∀ i, (x.calls i).Sound s (jobs i) := by
    intro i
    rw [← hx]
    exact sound_run s jobs _ (fun i => .start s (jobs i)) schedule i
  have hbalanced : ∀ k, x.Balanced k := by
    intro k
    rw [← hx]
    exact (balanced_start k jobs).run s jobs schedule
  have hpending : ∀ i, (x.calls i).pending = [] := by
    intro i
    obtain ⟨-, -, -, h, -⟩ := (hsound i).exists_answer (hdone i)
    exact h
  have hrequests := (hbalanced .requests).value_eq hpending (p := fun _ => true)
    fun i => (hsound i).total_requests (hdone i)
  have hfailures := fun code => (hbalanced (.failures code)).value_eq hpending
    fun i => (hsound i).total_failures (hdone i) code
  have hpipelines := (hbalanced .pipelines).value_eq hpending
    fun i => (hsound i).total_pipelines (hdone i)
  have hreads := (hbalanced .reads).value_eq hpending (p := fun a => a.received.isSome)
    fun i => (hsound i).total_reads (hdone i)
  have hall : x.metrics.requests = .ofNat (Fintype.card ι) := by
    simpa [Counter.requests] using hrequests
  have hinvalid := hfailures .invalidParameterValue
  have hfailed := hfailures .noApplicableCode
  refine ⟨hall, hinvalid, hfailed, hpipelines, ?_, hreads, ?_⟩
  · simp only [Counter.failures, Counter.pipelines] at hinvalid hfailed hpipelines
    rw [hall, hinvalid, hfailed, hpipelines, x.card_eq hdone, UInt64.ofNat_add, UInt64.ofNat_add]
  · intro i
    refine ⟨(hsound i).asked_le, fun raw => (hsound i).of_received, ?_, ?_, ?_⟩
    · intro e he
      exact (hsound i).of_refusal? (hdone i) (by rw [Service.refusal?, he])
    · intro v hv hc
      exact (hsound i).of_refusal? (hdone i) (by simp [Service.refusal?, hv, hc])
    · intro hown
      obtain ⟨call, -, hstage, -, -⟩ := (hsound i).exists_answer (hdone i)
      have hrest := rest_run s jobs (start jobs) (fun i => .start s (jobs i)) rfl hown
      rw [hx, hstage] at hrest
      exact ⟨call, hrest.symm, hstage, by rw [(hsound i).received_isSome, hstage, Stage.progress]⟩

end Steps

section Small

open scoped Geographic

def fullRead : ReadOutcome Exact Float32 :=
  .raster (CoverageDescriptor.smallRaster [Service.constantBand])

def fiveJobs : Fin 5 → Job Exact Float32
  | 0 => ⟨Service.unalignedRequest, false, fullRead⟩
  | 1 => ⟨Service.unalignedRequest, true, fullRead⟩
  | 2 => ⟨{ Service.unalignedRequest with coverageId := "nowhere" }, false, .timedOut⟩
  | 3 => ⟨Service.unalignedRequest, false, .timedOut⟩
  | 4 => ⟨Service.unalignedRequest, false, fullRead⟩

def lap : List (Fin 5 × Action) :=
  (List.finRange 5).map (·, .advance 1) ++
    (List.replicate 3 ((List.finRange 5).map (·, .settle))).flatten

def fiveLaps : List (Fin 5 × Action) :=
  lap ++ lap ++ [(4, .cancel)] ++ (List.replicate 4 lap).flatten

def fiveCalls : Session (Fin 5) Exact Float32 :=
  (start fiveJobs).run Service.smallService fiveJobs fiveLaps

theorem run_counts_fiveCalls :
    (∀ i, (fiveCalls.calls i).isDone = true) ∧ fiveCalls.metrics.requests = 5 ∧
      fiveCalls.metrics.invalid = 1 ∧ fiveCalls.metrics.failed = 3 ∧
      fiveCalls.metrics.pipelineTimes.count = 1 ∧ fiveCalls.metrics.reads = 2 := by
  have hdone : ∀ i, (fiveCalls.calls i).isDone = true := by decide +kernel
  obtain ⟨hrequests, hinvalid, hfailed, hpipelines, -, hreads, -⟩ :=
    run_counts Service.smallService fiveJobs fiveLaps rfl hdone
  refine ⟨hdone, hrequests, hinvalid.trans ?_, hfailed.trans ?_, hpipelines.trans ?_,
    hreads.trans ?_⟩
  all_goals decide +kernel

end Small

end Session

end GeoRaster
