import GeoRaster.Proofs.DeliveredShape
import GeoRaster.Proofs.NearestAnswer
import GeoRaster.Service.Session

namespace GeoRaster

def Progress.events (p : Progress) (t : CallTimes) : List Metrics.Event :=
  (if p.hasRead then [.read t.read] else []) ++
    if p = .resampled then [.pipeline t.pipeline] else []

namespace Stage

variable {α σ : Type}

def history (t : CallTimes) : Stage α σ → List Metrics.Event
  | .answered call => call.events t
  | stage => stage.progress.events t

def Sized : Stage α σ → Prop
  | .scaled q r | .resampled q r =>
    r.width = q.targetGrid.width ∧ r.height = q.targetGrid.height
  | _ => True

theorem progress_of_isProcessing {stage : Stage α σ} (h : stage.isProcessing = true) :
    stage.progress = .read := by
  cases stage <;> first | rfl | exact absurd h Bool.false_ne_true

theorem history_of_isProcessing {stage : Stage α σ} (h : stage.isProcessing = true)
    (t : CallTimes) : stage.history t = Progress.read.events t := by
  cases stage <;> first | rfl | exact absurd h Bool.false_ne_true

end Stage

namespace Service

variable {α σ : Type} [Scalar α] [Atlas α] (s : Service α σ) (job : Job α σ)

/-- The exception that a call ends in before the reader could be asked. -/
def refusal? : Option (Exception α) :=
  match s.validate job.request with
  | .error e => some e
  | .ok _ => if job.cancelled then some .cancelled else none

/-- The stages that a call can go to from its own. With the token cancelled in between it can end
anywhere before the raster is resampled. -/
inductive Leads (token : Bool) : Stage α σ → Stage α σ → Prop
  | reject {e : Exception α} (h : s.validate job.request = .error e) :
    Leads token .waiting (.answered ⟨.error e, .refused⟩)
  | drop {v : CoverageDescriptor α × Query α} (h : s.validate job.request = .ok v)
    (htoken : token = true) : Leads token .waiting (.answered ⟨.error .cancelled, .refused⟩)
  | ask {v : CoverageDescriptor α × Query α} (h : s.validate job.request = .ok v)
    (htoken : token = false) : Leads token .waiting (.reading v.2)
  | receive {q : Query α} {raw : Raster α σ} (h : job.outcome = .raster raw) :
    Leads token (.reading q) (.read q raw)
  | unread {q : Query α} (e : Exception α) :
    Leads token (.reading q) (.answered ⟨.error e, .asked⟩)
  | crop {q : Query α} {raw r : Raster α σ} {extent : Envelope α} :
    Leads token (.read q raw) (.cropped q r extent)
  | scale {q : Query α} {r r' : Raster α σ} {extent : Envelope α}
    (h : (Stage.scaled q r').Sized) : Leads token (.cropped q r extent) (.scaled q r')
  | reproject {q : Query α} {r r' : Raster α σ} (h : (Stage.resampled q r').Sized) :
    Leads token (.scaled q r) (.resampled q r')
  | fail {stage : Stage α σ} (h : stage.isProcessing = true) (e : Exception α) :
    Leads token stage (.answered ⟨.error e, .read⟩)
  | deliver {q : Query α} {r : Raster α σ} (a : CoverageResult α σ) :
    Leads token (.resampled q r) (.answered ⟨.ok a, .resampled⟩)

variable {s job} {token : Bool} {stage stage' : Stage α σ}

namespace Leads

theorem asks_eq (h : Leads s job token stage stage') :
    (if stage.progress.asksReader then 1 else 0) + stage'.asks =
      if stage'.progress.asksReader then 1 else 0 := by
  cases h with
  | fail h e => rw [Stage.progress_of_isProcessing h]; rfl
  | _ => rfl

theorem returned_eq (h : Leads s job token stage stage') :
    (stage.progress.hasRead || stage'.returned.isSome) = stage'.progress.hasRead := by
  cases h with
  | fail h e => rw [Stage.progress_of_isProcessing h]; rfl
  | _ => rfl

theorem outcome_eq (h : Leads s job token stage stage') {raw : Raster α σ}
    (hraw : stage'.returned = some raw) : job.outcome = .raster raw := by
  cases h with
  | receive h =>
    obtain rfl := Option.some.inj hraw
    exact h
  | _ => exact absurd hraw (by simp [Stage.returned])

theorem history_eq (h : Leads s job token stage stage') (t : CallTimes) (duration : UInt64) :
    ∃ t', stage.history t ++ stage'.events duration = stage'.history t' := by
  cases h with
  | receive h => exact ⟨{ t with read := duration }, rfl⟩
  | reproject h => exact ⟨{ t with pipeline := duration }, rfl⟩
  | fail h e =>
    rw [Stage.history_of_isProcessing h]
    exact ⟨{ t with request := duration }, rfl⟩
  | ask h htoken | crop | scale h => exact ⟨t, rfl⟩
  | _ => exact ⟨{ t with request := duration }, rfl⟩

theorem sized (h : Leads s job token stage stage') : stage'.Sized := by
  cases h with
  | scale h | reproject h => exact h
  | _ => trivial

end Leads

/-- What is known in a stage: a call that is refused comes nowhere near the reader, and one whose
raster is resampled succeeds. -/
def Reached (s : Service α σ) (job : Job α σ) : Stage α σ → Prop
  | .waiting => True
  | .answered call => (∀ e, s.refusal? job = some e → call = ⟨.error e, .refused⟩) ∧
      (call.progress = .resampled ↔ ∃ a, call.outcome = .ok a)
  | _ => s.refusal? job = none

theorem refusal?_of_ok {v : CoverageDescriptor α × Query α}
    (h : s.validate job.request = .ok v) :
    s.refusal? job = if job.cancelled then some .cancelled else none := by
  rw [refusal?, h]

theorem not_cancelled_of_refusal? (h : s.refusal? job = none) : job.cancelled = false := by
  rw [refusal?] at h
  split at h
  · exact absurd h (by simp)
  · simpa using h

/-- Beyond a refusal, a call may end in any way in which only what is resampled succeeds. -/
theorem reached_answer (hr : s.refusal? job = none) {call : Call α σ}
    (hcall : call.progress = .resampled ↔ ∃ a, call.outcome = .ok a) :
    s.Reached job (.answered call) :=
  ⟨fun _ he => absurd (hr.symm.trans he) (by simp), hcall⟩

theorem Leads.reached (h : Leads s job token stage stage') (hr : s.Reached job stage)
    (htoken : job.cancelled = true → token = true) : s.Reached job stage' := by
  cases h with
  | reject h =>
    refine ⟨?_, by simp⟩
    intro e he
    rw [refusal?, h] at he
    rw [Option.some.inj he]
  | drop h ht =>
    refine ⟨?_, by simp⟩
    intro e he
    rw [refusal?_of_ok h] at he
    split at he
    · rw [Option.some.inj he]
    · exact absurd he (by simp)
  | ask h ht =>
    have hfree : job.cancelled ≠ true := fun hc =>
      absurd (htoken hc) (ht ▸ Bool.false_ne_true)
    exact (refusal?_of_ok h).trans (if_neg hfree)
  | receive | crop | scale | reproject => exact hr
  | unread e => exact reached_answer hr (by simp)
  | fail hp e =>
    have hnone : s.refusal? job = none := by
      cases stage <;> first | exact hr | exact absurd hp Bool.false_ne_true
    exact reached_answer hnone (by simp)
  | deliver a => exact reached_answer hr (by simp)

variable [Scalar σ] [Narrowing α σ]

theorem leads_next (hs : stage.Sized) (ha : stage.isAnswered = false) :
    Leads s job token stage (s.next job token stage) := by
  cases stage with
  | waiting =>
    rw [next, work]
    cases hv : s.validate job.request with
    | error e => exact .reject hv
    | ok v =>
      cases token with
      | true => exact .drop hv rfl
      | false => exact .ask hv rfl
  | reading q =>
    rw [next, work]
    cases token with
    | true => exact .unread _
    | false =>
      cases ho : job.outcome with
      | timedOut => exact .unread _
      | fault f => exact .unread _
      | raster raw => exact .receive ho
  | read q raw =>
    rw [next, work]
    cases raw.prepare (planOf q) with
    | error e => exact .fail rfl e
    | ok crop =>
      cases token with
      | true => exact .fail rfl _
      | false => exact .crop
  | cropped q r extent =>
    rw [next, work]
    cases hscale : r.scale (Raster.plannedExtent q.targetGrid extent) q.targetGrid.width
        q.targetGrid.height q.interpolation with
    | error e => exact .fail rfl e
    | ok r' =>
      cases token with
      | true => exact .fail rfl _
      | false => exact .scale (Raster.scale_ok hscale)
  | scaled q r =>
    rw [next, work]
    cases hproject : r.reproject q.targetCrs q.interpolation with
    | error e => exact .fail rfl e
    | ok r' =>
      obtain ⟨hw, hh, -⟩ := Raster.reproject_ok hproject
      exact .reproject ⟨hw.trans hs.1, hh.trans hs.2⟩
  | resampled q r =>
    -- the last step that could fail: the raster would have to be without cells
    obtain ⟨g, hg⟩ := exists_gridOf (hs.1 ▸ q.targetGrid.width_pos)
      (hs.2 ▸ q.targetGrid.height_pos) q
    rw [next, work, hg]
    exact .deliver _
  | answered call => exact absurd ha (by simp [Stage.isAnswered])

def deliver (q : Query α) (x : Except (Exception α) (Raster α σ)) : Call α σ :=
  match x with
  | .error e => ⟨.error e, .read⟩
  | .ok r =>
    match gridOf q r with
    | .error e => ⟨.error e, .resampled⟩
    | .ok g => ⟨.ok ⟨r, g, q.targetCrs, q.format⟩, .resampled⟩

def answering (s : Service α σ) (job : Job α σ) : Service α σ :=
  { s with reader := fun _ _ => job.outcome }

/-- What a call comes to if nothing interferes from here on. -/
def rest (s : Service α σ) (job : Job α σ) : Stage α σ → Call α σ
  | .waiting => (s.answering job).call job.request job.cancelled
  | .reading q =>
    match job.outcome with
    | .timedOut => ⟨.error .timeout, .asked⟩
    | .fault f => ⟨.error (.ofReadFault f), .asked⟩
    | .raster raw => finish q raw
  | .read q raw => finish q raw
  | .cropped q r extent => deliver q do
    let r ← r.scale (Raster.plannedExtent q.targetGrid extent) q.targetGrid.width
      q.targetGrid.height q.interpolation
    r.reproject q.targetCrs q.interpolation
  | .scaled q r => deliver q (r.reproject q.targetCrs q.interpolation)
  | .resampled q r => deliver q (.ok r)
  | .answered call => call

theorem finish_eq (q : Query α) (raw : Raster α σ) :
    finish q raw = deliver q (raw.prepare (planOf q) >>= fun p => do
      let r ← p.1.scale (Raster.plannedExtent q.targetGrid p.2) q.targetGrid.width
        q.targetGrid.height q.interpolation
      r.reproject q.targetCrs q.interpolation) := by
  have hrun : finish q raw = deliver q (raw.run (planOf q)) := rfl
  rw [hrun, Raster.run, Raster.prepare]
  split
  · rfl
  · rw [bind_assoc]
    rfl

theorem rest_next (hr : s.Reached job stage) :
    s.rest job (s.next job job.cancelled stage) = s.rest job stage := by
  cases stage with
  | waiting =>
    cases hv : s.validate job.request with
    | error e =>
      have hsame : (s.answering job).validate job.request = .error e := hv
      rw [rest, call, hsame, next, work, hv]
      rfl
    | ok v =>
      have hsame : (s.answering job).validate job.request = .ok v := hv
      rw [rest, call, hsame, next, work, hv]
      cases job.cancelled <;> rfl
  | reading q =>
    rw [next, work, not_cancelled_of_refusal? hr]
    cases ho : job.outcome with
    | _ => simp only [rest, ho]; rfl
  | read q raw =>
    rw [next, work, not_cancelled_of_refusal? hr, rest, finish_eq]
    cases raw.prepare (planOf q) <;> rfl
  | cropped q r extent =>
    rw [next, work, not_cancelled_of_refusal? hr, rest]
    cases r.scale (Raster.plannedExtent q.targetGrid extent) q.targetGrid.width
      q.targetGrid.height q.interpolation <;> rfl
  | scaled q r =>
    rw [next, work, rest]
    cases r.reproject q.targetCrs q.interpolation <;> rfl
  | resampled q r =>
    rw [next, work, rest, deliver]
    cases gridOf q r <;> rfl
  | answered call => rfl

end Service

def Action.isOwn : Action → Bool
  | .settle | .advance _ => true
  | .cancel | .lose _ _ => false

namespace Activity

variable {α σ : Type} {a : Activity α σ}

theorem enterIf_cases (a : Activity α σ) (may : Bool) (stage : Stage α σ) (duration : UInt64) :
    a.enterIf may stage duration = a ∨
      may = true ∧ a.pending = [] ∧ a.enterIf may stage duration = a.enter stage duration := by
  rw [enterIf]
  split
  · rename_i h
    rw [Bool.and_eq_true, List.isEmpty_iff] at h
    exact .inr ⟨h.1, h.2, rfl⟩
  · exact .inl rfl

variable [Scalar α] [Atlas α] {s : Service α σ} {job : Job α σ}

structure Sound (s : Service α σ) (job : Job α σ) (a : Activity α σ) : Prop where
  asked_eq : a.asked = if a.stage.progress.asksReader then 1 else 0
  received_isSome : a.received.isSome = a.stage.progress.hasRead
  received_eq : ∀ raw, a.received = some raw → job.outcome = .raster raw
  reports_eq : ∃ t, a.reports = a.stage.history t
  token_of_cancelled : job.cancelled = true → a.token = true
  sized : a.stage.Sized
  reached : s.Reached job a.stage

namespace Sound

theorem start (s : Service α σ) (job : Job α σ) : (Activity.start job).Sound s job where
  asked_eq := rfl
  received_isSome := rfl
  received_eq _ h := absurd h (by simp [Activity.start])
  reports_eq := ⟨⟨0, 0, 0⟩, rfl⟩
  token_of_cancelled h := h
  sized := trivial
  reached := trivial

theorem enter (h : a.Sound s job) {stage : Stage α σ}
    (hleads : s.Leads job a.token a.stage stage) (duration : UInt64) :
    (a.enter stage duration).Sound s job where
  asked_eq := by
    rw [Activity.enter, h.asked_eq]
    exact hleads.asks_eq
  received_isSome := by
    rw [Activity.enter, ← hleads.returned_eq, ← h.received_isSome]
    exact Option.isSome_or
  received_eq raw hraw := by
    obtain hraw | ⟨-, hraw⟩ := Option.or_eq_some_iff.mp hraw
    · exact h.received_eq raw hraw
    · exact hleads.outcome_eq hraw
  reports_eq := by
    obtain ⟨t, ht⟩ := h.reports_eq
    obtain ⟨t', ht'⟩ := hleads.history_eq t duration
    exact ⟨t', by rw [Activity.enter, ht, ht']⟩
  token_of_cancelled := h.token_of_cancelled
  sized := hleads.sized
  reached := hleads.reached h.reached h.token_of_cancelled

theorem enterIf (h : a.Sound s job) {may : Bool} {stage : Stage α σ}
    (hleads : may = true → s.Leads job a.token a.stage stage) (duration : UInt64) :
    (a.enterIf may stage duration).Sound s job := by
  obtain heq | ⟨hmay, -, heq⟩ := a.enterIf_cases may stage duration
  · rw [heq]
    exact h
  · rw [heq]
    exact h.enter (hleads hmay) duration

theorem exists_answer (h : a.Sound s job) (hdone : a.isDone = true) :
    ∃ call t, a.stage = .answered call ∧ a.pending = [] ∧ a.reports = call.events t := by
  rw [isDone, Bool.and_eq_true, List.isEmpty_iff] at hdone
  obtain ⟨t, ht⟩ := h.reports_eq
  cases hstage : a.stage with
  | answered call => exact ⟨call, t, rfl, hdone.2, by rw [ht, hstage, Stage.history]⟩
  | _ =>
    rw [hstage] at hdone
    exact absurd hdone.1 Bool.false_ne_true

theorem succeeded_iff (h : a.Sound s job) {call : Call α σ} (hstage : a.stage = .answered call) :
    a.succeeded = true ↔ call.progress = .resampled := by
  have hreached := h.reached
  rw [hstage] at hreached
  rw [hreached.2, succeeded, answer?, hstage]
  obtain ⟨outcome, progress⟩ := call
  cases outcome <;> simp

theorem asked_le (h : a.Sound s job) : a.asked ≤ 1 := by
  rw [h.asked_eq]
  split <;> omega

theorem of_received (h : a.Sound s job) {raw : Raster α σ} (hraw : a.received = some raw) :
    a.asked = 1 ∧ job.outcome = .raster raw := by
  refine ⟨?_, h.received_eq raw hraw⟩
  have hread := h.received_isSome
  rw [hraw, Option.isSome_some] at hread
  rw [h.asked_eq]
  cases hp : a.stage.progress <;> simp [hp, Progress.hasRead] at hread <;> rfl

theorem of_refusal? (h : a.Sound s job) (hdone : a.isDone = true) {e : Exception α}
    (he : s.refusal? job = some e) : a.asked = 0 ∧ a.answer? = some (.error e) := by
  obtain ⟨call, t, hstage, -, -⟩ := h.exists_answer hdone
  have hreached := h.reached
  rw [hstage] at hreached
  obtain rfl := hreached.1 e he
  rw [h.asked_eq, answer?, hstage]
  exact ⟨rfl, rfl⟩

variable [Scalar σ] [Narrowing α σ]

theorem act (h : a.Sound s job) (action : Action) : (a.act s job action).Sound s job := by
  cases action with
  | cancel => exact { h with token_of_cancelled := fun _ => rfl }
  | settle => exact { h with }
  | advance duration =>
    apply h.enterIf
    intro hopen
    exact Service.leads_next h.sized (by simpa using hopen)
  | lose duration reason =>
    apply h.enterIf
    intro hprocessing
    exact .fail hprocessing _

/-- A call that goes on by itself stays on the way to the answer that the service gives it. -/
theorem rest_act (h : a.Sound s job) (htoken : a.token = job.cancelled) {action : Action}
    (hown : action.isOwn = true) : (a.act s job action).token = job.cancelled ∧
      s.rest job (a.act s job action).stage = s.rest job a.stage := by
  cases action with
  | settle => exact ⟨htoken, rfl⟩
  | advance duration =>
    rw [Activity.act]
    obtain heq | ⟨-, -, heq⟩ := a.enterIf_cases (!a.stage.isAnswered)
      (s.next job a.token a.stage) duration
    · rw [heq]
      exact ⟨htoken, rfl⟩
    · rw [heq]
      refine ⟨htoken, ?_⟩
      rw [Activity.enter, htoken]
      exact Service.rest_next h.reached
  | _ => exact absurd hown Bool.false_ne_true

end Sound

end Activity

end GeoRaster
