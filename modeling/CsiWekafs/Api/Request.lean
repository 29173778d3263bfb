import CsiWekafs.Env

namespace CsiWekafs

open Prog

/-- The error of a reply's HTTP status. None for the statuses that count as success. -/
def statusError (status : Nat) (message : Str) : Option (ApiErrorKind × Str) :=
  if status = 200 ∨ status = 201 ∨ status = 202 ∨ status = 204 then none
  else if status = 400 then some (.badRequest, "Operation failed")
  else if status = 401 then some (.authorization, "Operation failed")
  else if status = 403 then some (.forbidden, "Permission denied")
  else if status = 404 then some (.notFound, "Object not found")
  else if status = 409 then some (.conflict, "Object conflict")
  else if status = 500 then some (.internal, message)
  else if status = 503 then some (.notAvailable, message)
  else some (.general, "General failure during API command")

/-- One exchange: the reply's error codes and data, or an error. -/
def doRequest {α : Type} : HttpOutcome α → Except Err (List Str × α)
  | .transport text => .error (.api .transport text 0 [])
  | .unreadable status text =>
    .error (.api .unreadable ("Failed to parse response: " ++ text) status [])
  | .malformed status => .error (.api .general "Failed to parse HTTP response body" status [])
  | .reply status errorCodes message data =>
    match statusError status message with
    | none => .ok (errorCodes, data)
    | some (kind, text) => .error (.api kind text status errorCodes)

/-- The errors after which the request is sent again, to another endpoint. -/
def isTransient : Err → Bool
  | .api .transport _ _ _ => true
  | .api .notAvailable _ _ _ => true
  | _ => false

/-- A reply with error codes counts as success but leaves the caller's object as it was. -/
def attempt {α : Type} (o : HttpOutcome α) : Except Err (Option α) :=
  match doRequest o with
  | .error e => .error e
  | .ok (errorCodes, data) => .ok (if errorCodes ≠ [] then none else some data)

def apiRetryMaxCount : Nat := 5

/-- What a request ends with when this is the last answer it gets. -/
def answer {α : Type} (o : HttpOutcome α) : Except Err (Option α) :=
  match attempt o with
  | .ok data => .ok data
  | .error e =>
    if isTransient e then
      .error (.api .retriesExceeded "Failed to perform operation after 1 retries" 0 [])
    else .error e

def transientOutcome {α : Type} (o : HttpOutcome α) : Bool :=
  match attempt o with
  | .ok _ => false
  | .error e => isTransient e

/-- Sends a request again after a transient error, so many times. -/
def retryBackoff (r : Request) : Nat → M (Except Err (Option r.Resp))
  | 0 => do return answer (← ask (.http r))
  | n + 1 => do
    let o ← ask (.http r)
    if transientOutcome o then retryBackoff r n else return answer o

/-- A request by a client that first makes sure that it is logged in. -/
def request (r : Request) : M (Except Err (Option r.Resp)) := do
  match ← ask (.init r) with
  | .error e => return .error e.err
  | .ok () => retryBackoff r (apiRetryMaxCount - 1)

/-- The attempts at a request before the last one fail for the moment only. -/
def Retried (r : Request) (pre : List Event) : Prop :=
  ∀ e ∈ pre, ∃ o, e = ⟨.http r, o⟩ ∧ transientOutcome o = true

theorem runs_retryBackoff {r : Request} {n : Nat} {t : List Event}
    {a : Except Err (Option r.Resp)} (h : Runs (retryBackoff r n) t a) :
    ∃ pre o, t = pre ++ [⟨.http r, o⟩] ∧ Retried r pre ∧ a = answer o := by
  induction n generalizing t with
  | zero =>
    simp only [retryBackoff, ask, runs_bind, runs_op, runs_pure] at h
    obtain ⟨o, t₁, t₂, rfl, ⟨rfl, rfl⟩, rfl⟩ := h
    exact ⟨[], o, rfl, by simp [Retried], rfl⟩
  | succ n ih =>
    simp only [retryBackoff, ask, runs_bind, runs_op] at h
    obtain ⟨o, t₁, t₂, rfl, h₂, rfl⟩ := h
    split at h₂
    next ho =>
      obtain ⟨pre, o', rfl, hpre, ha⟩ := ih h₂
      refine ⟨⟨.http r, o⟩ :: pre, o', rfl, ?_, ha⟩
      intro e he
      rcases List.mem_cons.mp he with rfl | he
      · exact ⟨o, rfl, ho⟩
      · exact hpre e he
    next =>
      obtain ⟨rfl, rfl⟩ := runs_pure.mp h₂
      exact ⟨[], o, rfl, by simp [Retried], rfl⟩

theorem runs_request {r : Request} {t : List Event} {a : Except Err (Option r.Resp)}
    (h : Runs (request r) t a) :
    (∃ e, t = [⟨.init r, .error e⟩] ∧ a = .error e.err) ∨
      ∃ pre o, t = ⟨.init r, .ok ()⟩ :: (pre ++ [⟨.http r, o⟩]) ∧ Retried r pre ∧
        a = answer o := by
  simp only [request, ask, runs_bind, runs_op] at h
  obtain ⟨x, t₁, t₂, rfl, h₂, rfl⟩ := h
  cases x with
  | error e =>
    obtain ⟨rfl, rfl⟩ := runs_pure.mp h₂
    exact Or.inl ⟨e, rfl, rfl⟩
  | ok u =>
    obtain ⟨pre, o, rfl, hpre, ha⟩ := runs_retryBackoff h₂
    exact Or.inr ⟨pre, o, rfl, hpre, ha⟩

theorem attempt_error {α : Type} {o : HttpOutcome α} {e : Err} (h : attempt o = .error e) :
    ∃ kind text status errorCodes, e = .api kind text status errorCodes := by
  cases o with
  | reply status errorCodes message data =>
    simp only [attempt, doRequest] at h
    cases hs : statusError status message <;> simp [hs] at h
    exact ⟨_, _, _, _, h.symm⟩
  | _ =>
    cases h
    exact ⟨_, _, _, _, rfl⟩

theorem answer_error {α : Type} {o : HttpOutcome α} {e : Err} (h : answer o = .error e) :
    ∃ kind text status errorCodes, e = .api kind text status errorCodes := by
  unfold answer at h
  split at h
  next => cases h
  next he =>
    split at h <;> cases h
    · exact ⟨_, _, _, _, rfl⟩
    · exact attempt_error he

theorem answer_of_transient {α : Type} {o : HttpOutcome α} (h : transientOutcome o = true) :
    answer o = .error (.api .retriesExceeded "Failed to perform operation after 1 retries" 0 []) := by
  unfold transientOutcome at h
  unfold answer
  cases ha : attempt o with
  | ok data => simp [ha] at h
  | error e => simp_all

/-- A request that is answered with success at once. -/
def Request.replied (r : Request) (data : r.Resp) : List Event :=
  [⟨.init r, .ok ()⟩, ⟨.http r, .reply 200 [] [] data⟩]

/-- A request that is answered with a success status and error codes. -/
def Request.coded (r : Request) (data : r.Resp) : List Event :=
  [⟨.init r, .ok ()⟩, ⟨.http r, .reply 200 ["GeneralException".toList] [] data⟩]

theorem mem_replied {r : Request} {data : r.Resp} {e : Event} :
    e ∈ r.replied data ↔ e = ⟨.init r, .ok ()⟩ ∨ e = ⟨.http r, .reply 200 [] [] data⟩ := by
  simp [Request.replied]

theorem err_ne_objectNotFound (e : LoginError) : e.err ≠ .objectNotFound := by
  cases e <;> exact fun h => by cases h

theorem answer_ne_objectNotFound {α : Type} (o : HttpOutcome α) :
    answer o ≠ .error .objectNotFound := by
  intro h
  obtain ⟨kind, text, status, errorCodes, he⟩ := answer_error h
  cases he

theorem safe_request {r : Request} {A P : Event → Prop} {Q : Except Err (Option r.Resp) → Prop}
    (hi : ∀ x, P ⟨.init r, x⟩) (he : ∀ e : LoginError, Q (.error e.err))
    (hr : ∀ o, A ⟨.http r, o⟩ → P ⟨.http r, o⟩ ∧ Q (answer o)) :
    (request r).Safe A P Q := by
  have hb : ∀ n, (retryBackoff r n).Safe A P Q := by
    intro n
    induction n with
    | zero =>
      refine Safe.bind (safe_op fun o ho => hr o ho) ?_
      intro o hq
      exact safe_pure hq
    | succ n ih =>
      refine Safe.bind (safe_op fun o ho => hr o ho) ?_
      intro o hq
      split
      · exact ih
      · exact safe_pure hq
  refine Safe.bind (R := fun _ => True) (safe_op fun x _ => ⟨hi x, trivial⟩) ?_
  intro x _
  cases x with
  | error e => exact safe_pure (he e)
  | ok u => exact hb _

/-- The request that a call serves: the exchange itself, or the login before it. -/
def Op.request : Op → Option Request
  | .init r => some r
  | .http r => some r
  | _ => none

/-- Every request that a program sends, or logs in for, meets `K`. -/
def Sends {α : Type} (K : Request → Prop) (p : M α) : Prop :=
  p.Safe (fun _ => True) (fun e => ∀ r, e.1.request = some r → K r) (fun _ => True)

theorem sends_request {K : Request → Prop} {r : Request} (h : K r) : Sends K (request r) := by
  apply safe_request
  · rintro x r' ⟨⟩
    exact h
  · intro e
    trivial
  · intro o _
    refine ⟨?_, trivial⟩
    rintro r' ⟨⟩
    exact h

theorem sends_pure {α : Type} {K : Request → Prop} {a : α} : Sends K (pure a) := safe_pure trivial

theorem Sends.bind {α β : Type} {K : Request → Prop} {p : M α} {f : α → M β} (hp : Sends K p)
    (hf : ∀ a, Sends K (f a)) : Sends K (p >>= f) :=
  Safe.bind hp fun a _ => hf a

theorem Sends.mono {α : Type} {K K' : Request → Prop} {p : M α} (h : Sends K p)
    (hK : ∀ r, K r → K' r) : Sends K' p :=
  Safe.mono h (fun _ he => he) (fun _ he r heq => hK r (he r heq)) (fun _ _ => trivial)

theorem sends_die {α : Type} {K : Request → Prop} {text : Str} : Sends K (die text : M α) :=
  fun r _ => r.elim

theorem sends_ask {K : Request → Prop} {o : Op} (h : o.request = none) : Sends K (ask o) := by
  refine safe_op ?_
  intro x _
  refine ⟨?_, trivial⟩
  intro r hr
  simp [h] at hr

theorem Sends.safe {α : Type} {K : Request → Prop} {A P : Event → Prop} {p : M α} (h : Sends K p)
    (hP : ∀ e, (∀ r o, e = ⟨.http r, o⟩ → K r) → P e) : p.Safe A P (fun _ => True) := by
  refine Safe.mono h (fun _ _ => trivial) ?_ (fun _ _ => trivial)
  intro e he
  refine hP e ?_
  rintro r o rfl
  exact he r rfl

theorem Sends.of_runs {α : Type} {K : Request → Prop} {p : M α} {t : List Event} {a : α}
    (h : Sends K p) (hr : Runs p t a) : ∀ e ∈ t, ∀ r, e.1.request = some r → K r :=
  (Safe.of_runs h hr fun _ _ => trivial).1

end CsiWekafs
