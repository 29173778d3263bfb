import CsiWekafs.Client.Replies

namespace CsiWekafs

open Prog

/-- A login is accepted with another token. -/
def AcceptsLogin (token : Str) : (c : ApiCall) → Exchange c.Resp → Prop
  | .login _ _ _, o => ∃ message data, o = .reply 200 [] message true data ∧
      LoginResponse.accessToken data ≠ token ∧ LoginResponse.accessToken data ≠ []
  | _, _ => True

/-- A cluster that answers 401 to a token and accepts a new login. -/
def Rejects (token : Str) : ClientEvent → Prop
  | ⟨.exchange _ c a, o⟩ =>
    if a = some token then ∃ errorCodes message decoded data,
      o = .reply 401 errorCodes message decoded data
    else AcceptsLogin token c o
  | _ => True

/-- The run starts while the client's token looks valid. -/
def Session.StartsValid (s : Session) (t : List ClientEvent) : Prop :=
  ∃ now u, t = ⟨.now s.clock, now⟩ :: u ∧ now.1 < s.apiTokenExpiryDate

/-- The call is sent with another token after a login or a refresh. -/
def Session.Resends (s : Session) (c : ApiCall) (t : List ClientEvent) : Prop :=
  ∃ before e token o after, t = before ++ ⟨.exchange e c (some token), o⟩ :: after ∧
    token ≠ s.apiToken ∧ ∃ x ∈ before.filterMap replyOf, x.1.issuesToken = true

section

variable {s s' : Session} {c : ApiCall} {t : List ClientEvent} {e : ApiEndPoint}

theorem runs_timeNow (s : Session) {now : ℤ} (h : s.clock ≤ now) :
    Runs s.timeNow [⟨.now s.clock, ⟨now, h⟩⟩] (now, { s with clock := now }) :=
  .call _ (.ret _)

theorem runs_chooseEndpoint : Runs s.chooseEndpoint t s' ↔
    (s.endpoints.currentEndpoint ≠ [] ∧ t = [] ∧ s' = s) ∨
      (s.endpoints.currentEndpoint = [] ∧ ∃ (now : ℤ) (h : s.clock ≤ now) (pick : Nat),
        t = [⟨.now s.clock, ⟨now, h⟩⟩, ⟨.choose, pick⟩] ∧
        s' = { s with clock := now, endpoints := s.endpoints.rotateEndpoint now pick }) := by
  unfold Session.chooseEndpoint
  rw [runs_ite, or_comm, runs_pure]
  refine or_congr Iff.rfl (and_congr_right fun _ => ?_)
  constructor
  · intro h
    obtain ⟨⟨now, hnow⟩, u, rfl, hu⟩ := runs_call.mp h
    obtain ⟨pick, v, rfl, hv⟩ := runs_call.mp hu
    cases hv
    exact ⟨now, hnow, pick, rfl, rfl⟩
  · rintro ⟨now, hnow, pick, rfl, rfl⟩
    exact .call _ (.call _ (.ret _))

theorem runs_getEndpoint : Runs s.getEndpoint t (e, s') ↔ Runs s.chooseEndpoint t s' ∧
    s'.endpoints.actualApiEndpoints.lookup s'.endpoints.currentEndpoint = some e := by
  unfold Session.getEndpoint
  rw [runs_bind]
  constructor
  · rintro ⟨s₁, t₁, t₂, h₁, h₂, rfl⟩
    split at h₂
    next hl =>
      cases h₂
      exact ⟨by simpa using h₁, hl⟩
    next =>
      obtain ⟨r, -⟩ := runs_call.mp h₂
      exact r.elim
  · rintro ⟨h, hl⟩
    refine ⟨s', t, [], h, ?_, (List.append_nil t).symm⟩
    rw [hl]
    exact .ret _

theorem exists_run_getEndpoint {now : ℤ} {pick : Nat} (hnow : s.clock ≤ now)
    (h : (s.endpoints.getEndpoint now pick).2 = some e) :
    ∃ t s', Runs s.getEndpoint t (e, s') ∧ s'.apiToken = s.apiToken ∧
      ∀ x ∈ t, replyOf x = none := by
  by_cases hc : s.endpoints.currentEndpoint = []
  · rw [Endpoints.getEndpoint, if_pos hc] at h
    exact ⟨_, _, runs_getEndpoint.mpr ⟨runs_chooseEndpoint.mpr (.inr ⟨hc, now, hnow, pick, rfl, rfl⟩), h⟩,
      rfl, by simp [replyOf]⟩
  · rw [Endpoints.getEndpoint, if_neg hc] at h
    exact ⟨[], s, runs_getEndpoint.mpr ⟨runs_chooseEndpoint.mpr (.inl ⟨hc, rfl, rfl⟩), h⟩, rfl, by simp⟩

theorem endpoint_of_runs_getEndpoint (h : Runs s.getEndpoint t (e, s')) :
    ∃ now pick, s.clock ≤ now ∧ (s.endpoints.getEndpoint now pick).2 = some e := by
  obtain ⟨h, hl⟩ := runs_getEndpoint.mp h
  obtain ⟨hc, -, rfl⟩ | ⟨hc, now, hnow, pick, -, rfl⟩ := runs_chooseEndpoint.mp h
  · refine ⟨s'.clock, 0, le_rfl, ?_⟩
    rw [Endpoints.getEndpoint, if_neg hc]
    exact hl
  · refine ⟨now, pick, hnow, ?_⟩
    rw [Endpoints.getEndpoint, if_pos hc]
    exact hl

theorem exists_run_isLoggedIn (s : Session) :
    ∃ t b s', Runs s.isLoggedIn t (b, s') ∧ s'.apiToken = s.apiToken ∧
      ∀ x ∈ t, replyOf x = none := by
  unfold Session.isLoggedIn
  split
  next => exact ⟨[], _, s, .ret _, rfl, by simp⟩
  next => exact ⟨_, _, _, .call ⟨s.clock, le_rfl⟩ (.ret _), rfl, by simp [replyOf]⟩

theorem exists_rejection (token : Str) (e : ApiEndPoint) (c : ApiCall) (a : Option Str) :
    ∃ o : Exchange c.Resp, Rejects token ⟨.exchange e c a, o⟩ ∧ transientOutcome o.outcome = false := by
  by_cases ha : a = some token
  · refine ⟨.reply 401 [] [] false c.zero, ?_, rfl⟩
    simp only [Rejects, if_pos ha]
    exact ⟨_, _, _, _, rfl⟩
  · cases c with
    | login username password org =>
      refine ⟨.reply 200 [] [] true (⟨'t' :: token, 0, []⟩ : LoginResponse), ?_, rfl⟩
      simp only [Rejects, if_neg ha]
      exact ⟨_, _, rfl, by simp, by simp⟩
    | _ =>
      refine ⟨.reply 401 [] [] false (ApiCall.zero _), ?_, rfl⟩
      simp only [Rejects, if_neg ha, AcceptsLogin]

theorem rejects_of_quiet {token : Str} {x : ClientEvent} (h : replyOf x = none) : Rejects token x := by
  obtain ⟨o, r⟩ := x
  cases o with
  | exchange e c a => cases h
  | _ => trivial

theorem runs_requestInit (now : {now : ℤ // s.clock ≤ now}) (h : now.1 < s.apiTokenExpiryDate)
    {x : Except Err c.Resp × Session} :
    Runs (s.requestInit c) (⟨.now s.clock, now⟩ :: t) x ↔
      Runs (Session.request { s with clock := now.1 } c) t x := by
  have hinit : Runs (s.initWith Session.login) [⟨.now s.clock, now⟩]
      (.ok (), { s with clock := now.1 }) := by
    refine runs_bind.mpr ⟨_, _, [], runs_timeNow s now.2, ?_, rfl⟩
    simp only [if_pos h]
    exact .ret _
  unfold Session.requestInit Session.requestWith
  rw [runs_bind]
  constructor
  · rintro ⟨y, t₁, t₂, h₁, h₂, ht⟩
    obtain ⟨rfl, rfl⟩ := hinit.unique h₁ ht
    obtain rfl : t = t₂ := (List.cons.inj ht).2
    exact h₂
  · exact fun h => ⟨_, _, t, hinit, h, rfl⟩

theorem exists_run_request (hne : s.credentials.endpoints ≠ []) {now : ℤ} {pick : Nat}
    (hnow : s.clock ≤ now) (h : (s.endpoints.getEndpoint now pick).2 = some e)
    (answers : (a : Option Str) → Exchange c.Resp)
    (ht : ∀ a, transientOutcome (answers a).outcome = false) :
    ∃ t a x, Runs (s.request c) (t ++ [⟨.exchange e c a, answers a⟩]) x ∧
      (a = none ∨ a = some s.apiToken) ∧ ∀ y ∈ t, replyOf y = none := by
  obtain ⟨t₁, s₁, h₁, htoken₁, hq₁⟩ := exists_run_getEndpoint hnow h
  obtain ⟨t₂, b, s₂, h₂, htoken₂, hq₂⟩ := exists_run_isLoggedIn s₁
  let a := if b then some s₂.apiToken else none
  have hlen : ¬ s.credentials.endpoints.length < 1 := by
    simpa [List.length_eq_zero_iff] using hne
  have hsend : Runs (s.send c) (t₁ ++ (t₂ ++ [⟨.exchange e c a, answers a⟩]))
      (some (answers a), s₂) := by
    rw [Session.send, if_neg hlen]
    refine runs_bind.mpr ⟨_, t₁, _, h₁, runs_bind.mpr ⟨_, t₂, _, h₂, ?_, rfl⟩, rfl⟩
    exact runs_bind.mpr ⟨answers a, _, [], runs_op.mpr rfl, .ret _, rfl⟩
  refine ⟨t₁ ++ t₂, a, (Session.requestResult (answers a), s₂), ?_, ?_, ?_⟩
  · rw [Session.request, Session.retryBackoff]
    refine runs_bind.mpr ⟨_, _, [], hsend, ?_, by simp⟩
    simp only [ht, Bool.false_eq_true, if_false]
    exact .ret _
  · cases b
    · exact .inl rfl
    · exact .inr (congrArg some (htoken₂.trans htoken₁))
  · intro y hy
    rcases List.mem_append.mp hy with hy | hy
    · exact hq₁ y hy
    · exact hq₂ y hy

theorem exists_run_of_request (hne : s.credentials.endpoints ≠ []) {x : Except Err c.Resp × Session}
    (h : Runs (s.request c) t x) : ∃ u e s', Runs s.getEndpoint u (e, s') := by
  have hlen : ¬ s.credentials.endpoints.length < 1 := by
    simpa [List.length_eq_zero_iff] using hne
  rw [Session.request, Session.retryBackoff] at h
  obtain ⟨_, t₁, _, hsend, _, _⟩ := runs_bind.mp h
  unfold Session.send at hsend
  rw [if_neg hlen] at hsend
  obtain ⟨⟨e, s'⟩, u, _, hu, _, _⟩ := runs_bind.mp hsend
  exact ⟨u, e, s', hu⟩

theorem not_resends (h : ∀ e a o, (⟨.exchange e c a, o⟩ : ClientEvent) ∈ t →
    a = none ∨ a = some s.apiToken) : ¬ s.Resends c t := by
  rintro ⟨before, e, token, o, after, rfl, htoken, -⟩
  rcases h e (some token) o (by simp) with ha | ha <;> cases ha
  exact htoken rfl

end

/-- A client whose token looks valid but is rejected logs in and sends the call again only where it
never gets as far as to send it. -/
theorem request_resends_iff (s : Session) (c : ApiCall) (hv : s.clock < s.apiTokenExpiryDate) :
    (∀ t x, Runs (s.requestInit c) t x → s.StartsValid t → (∀ y ∈ t, Rejects s.apiToken y) →
      s.Resends c t) ↔
    s.credentials.endpoints ≠ [] ∧
      ∀ now pick, s.clock ≤ now → (s.endpoints.getEndpoint now pick).2 = none := by
  constructor
  · intro h
    have hne : s.credentials.endpoints ≠ [] := by
      intro hnil
      have hrun : Runs (s.request c) [] (.error noEndpointsError, s) := by
        rw [Session.request, Session.retryBackoff, Session.send, hnil]
        exact .ret _
      refine not_resends ?_ (h _ _ ((runs_requestInit ⟨s.clock, le_rfl⟩ hv).mpr hrun)
        ⟨_, _, rfl, hv⟩ (by simp [Rejects]))
      intro e a o hy
      cases List.mem_singleton.mp hy
    refine ⟨hne, ?_⟩
    intro now pick hnow
    by_contra hsome
    obtain ⟨e, he⟩ := Option.ne_none_iff_exists'.mp hsome
    choose answers ha using exists_rejection s.apiToken e c
    obtain ⟨t, a, x, hrun, htoken, hq⟩ := exists_run_request hne hnow he answers fun a => (ha a).2
    have hq' : ∀ y ∈ (⟨.now s.clock, ⟨s.clock, le_rfl⟩⟩ : ClientEvent) :: t, replyOf y = none := by
      simpa [replyOf] using hq
    refine not_resends ?_ (h _ x ((runs_requestInit ⟨s.clock, le_rfl⟩ hv).mpr hrun)
      ⟨_, _, rfl, hv⟩ ?_)
    · intro e' a' o hy
      rw [← List.cons_append] at hy
      rcases List.mem_append.mp hy with hy | hy
      · cases hq' _ hy
      · cases List.mem_singleton.mp hy
        exact htoken
    · intro y hy
      rw [← List.cons_append] at hy
      rcases List.mem_append.mp hy with hy | hy
      · exact rejects_of_quiet (hq' y hy)
      · rw [List.mem_singleton.mp hy]
        exact (ha a).1
  · rintro ⟨hne, hnil⟩ t x hrun ⟨now, u, rfl, hnow⟩ -
    obtain ⟨u, e, s', hu⟩ := exists_run_of_request (s := { s with clock := now.1 }) hne
      ((runs_requestInit now hnow).mp hrun)
    obtain ⟨now', pick, hle, he⟩ := endpoint_of_runs_getEndpoint hu
    cases (hnil now' pick (now.2.trans hle)).symm.trans he

/-- A client that has no endpoint to send to. -/
def unreachableSession : Session :=
  { tokenSession with
    credentials := { tokenSession.credentials with endpoints := ["weka_1"] }
    endpoints := ⟨["weka_1"], ∅, []⟩ }

theorem request_resends_of_unreachable :
    unreachableSession.clock < unreachableSession.apiTokenExpiryDate ∧
      ∀ t x, Runs (unreachableSession.requestInit containersCall) t x →
        unreachableSession.StartsValid t → (∀ y ∈ t, Rejects unreachableSession.apiToken y) →
        unreachableSession.Resends containersCall t := by
  have hv : unreachableSession.clock < unreachableSession.apiTokenExpiryDate := by decide
  refine ⟨hv, (request_resends_iff unreachableSession containersCall hv).mpr ⟨by decide, ?_⟩⟩
  intro now pick _
  rfl

/-- The cluster rejects the first token and gives out another one. -/
def rejectingAnswers : Nat → (c : ApiCall) → Option Str → Exchange c.Resp
  | _, .login u p g, a =>
    if a = some "first" then .reply 401 [] [] false (ApiCall.login u p g).zero
    else .reply 200 [] [] true (⟨"second", 3600, "refresh"⟩ : LoginResponse)
  | _, c, _ => .reply 401 [] [] false c.zero

theorem rejects_rejectingAnswers (n : Nat) (e : ApiEndPoint) (c : ApiCall) (a : Option Str) :
    Rejects tokenSession.apiToken ⟨.exchange e c a, rejectingAnswers n c a⟩ := by
  simp only [Rejects]
  split
  next ha =>
    subst ha
    refine ⟨[], [], false, c.zero, ?_⟩
    cases c <;> rfl
  next ha =>
    cases c with
    | login username password org => exact ⟨[], _, if_neg ha, by decide, by decide⟩
    | _ => trivial

/-- A request goes out only with the given token. -/
def sentWith (token : Str) : ClientEvent → Bool
  | ⟨.exchange _ _ a, _⟩ => a = some token
  | _ => true

def endsUnauthorized {α : Type} : Except Err α → Bool
  | .error e => Session.isAuthorizationError e
  | .ok _ => false

theorem rejected_request_is_not_resent :
    ∃ t e s', Runs (tokenSession.requestInit containersCall) t (.error e, s') ∧
      tokenSession.StartsValid t ∧ (∀ y ∈ t, Rejects tokenSession.apiToken y) ∧
      Session.isAuthorizationError e = true ∧ ¬ tokenSession.Resends containersCall t := by
  obtain ⟨⟨t, r, s'⟩, hx, hr⟩ := (Option.any_eq_true _ _).mp
    (show (exec (clientEnv rejectingAnswers) 0 (tokenSession.requestInit containersCall)).any
      (fun x => endsUnauthorized x.2.1 && x.1.all (sentWith "first")) by decide +kernel)
  obtain ⟨hr, ht⟩ := Bool.and_eq_true_iff.mp hr
  have hrun := runs_of_exec hx
  have hans := answers_of_exec (A := fun y => Rejects tokenSession.apiToken y ∧
    ∀ last now, y = ⟨.now last, now⟩ → now.1 = last) ?_ hx
  · cases r with
    | ok data => cases hr
    | error e =>
      refine ⟨t, e, s', hrun, ?_, fun y hy => (hans y hy).1, hr, not_resends ?_⟩
      · obtain ⟨now, u, rfl, -⟩ := runs_call.mp hrun
        refine ⟨now, u, rfl, ?_⟩
        rw [(hans _ (by simp)).2 _ _ rfl]
        decide
      · intro e a o hy
        exact .inr (of_decide_eq_true (List.all_eq_true.mp ht _ hy))
  · intro n o r n' ho
    cases o with
    | now last =>
      cases ho
      exact ⟨trivial, by rintro _ _ ⟨⟩; rfl⟩
    | exchange e c a =>
      cases ho
      exact ⟨rejects_rejectingAnswers n e c a, by rintro _ _ ⟨⟩⟩
    | choose => exact ⟨trivial, by rintro _ _ ⟨⟩⟩
    | relock => cases ho
    | nilEndpoint => cases ho

end CsiWekafs
