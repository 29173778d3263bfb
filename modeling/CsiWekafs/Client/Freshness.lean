import CsiWekafs.Client.Relock
import CsiWekafs.Client.Unauthorized

namespace CsiWekafs

open Prog

/-- The data of a reply that reports success, without error codes, and was decoded. -/
def Exchange.granted {α : Type} : Exchange α → Option α
  | .reply status errorCodes _ decoded data =>
    if 200 ≤ status ∧ status < 300 ∧ errorCodes = [] ∧ decoded = true then some data else none
  | _ => none

/-- The access token that a successful login or refresh reply brings. -/
def grantedToken : ClientEvent → Option Str
  | ⟨.exchange _ (.login _ _ _) _, o⟩ =>
    (Exchange.granted (α := LoginResponse) o).map LoginResponse.accessToken
  | ⟨.exchange _ (.refresh _) _, o⟩ =>
    (Exchange.granted (α := RefreshResponse) o).map RefreshResponse.accessToken
  | _ => none

/-- The access token of the most recent successful login or refresh reply. -/
def latestToken (token : Str) (t : List ClientEvent) : Str :=
  t.foldl (fun token e => (grantedToken e).getD token) token

/-- For how long the client takes the token of a reply that it accepts to be valid. -/
def Session.validity (s : Session) : ClientEvent → Option ℤ
  | ⟨.exchange _ (.login u p g) _, o⟩ =>
    match Session.requestResult (c := .login u p g) o with
    | .ok data => some (Session.seconds (LoginResponse.expiresIn data - 30))
    | .error _ => none
  | ⟨.exchange _ (.refresh r) _, o⟩ =>
    match Session.requestResult (c := .refresh r) o with
    | .ok _ => some (Session.seconds (s.apiTokenExpiryInterval - 30))
    | .error _ => none
  | _ => none

/-- The failed attempts at a refresh. One that is not sent again counts for all. -/
def refreshFailures (n : Nat) : ClientEvent → Nat
  | ⟨.exchange _ (.refresh r) _, o⟩ =>
    match Session.requestResult (c := .refresh r) o with
    | .ok _ => 0
    | .error _ => if transientOutcome (Exchange.outcome o) then n + 1 else apiRetryMaxCount
  | _ => n

/-- What is noted of a run: the latest token, the failed attempts at a refresh, and the validity of a
token that was just accepted. -/
structure Ledger where
  token : Str
  failures : Nat := 0
  pending : Option ℤ := none

def Ledger.note (s : Session) (w : Ledger) (e : ClientEvent) : Ledger where
  token := (grantedToken e).getD w.token
  failures := refreshFailures w.failures e
  pending := s.validity e

/-- What a call of Init that ends at a time can rely on: a token is not valid at one reading of the
clock and expired at the end, a login is not skipped after a failed refresh, the validity of a new token
reaches beyond the end, and a reply that passes for a success is one. -/
def Timely (s : Session) (τ : ℤ) (w : Ledger) : ClientEvent → Prop
  | ⟨.now _, t⟩ => t.1 ≤ τ ∧ (t.1 < s.apiTokenExpiryDate → τ < s.apiTokenExpiryDate) ∧
      (apiRetryMaxCount ≤ w.failures →
        0 < s.refreshTokenExpiryInterval ∧ s.refreshTokenExpiryDate < t.1) ∧
      ∀ d ∈ w.pending, τ < t.1 + d
  | e => (s.validity e).isSome → (grantedToken e).isSome

instance (s : Session) (τ : ℤ) (w : Ledger) : DecidablePred (Timely s τ w)
  | ⟨.now _, t⟩ => inferInstanceAs (Decidable (t.1 ≤ τ ∧
      (t.1 < s.apiTokenExpiryDate → τ < s.apiTokenExpiryDate) ∧ (apiRetryMaxCount ≤ w.failures →
        0 < s.refreshTokenExpiryInterval ∧ s.refreshTokenExpiryDate < t.1) ∧
      ∀ d ∈ w.pending, τ < t.1 + d))
  | ⟨.choose, r⟩ => inferInstanceAs (Decidable ((s.validity ⟨.choose, r⟩).isSome → _))
  | ⟨.exchange e c a, o⟩ => inferInstanceAs (Decidable ((s.validity ⟨.exchange e c a, o⟩).isSome → _))
  | ⟨.relock, r⟩ => nomatch r
  | ⟨.nilEndpoint, r⟩ => nomatch r

def TimelyNext (s : Session) (τ : ℤ) (w : Ledger) (e : ClientEvent) (w' : Ledger) : Prop :=
  Timely s τ w e ∧ w' = w.note s e

theorem token_of_follows {s : Session} {τ : ℤ} {w w' : Ledger} {t : List ClientEvent}
    (h : Follows (TimelyNext s τ) w t w') : w'.token = latestToken w.token t := by
  induction h with
  | nil w => rfl
  | cons he _ ih => rw [ih, he.2]; rfl

theorem note_of_quiet {s : Session} {w : Ledger} {e : ClientEvent} (h : replyOf e = none) :
    w.note s e = { w with pending := none } := by
  obtain ⟨o, r⟩ := e
  cases o with
  | exchange e c a => cases h
  | _ => rfl

theorem note_of_calm {s : Session} {w : Ledger} {e : ApiEndPoint} {c : ApiCall} {a : Option Str}
    {o : (ClientOp.exchange e c a).Ans} (h : c.issuesToken = false) :
    w.note s ⟨.exchange e c a, o⟩ = { w with pending := none } := by
  cases c with
  | login => cases h
  | refresh => cases h
  | _ => rfl

theorem granted_of_ok {c : ApiCall} {o : Exchange c.Resp} {data d : c.Resp}
    (h : Session.requestResult o = .ok data) (hd : o.granted = some d) : d = data := by
  cases o with
  | reply status errorCodes message decoded data' =>
    simp only [Exchange.granted, Option.ite_none_right_eq_some, Option.some.injEq] at hd
    obtain ⟨⟨-, -, rfl, rfl⟩, rfl⟩ := hd
    have ha := requestResult_ok.mp ⟨data, h⟩
    simp only [Exchange.Accepted, ← statusError_eq_none message] at ha
    simpa [Session.requestResult, answer, attempt, doRequest, Exchange.outcome, ha] using h
  | _ => cases hd

section

variable {s s₁ : Session} {τ : ℤ} {w w' : Ledger} {token : Str}

theorem login_noted {u p g : Str} {e : ApiEndPoint} {a : Option Str}
    {o : Exchange (ApiCall.login u p g).Resp} {data : LoginResponse}
    (h : TimelyNext s τ w ⟨.exchange e (.login u p g) a, o⟩ w')
    (ho : Session.requestResult o = .ok data) :
    w'.token = data.accessToken ∧ w'.pending = some (Session.seconds (data.expiresIn - 30)) := by
  obtain ⟨ht, rfl⟩ := h
  have hv : s.validity ⟨.exchange e (.login u p g) a, o⟩ =
      some (Session.seconds (data.expiresIn - 30)) := by
    simp only [Session.validity, ho]
  obtain ⟨token, hg⟩ := Option.isSome_iff_exists.mp (ht (by rw [hv]; rfl))
  obtain ⟨d, hd, rfl⟩ := Option.map_eq_some_iff.mp hg
  rw [granted_of_ok ho hd] at hg
  exact ⟨by simp [Ledger.note, hg], hv⟩

theorem refresh_noted {r : Str} {e : ApiEndPoint} {a : Option Str}
    {o : Exchange (ApiCall.refresh r).Resp} {data : RefreshResponse}
    (h : TimelyNext s τ w ⟨.exchange e (.refresh r) a, o⟩ w')
    (ho : Session.requestResult o = .ok data) :
    w'.token = data.accessToken ∧
      w'.pending = some (Session.seconds (s.apiTokenExpiryInterval - 30)) := by
  obtain ⟨ht, rfl⟩ := h
  have hv : s.validity ⟨.exchange e (.refresh r) a, o⟩ =
      some (Session.seconds (s.apiTokenExpiryInterval - 30)) := by
    simp only [Session.validity, ho]
  obtain ⟨token, hg⟩ := Option.isSome_iff_exists.mp (ht (by rw [hv]; rfl))
  obtain ⟨d, hd, rfl⟩ := Option.map_eq_some_iff.mp hg
  rw [granted_of_ok ho hd] at hg
  exact ⟨by simp [Ledger.note, hg], hv⟩

theorem steady_timely {I : Ledger → Prop} (hI : ∀ w, I w → I { w with pending := none })
    {B : ℤ → Prop} (hB : ∀ w (t : ℤ), I w → t ≤ τ →
      (t < s.apiTokenExpiryDate → τ < s.apiTokenExpiryDate) →
      (apiRetryMaxCount ≤ w.failures → 0 < s.refreshTokenExpiryInterval ∧ s.refreshTokenExpiryDate < t) →
      B t) : Steady (TimelyNext s τ) (fun _ _ => True) I B where
  permits _ _ _ := trivial
  quiet w e w' hw h he := by
    rw [h.2, note_of_quiet he]
    exact hI w hw
  reads w last t w' hw h := hB w t.1 hw h.1.1 h.1.2.1 h.1.2.2.1

theorem holds_timeNow_of_pending {d : ℤ} (hd : w.pending = some d) :
    s₁.timeNow.Holds (TimelyNext s τ) (fun _ _ => True)
      (fun x w' => s₁.Moves (fun _ => True) x.2 ∧ x.2.clock ≤ τ ∧ τ < x.1 + d ∧
        w' = { w with pending := none }) w := by
  refine Holds.bind (holds_op (Q := fun t w' => t.1 ≤ τ ∧ τ < t.1 + d ∧ w' = { w with pending := none })
    trivial ?_) ?_
  · intro t w' h
    exact ⟨h.1.1, h.1.2.2.2 d hd, h.2.trans (note_of_quiet rfl)⟩
  · rintro t w' ⟨hle, hlt, rfl⟩
    exact holds_pure ⟨⟨rfl, t.2, id⟩, hle, hlt, rfl⟩

/-- The client holds the latest token, and it has not expired. -/
def Fresh (τ : ℤ) (x : Except Err Unit × Session) (w : Ledger) : Prop :=
  x.1 = .ok () → x.2.apiToken = w.token ∧ τ < x.2.apiTokenExpiryDate

theorem holds_takeLogin_fresh {data : LoginResponse} (htoken : w.token = data.accessToken)
    (hd : w.pending = some (Session.seconds (data.expiresIn - 30))) :
    (s₁.takeLogin data >>= Session.finishLogin).Holds (TimelyNext s τ) (fun _ _ => True) (Fresh τ) w := by
  have hst : Steady (TimelyNext s τ) (fun _ _ => True) (fun w => w.token = data.accessToken) (· ≤ τ) :=
    steady_timely (fun _ h => h) fun _ _ _ h _ _ => h
  have hg := guarded_lasts data.accessToken hst fun w e c a o w' hc hw h => by
    rw [h.2, note_of_calm hc]
    exact hw
  refine Holds.bind (R := fun s' w' => s'.Lasts τ data.accessToken ∧ w'.token = data.accessToken) ?_ ?_
  · refine Holds.bind (holds_timeNow_of_pending hd) ?_
    rintro ⟨now, s₂⟩ w₂ ⟨hm, hearly, hvalid, rfl⟩
    have hs₂ : (s₂.withLogin data now).Lasts τ data.accessToken := ⟨rfl, hvalid, hearly⟩
    exact holds_updateRefreshDate_of_lasts hg hs₂ htoken
  · rintro s₃ w₃ ⟨hs₃, hw₃⟩
    refine (holds_finishLogin hg hs₃ hw₃).imp ?_
    rintro ⟨r, s₄⟩ w₄ ⟨hs₄, hw₄⟩ -
    exact ⟨hs₄.held.trans hw₄.symm, hs₄.valid⟩

theorem holds_loginLocked_fresh :
    s₁.loginLocked.Holds (TimelyNext s τ) (fun _ _ => True) (Fresh τ) w := by
  have hst : Steady (TimelyNext s τ) (fun _ _ => True) (fun _ => True) (fun _ => True) :=
    steady_timely (fun _ h => h) fun _ _ _ _ _ _ => trivial
  have hweathers : ∀ c, Weathers (TimelyNext s τ) (fun _ _ => True) c :=
    fun _ _ _ _ _ _ _ _ _ _ => trivial
  refine Holds.bind (holds_request (fun _ => hst) (hweathers _) trivial) ?_
  rintro ⟨r, s₂⟩ w₂ ⟨-, hr⟩
  cases r with
  | error e =>
    dsimp only
    split
    next =>
      refine Holds.bind (holds_getEndpoint hst trivial) ?_
      intro _ _ _
      exact holds_pure fun h => nomatch h
    next => exact holds_pure fun h => nomatch h
  | ok data =>
    obtain ⟨e, he, -⟩ | ⟨k, o, ⟨w₃, e, a, -, -, hn⟩, -, hr⟩ := hr
    · cases he
    · obtain ⟨htoken, hd⟩ := login_noted hn hr.symm
      exact holds_takeLogin_fresh htoken hd

theorem holds_login_fresh {I : Ledger → Prop} {B : ℤ → Prop}
    (hst : Steady (TimelyNext s τ) (fun _ _ => True) I B) (hw : I w)
    (hout : ∀ now, s₁.clock ≤ now → (s₁.apiToken ≠ [] → B now) → ¬ s₁.LoggedInAt now) :
    s₁.login.Holds (TimelyNext s τ) (fun _ _ => True) (Fresh τ) w := by
  refine Holds.bind (holds_isLoggedIn hst hw) ?_
  rintro ⟨b, s₂⟩ w₂ ⟨hm, -, hb, hB⟩
  cases b with
  | true => exact absurd (hb.mp rfl) (hout _ hm.later hB)
  | false => exact holds_loginLocked_fresh

/-- The attempts at a refresh are counted. -/
def Counts (k : Nat) (w : Ledger) : Prop := w.failures = k

theorem weathers_counts {r : Str} : Weathers (TimelyNext s τ) Counts (.refresh r) := by
  rintro k w e a o w' rfl ho hn
  obtain ⟨error, he⟩ := requestResult_of_transient ho
  rw [Counts, hn.2]
  simp only [Ledger.note, refreshFailures, he]
  exact if_pos ho

theorem failures_of_requested {r : Str} {error : Err} (hne : s₁.credentials.endpoints ≠ [])
    (h : s₁.Requested (TimelyNext s τ) Counts (.refresh r) apiRetryMaxCount (.error error) w) :
    Counts apiRetryMaxCount w := by
  obtain ⟨e, -, hJ | ⟨hnil, -⟩⟩ | ⟨k, o, ⟨w₁, e, a, -, -, hn⟩, ht, hr⟩ := h
  · exact hJ
  · exact absurd hnil hne
  · rw [Counts, hn.2]
    simp only [Ledger.note, refreshFailures, ← hr]
    exact if_neg (by simpa using ht)

theorem Session.not_loggedInAt_mono {now now' : ℤ} (h : ¬ s.LoggedInAt now) (hle : now ≤ now') :
    ¬ s.LoggedInAt now' := by
  rintro ⟨hheld, hvalid⟩
  exact h ⟨hheld, fun hlt => hvalid (by omega)⟩

theorem Session.Moves.loggedInAt {B : ℤ → Prop} (hm : s.Moves B s₁) {now : ℤ} :
    s₁.LoggedInAt now ↔ s.LoggedInAt now := by
  rw [Session.LoggedInAt, Session.LoggedInAt, hm.apiToken, hm.refreshTokenExpiryDate,
    hm.refreshTokenExpiryInterval]

/-- After a refresh that failed for good, Login finds that the refresh token has expired. -/
theorem holds_login_after_failure {B : ℤ → Prop} (hm : s.Moves B s₁) (hw : Counts apiRetryMaxCount w) :
    s₁.login.Holds (TimelyNext s τ) (fun _ _ => True) (Fresh τ) w := by
  have hst : Steady (TimelyNext s τ) (fun _ _ => True) (Counts apiRetryMaxCount)
      (fun t => 0 < s.refreshTokenExpiryInterval ∧ s.refreshTokenExpiryDate < t) :=
    steady_timely (fun _ h => h) fun _ _ hw _ _ h => h (Nat.le_of_eq hw.symm)
  refine holds_login_fresh hst hw ?_
  intro now _ hB h
  obtain ⟨hpos, hlt⟩ := hB h.1
  exact (hm.loggedInAt.mp h).2 hlt hpos

theorem holds_init_fresh (hne : s.credentials.endpoints ≠ []) :
    s.init.Ends (TimelyNext s τ) (Fresh τ) { token := s.apiToken } := by
  have hst : Steady (TimelyNext s τ) (fun _ _ => True) (fun w => w.token = s.apiToken ∧ w.failures = 0)
      (fun t => t < s.apiTokenExpiryDate → τ < s.apiTokenExpiryDate) :=
    steady_timely (fun _ h => h) fun _ _ _ _ h _ => h
  have hcounts : ∀ k, Steady (TimelyNext s τ) (fun _ _ => True) (Counts k) (fun _ => True) :=
    fun k => steady_timely (fun _ h => h) fun _ _ _ _ _ _ => trivial
  refine Holds.bind (holds_timeNow hst ⟨rfl, rfl⟩) ?_
  rintro ⟨now, s₁⟩ w₁ ⟨hm₁, hnow, hB, htoken, hzero⟩
  dsimp only at hm₁ hnow hB ⊢
  split
  next hlt =>
    refine holds_pure fun _ => ⟨hm₁.apiToken.trans htoken.symm, ?_⟩
    rw [hm₁.apiTokenExpiryDate] at hlt ⊢
    exact hB (hnow ▸ hlt)
  next =>
    refine Holds.bind (holds_isLoggedIn hst ⟨htoken, hzero⟩) ?_
    rintro ⟨b, s₂⟩ w₂ ⟨hm₂, hI, hb, -⟩
    dsimp only at hm₂ hb
    cases b with
    | false =>
      have hout : ¬ s₂.LoggedInAt s₂.clock := by
        rw [hm₂.loggedInAt, ← hb]
        exact Bool.false_ne_true
      exact holds_login_fresh hst hI fun now hle _ => Session.not_loggedInAt_mono hout hle
    | true =>
      refine Holds.bind (holds_request hcounts weathers_counts hI.2) ?_
      rintro ⟨r, s₃⟩ w₃ ⟨hm₃, hr⟩
      have hm₂ := (hm₁.trans hm₂).free
      have hm₃ := hm₂.trans hm₃
      cases r with
      | error e =>
        have hne₂ : s₂.credentials.endpoints ≠ [] := hm₂.credentials ▸ hne
        exact holds_login_after_failure hm₃ (failures_of_requested hne₂ hr)
      | ok data =>
        obtain ⟨e, he, -⟩ | ⟨k, o, ⟨w₄, e, a, -, -, hn⟩, -, hr⟩ := hr
        · cases he
        · obtain ⟨htoken, hd⟩ := refresh_noted hn hr.symm
          refine Holds.bind (holds_timeNow_of_pending hd) ?_
          rintro ⟨now, s₄⟩ w₅ ⟨hm₄, -, hlt, rfl⟩
          have hinterval := (hm₃.trans hm₄).apiTokenExpiryInterval
          refine holds_pure fun _ => ⟨htoken.symm, ?_⟩
          change τ < now + Session.seconds (s₄.apiTokenExpiryInterval - 30)
          rw [hinterval]
          exact hlt

end

/-- Init that returns nil leaves the client with the latest token, valid beyond the time of return,
as long as the run is timely. -/
theorem init_leaves_fresh_token {s s' : Session} {τ : ℤ} {t : List ClientEvent} {w : Ledger}
    (hne : s.credentials.endpoints ≠ []) (h : Runs s.init t (.ok (), s'))
    (hf : Follows (TimelyNext s τ) { token := s.apiToken } t w) :
    s'.apiToken = latestToken s.apiToken t ∧ τ < s'.apiTokenExpiryDate := by
  obtain ⟨htoken, hvalid⟩ := ends_iff.mp (holds_init_fresh hne) t _ w h hf rfl
  exact ⟨htoken.trans (token_of_follows hf), hvalid⟩

/-- A cluster that accepts what it is asked for. -/
def servingAnswers : Nat → (c : ApiCall) → Option Str → Exchange c.Resp
  | _, .login _ _ _, _ => .reply 200 [] [] true (⟨"first", 300, "refresh"⟩ : LoginResponse)
  | _, .refresh _, _ => .reply 200 [] [] true (⟨"second", "refresh"⟩ : RefreshResponse)
  | _, .tokenExpiry, _ => .reply 200 [] [] true (⟨300, 31536000⟩ : TokenExpiryResponse)
  | _, .whoami, _ => .reply 200 [] [] true (⟨"CSI"⟩ : WhoamiResponse)
  | _, c, _ => .reply 200 [] [] true c.zero

/-- The answers of a cluster that are timely. -/
def timelyEnv (s : Session) (τ : ℤ) (answers : Nat → (c : ApiCall) → Option Str → Exchange c.Resp)
    (w : Ledger) (o : ClientOp) : Option (o.Ans × Ledger) :=
  (clientEnv answers 0 o).bind fun x =>
    if Timely s τ w ⟨o, x.1⟩ then some (x.1, w.note s ⟨o, x.1⟩) else none

theorem next_of_timelyEnv {s : Session} {τ : ℤ}
    {answers : Nat → (c : ApiCall) → Option Str → Exchange c.Resp} {w w' : Ledger} {o : ClientOp}
    {r : o.Ans} (h : timelyEnv s τ answers w o = some (r, w')) : TimelyNext s τ w ⟨o, r⟩ w' := by
  obtain ⟨x, -, h⟩ := Option.bind_eq_some_iff.mp h
  split at h
  next ht =>
    cases h
    exact ⟨ht, rfl⟩
  next => cases h

theorem init_leaves_fresh_token_first :
    ∃ t s' w, Runs loggedOutSession.init t (.ok (), s') ∧
      Follows (TimelyNext loggedOutSession 0) { token := [] } t w ∧
      s'.apiToken = latestToken [] t ∧ 0 < s'.apiTokenExpiryDate := by
  obtain ⟨⟨⟨r, s'⟩, w⟩, hx, hr⟩ := (Option.any_eq_true _ _).mp
    (show (eval (timelyEnv loggedOutSession 0 servingAnswers) { token := [] }
      loggedOutSession.init).any (fun x => x.1.1.isOk) by decide +kernel)
  obtain ⟨t, hrun, hf⟩ := follows_of_eval (fun _ _ _ _ h => next_of_timelyEnv h) hx
  cases r with
  | error e => cases hr
  | ok _ => exact ⟨t, s', w, hrun, hf, init_leaves_fresh_token (by decide) hrun hf⟩

/-- A client whose token has expired and that does not know for how long tokens are valid. -/
def expiredSession : Session := { tokenSession with apiTokenExpiryDate := -1 }

/-- Init returns nil with an expired token when the refresh fails and Login takes the client to be
logged in, and when the refresh succeeds while the validity of tokens is not known. -/
theorem init_leaves_expired_token :
    (∃ t s', Runs expiredSession.init t (.ok (), s') ∧ s'.apiTokenExpiryDate ≤ s'.clock ∧
      latestToken expiredSession.apiToken t = expiredSession.apiToken) ∧
    ∃ t s', Runs expiredSession.init t (.ok (), s') ∧ s'.apiTokenExpiryDate ≤ s'.clock ∧
      latestToken expiredSession.apiToken t = "second" := by
  constructor
  · obtain ⟨⟨t, r, s'⟩, hx, hr⟩ := (Option.any_eq_true _ _).mp
      (show (exec (clientEnv rejectingAnswers) 0 expiredSession.init).any (fun x => x.2.1.isOk &&
        decide (x.2.2.apiTokenExpiryDate ≤ x.2.2.clock ∧
          latestToken expiredSession.apiToken x.1 = expiredSession.apiToken)) by decide +kernel)
    obtain ⟨hok, hr⟩ := Bool.and_eq_true_iff.mp hr
    cases r with
    | error e => cases hok
    | ok _ => exact ⟨t, s', runs_of_exec hx, of_decide_eq_true hr⟩
  · obtain ⟨⟨t, r, s'⟩, hx, hr⟩ := (Option.any_eq_true _ _).mp
      (show (exec (clientEnv servingAnswers) 0 expiredSession.init).any (fun x => x.2.1.isOk &&
        decide (x.2.2.apiTokenExpiryDate ≤ x.2.2.clock ∧
          latestToken expiredSession.apiToken x.1 = "second")) by decide +kernel)
    obtain ⟨hok, hr⟩ := Bool.and_eq_true_iff.mp hr
    cases r with
    | error e => cases hok
    | ok _ => exact ⟨t, s', runs_of_exec hx, of_decide_eq_true hr⟩

end CsiWekafs
