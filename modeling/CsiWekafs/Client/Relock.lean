import CsiWekafs.Client.Logins

namespace CsiWekafs

open Prog

/-- The token that a login brings outlasts the time that the call takes. -/
def LastingLogin (s : Session) (τ : ℤ) : ClientEvent → Prop
  | ⟨.now _, t⟩ => t.1 ≤ τ
  | ⟨.exchange _ (.login u p g) _, o⟩ => ∀ data, Session.requestResult (c := .login u p g) o = .ok data →
      τ < s.clock + Session.seconds (LoginResponse.expiresIn data - 30)
  | _ => True

/-- Every token that is accepted is one, and a refresh token outlasts the time that the call takes. -/
def RenewableLogin (s : Session) (τ : ℤ) : ClientEvent → Prop
  | ⟨.now _, t⟩ => t.1 ≤ τ
  | ⟨.exchange _ (.login u p g) _, o⟩ => ∀ data, Session.requestResult (c := .login u p g) o = .ok data →
      LoginResponse.accessToken data ≠ []
  | ⟨.exchange _ (.refresh r) _, o⟩ => ∀ data, Session.requestResult (c := .refresh r) o = .ok data →
      RefreshResponse.accessToken data ≠ []
  | ⟨.exchange _ .tokenExpiry _, o⟩ => ∀ data, Session.requestResult (c := .tokenExpiry) o = .ok data →
      0 < TokenExpiryResponse.refreshTokenExpiry data →
      τ ≤ s.clock + Session.seconds (TokenExpiryResponse.refreshTokenExpiry data)
  | _ => True

/-- The client passes for logged in until a time that has not come yet. -/
structure Session.Renews (τ : ℤ) (interval : Int64) (s : Session) : Prop where
  held : s.apiToken ≠ []
  known : s.refreshTokenExpiryInterval = interval
  valid : 0 < interval → τ ≤ s.refreshTokenExpiryDate
  early : s.clock ≤ τ

theorem not_pos_of_lt_one {i : Int64} (h : i < 1) : ¬ 0 < i := by
  rw [Int64.lt_iff_toInt_lt] at h ⊢
  simp only [Int64.reduceToInt] at h ⊢
  omega

section

variable {σ : Type} {next : σ → ClientEvent → σ → Prop} {s s₀ : Session} {w : σ} {τ : ℤ}
  {i : Int64}

theorem Session.Renews.loggedInAt (hs : s.Renews τ i) {now : ℤ} (h : now ≤ τ) : s.LoggedInAt now := by
  refine ⟨hs.held, fun hnow hpos => ?_⟩
  have := hs.valid (hs.known ▸ hpos)
  omega

theorem Session.Renews.moves (hs : s.Renews τ i) {s' : Session} (hm : s.Moves (· ≤ τ) s') :
    s'.Renews τ i := by
  refine ⟨hm.apiToken ▸ hs.held, hm.refreshTokenExpiryInterval.trans hs.known, ?_, hm.seen hs.early⟩
  rw [hm.refreshTokenExpiryDate]
  exact hs.valid

/-- No call but the one that locks again is ruled out. -/
def NoRelock {σ : Type} (_ : σ) (o : ClientOp) : Prop := o ≠ .relock

theorem steady_noRelock (hread : ∀ w last t w', next w ⟨.now last, t⟩ w' → t.1 ≤ τ) :
    Steady next NoRelock (fun _ => True) (· ≤ τ) :=
  ⟨fun _ _ h => h, fun _ _ _ _ _ _ => trivial, fun _ _ _ _ _ h => hread _ _ _ _ h⟩

theorem holds_isLoggedIn_of_renews (hst : Steady next NoRelock (fun _ => True) (· ≤ τ))
    (hs : s.Renews τ i) : s.isLoggedIn.Holds next NoRelock
      (fun x _ => s.Moves (· ≤ τ) x.2 ∧ x.2.Renews τ i ∧ x.1 = true) w := by
  refine (holds_isLoggedIn hst trivial).imp ?_
  rintro ⟨b, s₁⟩ w₁ ⟨hm, -, hb, -⟩
  have hs₁ := hs.moves hm
  exact ⟨hm, hs₁, hb.mpr (hs.loggedInAt hs₁.early)⟩

theorem holds_init_of_renews (hnext : ∀ w e w', next w e w' → RenewableLogin s₀ τ e)
    (hs : s.Renews τ i) : (s.initWith Session.loginHeld).Holds next NoRelock
      (fun x _ => s.clock ≤ x.2.clock ∧ x.2.Renews τ i) w := by
  have hst : Steady next NoRelock (fun _ => True) (· ≤ τ) := steady_noRelock fun _ _ _ _ h => hnext _ _ _ h
  refine Holds.bind (holds_timeNow hst trivial) ?_
  rintro ⟨now, s₁⟩ w₁ ⟨hm₁, -, -, -⟩
  have hs₁ := hs.moves hm₁
  dsimp only
  split
  next => exact holds_pure ⟨hm₁.later, hs₁⟩
  next =>
    refine Holds.bind (holds_isLoggedIn_of_renews hst hs₁) ?_
    rintro ⟨b, s₂⟩ w₂ ⟨hm₂, hs₂, hb⟩
    cases hb
    have hm₂ := hm₁.trans hm₂
    have hweathers : Weathers next (fun _ _ => True) (.refresh s₂.refreshToken) :=
      fun _ _ _ _ _ _ _ _ _ => trivial
    refine Holds.bind (holds_request (fun _ => hst) hweathers trivial) ?_
    rintro ⟨r, s₃⟩ w₃ ⟨hm₃, hr⟩
    have hs₃ := hs₂.moves hm₃
    have hm₃ := hm₂.trans hm₃
    cases r with
    | error e =>
      refine Holds.bind (holds_isLoggedIn_of_renews hst hs₃) ?_
      rintro ⟨b, s₄⟩ w₄ ⟨hm₄, hs₄, hb⟩
      cases hb
      exact holds_pure ⟨(hm₃.trans hm₄).later, hs₄⟩
    | ok data =>
      obtain ⟨e, he, -⟩ | ⟨k, o, ⟨w₄, e, a, -, -, hn⟩, -, hr⟩ := hr
      · cases he
      · refine Holds.bind (holds_timeNow hst trivial) ?_
        rintro ⟨now, s₄⟩ w₅ ⟨hm₄, -, -, -⟩
        have hs₄ := hs₃.moves hm₄
        exact holds_pure ⟨(hm₃.trans hm₄).later, hnext _ _ _ hn data hr.symm, hs₄.known, hs₄.valid,
          hs₄.early⟩

theorem guarded_renews (hnext : ∀ w e w', next w e w' → RenewableLogin s₀ τ e) :
    Guarded next NoRelock (fun _ => True) (· ≤ τ) (Session.Renews τ i) where
  steady := steady_noRelock fun _ _ _ _ h => hnext _ _ _ h
  calm _ _ _ _ _ _ _ _ _ := trivial
  moves _ _ hs hm := hs.moves hm
  noted _ _ _ _ hs := ⟨hs.held, hs.known, hs.valid, hs.early⟩
  init _ _ hs _ := (holds_init_of_renews hnext hs).imp fun _ _ h => ⟨h.1, h.2, trivial⟩

/-- The refresh token of a login outlasts the call, if it is known for how long it is valid. -/
def Session.Outlasts (s : Session) (τ : ℤ) (interval : Int64) : Prop :=
  0 < interval → τ ≤ s.clock + Session.seconds interval

theorem holds_updateRefreshDate_of_renewable (hnext : ∀ w e w', next w e w' → RenewableLogin s₀ τ e)
    (hheld : s.apiToken ≠ []) (hi : s₀.Outlasts τ s.refreshTokenExpiryInterval)
    (hlate : s₀.clock ≤ s.clock) (hearly : s.clock ≤ τ) :
    s.updateRefreshDate.Holds next NoRelock (fun s' _ => ∃ i, s'.Renews τ i) w := by
  have hst : Steady next NoRelock (fun _ => True) (· ≤ τ) := steady_noRelock fun _ _ _ _ h => hnext _ _ _ h
  refine Holds.bind (R := fun s' _ => s'.apiToken ≠ [] ∧ s₀.Outlasts τ s'.refreshTokenExpiryInterval ∧
    s₀.clock ≤ s'.clock ∧ s'.clock ≤ τ) ?_ ?_
  · unfold Session.fetchTokensExpiryInterval
    split
    next hlt =>
      have hs : s.Renews τ s.refreshTokenExpiryInterval :=
        ⟨hheld, rfl, fun hpos => absurd hpos (not_pos_of_lt_one hlt), hearly⟩
      refine Holds.bind (holds_requestHeld (guarded_renews hnext) rfl hs trivial) ?_
      rintro ⟨r, s₁⟩ w₁ ⟨hle, hs₁, -, hr⟩
      cases r with
      | error e => exact holds_pure ⟨hs₁.held, hs₁.known ▸ hi, hlate.trans hle, hs₁.early⟩
      | ok data =>
        obtain ⟨w₂, e, a, o, w₃, hn, ho⟩ := hr data rfl
        exact holds_pure ⟨hs₁.held, hnext _ _ _ hn data ho, hlate.trans hle, hs₁.early⟩
    next => exact holds_pure ⟨hheld, hi, hlate, hearly⟩
  · rintro s₁ w₁ ⟨hheld, hi, hlate, hearly⟩
    refine Holds.bind (holds_timeNow hst trivial) ?_
    rintro ⟨now, s₂⟩ w₂ ⟨hm, hnow, -, -⟩
    dsimp only at hm hnow
    refine holds_pure ⟨s₂.refreshTokenExpiryInterval, hm.apiToken ▸ hheld, rfl, ?_, hm.seen hearly⟩
    intro hpos
    have := hi (hm.refreshTokenExpiryInterval ▸ hpos)
    have := hm.later
    simp only [hm.refreshTokenExpiryInterval]
    omega

/-- A state in which the calls that Login makes never lead back into it. -/
def Session.Settled (next : σ → ClientEvent → σ → Prop) (τ : ℤ) (s : Session) : Prop :=
  ∃ Inv, Inv s ∧ Guarded next NoRelock (fun _ => True) (· ≤ τ) Inv

theorem holds_takeLogin_of_lasting (hnext : ∀ w e w', next w e w' → LastingLogin s₀ τ e)
    {u p g : Str} {data : LoginResponse} (hdata : Replied next (.login u p g) data)
    (hm₀ : s₀.Moves (· ≤ τ) s) :
    (s.takeLogin data).Holds next NoRelock (fun s' _ => s'.Settled next τ) w := by
  have hst : Steady next NoRelock (fun _ => True) (· ≤ τ) := steady_noRelock fun _ _ _ _ h => hnext _ _ _ h
  obtain ⟨w₁, e, a, o, w₂, hn, ho⟩ := hdata
  have hlong := hnext _ _ _ hn data ho
  have hg := guarded_lasts data.accessToken hst fun _ _ _ _ _ _ _ _ _ => trivial
  refine Holds.bind (holds_timeNow hst trivial) ?_
  rintro ⟨now, s₁⟩ w₁ ⟨hm, hnow, hearly, -⟩
  dsimp only at hm hnow hearly
  have hlate := (hm₀.trans hm).later
  have hvalid : τ < now + Session.seconds (data.expiresIn - 30) := by omega
  have hs₁ : (s₁.withLogin data now).Lasts τ data.accessToken := ⟨rfl, hvalid, hearly⟩
  refine (holds_updateRefreshDate_of_lasts hg hs₁ trivial).imp ?_
  rintro s₂ w₂ ⟨hs₂, -⟩
  exact ⟨_, hs₂, hg⟩

theorem holds_takeLogin_of_renewable (hnext : ∀ w e w', next w e w' → RenewableLogin s₀ τ e)
    (hi : s₀.Outlasts τ s₀.refreshTokenExpiryInterval) {u p g : Str} {data : LoginResponse}
    (hdata : Replied next (.login u p g) data) (hm₀ : s₀.Moves (· ≤ τ) s) :
    (s.takeLogin data).Holds next NoRelock (fun s' _ => s'.Settled next τ) w := by
  have hst : Steady next NoRelock (fun _ => True) (· ≤ τ) := steady_noRelock fun _ _ _ _ h => hnext _ _ _ h
  obtain ⟨w₁, e, a, o, w₂, hn, ho⟩ := hdata
  refine Holds.bind (holds_timeNow hst trivial) ?_
  rintro ⟨now, s₁⟩ w₁ ⟨hm, -, hearly, -⟩
  have hm := hm₀.trans hm
  refine (holds_updateRefreshDate_of_renewable (s := s₁.withLogin data now) hnext
    (hnext _ _ _ hn data ho) ?_ hm.later hearly).imp ?_
  · exact hm.refreshTokenExpiryInterval ▸ hi
  · rintro s₂ w₂ ⟨i, hs₂⟩
    exact ⟨_, hs₂, guarded_renews hnext⟩

theorem holds_login (hst : Steady next NoRelock (fun _ => True) (· ≤ τ))
    (htake : ∀ u p g data s w, Replied next (.login u p g) data → s₀.Moves (· ≤ τ) s →
      (s.takeLogin data).Holds next NoRelock (fun s' _ => s'.Settled next τ) w) :
    s₀.login.Holds next NoRelock (fun _ _ => True) w := by
  refine Holds.bind (holds_isLoggedIn hst trivial) ?_
  rintro ⟨b, s₁⟩ w₁ ⟨hm₁, -, -⟩
  dsimp only
  split
  next => exact holds_pure trivial
  next =>
    have hweathers : ∀ c, Weathers next (fun _ _ => True) c := fun _ _ _ _ _ _ _ _ _ _ => trivial
    refine Holds.bind (holds_request (fun _ => hst) (hweathers _) trivial) ?_
    rintro ⟨r, s₂⟩ w₂ ⟨hm₂, hr⟩
    cases r with
    | error e =>
      dsimp only
      split
      next =>
        refine Holds.bind (holds_getEndpoint hst trivial) ?_
        intro _ _ _
        exact holds_pure trivial
      next => exact holds_pure trivial
    | ok data =>
      obtain ⟨e, he, -⟩ | ⟨k, o, ⟨w₃, e, a, -, -, hn⟩, -, hr⟩ := hr
      · cases he
      · refine Holds.bind (htake _ _ _ data s₂ w₂ ⟨w₃, e, a, o, w₂, hn, hr.symm⟩ (hm₁.trans hm₂)) ?_
        rintro s₃ w₄ ⟨Inv, hs₃, hg⟩
        exact (holds_finishLogin hg hs₃ trivial).imp fun _ _ _ => trivial

/-- Login never waits for the mutex that it holds, as long as the token of each login it makes
outlasts the call, or each token that is accepted is not empty and refresh tokens outlast the call. -/
theorem login_never_relocks (s : Session) (τ : ℤ)
    (h : (∀ w e w', next w e w' → LastingLogin s τ e) ∨
      s.Outlasts τ s.refreshTokenExpiryInterval ∧ ∀ w e w', next w e w' → RenewableLogin s τ e) :
    s.login.Holds next NoRelock (fun _ _ => True) w := by
  rcases h with hnext | ⟨hi, hnext⟩
  · exact holds_login (steady_noRelock fun _ _ _ _ h => hnext _ _ _ h)
      fun _ _ _ _ _ _ hdata hm => holds_takeLogin_of_lasting hnext hdata hm
  · exact holds_login (steady_noRelock fun _ _ _ _ h => hnext _ _ _ h)
      fun _ _ _ _ _ _ hdata hm => holds_takeLogin_of_renewable hnext hi hdata hm

end

/-- A new client with one endpoint. -/
def loggedOutSession : Session :=
  { tokenSession with apiToken := [], apiTokenExpiryDate := zeroTime }

theorem login_never_relocks_within_a_minute :
    loggedOutSession.login.Holds (fun (_ : Unit) e _ => LastingLogin loggedOutSession 60000000000 e)
      NoRelock (fun _ _ => True) () :=
  login_never_relocks loggedOutSession 60000000000 (.inl fun _ _ _ h => h)

/-- A login reply with error codes passes for a success without a token. -/
theorem login_relocks :
    newSession tokenSession.credentials 0 = some loggedOutSession ∧
    ¬ loggedOutSession.login.Holds (fun (_ : Nat) _ _ => True) NoRelock (fun _ _ => True) 0 := by
  let answers : Nat → (c : ApiCall) → Option Str → Exchange c.Resp := fun _ c _ =>
    .reply 200 ["OperationFailedException"] [] false c.zero
  refine ⟨rfl, fun h => ?_⟩
  obtain ⟨o, ho, hr⟩ := (Option.any_eq_true _ _).mp
    (show (stopsAt (clientEnv answers) 0 loggedOutSession.login).any
      (fun o => match o with | .relock => true | _ => false) by decide +kernel)
  obtain ⟨n, hn⟩ := h.of_stopsAt (fun _ _ _ _ _ => trivial) ho
  cases o with
  | relock => exact hn rfl
  | _ => cases hr

end CsiWekafs
