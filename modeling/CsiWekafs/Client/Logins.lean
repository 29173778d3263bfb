import CsiWekafs.Client.Replies

namespace CsiWekafs

open Prog

/-- What holds while Login makes its calls: they leave it as it is, and no token is asked for. -/
structure Guarded {σ : Type} (next : σ → ClientEvent → σ → Prop) (P : σ → ClientOp → Prop)
    (I : σ → Prop) (B : ℤ → Prop) (Inv : Session → Prop) : Prop where
  steady : Steady next P I B
  calm : ∀ w e (c : ApiCall) a o w', c.issuesToken = false → I w →
    next w ⟨.exchange e c a, o⟩ w' → I w'
  moves : ∀ s s', Inv s → s.Moves B s' → Inv s'
  noted : ∀ s role name endpoints, Inv s →
    Inv { s with apiUserRole := role, clusterName := name, endpoints := endpoints }
  init : ∀ s w, Inv s → I w → (s.initWith Session.loginHeld).Holds next P
    (fun x w' => s.clock ≤ x.2.clock ∧ Inv x.2 ∧ I w') w

section Held

variable {σ : Type} {next : σ → ClientEvent → σ → Prop} {P : σ → ClientOp → Prop} {I : σ → Prop}
  {B : ℤ → Prop} {Inv : Session → Prop} {s : Session} {w : σ} {c : ApiCall}

/-- The data comes with a reply that the world gives. -/
def Replied (next : σ → ClientEvent → σ → Prop) (c : ApiCall) (data : c.Resp) : Prop :=
  ∃ w e a o w', next w ⟨.exchange e c a, o⟩ w' ∧ Session.requestResult o = .ok data

theorem holds_requestHeld (hg : Guarded next P I B Inv) (hc : c.issuesToken = false) (hs : Inv s)
    (hw : I w) : (s.requestHeld c).Holds next P (fun x w' => s.clock ≤ x.2.clock ∧ Inv x.2 ∧ I w' ∧
      ∀ data, x.1 = .ok data → Replied next c data) w := by
  refine Holds.bind (hg.init s w hs hw) ?_
  rintro ⟨r, s₁⟩ w₁ ⟨hle, hs₁, hw₁⟩
  cases r with
  | error e => exact holds_pure ⟨hle, hs₁, hw₁, fun _ h => nomatch h⟩
  | ok _ =>
    have hweathers : Weathers next (fun _ => I) c := fun _ w e a o w' hI _ hn =>
      hg.calm w e c a o w' hc hI hn
    refine (holds_request (fun _ => hg.steady) hweathers hw₁).imp ?_
    rintro ⟨r, s₂⟩ w₂ ⟨hm, hr⟩
    refine ⟨hle.trans hm.later, hg.moves _ _ hs₁ hm, ?_⟩
    obtain ⟨e, hr, hI⟩ | ⟨k, o, ⟨w₃, e, a, hI, -, hn⟩, -, hr⟩ := hr
    · refine ⟨?_, fun data h => nomatch hr.symm.trans h⟩
      rcases hI with hI | ⟨-, k, hI⟩ <;> exact hI
    · exact ⟨hg.calm _ _ _ _ _ _ hc hI hn, fun data h => ⟨w₃, e, a, o, w₂, hn, hr.symm.trans h⟩⟩

theorem holds_ensureSufficientPermissions (hg : Guarded next P I B Inv) (hs : Inv s) (hw : I w) :
    s.ensureSufficientPermissions.Holds next P (fun x w' => Inv x.2 ∧ I w') w := by
  refine Holds.bind (R := fun s' w' => Inv s' ∧ I w') ?_ ?_
  · refine Holds.bind (holds_requestHeld hg rfl hs hw) ?_
    rintro ⟨r, s₁⟩ w₁ ⟨-, hs₁, hw₁, -⟩
    cases r with
    | error e => exact holds_pure ⟨hs₁, hw₁⟩
    | ok data => exact holds_pure ⟨hg.noted _ _ _ _ hs₁, hw₁⟩
  · rintro s₁ w₁ h
    split <;> exact holds_pure h

theorem holds_fetchClusterInfo (hg : Guarded next P I B Inv) (hs : Inv s) (hw : I w) :
    s.fetchClusterInfo.Holds next P (fun x w' => Inv x.2 ∧ I w') w := by
  refine Holds.bind (holds_requestHeld hg rfl hs hw) ?_
  rintro ⟨r, s₁⟩ w₁ ⟨-, hs₁, hw₁, -⟩
  cases r with
  | error e => exact holds_pure ⟨hs₁, hw₁⟩
  | ok data => exact holds_pure ⟨hg.noted _ _ _ _ hs₁, hw₁⟩

theorem holds_updateApiEndpoints (hg : Guarded next P I B Inv) (hs : Inv s) (hw : I w) :
    s.updateApiEndpoints.Holds next P (fun x w' => Inv x.2 ∧ I w') w := by
  refine Holds.bind (holds_requestHeld hg rfl hs hw) ?_
  rintro ⟨r, s₁⟩ w₁ ⟨-, hs₁, hw₁, -⟩
  refine Holds.bind (holds_timeNow hg.steady hw₁) ?_
  rintro ⟨updateTime, s₂⟩ w₂ ⟨hm₂, -, -, hw₂⟩
  refine Holds.bind (holds_timeNow hg.steady hw₂) ?_
  rintro ⟨now, s₃⟩ w₃ ⟨hm₃, -, -, hw₃⟩
  refine Holds.bind (holds_choose hg.steady hw₃) ?_
  intro pick w₄ hw₄
  exact holds_pure ⟨hg.noted _ _ _ _ (hg.moves _ _ (hg.moves _ _ hs₁ hm₂) hm₃), hw₄⟩

theorem holds_refreshEndpoints (hg : Guarded next P I B Inv) (hs : Inv s) (hw : I w) :
    s.refreshEndpoints.Holds next P (fun s' w' => Inv s' ∧ I w') w := by
  have hget : ∀ s₁ w₁, Inv s₁ → I w₁ → (s₁.getEndpoint >>= fun x => pure x.2 : ClientM Session).Holds
      next P (fun s' w' => Inv s' ∧ I w') w₁ := by
    intro s₁ w₁ hs₁ hw₁
    refine Holds.bind (holds_getEndpoint hg.steady hw₁) ?_
    rintro ⟨e, s₂⟩ w₂ ⟨hm, hw₂⟩
    exact holds_pure ⟨hg.moves _ _ hs₁ hm, hw₂⟩
  unfold Session.refreshEndpoints
  split
  next =>
    refine Holds.bind (holds_updateApiEndpoints hg hs hw) ?_
    rintro ⟨r, s₁⟩ w₁ ⟨hs₁, hw₁⟩
    cases r with
    | error e => exact holds_pure ⟨hs₁, hw₁⟩
    | ok _ => exact hget s₁ w₁ hs₁ hw₁
  next => exact hget s w hs hw

theorem holds_finishLogin (hg : Guarded next P I B Inv) (hs : Inv s) (hw : I w) :
    s.finishLogin.Holds next P (fun x w' => Inv x.2 ∧ I w') w := by
  refine Holds.bind (holds_ensureSufficientPermissions hg hs hw) ?_
  rintro ⟨r, s₁⟩ w₁ ⟨hs₁, hw₁⟩
  cases r with
  | error e => exact holds_pure ⟨hs₁, hw₁⟩
  | ok _ =>
    refine Holds.bind (holds_fetchClusterInfo hg hs₁ hw₁) ?_
    rintro ⟨r, s₂⟩ w₂ ⟨hs₂, hw₂⟩
    cases r with
    | error e => exact holds_pure ⟨hs₂, hw₂⟩
    | ok _ =>
      refine Holds.bind (holds_refreshEndpoints hg hs₂ hw₂) ?_
      rintro s₃ w₃ h
      exact holds_pure h

/-- The token is valid until a time that has not come yet. -/
structure Session.Lasts (τ : ℤ) (token : Str) (s : Session) : Prop where
  held : s.apiToken = token
  valid : τ < s.apiTokenExpiryDate
  early : s.clock ≤ τ

variable {τ : ℤ} {token : Str}

theorem holds_init_of_lasts (hst : Steady next P I (· ≤ τ)) (hs : s.Lasts τ token) (hw : I w)
    {login : Session → ClientM (Except Err Unit × Session)} :
    (s.initWith login).Holds next P
      (fun x w' => s.clock ≤ x.2.clock ∧ x.2.Lasts τ token ∧ I w') w := by
  refine Holds.bind (holds_timeNow hst hw) ?_
  rintro ⟨now, s₁⟩ w₁ ⟨hm, hnow, hearly, hw₁⟩
  dsimp only at hm hnow hearly
  have hvalid : τ < s₁.apiTokenExpiryDate := by
    rw [hm.apiTokenExpiryDate]
    exact hs.valid
  simp only [if_pos (show now < s₁.apiTokenExpiryDate by omega)]
  exact holds_pure ⟨hm.later, ⟨hm.apiToken.trans hs.held, hvalid, hearly⟩, hw₁⟩

theorem guarded_lasts (token : Str) (hst : Steady next P I (· ≤ τ))
    (hcalm : ∀ w e (c : ApiCall) a o w', c.issuesToken = false → I w →
      next w ⟨.exchange e c a, o⟩ w' → I w') :
    Guarded next P I (· ≤ τ) (Session.Lasts τ token) where
  steady := hst
  calm := hcalm
  moves _ _ hs hm := ⟨hm.apiToken.trans hs.held, hm.apiTokenExpiryDate ▸ hs.valid, hm.seen hs.early⟩
  noted _ _ _ _ hs := ⟨hs.held, hs.valid, hs.early⟩
  init _ _ hs hw := holds_init_of_lasts hst hs hw

theorem holds_updateRefreshDate_of_lasts (hg : Guarded next P I (· ≤ τ) (Session.Lasts τ token))
    (hs : s.Lasts τ token) (hw : I w) :
    s.updateRefreshDate.Holds next P (fun s' w' => s'.Lasts τ token ∧ I w') w := by
  refine Holds.bind (R := fun s' w' => s'.Lasts τ token ∧ I w') ?_ ?_
  · unfold Session.fetchTokensExpiryInterval
    split
    next =>
      refine Holds.bind (holds_requestHeld hg rfl hs hw) ?_
      rintro ⟨r, s₁⟩ w₁ ⟨-, hs₁, hw₁, -⟩
      cases r with
      | error e => exact holds_pure ⟨hs₁, hw₁⟩
      | ok data => exact holds_pure ⟨⟨hs₁.held, hs₁.valid, hs₁.early⟩, hw₁⟩
    next => exact holds_pure ⟨hs, hw⟩
  · rintro s₁ w₁ ⟨hs₁, hw₁⟩
    refine Holds.bind (holds_timeNow hg.steady hw₁) ?_
    rintro ⟨now, s₂⟩ w₂ ⟨hm, -, -, hw₂⟩
    have hs₂ := hg.moves _ _ hs₁ hm
    exact holds_pure ⟨⟨hs₂.held, hs₂.valid, hs₂.early⟩, hw₂⟩

end Held

end CsiWekafs
