import CsiWekafs.Lib.World
import CsiWekafs.Client.EndpointRuns
import CsiWekafs.Client.Session

namespace CsiWekafs

open Prog

/-- What the cluster answered to a call. -/
abbrev Reply := Sigma fun c : ApiCall => Exchange c.Resp

def replyOf : ClientEvent → Option Reply
  | ⟨.exchange _ c _, o⟩ => some ⟨c, o⟩
  | _ => none

/-- The calls whose replies bring a token. -/
def ApiCall.issuesToken : ApiCall → Bool
  | .login _ _ _ => true
  | .refresh _ => true
  | _ => false

/-- A later state with the same tokens. A time that was read since then meets `B`. -/
structure Session.Moves (B : ℤ → Prop) (s s' : Session) : Prop where
  same : s' = { s with endpoints := s'.endpoints, clock := s'.clock }
  later : s.clock ≤ s'.clock
  seen : B s.clock → B s'.clock

theorem Session.Moves.refl (B : ℤ → Prop) (s : Session) : s.Moves B s := ⟨rfl, le_rfl, id⟩

theorem Session.Moves.free {B : ℤ → Prop} {s s' : Session} (h : s.Moves B s') :
    s.Moves (fun _ => True) s' := ⟨h.same, h.later, id⟩

theorem Session.Moves.apiToken {B : ℤ → Prop} {s s' : Session} (h : s.Moves B s') :
    s'.apiToken = s.apiToken := by rw [h.same]

theorem Session.Moves.credentials {B : ℤ → Prop} {s s' : Session} (h : s.Moves B s') :
    s'.credentials = s.credentials := by rw [h.same]

theorem Session.Moves.apiTokenExpiryDate {B : ℤ → Prop} {s s' : Session} (h : s.Moves B s') :
    s'.apiTokenExpiryDate = s.apiTokenExpiryDate := by rw [h.same]

theorem Session.Moves.apiTokenExpiryInterval {B : ℤ → Prop} {s s' : Session} (h : s.Moves B s') :
    s'.apiTokenExpiryInterval = s.apiTokenExpiryInterval := by rw [h.same]

theorem Session.Moves.refreshTokenExpiryDate {B : ℤ → Prop} {s s' : Session} (h : s.Moves B s') :
    s'.refreshTokenExpiryDate = s.refreshTokenExpiryDate := by
  rw [h.same]

theorem Session.Moves.refreshTokenExpiryInterval {B : ℤ → Prop} {s s' : Session}
    (h : s.Moves B s') : s'.refreshTokenExpiryInterval = s.refreshTokenExpiryInterval := by
  rw [h.same]

theorem Session.Moves.trans {B : ℤ → Prop} {s₁ s₂ s₃ : Session} (h : s₁.Moves B s₂)
    (h' : s₂.Moves B s₃) : s₁.Moves B s₃ := by
  refine ⟨?_, h.later.trans h'.later, h'.seen ∘ h.seen⟩
  have h₃ := h'.same
  rw [h.same] at h₃
  exact h₃

/-- The client's token passes for valid at a time, as far as the refresh token goes. -/
def Session.LoggedInAt (s : Session) (now : ℤ) : Prop :=
  s.apiToken ≠ [] ∧ (s.refreshTokenExpiryDate < now → ¬ 0 < s.refreshTokenExpiryInterval)

/-- A world in which a client can do what it likes but lock again, with an invariant that only
replies change. -/
structure Steady {σ : Type} (next : σ → ClientEvent → σ → Prop) (P : σ → ClientOp → Prop)
    (I : σ → Prop) (B : ℤ → Prop) : Prop where
  permits : ∀ w o, o ≠ .relock → P w o
  quiet : ∀ w e w', I w → next w e w' → replyOf e = none → I w'
  reads : ∀ w last t w', I w → next w ⟨.now last, t⟩ w' → B t.1

section Specs

variable {σ : Type} {next : σ → ClientEvent → σ → Prop} {P : σ → ClientOp → Prop} {I : σ → Prop}
  {B : ℤ → Prop} {s : Session} {w : σ} {c : ApiCall}

theorem holds_timeNow (hs : Steady next P I B) (hw : I w) :
    s.timeNow.Holds next P
      (fun x w' => s.Moves B x.2 ∧ x.1 = x.2.clock ∧ B x.2.clock ∧ I w') w := by
  refine Holds.bind (holds_op (Q := fun t w' => B t.1 ∧ I w') (hs.permits _ _ (by simp)) ?_) ?_
  · intro t w' h
    exact ⟨hs.reads _ _ _ _ hw h, hs.quiet _ _ _ hw h rfl⟩
  · rintro t w' ⟨hB, hI⟩
    exact holds_pure ⟨⟨rfl, t.2, fun _ => hB⟩, rfl, hB, hI⟩

theorem holds_choose (hs : Steady next P I B) (hw : I w) :
    (perform .choose).Holds next P (fun _ w' => I w') w :=
  holds_op (hs.permits _ _ (by simp)) fun _ _ h => hs.quiet _ _ _ hw h rfl

theorem holds_rotateEndpoint (hs : Steady next P I B) (hw : I w) :
    s.rotateEndpoint.Holds next P (fun s' w' => s.Moves B s' ∧ I w') w := by
  refine Holds.bind (holds_timeNow hs hw) ?_
  rintro ⟨now, s₁⟩ w₁ ⟨hm, -, -, hI⟩
  refine Holds.bind (holds_choose hs hI) ?_
  intro pick w₂ hI
  exact holds_pure ⟨hm.trans ⟨rfl, le_rfl, id⟩, hI⟩

theorem holds_getEndpoint (hs : Steady next P I B) (hw : I w) :
    s.getEndpoint.Holds next P (fun x w' => s.Moves B x.2 ∧ I w') w := by
  refine Holds.bind (R := fun s' w' => s.Moves B s' ∧ I w') ?_ ?_
  · unfold Session.chooseEndpoint
    split
    next => exact holds_rotateEndpoint hs hw
    next => exact holds_pure ⟨.refl B s, hw⟩
  · rintro s₁ w₁ ⟨hm, hI⟩
    split
    next => exact holds_pure ⟨hm, hI⟩
    next => exact ⟨hs.permits _ _ (by simp), fun r => nomatch r⟩

theorem holds_isLoggedIn (hs : Steady next P I B) (hw : I w) :
    s.isLoggedIn.Holds next P
      (fun x w' => s.Moves B x.2 ∧ I w' ∧ (x.1 = true ↔ s.LoggedInAt x.2.clock) ∧
        (s.apiToken ≠ [] → B x.2.clock)) w := by
  unfold Session.isLoggedIn
  split
  next ht => exact holds_pure ⟨.refl B s, hw, by simp [Session.LoggedInAt, ht], fun h => absurd ht h⟩
  next ht =>
    refine Holds.bind (holds_timeNow hs hw) ?_
    rintro ⟨now, s₁⟩ w₁ ⟨hm, hnow, hB, hI⟩
    dsimp only at hm hnow
    refine holds_pure ⟨hm, hI, ?_, fun _ => hB⟩
    simp only [Session.LoggedInAt, hnow, hm.refreshTokenExpiryDate, hm.refreshTokenExpiryInterval,
      Bool.not_eq_true', Bool.and_eq_false_iff, decide_eq_false_iff_not, ne_eq, ht,
      not_false_eq_true, true_and]
    tauto

/-- An exchange that ends with this reply. -/
def Session.Sent (s : Session) (next : σ → ClientEvent → σ → Prop) (I : σ → Prop) (c : ApiCall)
    (o : Exchange c.Resp) (w' : σ) : Prop :=
  ∃ w₁ e a, I w₁ ∧ (a = none ∨ a = some s.apiToken) ∧ next w₁ ⟨.exchange e c a, o⟩ w'

theorem holds_send (hs : Steady next P I B) (hw : I w) :
    (s.send c).Holds next P (fun x w' => s.Moves B x.2 ∧
      ((x.1 = none ∧ s.credentials.endpoints = [] ∧ I w') ∨
        ∃ o, x.1 = some o ∧ s.Sent next I c o w')) w := by
  unfold Session.send
  split
  next h =>
    exact holds_pure ⟨.refl B s, .inl ⟨rfl, List.length_eq_zero_iff.mp (by omega), hw⟩⟩
  next =>
    refine Holds.bind (holds_getEndpoint hs hw) ?_
    rintro ⟨e, s₁⟩ w₁ ⟨hm₁, hI₁⟩
    refine Holds.bind (holds_isLoggedIn hs hI₁) ?_
    rintro ⟨b, s₂⟩ w₂ ⟨hm₂, hI₂, _⟩
    have hm := hm₁.trans hm₂
    have htoken : s₂.apiToken = s.apiToken := hm.apiToken
    refine Holds.bind (holds_op (Q := fun o w' => s.Sent next I c o w')
      (hs.permits _ _ (by simp)) ?_) ?_
    · intro o w' h
      refine ⟨w₂, e, _, hI₂, ?_, h⟩
      cases b
      · exact .inl rfl
      · exact .inr (congrArg some htoken)
    · intro o w' h
      exact holds_pure ⟨hm, .inr ⟨o, rfl, h⟩⟩

/-- The invariant counts the transient errors. -/
def Weathers (next : σ → ClientEvent → σ → Prop) (J : Nat → σ → Prop) (c : ApiCall) : Prop :=
  ∀ k w e a (o : Exchange c.Resp) w', J k w → transientOutcome o.outcome = true →
    next w ⟨.exchange e c a, o⟩ w' → J (k + 1) w'

/-- A request ends with an error after so many transient ones or for want of endpoints, or with the
reply that decides its result. -/
def Session.Requested (s : Session) (next : σ → ClientEvent → σ → Prop) (J : Nat → σ → Prop)
    (c : ApiCall) (attempts : Nat) (r : Except Err c.Resp) (w' : σ) : Prop :=
  (∃ e, r = .error e ∧ (J attempts w' ∨ s.credentials.endpoints = [] ∧ ∃ k, J k w')) ∨
    ∃ k o, s.Sent next (J k) c o w' ∧ transientOutcome o.outcome = false ∧
      r = Session.requestResult o

theorem requestResult_of_transient {o : Exchange c.Resp} (h : transientOutcome o.outcome = true) :
    ∃ e, Session.requestResult o = .error e :=
  ⟨_, by rw [Session.requestResult, answer_of_transient h]⟩

variable {J : Nat → σ → Prop}

theorem holds_rotateEndpoint_transient {o : Exchange c.Resp} {s₁ : Session} {k : Nat}
    (hs : ∀ k, Steady next P (J k) B) (hc : Weathers next J c) (hm : s.Moves B s₁)
    (hsent : s.Sent next (J k) c o w) (ht : transientOutcome o.outcome = true) :
    s₁.rotateEndpoint.Holds next P (fun s₂ w' => s.Moves B s₂ ∧ J (k + 1) w') w := by
  obtain ⟨w₁, e, a, hJ, -, hn⟩ := hsent
  refine (holds_rotateEndpoint (hs (k + 1)) (hc _ _ _ _ _ _ hJ ht hn)).imp ?_
  rintro s₂ w' ⟨hm₂, hJ⟩
  exact ⟨hm.trans hm₂, hJ⟩

theorem holds_retryBackoff (hs : ∀ k, Steady next P (J k) B) (hc : Weathers next J c) (n : Nat)
    {k : Nat} (hw : J k w) : (Session.retryBackoff c n s).Holds next P
      (fun x w' => s.Moves B x.2 ∧ s.Requested next J c (k + n + 1) x.1 w') w := by
  induction n generalizing s w k with
  | zero =>
    unfold Session.retryBackoff
    refine Holds.bind (holds_send (hs k) hw) ?_
    rintro ⟨o, s₁⟩ w₁ ⟨hm, ⟨ho, hnil, hJ⟩ | ⟨o, ho, hsent⟩⟩ <;> cases ho
    · exact holds_pure ⟨hm, .inl ⟨_, rfl, .inr ⟨hnil, k, hJ⟩⟩⟩
    · dsimp only
      split
      next ht =>
        refine Holds.bind (holds_rotateEndpoint_transient hs hc hm hsent ht) ?_
        rintro s₂ w₃ ⟨hm, hJ⟩
        obtain ⟨e, he⟩ := requestResult_of_transient ht
        exact holds_pure ⟨hm, .inl ⟨e, he, .inl hJ⟩⟩
      next ht => exact holds_pure ⟨hm, .inr ⟨k, o, hsent, by simpa using ht, rfl⟩⟩
  | succ n ih =>
    unfold Session.retryBackoff
    refine Holds.bind (holds_send (hs k) hw) ?_
    rintro ⟨o, s₁⟩ w₁ ⟨hm, ⟨ho, hnil, hJ⟩ | ⟨o, ho, hsent⟩⟩ <;> cases ho
    · exact holds_pure ⟨hm, .inl ⟨_, rfl, .inr ⟨hnil, k, hJ⟩⟩⟩
    · dsimp only
      split
      next ht =>
        refine Holds.bind (holds_rotateEndpoint_transient hs hc hm hsent ht) ?_
        rintro s₂ w₃ ⟨hm, hJ⟩
        refine (ih hJ).imp ?_
        rintro ⟨r, s₃⟩ w₄ ⟨hm₃, hr⟩
        refine ⟨hm.trans hm₃, ?_⟩
        simpa only [Session.Requested, Session.Sent, hm.apiToken, hm.credentials,
          Nat.add_right_comm k 1 n, ← Nat.add_assoc] using hr
      next ht => exact holds_pure ⟨hm, .inr ⟨k, o, hsent, by simpa using ht, rfl⟩⟩

theorem holds_request (hs : ∀ k, Steady next P (J k) B) (hc : Weathers next J c) (hw : J 0 w) :
    (s.request c).Holds next P
      (fun x w' => s.Moves B x.2 ∧ s.Requested next J c apiRetryMaxCount x.1 w') w :=
  holds_retryBackoff (s := s) hs hc (apiRetryMaxCount - 1) hw

end Specs

end CsiWekafs
