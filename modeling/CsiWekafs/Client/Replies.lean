import Mathlib.Data.List.Induction
import CsiWekafs.Client.Requests

namespace CsiWekafs

open Prog

/-- The last reply of a run. -/
def lastReply (t : List ClientEvent) : Option Reply := t.foldl (fun w e => (replyOf e).or w) none

/-- A reply with a status of success, without error codes, whose data was decoded; or an empty one
that says that there is no content. -/
def Exchange.Good {α : Type} : Exchange α → Prop
  | .reply status errorCodes _ decoded _ =>
    200 ≤ status ∧ status < 300 ∧ errorCodes = [] ∧ decoded = true
  | .malformed status empty => status = 204 ∧ empty = true
  | _ => False

def isAcceptedStatus (status : Nat) : Prop :=
  status = 200 ∨ status = 201 ∨ status = 202 ∨ status = 204

/-- A reply that passes for success. -/
def Exchange.Accepted {α : Type} : Exchange α → Prop
  | .reply status _ _ _ _ => isAcceptedStatus status
  | _ => False

/-- A reply that is taken for a success although it reports error codes or was not decoded, or for an
error although it is a success with another status or without a body. -/
def Exchange.Misjudged {α : Type} : Exchange α → Prop
  | .reply status errorCodes _ decoded _ =>
    (isAcceptedStatus status ∧ (errorCodes ≠ [] ∨ decoded = false)) ∨
      (¬ isAcceptedStatus status ∧ 200 ≤ status ∧ status < 300 ∧ errorCodes = [] ∧ decoded = true)
  | .malformed status empty => status = 204 ∧ empty = true
  | _ => False

theorem accepted_iff_good {α : Type} {o : Exchange α} :
    (o.Accepted ↔ o.Good) ↔ ¬ o.Misjudged := by
  cases o with
  | transport | unreadable => simp [Exchange.Accepted, Exchange.Good, Exchange.Misjudged]
  | malformed status empty =>
    simp only [Exchange.Accepted, Exchange.Good, Exchange.Misjudged, false_iff]
  | reply status errorCodes message decoded data =>
    have hrange : isAcceptedStatus status → 200 ≤ status ∧ status < 300 := by
      unfold isAcceptedStatus
      omega
    simp only [Exchange.Accepted, Exchange.Good, Exchange.Misjudged]
    by_cases ha : isAcceptedStatus status
    · obtain ⟨hlow, hhigh⟩ := hrange ha
      simp [ha, hlow, hhigh]
    · simp [ha]

theorem statusError_eq_none {status : Nat} (message : Str) :
    statusError status message = none ↔ isAcceptedStatus status := by
  unfold statusError isAcceptedStatus
  split
  next h => simp only [h]
  next h =>
    simp only [h, iff_false]
    repeat' split
    all_goals simp

theorem requestResult_ok {c : ApiCall} {o : Exchange c.Resp} :
    (∃ data, Session.requestResult o = .ok data) ↔ o.Accepted := by
  cases o with
  | reply status errorCodes message decoded data =>
    simp only [Exchange.Accepted, ← statusError_eq_none message]
    cases hs : statusError status message with
    | none => simp [Session.requestResult, answer, attempt, doRequest, Exchange.outcome, hs]
    | some e =>
      simp only [Session.requestResult, answer, attempt, doRequest, Exchange.outcome, hs,
        reduceCtorEq, iff_false, not_exists]
      intro data h
      split at h <;> cases h
      split at * <;> simp_all
  | _ =>
    simp [Session.requestResult, answer, attempt, doRequest, Exchange.outcome, Exchange.Accepted,
      isTransient]

theorem not_accepted_of_transient {c : ApiCall} {o : Exchange c.Resp}
    (h : transientOutcome o.outcome = true) : ¬ o.Accepted := by
  rw [← requestResult_ok]
  rintro ⟨data, hd⟩
  obtain ⟨e, he⟩ := requestResult_of_transient h
  cases he.symm.trans hd

/-- A request returns nil after a reply that it accepts, and for no other reason. -/
theorem runs_request_session {s s' : Session} {c : ApiCall} {t : List ClientEvent}
    {r : Except Err c.Resp} (h : Runs (s.request c) t (r, s')) :
    (∃ data, r = .ok data) ↔ ∃ x, lastReply t = some x ∧ x.2.Accepted := by
  let next : Option Reply → ClientEvent → Option Reply → Prop := fun w e w' => w' = (replyOf e).or w
  let I : Option Reply → Prop := fun w => ∀ x, w = some x → transientOutcome x.2.outcome = true
  have hs : Steady next (fun _ _ => True) I (fun _ => True) := by
    refine ⟨fun _ _ _ => trivial, ?_, fun _ _ _ _ _ _ => trivial⟩
    rintro w e w' hI hn he
    rw [show w' = w by simpa [next, he] using hn]
    exact hI
  have hc : Weathers next (fun _ => I) c := by
    rintro k w e a o w' _ ho hn x hx
    cases (hn.symm.trans hx : some ⟨c, o⟩ = some x)
    exact ho
  have hnone : I none := fun _ h => nomatch h
  have hend := ends_iff.mp (holds_request (fun _ => hs) hc hnone) t _ _ h (follows_foldl _ none t)
  obtain ⟨-, ⟨e, he, hI⟩ | ⟨k, o, ⟨w₁, e, a, -, -, hn⟩, -, hr⟩⟩ := hend
  · cases he
    replace hI : I (lastReply t) := by
      rcases hI with hI | ⟨-, k, hI⟩ <;> exact hI
    constructor
    · rintro ⟨data, hd⟩
      cases hd
    · rintro ⟨x, hx, ha⟩
      exact (not_accepted_of_transient (hI x hx) ha).elim
  · have hr : r = Session.requestResult o := hr
    have hlast : lastReply t = some ⟨c, o⟩ := hn
    rw [hr, requestResult_ok, hlast]
    constructor
    · exact fun ha => ⟨_, rfl, ha⟩
    · rintro ⟨x, hx, ha⟩
      cases hx
      exact ha

theorem exists_of_lastReply {t : List ClientEvent} {x : Reply} (h : lastReply t = some x) :
    ∃ e ∈ t, replyOf e = some x := by
  induction t using List.reverseRecOn with
  | nil => cases h
  | append_singleton t e ih =>
    rw [lastReply, List.foldl_append] at h
    rcases Option.or_eq_some_iff.mp h with he | ⟨_, h⟩
    · exact ⟨e, by simp, he⟩
    · obtain ⟨e', he', hx⟩ := ih h
      exact ⟨e', by simp [he'], hx⟩

/-- A cluster that answers by the number of the exchange, at one moment. -/
def clientEnv (answers : Nat → (c : ApiCall) → Option Str → Exchange c.Resp) :
    Nat → (o : ClientOp) → Option (o.Ans × Nat)
  | n, .now last => some (⟨last, le_rfl⟩, n)
  | n, .choose => some ((0 : Nat), n)
  | n, .exchange _ c a => some (answers n c a, n + 1)
  | _, .relock => none
  | _, .nilEndpoint => none

theorem reply_of_clientEnv {answers : Nat → (c : ApiCall) → Option Str → Exchange c.Resp}
    {G : Reply → Prop} (h : ∀ n c a, G ⟨c, answers n c a⟩) {α : Type} {p : ClientM α} {t : List ClientEvent} {a : α} {n : Nat}
    (hp : exec (clientEnv answers) n p = some (t, a)) {x : Reply} (hx : lastReply t = some x) : G x := by
  have hall := answers_of_exec (A := fun e => ∀ x, replyOf e = some x → G x) ?_ hp
  · obtain ⟨e, he, hx⟩ := exists_of_lastReply hx
    exact hall e he x hx
  · intro n o r n' ho x hx
    cases o with
    | exchange e c a =>
      cases hx
      cases ho
      exact h n c a
    | _ => cases hx

/-- A request returns nil exactly after a good reply, unless its last reply is misjudged. -/
theorem request_nil_iff_good {s s' : Session} {c : ApiCall} {t : List ClientEvent}
    {r : Except Err c.Resp} (h : Runs (s.request c) t (r, s')) :
    ((∃ data, r = .ok data) ↔ ∃ x, lastReply t = some x ∧ x.2.Good) ↔
      ∀ x, lastReply t = some x → ¬ x.2.Misjudged := by
  rw [runs_request_session h]
  cases hx : lastReply t with
  | none => simp
  | some x =>
    simp only [Option.some.injEq, exists_eq_left', forall_eq']
    exact accepted_iff_good

/-- A client with a valid token and one endpoint. -/
def tokenSession : Session where
  credentials := { username := "csi", password := "secret", endpoints := ["10.0.0.1"] }
  endpoints := Endpoints.resetDefaultEndpoints ⟨["10.0.0.1"], ∅, []⟩ 0
  apiToken := "first"
  apiTokenExpiryDate := 1
  refreshTokenExpiryDate := zeroTime
  clock := 0

def containersCall : ApiCall := .other "GET" "containers" none

theorem request_nil_iff_good_plain : ∃ t r s', Runs (tokenSession.request containersCall) t (r, s') ∧
    ((∃ data, r = .ok data) ↔ ∃ x, lastReply t = some x ∧ x.2.Good) := by
  let answers : Nat → (c : ApiCall) → Option Str → Exchange c.Resp := fun _ c _ =>
    .reply 200 [] [] true c.zero
  obtain ⟨⟨t, r, s'⟩, hx⟩ := Option.isSome_iff_exists.mp
    (show (exec (clientEnv answers) 0 (tokenSession.request containersCall)).isSome by decide +kernel)
  refine ⟨t, r, s', runs_of_exec hx, (request_nil_iff_good (runs_of_exec hx)).mpr ?_⟩
  intro x hl
  refine reply_of_clientEnv (G := fun x => ¬ x.2.Misjudged) (fun _ c _ => ?_) hx hl
  simp [answers, Exchange.Misjudged, isAcceptedStatus]

/-- A reply with error codes ends a request with nil, and one without content ends it with an error. -/
theorem request_nil_of_error_codes :
    (∃ t data s', Runs (tokenSession.request containersCall) t (.ok data, s') ∧
      ∀ x, lastReply t = some x → ¬ x.2.Good) ∧
    ∃ t e s' x, Runs (tokenSession.request containersCall) t (.error e, s') ∧
      lastReply t = some x ∧ x.2.Good := by
  constructor
  · let answers : Nat → (c : ApiCall) → Option Str → Exchange c.Resp := fun _ c _ =>
      .reply 200 ["OperationFailedException"] [] false c.zero
    obtain ⟨⟨t, data, s'⟩, hx, hr⟩ := (Option.any_eq_true _ _).mp
      (show (exec (clientEnv answers) 0 (tokenSession.request containersCall)).any
        (fun x => x.2.1.isOk) by decide +kernel)
    cases data with
    | error e => cases hr
    | ok data =>
      refine ⟨t, data, s', runs_of_exec hx, fun x hl => ?_⟩
      refine reply_of_clientEnv (G := fun x => ¬ x.2.Good) (fun _ c _ => ?_) hx hl
      simp [answers, Exchange.Good]
  · let answers : Nat → (c : ApiCall) → Option Str → Exchange c.Resp := fun _ _ _ => .malformed 204 true
    obtain ⟨⟨t, r, s'⟩, hx, hr⟩ := (Option.any_eq_true _ _).mp
      (show (exec (clientEnv answers) 0 (tokenSession.request containersCall)).any
        (fun x => !x.2.1.isOk && (lastReply x.1).isSome) by decide +kernel)
    obtain ⟨hr, hl⟩ := Bool.and_eq_true_iff.mp hr
    obtain ⟨x, hl⟩ := Option.isSome_iff_exists.mp hl
    cases r with
    | ok data => cases hr
    | error e =>
      refine ⟨t, e, s', x, runs_of_exec hx, hl, ?_⟩
      refine reply_of_clientEnv (G := fun x => x.2.Good) (fun _ c _ => ?_) hx hl
      exact ⟨rfl, rfl⟩

end CsiWekafs
