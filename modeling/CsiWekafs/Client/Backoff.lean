import Mathlib.Data.ENat.Lattice
import CsiWekafs.Client.Unauthorized

namespace CsiWekafs

open Prog

/-- What one attempt returns: nil, an error that is not to be retried with the one inside it, or
another error. -/
inductive Attempt (ε : Type)
  | success
  | nonTransient (inner : Option ε)
  | transient (err : ε)
  deriving DecidableEq

def Attempt.isTransient {ε : Type} : Attempt ε → Bool
  | .transient _ => true
  | _ => false

/-- The error that is returned for an attempt after which there is no other. None is nil. -/
def Attempt.inner {ε : Type} : Attempt ε → Option ε
  | .nonTransient inner => inner
  | _ => none

inductive BackoffResult (ε : Type)
  | returned (err : Option ε)
  | retriesExceeded (err : ε) (retries : Nat)
  deriving DecidableEq

def retryBackoffExponentialFactor : Int64 := 1

/-- A random number below a bound, made from any number. None is a panic. -/
def int63n (n : Int64) (draw : Nat) : Option Int64 :=
  if n ≤ 0 then none else some (Int64.ofInt (draw % n.toInt))

/-- Makes an attempt and, after a transient error, waits and makes another one while there are
attempts left. The numbers drawn for the waits are given; none is a panic. -/
def ApiClient.retryBackoff {Op : Type} {Ans : Op → Type} {ε σ : Type}
    (f : σ → Prog Ans (Attempt ε × σ)) :
    Nat → (ℕ → Nat) → Int64 → σ → Prog Ans (Option (BackoffResult ε × σ))
  | attempts, draw, sleep, s => do
    let (r, s) ← f s
    match r with
    | .success => return some (.returned none, s)
    | .nonTransient inner => return some (.returned inner, s)
    | .transient err =>
      match attempts with
      | n + 2 =>
        match int63n sleep (draw 0) with
        | none => return none
        | some jitter =>
          retryBackoff f (n + 1) (fun i => draw (i + 1))
            (retryBackoffExponentialFactor * (sleep + jitter / 2)) s
      | _ => return some (.retriesExceeded err attempts, s)

/-- An operation whose attempts come to the outcomes of a sequence. It counts them. -/
def attemptsOf {Op : Type} (Ans : Op → Type) {ε : Type} (o : ℕ → Attempt ε) (i : ℕ) :
    Prog Ans (Attempt ε × ℕ) :=
  pure (o i, i + 1)

def nextSleep (sleep : Int64) (draw : Nat) : Int64 :=
  retryBackoffExponentialFactor * (sleep + Int64.ofInt (draw % sleep.toInt) / 2)

/-- The bound of each number that is drawn. -/
def sleepAt (draw : ℕ → Nat) (sleep : Int64) : ℕ → Int64
  | 0 => sleep
  | i + 1 => nextSleep (sleepAt draw sleep i) (draw i)

/-- The place of the first outcome after which there is no retry, from one. -/
noncomputable def firstSettled {ε : Type} (o : ℕ → Attempt ε) : ℕ∞ :=
  ⨅ i, ⨅ _ : (o i).isTransient = false, ((i + 1 : ℕ) : ℕ∞)

/-- So many calls, and the result, are those of so many attempts at a sequence of outcomes. -/
structure RetriesOnce {ε : Type} (o : ℕ → Attempt ε) (n : ℕ) (r : BackoffResult ε) (calls : ℕ) :
    Prop where
  calls : (calls : ℕ∞) = min (n : ℕ∞) (firstSettled o)
  settled : ∀ k < n, (∀ i < k, (o i).isTransient = true) → (o k).isTransient = false →
    r = .returned (o k).inner
  exceeded : (∃ e retries, r = .retriesExceeded e retries ∧ o (n - 1) = .transient e) ↔
    ∀ i < n, (o i).isTransient = true

section

variable {Op : Type} {Ans : Op → Type} {ε : Type} {o : ℕ → Attempt ε}

theorem sleepAt_tail (draw : ℕ → Nat) (sleep : Int64) (i : ℕ) :
    sleepAt (fun i => draw (i + 1)) (nextSleep sleep (draw 0)) i = sleepAt draw sleep (i + 1) := by
  induction i with
  | zero => rfl
  | succ i ih =>
    rw [sleepAt, ih]
    rfl

theorem firstSettled_eq {k : ℕ} (hpre : ∀ i < k, (o i).isTransient = true)
    (hk : (o k).isTransient = false) : firstSettled o = (k + 1 : ℕ) := by
  refine le_antisymm (iInf₂_le k hk) (le_iInf₂ fun i hi => ?_)
  have hki : k ≤ i := by
    by_contra hlt
    rw [hpre i (by omega)] at hi
    cases hi
  exact_mod_cast Nat.succ_le_succ hki

theorem le_firstSettled {n : ℕ} (h : ∀ i < n, (o i).isTransient = true) :
    (n : ℕ∞) ≤ firstSettled o := by
  refine le_iInf₂ fun i hi => ?_
  have hni : n ≤ i := by
    by_contra hlt
    rw [h i (by omega)] at hi
    cases hi
  exact_mod_cast hni.trans (Nat.le_succ i)

theorem retryBackoff_of_settled {n : ℕ} {draw : ℕ → Nat} {sleep : Int64} {j : ℕ}
    (h : (o j).isTransient = false) :
    ApiClient.retryBackoff (attemptsOf Ans o) n draw sleep j =
      pure (some (.returned (o j).inner, j + 1)) := by
  rw [ApiClient.retryBackoff, attemptsOf]
  cases ho : o j with
  | success => rfl
  | nonTransient inner => rfl
  | transient err =>
    rw [ho] at h
    cases h

theorem retryBackoff_one {draw : ℕ → Nat} {sleep : Int64} {j : ℕ} {e : ε}
    (h : o j = .transient e) :
    ApiClient.retryBackoff (attemptsOf Ans o) 1 draw sleep j =
      pure (some (.retriesExceeded e 1, j + 1)) := by
  rw [ApiClient.retryBackoff, attemptsOf, h]
  rfl

theorem retryBackoff_again {n : ℕ} {draw : ℕ → Nat} {sleep : Int64} {j : ℕ}
    (h : (o j).isTransient = true) (hs : 0 < sleep) :
    ApiClient.retryBackoff (attemptsOf Ans o) (n + 2) draw sleep j =
      ApiClient.retryBackoff (attemptsOf Ans o) (n + 1) (fun i => draw (i + 1))
        (nextSleep sleep (draw 0)) (j + 1) := by
  have hd : int63n sleep (draw 0) = some (Int64.ofInt (draw 0 % sleep.toInt)) :=
    if_neg (Int64.not_le.mpr hs)
  rw [ApiClient.retryBackoff, attemptsOf]
  cases ho : o j with
  | success => rw [ho] at h; cases h
  | nonTransient inner => rw [ho] at h; cases h
  | transient err =>
    dsimp only [Bind.bind, Prog.bind, Pure.pure]
    rw [hd]
    rfl

theorem retryBackoff_stuck {n : ℕ} {draw : ℕ → Nat} {sleep : Int64} {j : ℕ}
    (h : (o j).isTransient = true) (hs : sleep ≤ 0) :
    ApiClient.retryBackoff (attemptsOf Ans o) (n + 2) draw sleep j = pure none := by
  have hd : int63n sleep (draw 0) = none := if_pos hs
  rw [ApiClient.retryBackoff, attemptsOf]
  cases ho : o j with
  | success => rw [ho] at h; cases h
  | nonTransient inner => rw [ho] at h; cases h
  | transient err =>
    dsimp only [Bind.bind, Prog.bind, Pure.pure]
    rw [hd]

/-- After so many transient errors and waits, the attempts go on where they are. -/
theorem retryBackoff_after {n : ℕ} (k : ℕ) {draw : ℕ → Nat} {sleep : Int64} {j : ℕ}
    (h : ∀ i < k, (o (j + i)).isTransient = true) (hs : ∀ i < k, 0 < sleepAt draw sleep i) :
    ApiClient.retryBackoff (attemptsOf Ans o) (n + k + 1) draw sleep j =
      ApiClient.retryBackoff (attemptsOf Ans o) (n + 1) (fun i => draw (i + k)) (sleepAt draw sleep k)
        (j + k) := by
  induction k generalizing draw sleep j with
  | zero => rfl
  | succ k ih =>
    have hj : (o j).isTransient = true := h 0 (by omega)
    have hsleep : 0 < sleep := hs 0 (by omega)
    rw [← Nat.add_assoc, retryBackoff_again hj hsleep, ih]
    · rw [sleepAt_tail, Nat.add_right_comm j 1 k]
      simp only [Nat.add_right_comm _ k 1, ← Nat.add_assoc]
    · intro i hi
      have := h (i + 1) (by omega)
      rwa [Nat.add_comm i 1, ← Nat.add_assoc] at this
    · intro i hi
      rw [sleepAt_tail]
      exact hs (i + 1) (by omega)

/-- No number is drawn below a bound that is not positive. -/
def SleepsWell (o : ℕ → Attempt ε) (n : ℕ) (draw : ℕ → Nat) (sleep : Int64) : Prop :=
  ∀ i, i + 1 < n → (∀ i' ≤ i, (o i').isTransient = true) → 0 < sleepAt draw sleep i

theorem retryBackoff_settles {k n : ℕ} {draw : ℕ → Nat} {sleep : Int64} (hk : k < n)
    (hpre : ∀ i < k, (o i).isTransient = true) (hset : (o k).isTransient = false)
    (hs : SleepsWell o n draw sleep) :
    ApiClient.retryBackoff (attemptsOf Ans o) n draw sleep 0 =
      pure (some (.returned (o k).inner, k + 1)) := by
  obtain ⟨m, rfl⟩ : ∃ m, n = m + k + 1 := ⟨n - k - 1, by omega⟩
  rw [retryBackoff_after k, Nat.zero_add, retryBackoff_of_settled hset]
  · intro i hi
    rw [Nat.zero_add]
    exact hpre i hi
  · intro i hi
    exact hs i (by omega) fun i' hi' => hpre i' (by omega)

theorem retryBackoff_exceeds {n : ℕ} {draw : ℕ → Nat} {sleep : Int64} {e : ε}
    (h : ∀ i < n + 1, (o i).isTransient = true) (he : o n = .transient e)
    (hs : SleepsWell o (n + 1) draw sleep) :
    ApiClient.retryBackoff (attemptsOf Ans o) (n + 1) draw sleep 0 =
      pure (some (.retriesExceeded e 1, n + 1)) := by
  have he' : o (0 + n) = .transient e := by rwa [Nat.zero_add]
  rw [← Nat.zero_add n, retryBackoff_after n, retryBackoff_one he']
  · intro i hi
    rw [Nat.zero_add]
    exact h i (by omega)
  · intro i hi
    exact hs i (by omega) fun i' hi' => h i' (by omega)

theorem retryBackoff_panics {n i : ℕ} {draw : ℕ → Nat} {sleep : Int64} (hi : i + 1 < n)
    (h : ∀ i' ≤ i, (o i').isTransient = true) (hpre : ∀ i' < i, 0 < sleepAt draw sleep i')
    (hs : sleepAt draw sleep i ≤ 0) :
    ApiClient.retryBackoff (attemptsOf Ans o) n draw sleep 0 = pure none := by
  obtain ⟨m, rfl⟩ : ∃ m, n = (m + 1) + i + 1 := ⟨n - i - 2, by omega⟩
  rw [retryBackoff_after i, Nat.zero_add, retryBackoff_stuck (h i le_rfl) hs]
  · intro i' hi'
    rw [Nat.zero_add]
    exact h i' (by omega)
  · exact hpre

theorem exists_first {n : ℕ} (h : ¬ ∀ i < n, (o i).isTransient = true) :
    ∃ k < n, (∀ i < k, (o i).isTransient = true) ∧ (o k).isTransient = false := by
  have hex : ∃ k, k < n ∧ (o k).isTransient = false := by
    simpa only [not_forall, exists_prop, Bool.not_eq_true] using h
  refine ⟨Nat.find hex, (Nat.find_spec hex).1, ?_, (Nat.find_spec hex).2⟩
  intro i hi
  have hmin := Nat.find_min hex hi
  have hlt := (Nat.find_spec hex).1
  by_contra ht
  exact hmin ⟨by omega, by simpa using ht⟩

theorem retriesOnce_settled {k n : ℕ} (hk : k < n) (hpre : ∀ i < k, (o i).isTransient = true)
    (hset : (o k).isTransient = false) : RetriesOnce o n (.returned (o k).inner) (k + 1) where
  calls := by
    rw [firstSettled_eq hpre hset, min_eq_right]
    exact_mod_cast hk
  settled k' hk' hpre' hset' := by
    have hle : k' ≤ k := by
      by_contra hlt
      rw [hpre' k (by omega)] at hset
      cases hset
    have hge : k ≤ k' := by
      by_contra hlt
      rw [hpre k' (by omega)] at hset'
      cases hset'
    rw [le_antisymm hle hge]
  exceeded := by
    constructor
    · rintro ⟨e, retries, he, -⟩
      cases he
    · intro h
      rw [h k hk] at hset
      cases hset

theorem retriesOnce_exceeded {n : ℕ} {e : ε} (h : ∀ i < n + 1, (o i).isTransient = true)
    (he : o n = .transient e) : RetriesOnce o (n + 1) (.retriesExceeded e 1) (n + 1) where
  calls := by rw [min_eq_left (le_firstSettled h)]
  settled k hk _ hset := by
    rw [h k hk] at hset
    cases hset
  exceeded := ⟨fun _ => h, fun _ => ⟨e, 1, rfl, he⟩⟩

/-- The attempts meet their outcomes one after the other as long as no wait is cut short by a panic. -/
theorem retryBackoff_retriesOnce_iff {n : ℕ} (hn : 1 ≤ n) (draw : ℕ → Nat) (sleep : Int64) :
    (∃ r calls, ApiClient.retryBackoff (attemptsOf Ans o) n draw sleep 0 = pure (some (r, calls)) ∧
      RetriesOnce o n r calls) ↔ SleepsWell o n draw sleep := by
  constructor
  · rintro ⟨r, calls, hrun, -⟩
    by_contra hs
    have hex : ∃ i, i + 1 < n ∧ (∀ i' ≤ i, (o i').isTransient = true) ∧ sleepAt draw sleep i ≤ 0 := by
      simpa only [SleepsWell, not_forall, exists_prop, Int64.not_lt] using hs
    obtain ⟨hi, htrans, hneg⟩ := Nat.find_spec hex
    have hpre : ∀ i' < Nat.find hex, 0 < sleepAt draw sleep i' := by
      intro i' hi'
      by_contra hle
      refine Nat.find_min hex hi' ⟨by omega, fun j hj => htrans j (by omega), ?_⟩
      exact Int64.not_lt.mp hle
    rw [retryBackoff_panics hi htrans hpre hneg] at hrun
    cases hrun
  · intro hs
    by_cases hall : ∀ i < n, (o i).isTransient = true
    · obtain ⟨m, rfl⟩ : ∃ m, n = m + 1 := ⟨n - 1, by omega⟩
      have hlast := hall m (by omega)
      cases he : o m with
      | success => rw [he] at hlast; cases hlast
      | nonTransient inner => rw [he] at hlast; cases hlast
      | transient e =>
        exact ⟨_, _, retryBackoff_exceeds hall he hs, retriesOnce_exceeded hall he⟩
    · obtain ⟨k, hk, hpre, hset⟩ := exists_first hall
      exact ⟨_, _, retryBackoff_settles hk hpre hset hs, retriesOnce_settled hk hpre hset⟩

theorem nextSleep_bounds {sleep : Int64} (draw : Nat) (hs : 0 < sleep.toInt)
    (hlt : 3 * sleep.toInt < 2 ^ 64) :
    0 < (nextSleep sleep draw).toInt ∧ 2 * (nextSleep sleep draw).toInt ≤ 3 * sleep.toInt := by
  have hlow : 0 ≤ (draw : ℤ) % sleep.toInt := Int.emod_nonneg _ (by omega)
  have hhigh : (draw : ℤ) % sleep.toInt < sleep.toInt := Int.emod_lt_of_pos _ hs
  have htop : sleep.toInt < 2 ^ 63 := sleep.toInt_lt
  have hjitter : (Int64.ofInt (draw % sleep.toInt)).toInt = draw % sleep.toInt :=
    Int64.toInt_ofInt_of_le (by omega) (by omega)
  have htwo : (2 : Int64).toInt = 2 := rfl
  have hnext : (nextSleep sleep draw).toInt = sleep.toInt + (draw % sleep.toInt) / 2 := by
    have hhalf : (draw % sleep.toInt / 2).bmod (2 ^ 64) = draw % sleep.toInt / 2 :=
      Int.bmod_eq_of_le (by omega) (by omega)
    rw [nextSleep, retryBackoffExponentialFactor, Int64.one_mul, Int64.toInt_add, Int64.toInt_div,
      hjitter, htwo, Int.tdiv_eq_ediv_of_nonneg hlow, hhalf]
    exact Int.bmod_eq_of_le (by omega) (by omega)
  rw [hnext]
  omega

/-- What the client waits at first. -/
def apiRetryInterval : Int64 := 1000000000

theorem pow_three_lt {i : ℕ} (hi : i ≤ 55) : (3 : ℤ) ^ i * 1000000000 * 3 < 2 ^ i * 2 ^ 64 := by
  have h : ∀ i ≤ 55, 3 ^ i * 1000000000 * 3 < 2 ^ i * 2 ^ 64 := by decide
  exact_mod_cast h i hi

/-- A wait grows by half of itself at most. -/
theorem sleepAt_bounds (draw : ℕ → Nat) {i : ℕ} (hi : i ≤ 56) :
    0 < (sleepAt draw apiRetryInterval i).toInt ∧
      2 ^ i * (sleepAt draw apiRetryInterval i).toInt ≤ 3 ^ i * 1000000000 := by
  induction i with
  | zero =>
    rw [sleepAt]
    decide
  | succ i ih =>
    obtain ⟨hpos, hle⟩ := ih (by omega)
    have hpow : (0 : ℤ) < 2 ^ i := Int.pow_pos (by decide)
    have hlt : 3 * (sleepAt draw apiRetryInterval i).toInt < 2 ^ 64 := by
      have hsmall := pow_three_lt (show i ≤ 55 by omega)
      refine Int.lt_of_mul_lt_mul_left ?_ hpow.le
      rw [mul_left_comm]
      omega
    obtain ⟨hpos', hle'⟩ := nextSleep_bounds (draw i) hpos hlt
    refine ⟨hpos', ?_⟩
    have hmul := Int.mul_le_mul_of_nonneg_left hle' hpow.le
    rw [mul_left_comm _ 3] at hmul
    rw [sleepAt, pow_succ, pow_succ, mul_assoc, mul_right_comm]
    omega

theorem sleepsWell_apiRetryInterval {n : ℕ} (hn : n ≤ 58) (draw : ℕ → Nat) :
    SleepsWell o n draw apiRetryInterval := by
  intro i hi _
  exact Int64.lt_iff_toInt_lt.mpr (sleepAt_bounds draw (by omega)).1

end

def Exchange.statusCode {α : Type} : Exchange α → Nat
  | .reply status _ _ _ _ => status
  | _ => 0

/-- The function that a request retries. The endpoint is rotated after a network error; the caller's
object goes along. -/
def Session.attemptRequest (c : ApiCall) : Session × c.Resp → ClientM (Attempt Err × Session × c.Resp)
  | (s, v) => do
    let (o, s) ← s.send c
    match o with
    | none => return (.nonTransient (some noEndpointsError), s, v)
    | some o =>
      match doRequest o.outcome with
      | .error e =>
        if isTransient e then
          let s ← s.rotateEndpoint
          return (.transient e, s, v)
        else return (.nonTransient (some e), s, v)
      | .ok (errorCodes, data) =>
        if errorCodes ≠ [] then return (.nonTransient none, s, v)
        else if o.statusCode = 200 then return (.success, s, data)
        else return (.nonTransient none, s, data)

def retriesExceededError (retries : Nat) : Err :=
  .api .retriesExceeded ("Failed to perform operation after " ++ itoa retries ++ " retries") 0 []

/-- The error of a request, or nil and the caller's object. -/
def backoffAnswer {α : Type} : BackoffResult Err × Session × α → Except Err α × Session
  | (.returned none, s, v) => (.ok v, s)
  | (.returned (some e), s, _) => (.error e, s)
  | (.retriesExceeded _ retries, s, _) => (.error (retriesExceededError retries), s)

section

variable {c : ApiCall} {s s' : Session}

theorem transientOutcome_of_error {α : Type} {o : HttpOutcome α} {e : Err}
    (h : doRequest o = .error e) : transientOutcome o = isTransient e := by
  rw [transientOutcome, attempt, h]

theorem requestResult_of_error {o : Exchange c.Resp} {e : Err} (h : doRequest o.outcome = .error e) :
    Session.requestResult o = .error (if isTransient e then retriesExceededError 1 else e) := by
  have htext : retriesExceededError 1 =
      .api .retriesExceeded "Failed to perform operation after 1 retries" 0 [] := by decide
  rw [Session.requestResult, answer, attempt, h, htext]
  cases he : isTransient e with
  | true => simp [he]
  | false => simp [he]

theorem requestResult_of_ok {o : Exchange c.Resp} {errorCodes : List Str} {data : c.Resp}
    (h : doRequest o.outcome = .ok (errorCodes, data)) :
    transientOutcome o.outcome = false ∧
      Session.requestResult o = .ok (if errorCodes ≠ [] then c.zero else data) := by
  constructor
  · rw [transientOutcome, attempt, h]
  · rw [Session.requestResult, answer, attempt, h]
    by_cases hc : errorCodes = []
    · simp [hc]
    · simp [hc]

/-- One attempt of a request and what it makes of it, where the attempts that follow agree. -/
theorem retryBackoff_eq_step (n : ℕ) {draw : ℕ → Nat} {sleep : Int64} (hs : 0 < n → 0 < sleep)
    (ih : ∀ m, n = m + 1 → ∀ s,
      (ApiClient.retryBackoff (Session.attemptRequest c) (m + 1) (fun i => draw (i + 1))
        (nextSleep sleep (draw 0)) (s, c.zero) >>= fun x => pure (x.map backoffAnswer)) =
          (Session.retryBackoff c m s >>= fun x => pure (some x) : ClientM _)) :
    (ApiClient.retryBackoff (Session.attemptRequest c) (n + 1) draw sleep (s, c.zero) >>=
      fun x => pure (x.map backoffAnswer)) =
        (Session.retryBackoff c n s >>= fun x => pure (some x) : ClientM _) := by
  rw [ApiClient.retryBackoff, Session.retryBackoff, Session.attemptRequest]
  simp only [bind_bind]
  refine congrArg (s.send c >>= ·) (funext ?_)
  rintro ⟨o, s₁⟩
  cases o with
  | none => rfl
  | some o =>
    cases hd : doRequest o.outcome with
    | error e =>
      have ht := transientOutcome_of_error hd
      have hr := requestResult_of_error hd
      dsimp only
      cases he : isTransient e with
      | false =>
        rw [he] at ht hr
        rw [hd, ht, hr]
        simp only [he, Bool.false_eq_true, if_false]
        rfl
      | true =>
        rw [he] at ht hr
        rw [hd, ht, hr]
        simp only [he, if_true, bind_bind]
        refine congrArg (s₁.rotateEndpoint >>= ·) (funext fun s₂ => ?_)
        cases n with
        | zero => rfl
        | succ m =>
          have hint : int63n sleep (draw 0) = some (Int64.ofInt (draw 0 % sleep.toInt)) :=
            if_neg (Int64.not_le.mpr (hs (by omega)))
          dsimp only [Bind.bind, Prog.bind, Pure.pure]
          rw [hint]
          exact ih m rfl s₂
    | ok x =>
      obtain ⟨errorCodes, data⟩ := x
      obtain ⟨ht, hr⟩ := requestResult_of_ok hd
      dsimp only
      rw [hd, ht, hr]
      by_cases hc : errorCodes = []
      · by_cases hstatus : o.statusCode = 200
        · simp only [hc, hstatus, ne_eq, not_true, if_false, if_true]
          rfl
        · simp only [hc, hstatus, ne_eq, not_true, if_false]
          rfl
      · simp only [hc, ne_eq, not_false_eq_true, if_true]
        rfl

theorem retryBackoff_eq (n : ℕ) {draw : ℕ → Nat} {sleep : Int64}
    (hs : ∀ i < n, 0 < sleepAt draw sleep i) :
    (ApiClient.retryBackoff (Session.attemptRequest c) (n + 1) draw sleep (s, c.zero) >>=
      fun x => pure (x.map backoffAnswer)) =
        (Session.retryBackoff c n s >>= fun x => pure (some x) : ClientM _) := by
  induction n generalizing s draw sleep with
  | zero =>
    refine retryBackoff_eq_step 0 (fun h => absurd h (lt_irrefl 0)) ?_
    intro m hm
    cases hm
  | succ n ih =>
    refine retryBackoff_eq_step (n + 1) (fun _ => hs 0 (by omega)) ?_
    intro m hm s₁
    cases hm
    refine ih fun i hi => ?_
    rw [sleepAt_tail]
    exact hs (i + 1) (by omega)

/-- A request is sent again by the general function. -/
theorem request_eq_retryBackoff (s : Session) (c : ApiCall) (draw : ℕ → Nat) :
    (ApiClient.retryBackoff (Session.attemptRequest c) apiRetryMaxCount draw apiRetryInterval
      (s, c.zero) >>= fun x => pure (x.map backoffAnswer)) =
        (s.request c >>= fun x => pure (some x) : ClientM _) := by
  refine retryBackoff_eq 4 fun i hi => ?_
  exact Int64.lt_iff_toInt_lt.mpr (sleepAt_bounds draw (by omega)).1

/-- The endpoint is rotated once. -/
def IsRotation (t : List ClientEvent) : Prop :=
  ∃ last now pick, t = [⟨.now last, now⟩, ⟨.choose, pick⟩]

/-- One attempt of a call: the exchange, after which there is a rotation where the reply is a network
error and nothing else otherwise. -/
def Tried (c : ApiCall) (o : Exchange c.Resp) (t : List ClientEvent) : Prop :=
  ∃ before e a after, t = before ++ ⟨.exchange e c a, o⟩ :: after ∧ (∀ x ∈ before, replyOf x = none) ∧
    (transientOutcome o.outcome = true → IsRotation after) ∧
    (transientOutcome o.outcome = false → after = [])

/-- A request of so many attempts at most. A reply is followed by another attempt exactly where it is a
network error and there is an attempt left. -/
structure Session.RetriesRequest (s : Session) (c : ApiCall) (n : ℕ) (os : List (Exchange c.Resp))
    (ts : List (List ClientEvent)) (r : Except Err c.Resp) : Prop where
  tried : List.Forall₂ (Tried c) os ts
  retried : ∀ i o, os[i]? = some o →
    (i + 1 < os.length ↔ transientOutcome o.outcome = true ∧ i + 1 < n)
  result : ∀ o, os.getLast? = some o → r = Session.requestResult o
  sent : os = [] → s.credentials.endpoints = [] ∧ r = .error noEndpointsError

theorem runs_isLoggedIn_quiet {t : List ClientEvent} {x : Bool} (h : Runs s.isLoggedIn t (x, s')) :
    (∀ y ∈ t, replyOf y = none) ∧ s'.credentials = s.credentials := by
  unfold Session.isLoggedIn at h
  rw [runs_ite] at h
  obtain ⟨-, h⟩ | ⟨-, h⟩ := h
  · obtain ⟨rfl, hx⟩ := runs_pure.mp h
    cases hx
    exact ⟨by simp, rfl⟩
  · obtain ⟨now, u, rfl, hu⟩ := runs_call.mp h
    cases hu
    exact ⟨by simp [replyOf], rfl⟩

theorem runs_getEndpoint_quiet {t : List ClientEvent} {e : ApiEndPoint}
    (h : Runs s.getEndpoint t (e, s')) :
    (∀ y ∈ t, replyOf y = none) ∧ s'.credentials = s.credentials := by
  obtain ⟨h, -⟩ := runs_getEndpoint.mp h
  obtain ⟨-, rfl, rfl⟩ | ⟨-, now, hnow, pick, rfl, rfl⟩ := runs_chooseEndpoint.mp h
  · exact ⟨by simp, rfl⟩
  · exact ⟨by simp [replyOf], rfl⟩

theorem runs_send {t : List ClientEvent} {x : Option (Exchange c.Resp)}
    (hne : s.credentials.endpoints ≠ []) (h : Runs (s.send c) t (x, s')) :
    ∃ before e a o, x = some o ∧ t = before ++ [⟨.exchange e c a, o⟩] ∧
      (∀ y ∈ before, replyOf y = none) ∧ s'.credentials = s.credentials := by
  unfold Session.send at h
  rw [if_neg (by simpa [List.length_eq_zero_iff] using hne)] at h
  obtain ⟨⟨e, s₁⟩, t₁, u, h₁, hu, rfl⟩ := runs_bind.mp h
  obtain ⟨⟨b, s₂⟩, t₂, v, h₂, hv, rfl⟩ := runs_bind.mp hu
  obtain ⟨o, w, rfl, hw⟩ := runs_call.mp hv
  cases hw
  obtain ⟨hq₁, hc₁⟩ := runs_getEndpoint_quiet h₁
  obtain ⟨hq₂, hc₂⟩ := runs_isLoggedIn_quiet h₂
  refine ⟨t₁ ++ t₂, e, _, o, rfl, by rw [List.append_assoc], ?_, hc₂.trans hc₁⟩
  intro y hy
  exact (List.mem_append.mp hy).elim (hq₁ y) (hq₂ y)

theorem runs_rotateEndpoint {t : List ClientEvent} (h : Runs s.rotateEndpoint t s') :
    IsRotation t ∧ s'.credentials = s.credentials := by
  obtain ⟨now, u, rfl, hu⟩ := runs_call.mp h
  obtain ⟨pick, v, rfl, hv⟩ := runs_call.mp hu
  cases hv
  exact ⟨⟨_, _, _, rfl⟩, rfl⟩

theorem retriesRequest_last {n : ℕ} {o : Exchange c.Resp} {t : List ClientEvent} (h : Tried c o t)
    (hlast : transientOutcome o.outcome = true → n = 0) :
    s.RetriesRequest c (n + 1) [o] [t] (Session.requestResult o) where
  tried := .cons h .nil
  retried i o' ho := by
    obtain ⟨hi, rfl⟩ := List.getElem?_eq_some_iff.mp ho
    obtain rfl : i = 0 := by simpa using hi
    refine ⟨fun hlt => absurd hlt (by simp), ?_⟩
    rintro ⟨ht, hlt⟩
    have := hlast ht
    omega
  result o' ho := by
    cases ho
    rfl
  sent h := by cases h

theorem Session.RetriesRequest.cons {n : ℕ} {o : Exchange c.Resp} {os : List (Exchange c.Resp)}
    {t : List ClientEvent} {ts : List (List ClientEvent)} {r : Except Err c.Resp}
    (h : s'.RetriesRequest c (n + 1) os ts r) (hos : os ≠ []) (ht : transientOutcome o.outcome = true)
    (hT : Tried c o t) : s.RetriesRequest c (n + 2) (o :: os) (t :: ts) r where
  tried := .cons hT h.tried
  retried i o' ho := by
    cases i with
    | zero =>
      cases ho
      have hlen := List.length_pos_iff.mpr hos
      refine ⟨fun _ => ⟨ht, by omega⟩, fun _ => ?_⟩
      rw [List.length_cons]
      omega
    | succ i =>
      have hi := h.retried i o' ho
      rw [List.length_cons, Nat.add_lt_add_iff_right, hi]
      exact and_congr_right fun _ => by omega
  result o' ho := by
    refine h.result o' ?_
    rwa [List.getLast?_cons_of_ne_nil hos] at ho
  sent h := by cases h

/-- The first attempt of a request, and those that follow it. -/
theorem runs_retryBackoff_first {n : ℕ} {t : List ClientEvent} {r : Except Err c.Resp}
    (hne : s.credentials.endpoints ≠ []) (h : Runs (Session.retryBackoff c n s) t (r, s')) :
    ∃ o t₁ u s₁, t = t₁ ++ u ∧ Tried c o t₁ ∧ s₁.credentials = s.credentials ∧
      ((u = [] ∧ r = Session.requestResult o ∧ (transientOutcome o.outcome = true → n = 0)) ∨
        ∃ m, n = m + 1 ∧ transientOutcome o.outcome = true ∧
          Runs (Session.retryBackoff c m s₁) u (r, s')) := by
  unfold Session.retryBackoff at h
  obtain ⟨⟨x, s₁⟩, t₁, u, h₁, hu, rfl⟩ := runs_bind.mp h
  obtain ⟨before, e, a, o, rfl, rfl, hq, hc₁⟩ := runs_send hne h₁
  obtain ⟨ht, hu⟩ | ⟨ht, hu⟩ := runs_ite.mp hu
  · obtain ⟨s₂, u₁, u₂, hrot, hu₂, rfl⟩ := runs_bind.mp hu
    obtain ⟨hrot, hc₂⟩ := runs_rotateEndpoint hrot
    refine ⟨o, before ++ ⟨.exchange e c a, o⟩ :: u₁, u₂, s₂, by simp, ?_, hc₂.trans hc₁, ?_⟩
    · exact ⟨before, e, a, u₁, rfl, hq, fun _ => hrot, by simp [ht]⟩
    · cases n with
      | zero =>
        cases hu₂
        exact .inl ⟨rfl, rfl, fun _ => rfl⟩
      | succ m => exact .inr ⟨m, rfl, ht, hu₂⟩
  · cases hu
    refine ⟨o, _, [], s, rfl, ?_, rfl, .inl ⟨rfl, rfl, fun h => absurd h ht⟩⟩
    exact ⟨before, e, a, [], rfl, hq, fun h => absurd h ht, fun _ => rfl⟩

theorem runs_retryBackoff_tries {n : ℕ} {t : List ClientEvent} {r : Except Err c.Resp}
    (hne : s.credentials.endpoints ≠ []) (h : Runs (Session.retryBackoff c n s) t (r, s')) :
    ∃ os ts, t = ts.flatten ∧ os ≠ [] ∧ s.RetriesRequest c (n + 1) os ts r := by
  induction n generalizing s t with
  | zero =>
    obtain ⟨o, t₁, u, s₁, rfl, hT, -, ⟨rfl, rfl, ht⟩ | ⟨m, hm, -⟩⟩ := runs_retryBackoff_first hne h
    · exact ⟨[o], [t₁], by simp, by simp, retriesRequest_last hT ht⟩
    · cases hm
  | succ n ih =>
    obtain ⟨o, t₁, u, s₁, rfl, hT, hc, ⟨rfl, rfl, ht⟩ | ⟨m, hm, ht, hu⟩⟩ :=
      runs_retryBackoff_first hne h
    · exact ⟨[o], [t₁], by simp, by simp, retriesRequest_last hT ht⟩
    · cases hm
      obtain ⟨os, ts, rfl, hos, hr⟩ := ih (by rwa [hc]) hu
      exact ⟨o :: os, t₁ :: ts, by simp, by simp, hr.cons hos ht hT⟩

theorem runs_request_tries {t : List ClientEvent} {r : Except Err c.Resp}
    (h : Runs (s.request c) t (r, s')) :
    ∃ os ts, t = ts.flatten ∧ s.RetriesRequest c apiRetryMaxCount os ts r := by
  by_cases hne : s.credentials.endpoints = []
  · unfold Session.request Session.retryBackoff Session.send at h
    rw [if_pos (by simp [hne])] at h
    cases h
    exact ⟨[], [], rfl, .nil, by simp, by simp, fun _ => ⟨hne, rfl⟩⟩
  · obtain ⟨os, ts, ht, -, hr⟩ := runs_retryBackoff_tries hne h
    exact ⟨os, ts, ht, hr⟩

end

/-- So many attempts make so many calls as there are outcomes to meet, exactly where no wait of theirs
overflows; the first 58 never do. A request is sent again after the network errors and nothing else,
with one rotation of the endpoint each time. -/
theorem retryBackoff_retries {ε : Type} (o : ℕ → Attempt ε) {n : ℕ} (hn : 1 ≤ n) (draw : ℕ → Nat)
    (sleep : Int64) (s : Session) (c : ApiCall) :
    ((∃ r calls, ApiClient.retryBackoff (attemptsOf ClientOp.Ans o) n draw sleep 0 =
      pure (some (r, calls)) ∧ RetriesOnce o n r calls) ↔ SleepsWell o n draw sleep) ∧
    (n ≤ 58 → SleepsWell o n draw apiRetryInterval) ∧
    (ApiClient.retryBackoff (Session.attemptRequest c) apiRetryMaxCount draw apiRetryInterval
      (s, c.zero) >>= fun x => pure (x.map backoffAnswer)) =
        (s.request c >>= fun x => pure (some x) : ClientM _) ∧
    ∀ t r s', Runs (s.request c) t (r, s') →
      ∃ os ts, t = ts.flatten ∧ s.RetriesRequest c apiRetryMaxCount os ts r := by
  refine ⟨retryBackoff_retriesOnce_iff hn draw sleep, fun h => sleepsWell_apiRetryInterval h draw,
    request_eq_retryBackoff s c draw, ?_⟩
  intro t r s' h
  exact runs_request_tries h

/-- Two attempts, of which the first is a transient error. -/
theorem retryBackoff_retries_second :
    SleepsWell (fun i => if i = 0 then .transient 7 else .success) 2 (fun _ => 3) 10 ∧
    ∃ r calls, ApiClient.retryBackoff (attemptsOf ClientOp.Ans fun i =>
      if i = 0 then Attempt.transient 7 else .success) 2 (fun _ => 3) 10 0 = pure (some (r, calls)) ∧
      RetriesOnce (fun i => if i = 0 then Attempt.transient 7 else .success) 2 r calls := by
  have hs : SleepsWell (fun i => if i = 0 then .transient 7 else .success) 2 (fun _ => 3) 10 := by
    intro i hi _
    obtain rfl : i = 0 := by omega
    decide
  refine ⟨hs, ?_⟩
  have h := retryBackoff_retries (fun i => if i = 0 then Attempt.transient 7 else .success)
    (show 1 ≤ 2 by decide) (fun _ => 3) 10 tokenSession containersCall
  exact h.1.mpr hs

/-- The waits of so many transient errors, with one number drawn for all of them, overflow. -/
theorem retryBackoff_overflows : ¬ ∃ r calls,
    ApiClient.retryBackoff (attemptsOf ClientOp.Ans fun _ => Attempt.transient 7) 200
      (fun _ => 2 ^ 200 - 1) apiRetryInterval 0 = pure (some (r, calls)) ∧
    RetriesOnce (fun _ => Attempt.transient 7) 200 r calls := by
  rw [retryBackoff_retriesOnce_iff (by decide)]
  intro hs
  have hpos := hs 103 (by decide) fun _ _ => rfl
  exact absurd hpos (by decide +kernel)

end CsiWekafs
