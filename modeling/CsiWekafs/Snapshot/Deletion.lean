import CsiWekafs.Snapshot
import CsiWekafs.Volume.DeleteOutcome

namespace CsiWekafs

open Prog

/-- What the answers of a lookup say of the snapshot. -/
inductive Standing
  | absent
  | removing
  | present
  | unknown

def Standing.gone : Standing → Bool
  | .absent => true
  | .removing => true
  | .present => false
  | .unknown => false

/-- What the answer to a listing by name says. A success with error codes in place of a listing says
nothing. -/
def listedStanding (owns : WekaSnapshot → Bool) (query : WekaSnapshot) :
    Except Err (Option (List WekaSnapshot)) → Standing
  | .ok (some l) =>
    match l.filter (·.eq query) with
    | [] => .absent
    | [snap] => if !owns snap then .absent else if snap.isRemoving then .removing else .present
    | _ => .unknown
  | _ => .unknown

/-- What the answers under two names say together: the snapshot is absent where it is under neither,
and an answer is missing only where there was none under its name. -/
def Standing.together (oneName : Bool) : Standing → Standing → Standing
  | .absent, .unknown => if oneName then .absent else .unknown
  | .unknown, .absent => if oneName then .absent else .unknown
  | _, second => second

@[simp] theorem together_removing {oneName : Bool} {first : Standing} :
    first.together oneName .removing = .removing := by
  cases first <;> rfl

def showsNoMatch (query : WekaSnapshot) : Except Err (Option (List WekaSnapshot)) → Bool
  | .ok data => ((data.getD []).filter (·.eq query)).isEmpty
  | .error _ => false

/-- A lookup that asks as the driver does, and returns what the answers say as a whole. -/
def Snapshot.standing (s : Snapshot) (config : DriverConfig) : M Standing := do
  if s.apiClient.isNone then return .unknown
  let a ← request (.listSnapshots { name := s.snapshotName })
  let first := listedStanding (fun _ => true) { name := s.snapshotName } a
  if showsNoMatch { name := s.snapshotName } a then
    let possibleName := trimPrefix s.snapshotName config.snapshotPrefix
    let b ← request (.listSnapshots { name := possibleName })
    return first.together (possibleName = s.snapshotName)
      (listedStanding (s.snapshotIntegrityId = ·.accessPoint) { name := possibleName } b)
  else return first

/-- A lookup whose answers say that the snapshot does not exist or is being removed. -/
def Snapshot.SaysGone (s : Snapshot) (config : DriverConfig) (u : List Event) : Prop :=
  ∃ v, Runs (s.standing config) u v ∧ v.gone = true

/-- A lookup whose answers leave open what became of the snapshot. -/
def Snapshot.UnclearLookup (s : Snapshot) (config : DriverConfig) (u : List Event) : Prop :=
  ∃ v, Runs (s.standing config) u v ∧ v.gone = false

/-- Of a sequence of lookups, each under the name that the one before found, one says so. -/
inductive LookupSaysGone (config : DriverConfig) : Snapshot → List Event → Prop
  | here {s : Snapshot} {u w : List Event} (h : s.SaysGone config u) : LookupSaysGone config s (u ++ w)
  | later {s s₁ : Snapshot} {u w : List Event} {x : Except Err (Option WekaSnapshot)}
      (h : Runs (s.getObject config) u (x, s₁)) (hw : LookupSaysGone config s₁ w) :
      LookupSaysGone config s (u ++ w)

def deletionSaysGone : Event → Bool
  | ⟨.http (.deleteSnapshot _), o⟩ => saysAbsent snapshotDoesNotExist o
  | _ => false

/-- Some answer to a deletion said that the snapshot does not exist or is being removed: in the lookup
before it, in the deletion itself, or in a lookup of the wait after it. -/
inductive Snapshot.ToldRemoved (s : Snapshot) (config : DriverConfig) : List Event → Prop
  | lookup {u w : List Event} (h : s.SaysGone config u) : s.ToldRemoved config (u ++ w)
  | deletion {u₁ u₂ w : List Event} {snap : WekaSnapshot} {s₁ : Snapshot} {x : Except Err Unit}
      (h₁ : Runs (s.getObject config) u₁ (.ok (some snap), s₁))
      (h₂ : Runs (deleteWekaSnapshot snap.uid) u₂ x) (h : ∃ e ∈ u₂, deletionSaysGone e = true) :
      s.ToldRemoved config (u₁ ++ (u₂ ++ w))
  | poll {u₁ u₂ u₃ : List Event} {snap : WekaSnapshot} {s₁ : Snapshot} {n : Nat}
      (h₁ : Runs (s.getObject config) u₁ (.ok (some snap), s₁))
      (h₂ : Runs (deleteWekaSnapshot snap.uid) u₂ (.ok ())) (h₃ : LookupSaysGone config s₁ u₃) :
      s.ToldRemoved config (u₁ ++ (u₂ ++ ⟨.pollBudget, n⟩ :: u₃))

/-- What the driver takes for the absence of the snapshot while it waits. -/
def endsWait : Except Err (Option WekaSnapshot) → Bool
  | .error _ => true
  | .ok none => true
  | .ok (some snap) => snap.uid = nilUid

/-- A wait that asks nothing, or ends with a first answer that leaves open what became of the
snapshot. -/
def Snapshot.UnclearWait (s : Snapshot) (config : DriverConfig) (n : Nat) (u : List Event) : Prop :=
  n = 0 ∨ ∃ x, Runs (s.getObject config) u x ∧ endsWait x.1 = true ∧ s.UnclearLookup config u

/-- The answers under which a deletion ends well though none said that the snapshot is gone. -/
inductive Snapshot.Silent (s : Snapshot) (config : DriverConfig) : List Event → Prop
  | lookup {u : List Event} {x : Except Err (Option WekaSnapshot) × Snapshot}
      (h : Runs (s.getObject config) u x) (hu : s.UnclearLookup config u)
      (hx : x.1.isOk = true) (he : endsWait x.1 = true) : s.Silent config u
  | refused {u₁ u₂ : List Event} {snap : WekaSnapshot} {s₁ : Snapshot} {text : Str} {status : Nat}
      {errorCodes : List Str} (h₁ : Runs (s.getObject config) u₁ (.ok (some snap), s₁))
      (hu : s.UnclearLookup config u₁) (hn : snap.uid ≠ nilUid)
      (h₂ : Runs (deleteWekaSnapshot snap.uid) u₂ (.error (.api .badRequest text status errorCodes))) :
      s.Silent config (u₁ ++ u₂)
  | unwatched {u₁ u₂ u₃ : List Event} {snap : WekaSnapshot} {s₁ : Snapshot} {n : Nat}
      (h₁ : Runs (s.getObject config) u₁ (.ok (some snap), s₁)) (hu : s.UnclearLookup config u₁)
      (hn : snap.uid ≠ nilUid) (h₂ : Runs (deleteWekaSnapshot snap.uid) u₂ (.ok ()))
      (h₃ : s₁.UnclearWait config n u₃) :
      s.Silent config (u₁ ++ (u₂ ++ ⟨.pollBudget, n⟩ :: u₃))

theorem saysAbsent_of_transient {α : Type} {code : Str} {o : HttpOutcome α}
    (h : transientOutcome o = true) : saysAbsent code o = false := by
  unfold saysAbsent
  rw [answer_of_transient h]
  rfl

theorem getObject_cases {s : Snapshot} {config : DriverConfig} {u : List Event}
    {x : Except Err (Option WekaSnapshot) × Snapshot} (h : Runs (s.getObject config) u x) :
    (s.apiClient = none ∧ u = [] ∧ x = (.error (snapshotNotBoundError s.id), s)) ∨
    s.apiClient ≠ none ∧
      ((∃ snap, Runs (getSnapshotByName s.snapshotName) u (.ok snap) ∧ x = (.ok (some snap), s)) ∨
      (∃ e, e ≠ .objectNotFound ∧ Runs (getSnapshotByName s.snapshotName) u (.error e) ∧
        x = (.error e, s)) ∨
      ∃ u₁ u₂ y, u = u₁ ++ u₂ ∧
        Runs (getSnapshotByName s.snapshotName) u₁ (.error .objectNotFound) ∧
        Runs (getSnapshotByName (trimPrefix s.snapshotName config.snapshotPrefix)) u₂ y ∧
        ((∃ snap, y = .ok snap ∧ x = s.adopt snap) ∨
        (y = .error .objectNotFound ∧ x = s.adopt {}) ∨
        ∃ e, e ≠ .objectNotFound ∧ y = .error e ∧ x = (.error e, s))) := by
  unfold Snapshot.getObject at h
  rcases runs_ite.mp h with ⟨hc, h⟩ | ⟨hc, h⟩
  · obtain ⟨rfl, rfl⟩ := runs_pure.mp h
    exact Or.inl ⟨by simpa using hc, rfl, rfl⟩
  · refine Or.inr ⟨by simpa using hc, ?_⟩
    obtain ⟨y, u₁, u₂, h₁, h₂, rfl⟩ := runs_bind.mp h
    split at h₂
    next snap =>
      obtain ⟨rfl, rfl⟩ := runs_pure.mp h₂
      exact Or.inl ⟨snap, by simpa using h₁, rfl⟩
    next =>
      obtain ⟨z, u₃, u₄, h₃, h₄, rfl⟩ := runs_bind.mp h₂
      have hu : u₄ = [] := by
        split at h₄ <;> exact (runs_pure.mp h₄).1
      subst hu
      refine Or.inr (Or.inr ⟨u₁, u₃, z, by rw [List.append_nil], h₁, h₃, ?_⟩)
      split at h₄
      next snap => exact Or.inl ⟨snap, rfl, (runs_pure.mp h₄).2⟩
      next => exact Or.inr (Or.inl ⟨rfl, (runs_pure.mp h₄).2⟩)
      next e he => exact Or.inr (Or.inr ⟨e, he, rfl, (runs_pure.mp h₄).2⟩)
    next e he =>
      obtain ⟨rfl, rfl⟩ := runs_pure.mp h₂
      exact Or.inr (Or.inl ⟨e, he, by simpa using h₁, rfl⟩)

theorem exactlyOne_cases {query : WekaSnapshot} {a : Except Err (Option (List WekaSnapshot))}
    {x : Except Err WekaSnapshot} (ha : a ≠ .error .objectNotFound)
    (hx : x = exactlyOne (a.map fun data => (data.getD []).filter (·.eq query))) :
    (showsNoMatch query a = true ↔ x = .error .objectNotFound) ∧
      ∀ snap owns, x = .ok snap → snap.isRemoving = true → owns snap = true →
        listedStanding owns query a = .removing := by
  subst hx
  cases a with
  | error e => simpa [showsNoMatch, Except.map, exactlyOne] using ha
  | ok data =>
    simp only [showsNoMatch, Except.map]
    cases data with
    | none => simp [exactlyOne]
    | some l =>
      simp only [Option.getD_some, listedStanding]
      generalize l.filter (·.eq query) = m
      rcases m with _ | ⟨b, _ | ⟨c, m⟩⟩
      · simp [exactlyOne]
      · simp +contextual [exactlyOne]
      · simp [exactlyOne]

theorem request_ne_objectNotFound {r : Request} {u : List Event} {a : Except Err (Option r.Resp)}
    (h : Runs (request r) u a) : a ≠ .error .objectNotFound := by
  rcases runs_request h with ⟨e, -, rfl⟩ | ⟨pre, o, -, -, rfl⟩
  · simpa using err_ne_objectNotFound e
  · exact answer_ne_objectNotFound o

/-- A lookup of the driver has a standing, and shows the snapshot being removed only where its answers
say so. -/
theorem runs_standing {s : Snapshot} {config : DriverConfig} {u : List Event}
    {x : Except Err (Option WekaSnapshot) × Snapshot} (h : Runs (s.getObject config) u x) :
    ∃ v, Runs (s.standing config) u v ∧
      ∀ snap, x.1 = .ok (some snap) → snap.isRemoving = true → v = .removing := by
  have hnamed : ∀ y, s.apiClient ≠ none → y ≠ .error .objectNotFound →
      Runs (getSnapshotByName s.snapshotName) u y → ∃ v, Runs (s.standing config) u v ∧
        ∀ snap, y = .ok snap → snap.isRemoving = true → v = .removing := by
    intro y hc hy hr
    obtain ⟨a, ha, hx⟩ := runs_getSnapshotByName hr
    obtain ⟨hm, hs⟩ := exactlyOne_cases (request_ne_objectNotFound ha) hx
    refine ⟨_, runs_ite.mpr (Or.inr ⟨by simpa using hc, runs_bind.mpr ⟨a, u, [], ha, ?_,
      (List.append_nil u).symm⟩⟩), fun snap hsnap hrem => hs snap _ hsnap hrem rfl⟩
    exact runs_ite.mpr (Or.inr ⟨fun h => hy (hm.mp h), .ret _⟩)
  rcases getObject_cases h with ⟨hc, rfl, rfl⟩ | ⟨hc, ⟨snap, hr, rfl⟩ | ⟨e, he, hr, rfl⟩ |
    ⟨u₁, u₂, y, rfl, h₁, h₂, hy⟩⟩
  · exact ⟨_, runs_ite.mpr (Or.inl ⟨by simp [hc], .ret _⟩), by simp⟩
  · obtain ⟨v, hv, hrem⟩ := hnamed _ hc (by simp) hr
    exact ⟨v, hv, fun snap' hs => hrem snap' (by simpa using hs)⟩
  · obtain ⟨v, hv, -⟩ := hnamed _ hc (by simpa using he) hr
    exact ⟨v, hv, by simp⟩
  · obtain ⟨a, ha, hx⟩ := runs_getSnapshotByName h₁
    obtain ⟨b, hb, hyb⟩ := runs_getSnapshotByName h₂
    have hm := (exactlyOne_cases (request_ne_objectNotFound ha) hx).1.mpr rfl
    obtain ⟨-, hs⟩ := exactlyOne_cases (request_ne_objectNotFound hb) hyb
    refine ⟨_, runs_ite.mpr (Or.inr ⟨by simpa using hc, runs_bind.mpr ⟨a, u₁, u₂, ha,
      runs_ite.mpr (Or.inl ⟨hm, runs_bind.mpr ⟨b, u₂, [], hb, .ret _, (List.append_nil u₂).symm⟩⟩),
      rfl⟩⟩), ?_⟩
    intro snap hsnap hrem
    rcases hy with ⟨snap', rfl, rfl⟩ | ⟨-, rfl⟩ | ⟨e, -, -, rfl⟩
    · unfold Snapshot.adopt at hsnap
      split at hsnap
      next hid =>
        cases hsnap
        rw [hs snap (s.snapshotIntegrityId = ·.accessPoint) rfl hrem (by simpa using hid),
          together_removing]
      next => cases hsnap
    · unfold Snapshot.adopt at hsnap
      split at hsnap <;> cases hsnap
      cases hrem
    · cases hsnap

/-- The answers of a lookup are judged in one way, also where more answers follow. -/
theorem saysGone_unique {s : Snapshot} {config : DriverConfig} {u u' w w' : List Event}
    {x : Except Err (Option WekaSnapshot) × Snapshot} (h : Runs (s.getObject config) u x)
    (hs : s.SaysGone config u') (he : u ++ w = u' ++ w') : u' = u ∧ ¬ s.UnclearLookup config u := by
  obtain ⟨v, hv, -⟩ := runs_standing h
  obtain ⟨v', hv', hg⟩ := hs
  obtain ⟨rfl, rfl⟩ := hv.unique hv' he
  refine ⟨rfl, ?_⟩
  rintro ⟨z, hz, hn⟩
  rw [hz.det hv] at hn
  simp [hg] at hn

theorem saysGone_iff {s : Snapshot} {config : DriverConfig} {u : List Event}
    {x : Except Err (Option WekaSnapshot) × Snapshot} (h : Runs (s.getObject config) u x) :
    s.SaysGone config u ↔ ¬ s.UnclearLookup config u := by
  constructor
  · intro hs
    exact (saysGone_unique h hs (rfl : u ++ [] = u ++ [])).2
  · intro hn
    obtain ⟨v, hv, -⟩ := runs_standing h
    by_contra hs
    exact hn ⟨v, hv, Bool.eq_false_iff.mpr fun hg => hs ⟨v, hv, hg⟩⟩

theorem not_saysGone_nil {s : Snapshot} {config : DriverConfig} : ¬ s.SaysGone config [] := by
  rintro ⟨v, hv, hg⟩
  unfold Snapshot.standing at hv
  rcases runs_ite.mp hv with ⟨-, hv⟩ | ⟨-, hv⟩
  · obtain ⟨-, rfl⟩ := runs_pure.mp hv
    cases hg
  · obtain ⟨a, u₁, u₂, ha, -, hu⟩ := runs_bind.mp hv
    obtain ⟨rfl, -⟩ := List.nil_eq_append_iff.mp hu
    rcases runs_request ha with ⟨e, he, -⟩ | ⟨pre, o, he, -⟩
    · cases he
    · cases he

theorem not_lookupSaysGone_nil {s : Snapshot} {config : DriverConfig} :
    ¬ LookupSaysGone config s [] := by
  intro h
  generalize ht : ([] : List Event) = t at h
  induction h with
  | here h =>
    obtain ⟨rfl, -⟩ := List.nil_eq_append_iff.mp ht
    exact not_saysGone_nil h
  | later _ _ ih => exact ih (List.nil_eq_append_iff.mp ht).2.symm

theorem lookupSaysGone_wait {s : Snapshot} {config : DriverConfig} {n : Nat} {u : List Event}
    (h : Runs (s.waitForSnapshotDeletion config n) u (.ok ())) :
    LookupSaysGone config s u ↔ ¬ s.UnclearWait config n u := by
  cases n with
  | zero =>
    obtain ⟨rfl, -⟩ := runs_pure.mp h
    exact iff_of_false not_lookupSaysGone_nil (not_not_intro (Or.inl rfl))
  | succ n =>
    obtain ⟨x, u₁, u₂, h₁, h₂, rfl⟩ := runs_bind.mp h
    have hends : u₂ = [] → endsWait x.1 = true →
        (LookupSaysGone config s (u₁ ++ u₂) ↔ ¬ s.UnclearWait config (n + 1) (u₁ ++ u₂)) := by
      rintro rfl hx
      have hunclear : s.UnclearWait config (n + 1) u₁ ↔ s.UnclearLookup config u₁ := by
        refine ⟨?_, fun hu => Or.inr ⟨x, h₁, hx, hu⟩⟩
        rintro (hn | ⟨y, -, -, hu⟩)
        · omega
        · exact hu
      rw [List.append_nil, hunclear]
      constructor
      · intro hl
        generalize ht : u₁ = t at hl
        cases hl with
        | here hs => exact ht ▸ (saysGone_unique h₁ hs ((List.append_nil u₁).trans ht)).2
        | later hr hw =>
          obtain ⟨rfl, -⟩ := h₁.unique hr ((List.append_nil u₁).trans ht)
          rw [List.self_eq_append_right.mp ht] at hw
          exact (not_lookupSaysGone_nil hw).elim
      · intro hu
        exact List.append_nil u₁ ▸ .here ((saysGone_iff h₁).mpr hu)
    split at h₂
    next => exact hends (runs_pure.mp h₂).1 rfl
    next => exact hends (runs_pure.mp h₂).1 rfl
    next snap s₁ =>
      rcases runs_ite.mp h₂ with ⟨hn, h₂⟩ | ⟨hn, h₂⟩
      · exact hends (runs_pure.mp h₂).1 (by simpa [endsWait] using hn)
      · rcases runs_ite.mp h₂ with ⟨hr, h₂⟩ | ⟨-, h₂⟩
        · obtain ⟨v, hv, hrem⟩ := runs_standing h₁
          have hgone : s.SaysGone config u₁ := ⟨v, hv, by rw [hrem snap rfl hr]; rfl⟩
          refine iff_of_true (.here hgone) ?_
          rintro (h | ⟨y, hy, hend, -⟩)
          · omega
          · obtain ⟨-, rfl⟩ := hy.unique h₁ (List.append_nil _)
            simp [endsWait, hn] at hend
        · cases (runs_pure.mp h₂).2

/-- A deletion that is accepted, or refused as a bad request, does not say that the snapshot is gone. -/
theorem not_deletionSaysGone {uid : Uid} {u : List Event} {x : Except Err Unit}
    (hu : uid ≠ nilUid) (h : Runs (deleteWekaSnapshot uid) u x) (hx : x ≠ .error .objectNotFound) :
    ¬ ∃ e ∈ u, deletionSaysGone e = true := by
  obtain ⟨a, hreq, ha⟩ := runs_deleteWekaSnapshot hu h
  rcases runs_request hreq with ⟨e, rfl, rfl⟩ | ⟨pre, o, rfl, hpre, rfl⟩
  · simp [deletionSaysGone]
  · have ho : deletionSaysGone ⟨.http (.deleteSnapshot uid), o⟩ = false := by
      change saysAbsent snapshotDoesNotExist o = false
      unfold saysAbsent
      rcases ha with ⟨d, hd, -⟩ | ⟨e, he, rfl⟩
      · simp [hd]
      · rw [he]
        exact Bool.eq_false_iff.mpr fun hs => hx (by simp [hs])
    rintro ⟨e, he, hs⟩
    have hn := not_of_request (p := deletionSaysGone) (fun _ => saysAbsent_of_transient) rfl ho hpre e he
    simp [hn] at hs

theorem getObject_ne_objectNotFound {s s₁ : Snapshot} {config : DriverConfig} {u : List Event} :
    ¬ Runs (s.getObject config) u (.error .objectNotFound, s₁) := by
  intro h
  have hadopt : ∀ snap, (Except.error .objectNotFound, s₁) ≠ s.adopt snap := by
    intro snap hx
    unfold Snapshot.adopt at hx
    split at hx <;> cases hx
  rcases getObject_cases h with ⟨-, -, hx⟩ | ⟨-, ⟨snap', -, hx⟩ | ⟨e, he, -, hx⟩ |
    ⟨u₁, u₂, y, -, -, -, ⟨snap, -, hx⟩ | ⟨-, hx⟩ | ⟨e, he, -, hx⟩⟩⟩
  · cases hx
  · cases hx
  · cases hx
    exact he rfl
  · exact hadopt _ hx
  · exact hadopt _ hx
  · cases hx
    exact he rfl

theorem Snapshot.Silent.unclear {s s₁ : Snapshot} {config : DriverConfig} {u w : List Event}
    {snap : WekaSnapshot} (h : s.Silent config (u ++ w))
    (hu : Runs (s.getObject config) u (.ok (some snap), s₁)) (hn : snap.uid ≠ nilUid) :
    s.UnclearLookup config u := by
  generalize ht : u ++ w = t at h
  cases h with
  | lookup h₁ _ _ he =>
    obtain ⟨-, rfl⟩ := h₁.unique hu ((List.append_nil _).trans ht.symm)
    simp [endsWait, hn] at he
  | refused h₁ hc => rwa [(hu.unique h₁ ht).1]
  | unwatched h₁ hc => rwa [(hu.unique h₁ ht).1]

theorem Snapshot.Silent.unclear_of_endsWait {s : Snapshot} {config : DriverConfig} {t : List Event}
    {x : Except Err (Option WekaSnapshot) × Snapshot} (h : s.Silent config t)
    (hx : Runs (s.getObject config) t x) (he : endsWait x.1 = true) : s.UnclearLookup config t := by
  cases h with
  | lookup _ hu => exact hu
  | refused h₁ _ hn =>
    obtain ⟨-, rfl⟩ := h₁.unique hx (List.append_nil _).symm
    simp [endsWait, hn] at he
  | unwatched h₁ _ hn =>
    obtain ⟨-, rfl⟩ := h₁.unique hx (List.append_nil _).symm
    simp [endsWait, hn] at he

theorem Snapshot.Silent.wait {s s₁ : Snapshot} {config : DriverConfig} {u₁ u₂ u₃ : List Event}
    {snap : WekaSnapshot} {n : Nat}
    (h : s.Silent config (u₁ ++ (u₂ ++ ⟨.pollBudget, n⟩ :: u₃)))
    (h₁ : Runs (s.getObject config) u₁ (.ok (some snap), s₁)) (hn : snap.uid ≠ nilUid)
    (h₂ : Runs (deleteWekaSnapshot snap.uid) u₂ (.ok ())) : s₁.UnclearWait config n u₃ := by
  generalize ht : u₁ ++ (u₂ ++ ⟨.pollBudget, n⟩ :: u₃) = t at h
  cases h with
  | lookup h _ _ he =>
    obtain ⟨-, rfl⟩ := h.unique h₁ ((List.append_nil _).trans ht.symm)
    simp [endsWait, hn] at he
  | refused h _ _ hr =>
    obtain ⟨rfl, hx⟩ := h₁.unique h ht
    cases hx
    have hv := List.append_cancel_left ht
    cases (h₂.unique hr (hv.trans (List.append_nil _).symm)).2
  | unwatched h _ _ hr hw =>
    obtain ⟨rfl, hx⟩ := h₁.unique h ht
    cases hx
    have hv := List.append_cancel_left ht
    obtain ⟨rfl, -⟩ := h₂.unique hr hv
    obtain ⟨he, rfl⟩ := List.cons.inj (List.append_cancel_left hv)
    cases he
    exact hw

/-- What was said after the lookup that a deletion starts with, was said by the deletion it found reason
for, or by a lookup of the wait after it. -/
theorem toldRemoved_cases {s : Snapshot} {config : DriverConfig} {u w : List Event}
    {x : Except Err (Option WekaSnapshot) × Snapshot} (h : Runs (s.getObject config) u x)
    (ht : s.ToldRemoved config (u ++ w)) :
    ¬ s.UnclearLookup config u ∨ ∃ snap u₂ w₂, x.1 = .ok (some snap) ∧ w = u₂ ++ w₂ ∧
      ((∃ y, Runs (deleteWekaSnapshot snap.uid) u₂ y ∧ ∃ e ∈ u₂, deletionSaysGone e = true) ∨
      ∃ n u₃, w₂ = ⟨.pollBudget, n⟩ :: u₃ ∧ Runs (deleteWekaSnapshot snap.uid) u₂ (.ok ()) ∧
        LookupSaysGone config x.2 u₃) := by
  generalize he : u ++ w = t at ht
  cases ht with
  | lookup hs => exact Or.inl (saysGone_unique h hs he).2
  | deletion h₁ h₂ hg =>
    obtain ⟨rfl, rfl⟩ := h.unique h₁ he
    exact Or.inr ⟨_, _, _, rfl, List.append_cancel_left he, Or.inl ⟨_, h₂, hg⟩⟩
  | poll h₁ h₂ h₃ =>
    obtain ⟨rfl, rfl⟩ := h.unique h₁ he
    exact Or.inr ⟨_, _, _, rfl, List.append_cancel_left he, Or.inr ⟨_, _, rfl, h₂, h₃⟩⟩

/-- The ways to success: nothing was found, the deletion was refused as a bad request, or it was accepted
and the wait after it ended. -/
theorem runs_delete_ok {s : Snapshot} {config : DriverConfig} {t : List Event}
    (h : Runs (s.delete config) t (.ok ())) :
    (∃ x, Runs (s.getObject config) t x ∧ x.1.isOk = true ∧ endsWait x.1 = true) ∨
    ∃ u₁ u₂ snap s₁, Runs (s.getObject config) u₁ (.ok (some snap), s₁) ∧ snap.uid ≠ nilUid ∧
      ((∃ text status errorCodes, t = u₁ ++ u₂ ∧
        Runs (deleteWekaSnapshot snap.uid) u₂ (.error (.api .badRequest text status errorCodes))) ∨
      ∃ n u₃, t = u₁ ++ (u₂ ++ ⟨.pollBudget, n⟩ :: u₃) ∧ Runs (deleteWekaSnapshot snap.uid) u₂ (.ok ()) ∧
        Runs (s₁.waitForSnapshotDeletion config n) u₃ (.ok ())) := by
  obtain ⟨x, u₁, u₂, h₁, h₂, rfl⟩ := runs_bind.mp h
  have hlookup : u₂ = [] → x.1.isOk = true → endsWait x.1 = true →
      ∃ x, Runs (s.getObject config) (u₁ ++ u₂) x ∧ x.1.isOk = true ∧ endsWait x.1 = true := by
    rintro rfl hok hx
    exact ⟨x, by rwa [List.append_nil], hok, hx⟩
  split at h₂
  next => exact (getObject_ne_objectNotFound h₁).elim
  next => cases (runs_pure.mp h₂).2
  next => exact Or.inl (hlookup (runs_pure.mp h₂).1 rfl rfl)
  next snap s₁ =>
    rcases runs_ite.mp h₂ with ⟨hn, h₂⟩ | ⟨hn, h₂⟩
    · exact Or.inl (hlookup (runs_pure.mp h₂).1 rfl (by simpa [endsWait] using hn))
    · obtain ⟨d, v₁, v₂, h₃, h₄, rfl⟩ := runs_bind.mp h₂
      refine Or.inr ⟨u₁, v₁, snap, s₁, h₁, hn, ?_⟩
      split at h₄
      next text status errorCodes =>
        obtain ⟨rfl, -⟩ := runs_pure.mp h₄
        exact Or.inl ⟨text, status, errorCodes, by rw [List.append_nil], h₃⟩
      next => cases (runs_pure.mp h₄).2
      next =>
        obtain ⟨n, w₁, w₂, h₅, h₆, rfl⟩ := runs_bind.mp h₄
        obtain rfl := runs_op.mp h₅
        exact Or.inr ⟨n, w₂, rfl, h₃, h₆⟩

theorem not_toldRemoved_of_silent {s : Snapshot} {config : DriverConfig} {t : List Event}
    (h : Runs (s.delete config) t (.ok ())) (hs : s.Silent config t) : ¬ s.ToldRemoved config t := by
  intro ht
  rcases runs_delete_ok h with ⟨x, h₁, -, hx⟩ | ⟨u₁, u₂, snap, s₁, h₁, hn,
    ⟨text, status, errorCodes, rfl, h₂⟩ | ⟨n, u₃, rfl, h₂, h₃⟩⟩
  · have hu := hs.unclear_of_endsWait h₁ hx
    rcases toldRemoved_cases (w := []) h₁ (by rwa [List.append_nil]) with hc |
      ⟨snap, v, w, -, hv, ⟨y, -, e, he, -⟩ | ⟨n, v', rfl, -⟩⟩
    · exact hc hu
    · simp [(List.nil_eq_append_iff.mp hv).1] at he
    · simp at hv
  · rcases toldRemoved_cases h₁ ht with hc | ⟨snap', v, w, hx, hv, ⟨y, hy, hg⟩ | ⟨n, u₃, -, hy, -⟩⟩
    · exact hc (hs.unclear h₁ hn)
    · cases hx
      obtain ⟨rfl, rfl⟩ := h₂.unique hy ((List.append_nil _).trans hv)
      exact not_deletionSaysGone hn hy (by simp) hg
    · cases hx
      cases (h₂.unique hy ((List.append_nil _).trans hv)).2
  · rcases toldRemoved_cases h₁ ht with hc | ⟨snap', v, w, hx, hv, ⟨y, hy, hg⟩ | ⟨m, v', rfl, hy, hl⟩⟩
    · exact hc (hs.unclear h₁ hn)
    · cases hx
      obtain ⟨rfl, rfl⟩ := h₂.unique hy hv
      exact not_deletionSaysGone hn hy (by simp) hg
    · cases hx
      obtain ⟨rfl, -⟩ := h₂.unique hy hv
      obtain ⟨-, rfl⟩ := List.cons.inj (List.append_cancel_left hv)
      exact (lookupSaysGone_wait h₃).mp hl (hs.wait h₁ hn h₂)

/-- A deletion that ends well was told that the snapshot is gone, exactly where it was not silent. -/
theorem snapshotDelete_told {s : Snapshot} {config : DriverConfig} {t : List Event}
    (h : Runs (s.delete config) t (.ok ())) : s.ToldRemoved config t ↔ ¬ s.Silent config t := by
  constructor
  · intro ht hs
    exact not_toldRemoved_of_silent h hs ht
  · intro hs
    have hclear : ∀ {u w x}, Runs (s.getObject config) u x → ¬ s.UnclearLookup config u →
        s.ToldRemoved config (u ++ w) := fun h₁ hu => .lookup ((saysGone_iff h₁).mpr hu)
    rcases runs_delete_ok h with ⟨x, h₁, hok, hx⟩ | ⟨u₁, u₂, snap, s₁, h₁, hn,
      ⟨text, status, errorCodes, rfl, h₂⟩ | ⟨n, u₃, rfl, h₂, h₃⟩⟩
    · rw [← List.append_nil t]
      exact hclear h₁ fun hu => hs (.lookup h₁ hu hok hx)
    · exact hclear h₁ fun hu => hs (.refused h₁ hu hn h₂)
    · by_cases hu : s.UnclearLookup config u₁
      · exact .poll h₁ h₂ ((lookupSaysGone_wait h₃).mpr fun hw => hs (.unwatched h₁ hu hn h₂ hw))
      · exact hclear h₁ hu

def deletedSnapshot : Snapshot where
  id := "wekasnap/v2/fs1:n1:i1"
  filesystemName := "fs1"
  snapshotNameHash := "n1"
  snapshotIntegrityId := "i1"
  snapshotName := "csisnp-n1"
  innerPath := []
  apiClient := some {}

/-- A lookup of the snapshot that is answered at once. -/
def snapshotLookup (o : HttpOutcome (List WekaSnapshot)) : List Event :=
  [⟨.init (.listSnapshots { name := "csisnp-n1" }), .ok ()⟩,
    ⟨.http (.listSnapshots { name := "csisnp-n1" }), o⟩]

def listedSnapshot : WekaSnapshot := { uid := 7, name := "csisnp-n1", accessPoint := "i1" }

/-- The snapshot is there, its deletion is accepted, and the lookup after it is answered so. -/
def snapshotDeletion (o : HttpOutcome (List WekaSnapshot)) : List Event :=
  snapshotLookup (.reply 200 [] [] [listedSnapshot]) ++
    ([⟨.init (.deleteSnapshot 7), .ok ()⟩, ⟨.http (.deleteSnapshot 7), .reply 200 [] [] ()⟩] ++
      ⟨.pollBudget, (1 : Nat)⟩ :: snapshotLookup o)

/-- The lookup after the deletion fails, and the snapshot counts as deleted. -/
theorem snapshotDelete_untold :
    Runs (deletedSnapshot.delete {}) (snapshotDeletion (.reply 500 [] "down" [])) (.ok ()) ∧
    ¬ deletedSnapshot.ToldRemoved {} (snapshotDeletion (.reply 500 [] "down" [])) := by
  have hrun : Runs (deletedSnapshot.delete {}) (snapshotDeletion (.reply 500 [] "down" [])) (.ok ()) :=
    .call _ (.call _ (.call _ (.call _ (.call _ (.call _ (.call _ (.ret _)))))))
  have hfound : Runs (deletedSnapshot.getObject {}) (snapshotLookup (.reply 200 [] [] [listedSnapshot]))
      (.ok (some listedSnapshot), deletedSnapshot) := .call _ (.call _ (.ret _))
  have hpresent : deletedSnapshot.UnclearLookup {} (snapshotLookup (.reply 200 [] [] [listedSnapshot])) :=
    ⟨.present, .call _ (.call _ (.ret _)), rfl⟩
  have hfailed : deletedSnapshot.UnclearLookup {} (snapshotLookup (.reply 500 [] "down" [])) :=
    ⟨.unknown, .call _ (.call _ (.ret _)), rfl⟩
  refine ⟨hrun, not_toldRemoved_of_silent hrun ?_⟩
  exact .unwatched hfound hpresent (by decide) (.call _ (.call _ (.ret _)))
    (Or.inr ⟨_, .call _ (.call _ (.ret _)), rfl, hfailed⟩)

theorem snapshotDelete_told_removing :
    ¬ deletedSnapshot.Silent {}
      (snapshotDeletion (.reply 200 [] [] [{ listedSnapshot with isRemoving := true }])) := by
  have hrun : Runs (deletedSnapshot.delete {})
      (snapshotDeletion (.reply 200 [] [] [{ listedSnapshot with isRemoving := true }])) (.ok ()) :=
    .call _ (.call _ (.call _ (.call _ (.call _ (.call _ (.call _ (.ret _)))))))
  refine (snapshotDelete_told hrun).mp ?_
  have hfound : Runs (deletedSnapshot.getObject {}) (snapshotLookup (.reply 200 [] [] [listedSnapshot]))
      (.ok (some listedSnapshot), deletedSnapshot) := .call _ (.call _ (.ret _))
  refine .poll hfound (.call _ (.call _ (.ret _))) ?_
  rw [← List.append_nil (snapshotLookup _)]
  exact .here ⟨.removing, .call _ (.call _ (.ret _)), rfl⟩

end CsiWekafs
