import CsiWekafs.Volume.Basic
import CsiWekafs.Lib.GoOs
import CsiWekafs.Lib.Threads

namespace CsiWekafs

open Prog GoOs

def garbagePath : Str := ".__internal__wekafs-async-delete"

/-- Below the mount point. -/
def volumeTrashLoc : List Str := [garbagePath]

/-- The names on the way to a volume, from the mount point on. -/
def Volume.components (v : Volume) : List Str := GoPath.comps v.getRelativePath

/-- The last name of the full path of a volume; the one of the mount point for its root. -/
def Volume.trashName (v : Volume) (mountName : Str) : Str := v.components.getLast?.getD mountName

def moveVolumeToTrash (mountName : Str) (v : Volume) : Os Str (Except GoOs.Errno Unit) := do
  match ← mkdirAll volumeTrashLoc with
  | .error e => if !e.isExist then pure (.error e) else move
  | .ok _ => move
where
  move : Os Str (Except GoOs.Errno Unit) := do
    let newPath := volumeTrashLoc ++ [v.trashName mountName]
    if !(← fileExists v.components) then pure (.ok ())
    else GoOs.rename v.components newPath

/-- A deletion of a directory backed volume, or a run of purgeLeftovers with the mount at hand. -/
inductive GcJob
  | deleteVolume (v : Volume) (h : v.requiresGc)
  | purgeLeftovers (bound : ℕ)

/-- Whether a deletion succeeds: an error that says that something is not there counts as success. -/
def deleteDirectoryVolume (mountName : Str) (v : Volume) : Os Str Bool := do
  match ← moveVolumeToTrash mountName v with
  | .error e => pure e.isNotExist
  | .ok _ => pure true

def purgeTrash (bound : ℕ) : Os Str Bool := do
  let err ← removeAll bound volumeTrashLoc
  pure err.isNone

def GcJob.prog (mountName : Str) : GcJob → Os Str Bool
  | .deleteVolume v _ => deleteDirectoryVolume mountName v
  | .purgeLeftovers bound => purgeTrash bound

/-- What the jobs do to a filesystem: nothing is made but the trash, and nothing is moved elsewhere
or removed elsewhere. -/
def TrashCall (e : Sigma (GoOs.Ans (ν := Str))) : Prop :=
  match e.1 with
  | .mkdir p => p = volumeTrashLoc
  | .rename _ p => ∃ c, p = volumeTrashLoc ++ [c]
  | .unlink p => volumeTrashLoc <+: p
  | .rmdir p => volumeTrashLoc <+: p
  | _ => True

/-- The call moves something. -/
def Renames (e : Sigma (GoOs.Ans (ν := Str))) : Prop := ∃ p q, e.1 = .rename p q

theorem safe_mkdirTrash : (mkdirAll volumeTrashLoc).Safe (fun _ => True)
    (fun e => TrashCall e ∧ ¬ Renames e) (fun _ => True) := by
  refine Safe.bind (safe_op (o := Call.stat volumeTrashLoc) fun _ _ =>
    ⟨⟨trivial, by simp [Renames]⟩, trivial⟩) ?_
  rintro (e | _ | _) -
  · refine Safe.bind (R := fun _ => True) ?_ ?_
    · refine Safe.bind (safe_op (o := Call.stat ([] : List Str)) fun _ _ =>
    ⟨⟨trivial, by simp [Renames]⟩, trivial⟩) ?_
      rintro (e | _ | _) - <;> trivial
    · rintro (e | u) -
      · trivial
      · refine Safe.bind (safe_op (o := Call.mkdir volumeTrashLoc) fun _ _ =>
          ⟨⟨rfl, by simp [Renames]⟩, trivial⟩) ?_
        rintro (e | u) -
        · refine Safe.bind (safe_op (o := Call.stat volumeTrashLoc) fun _ _ =>
    ⟨⟨trivial, by simp [Renames]⟩, trivial⟩) ?_
          rintro (e | _ | _) - <;> trivial
        · trivial
  · trivial
  · trivial

theorem safe_renameToTrash (path : List Str) (c : Str) :
    (GoOs.rename path (volumeTrashLoc ++ [c])).Safe (fun _ => True) TrashCall (fun _ => True) := by
  have hmove : (renameat path (volumeTrashLoc ++ [c])).Safe (fun _ => True) TrashCall
      (fun _ => True) :=
    safe_op (o := Call.rename path (volumeTrashLoc ++ [c])) fun _ _ => ⟨⟨c, rfl⟩, trivial⟩
  refine Safe.bind (safe_op (o := Call.stat (volumeTrashLoc ++ [c])) fun _ _ =>
    ⟨trivial, trivial⟩) ?_
  rintro (e | _ | _) -
  · exact hmove
  · refine Safe.bind (safe_op (o := Call.stat path) fun _ _ => ⟨trivial, trivial⟩) ?_
    rintro (e | k) - <;> trivial
  · exact hmove

theorem safe_deleteDirectoryVolume (mountName : Str) (v : Volume) :
    (deleteDirectoryVolume mountName v).Safe (fun _ => True) TrashCall (fun _ => True) := by
  have hmove : (moveVolumeToTrash.move mountName v).Safe (fun _ => True) TrashCall
      (fun _ => True) := by
    refine Safe.bind (R := fun _ => True) ?_ ?_
    · refine Safe.bind (safe_op (o := Call.stat v.components) fun _ _ => ⟨trivial, trivial⟩) ?_
      rintro (e | k) - <;> trivial
    · rintro (_ | _) -
      · trivial
      · exact safe_renameToTrash _ _
  refine Safe.bind (R := fun _ => True) (Safe.bind
    (safe_mkdirTrash.mono (fun _ h => h) (fun _ h => h.1) fun _ h => h) ?_) ?_
  · rintro (e | u) -
    · dsimp only
      split
      · trivial
      · exact hmove
    · exact hmove
  · rintro (e | u) - <;> trivial

theorem safe_purgeTrash (bound : ℕ) :
    (purgeTrash bound).Safe (fun _ => True) TrashCall (fun _ => True) := by
  refine Safe.bind ((safe_removeAll bound volumeTrashLoc).mono (fun _ h => h) ?_ fun _ h => h) ?_
  · rintro ⟨c, r⟩ h
    cases c with
    | unlink p => exact h
    | rmdir p => exact h
    | openDir p => trivial
    | readdirnames p => trivial
    | _ => exact h.elim
  · exact fun _ _ => trivial

theorem GcJob.safe (mountName : Str) (job : GcJob) :
    (job.prog mountName).Safe (fun _ => True) TrashCall (fun _ => True) := by
  cases job with
  | deleteVolume v h => exact safe_deleteDirectoryVolume mountName v
  | purgeLeftovers bound => exact safe_purgeTrash bound

variable {s s' : GoOs.Tree Str} {e : Sigma (GoOs.Ans (ν := Str))} {p : List Str}

theorem TrashCall.kind_none (he : TrashCall e) (h : s.Next e s')
    (hout : p.head? ≠ some garbagePath) (hp : s.kind p = none) : s'.kind p = none := by
  refine h.kind_none hp ?_ ?_
  · intro hc
    unfold TrashCall at he
    rw [hc] at he
    exact hout (he ▸ rfl)
  · intro q₁ q₂ hc hpre
    unfold TrashCall at he
    rw [hc] at he
    obtain ⟨c, rfl⟩ := he
    obtain ⟨rest, rfl⟩ := hpre
    exact hout rfl

/-- The trash directory is removed. -/
def RemovesTrash (e : Sigma (GoOs.Ans (ν := Str))) : Prop :=
  e = ⟨.rmdir volumeTrashLoc, Except.ok ()⟩ ∨ e = ⟨.unlink volumeTrashLoc, Except.ok ()⟩

theorem TrashCall.kind_trash (he : TrashCall e) (h : s.Next e s')
    (hp : s.kind volumeTrashLoc ≠ none) (hrm : ¬ RemovesTrash e) :
    s'.kind volumeTrashLoc ≠ none := by
  refine h.kind_ne_none hp (fun hc => hrm (Or.inl hc)) (fun hc => hrm (Or.inr hc)) ?_
  intro q₁ q₂ hc
  unfold TrashCall at he
  rw [hc] at he
  obtain ⟨c, rfl⟩ := he
  refine ⟨fun hpre => ?_, fun hpre => hpre.trans (List.prefix_append ..)⟩
  have := hpre.length_le
  simp [volumeTrashLoc] at this

/-- The call tells that the trash directory is there. -/
def TellsTrash (e : Sigma (GoOs.Ans (ν := Str))) : Prop :=
  e = ⟨.stat volumeTrashLoc, Except.ok Kind.dir⟩ ∨ e = ⟨.mkdir volumeTrashLoc, Except.ok ()⟩ ∨
    ∃ k : GoOs.Errno, k.isExist ∧ e = ⟨.mkdir volumeTrashLoc, Except.error k⟩

/-- What a filesystem does not answer: that its root is not there. -/
def LosesRoot (e : Sigma (GoOs.Ans (ν := Str))) : Prop :=
  (∃ k : GoOs.Errno, e = ⟨.stat [], Except.error k⟩) ∨
    e = ⟨.mkdir volumeTrashLoc, Except.error GoOs.Errno.noent⟩

theorem not_next_of_losesRoot (he : LosesRoot e) : ¬ s.Next e s' := by
  intro h
  obtain ⟨k, rfl⟩ | rfl := he
  · obtain ⟨-, hk, -⟩ := h
    rw [s.kind_root] at hk
    cases hk
  · obtain ⟨-, ⟨he, -⟩ | ⟨-, hk⟩ | ⟨he, -⟩⟩ := h
    · cases he
    · have hroot : s.kind [] = none := hk
      rw [s.kind_root] at hroot
      cases hroot
    · cases he

theorem TellsTrash.kind_trash (he : TellsTrash e) (h : s.Next e s') :
    s'.kind volumeTrashLoc ≠ none := by
  obtain rfl | rfl | ⟨k, hk, rfl⟩ := he
  · obtain ⟨rfl, hk⟩ := h
    rw [hk]
    exact Option.some_ne_none _
  · obtain ⟨-, -, rfl⟩ := h
    simp [GoOs.Tree.add]
  · obtain ⟨rfl, ⟨-, hk⟩ | ⟨rfl, -⟩ | ⟨rfl, -⟩⟩ := h
    · exact hk
    · cases hk
    · cases hk

theorem runs_mkdirTrash {u : List (Sigma (GoOs.Ans (ν := Str)))} {r : Except GoOs.Errno Unit}
    (h : Runs (mkdirAll volumeTrashLoc) u r) :
    (∃ e ∈ u, LosesRoot e) ∨ ((∃ e ∈ u, TellsTrash e) ∧ ∀ k, r = .error k → k.isExist) ∨
      ∃ k, r = .error k ∧ k.isExist = false ∧ k ≠ .noent := by
  obtain ⟨r₁, u₁, v₁, h₁, hk, rfl⟩ := runs_bind.mp h
  obtain rfl := runs_op.mp h₁
  rcases r₁ with k | _ | _
  · obtain ⟨r₂, u₂, v₂, h₂, hk₂, rfl⟩ := runs_bind.mp hk
    obtain ⟨r₀, u₀, v₀, h₀, hk₀, rfl⟩ := runs_bind.mp h₂
    obtain rfl := runs_op.mp h₀
    rcases r₀ with k₀ | _ | _
    · exact .inl ⟨⟨.stat [], Except.error k₀⟩, by simp, .inl ⟨k₀, rfl⟩⟩
    · obtain ⟨rfl, rfl⟩ := runs_pure.mp hk₀
      obtain ⟨r₃, u₃, v₃, h₃, hk₃, rfl⟩ := runs_bind.mp hk₂
      obtain rfl := runs_op.mp h₃
      have hmem := List.mem_append_right [⟨.stat volumeTrashLoc, Except.error k⟩]
        (List.mem_append_right [⟨.stat [], Except.ok Kind.dir⟩] (List.mem_append_left v₃
          (List.mem_singleton_self (⟨.mkdir volumeTrashLoc, r₃⟩ : Sigma (GoOs.Ans (ν := Str))))))
      rcases r₃ with k₃ | _
      · obtain ⟨r₄, u₄, v₄, h₄, hk₄, rfl⟩ := runs_bind.mp hk₃
        obtain rfl := runs_op.mp h₄
        have hr : v₄ = [] ∧ ((r₄ = .ok .dir ∧ r = .ok ()) ∨ r = .error k₃) := by
          rcases r₄ with k₄ | _ | _
          · exact (runs_pure.mp hk₄).imp_right .inr
          · exact (runs_pure.mp hk₄).imp_right fun hr => .inl ⟨rfl, hr⟩
          · exact (runs_pure.mp hk₄).imp_right .inr
        obtain ⟨rfl, ⟨rfl, rfl⟩ | rfl⟩ := hr
        · refine .inr (.inl ⟨⟨⟨.stat volumeTrashLoc, Except.ok Kind.dir⟩, ?_, .inl rfl⟩, by simp⟩)
          exact List.mem_append_right _ (List.mem_append_right _ (List.mem_append_right _
            (List.mem_append_left _ (List.mem_singleton_self _))))
        · by_cases hnoent : k₃ = .noent
          · exact .inl ⟨_, hmem, .inr (hnoent ▸ rfl)⟩
          cases hexist : k₃.isExist with
          | true =>
            exact .inr (.inl ⟨⟨_, hmem, .inr (.inr ⟨k₃, hexist, rfl⟩)⟩, fun k hk =>
              Except.error.inj hk ▸ hexist⟩)
          | false => exact .inr (.inr ⟨k₃, rfl, hexist, hnoent⟩)
      · obtain ⟨rfl, rfl⟩ := runs_pure.mp hk₃
        exact .inr (.inl ⟨⟨_, hmem, .inr (.inl rfl)⟩, by simp⟩)
    · obtain ⟨rfl, rfl⟩ := runs_pure.mp hk₀
      obtain ⟨rfl, rfl⟩ := runs_pure.mp hk₂
      exact .inr (.inr ⟨_, rfl, rfl, by decide⟩)
  · obtain ⟨rfl, rfl⟩ := runs_pure.mp hk
    exact .inr (.inl ⟨⟨_, List.mem_append_left _ (List.mem_singleton_self _), .inl rfl⟩, by simp⟩)
  · obtain ⟨rfl, rfl⟩ := runs_pure.mp hk
    exact .inr (.inr ⟨_, rfl, rfl, by decide⟩)

/-- The last call of a deletion that succeeds: it tells that the volume is not there, or it moves
the volume after the trash directory was seen. -/
def EndsDeletion (mountName : Str) (v : Volume) (u : List (Sigma (GoOs.Ans (ν := Str))))
    (e : Sigma (GoOs.Ans (ν := Str))) : Prop :=
  (∃ k : GoOs.Errno, e = ⟨.stat v.components, Except.error k⟩) ∨
    (∃ x ∈ u, TellsTrash x) ∧ ∃ r : Except GoOs.Errno Unit,
      e = ⟨.rename v.components (volumeTrashLoc ++ [v.trashName mountName]), r⟩ ∧
        (r = .ok () ∨ r = .error .noent)

theorem runs_renameToTrash {mountName : Str} {v : Volume} {r : Except GoOs.Errno Unit}
    {u₀ u : List (Sigma (GoOs.Ans (ν := Str)))} (hu₀ : ∃ x ∈ u₀, TellsTrash x)
    (h : Runs (GoOs.rename v.components (volumeTrashLoc ++ [v.trashName mountName])) u r)
    (hr : r = .ok () ∨ r = .error .noent) :
    ∃ u₁ e, u = u₁ ++ [e] ∧ (∀ x ∈ u₁, ¬ Renames x) ∧ EndsDeletion mountName v (u₀ ++ u₁) e := by
  obtain ⟨x, hx, htell⟩ := hu₀
  obtain ⟨r₁, u₁, v₁, h₁, hk, rfl⟩ := runs_bind.mp h
  obtain rfl := runs_op.mp h₁
  have hstat : ∀ x ∈ [(⟨.stat (volumeTrashLoc ++ [v.trashName mountName]), r₁⟩ :
      Sigma (GoOs.Ans (ν := Str)))], ¬ Renames x := by
    simp [Renames]
  have hmoves : Runs (renameat v.components (volumeTrashLoc ++ [v.trashName mountName])) v₁ r →
      ∃ u₁ e, [⟨.stat (volumeTrashLoc ++ [v.trashName mountName]), r₁⟩] ++ v₁ = u₁ ++ [e] ∧
        (∀ x ∈ u₁, ¬ Renames x) ∧ EndsDeletion mountName v (u₀ ++ u₁) e := by
    intro hk
    obtain rfl := runs_op.mp hk
    exact ⟨_, _, rfl, hstat, .inr ⟨⟨x, List.mem_append_left _ hx, htell⟩, r, rfl, hr⟩⟩
  rcases r₁ with k | _ | _
  · exact hmoves hk
  · obtain ⟨r₂, u₂, v₂, h₂, hk₂, rfl⟩ := runs_bind.mp hk
    obtain rfl := runs_op.mp h₂
    rcases r₂ with k | k
    · obtain ⟨rfl, rfl⟩ := runs_pure.mp hk₂
      exact ⟨_, _, rfl, hstat, .inl ⟨k, rfl⟩⟩
    · obtain ⟨rfl, rfl⟩ := runs_pure.mp hk₂
      rcases hr with hr | hr <;> cases hr
  · exact hmoves hk

theorem runs_deleteDirectoryVolume {mountName : Str} {v : Volume}
    {u : List (Sigma (GoOs.Ans (ν := Str)))}
    (h : Runs (deleteDirectoryVolume mountName v) u true) :
    (∃ e ∈ u, LosesRoot e) ∨
      ∃ u₁ e, u = u₁ ++ [e] ∧ (∀ x ∈ u₁, ¬ Renames x) ∧ EndsDeletion mountName v u₁ e := by
  obtain ⟨r, u₁, u₂, h₁, hk, rfl⟩ := runs_bind.mp h
  have hr : u₂ = [] ∧ (r = .ok () ∨ r = .error .noent) := by
    rcases r with k | _
    · obtain ⟨rfl, hk⟩ := runs_pure.mp hk
      exact ⟨rfl, .inr (by simpa [Errno.isNotExist] using hk)⟩
    · obtain ⟨rfl, -⟩ := runs_pure.mp hk
      exact ⟨rfl, .inl rfl⟩
  obtain ⟨rfl, hr⟩ := hr
  rw [List.append_nil]
  obtain ⟨r₃, u₃, u₄, h₃, hk₃, rfl⟩ := runs_bind.mp h₁
  have hquiet : ∀ x ∈ u₃, ¬ Renames x := fun x hx =>
    ((safe_mkdirTrash.of_runs h₃ fun _ _ => trivial).1 x hx).2
  have hmove : (∃ x ∈ u₃, TellsTrash x) → Runs (moveVolumeToTrash.move mountName v) u₄ r →
      ∃ u₁ e, u₃ ++ u₄ = u₁ ++ [e] ∧ (∀ x ∈ u₁, ¬ Renames x) ∧ EndsDeletion mountName v u₁ e := by
    intro htell hk
    obtain ⟨b, u₅, u₆, h₅, hk₅, rfl⟩ := runs_bind.mp hk
    obtain ⟨r₆, u₇, u₈, h₇, hk₇, rfl⟩ := runs_bind.mp h₅
    obtain rfl := runs_op.mp h₇
    rcases r₆ with k | k
    · obtain ⟨rfl, rfl⟩ := runs_pure.mp hk₇
      obtain ⟨rfl, -⟩ := runs_pure.mp hk₅
      exact ⟨u₃, _, rfl, hquiet, .inl ⟨k, rfl⟩⟩
    · obtain ⟨rfl, rfl⟩ := runs_pure.mp hk₇
      obtain ⟨x, hx, htell⟩ := htell
      have htold : ∃ x ∈ u₃ ++ [⟨.stat v.components, Except.ok k⟩], TellsTrash x :=
        ⟨x, List.mem_append_left _ hx, htell⟩
      obtain ⟨u₉, e, rfl, hq, hend⟩ := runs_renameToTrash htold hk₅ hr
      refine ⟨u₃ ++ [⟨.stat v.components, Except.ok k⟩] ++ u₉, e, by simp, ?_, hend⟩
      intro y hy
      rcases List.mem_append.mp hy with hy | hy
      · rcases List.mem_append.mp hy with hy | hy
        · exact hquiet y hy
        · rw [List.mem_singleton.mp hy]
          simp [Renames]
      · exact hq y hy
  obtain ⟨e, he, hlose⟩ | ⟨htell, hexist⟩ | ⟨k, rfl, hexist, hnoent⟩ := runs_mkdirTrash h₃
  · exact .inl ⟨e, List.mem_append_left _ he, hlose⟩
  · refine .inr (hmove htell ?_)
    rcases r₃ with k | _
    · simpa [hexist k rfl] using hk₃
    · exact hk₃
  · simp only [hexist, Bool.not_false, if_true] at hk₃
    obtain ⟨rfl, rfl⟩ := runs_pure.mp hk₃
    rcases hr with hr | hr
    · cases hr
    · exact absurd (Except.error.inj hr) hnoent

section

variable {ι : Type} [DecidableEq ι] {jobs : ι → GcJob} {mountName : Str} {i : ι} {v : Volume}
  {hv : v.requiresGc} {t : List (ι × Sigma (GoOs.Ans (ν := Str)))}

/-- The trash directory is there when a job moves its volume, or the volume is gone by then. -/
def FindsTrash (i : ι) (s : GoOs.Tree Str) (t : List (ι × Sigma (GoOs.Ans (ν := Str))))
    (s' : GoOs.Tree Str) : Prop :=
  ∀ t₁ p q r t₂ s₁ s₂, t = t₁ ++ (i, ⟨.rename p q, r⟩) :: t₂ →
    Follows GoOs.Tree.Next s (t₁.map Prod.snd) s₁ → s₁.Next ⟨.rename p q, r⟩ s₂ →
    Follows GoOs.Tree.Next s₂ (t₂.map Prod.snd) s' →
    s₁.kind volumeTrashLoc ≠ none ∨ s₁.kind p = none

/-- Nothing removes the trash directory between the call that told a job of it and the move. -/
def Undisturbed (i : ι) (t : List (ι × Sigma (GoOs.Ans (ν := Str)))) : Prop :=
  ∀ t₁ e t₂ e' t₃, t = t₁ ++ (i, e) :: t₂ ++ (i, e') :: t₃ → TellsTrash e → Renames e' →
    ∀ x ∈ t₂, ¬ RemovesTrash x.2

section

variable (h : Interleaves GoOs.Tree.Next (fun i => (jobs i).prog mountName) s t s')
include h

theorem trashCall_of_interleaves : ∀ e ∈ t.map Prod.snd, TrashCall e :=
  h.safe fun i => (jobs i).safe mountName

theorem exists_endsDeletion (hi : jobs i = .deleteVolume v hv)
    (hrun : Runs ((jobs i).prog mountName) (proj i t) true) :
    ∃ t₁ e t₂, t = t₁ ++ (i, e) :: t₂ ∧ proj i t₂ = [] ∧ (∀ x ∈ proj i t₁, ¬ Renames x) ∧
      EndsDeletion mountName v (proj i t₁) e := by
  rw [hi] at hrun
  obtain ⟨e, he, hlose⟩ | ⟨u₁, e, hu, hq, hend⟩ := runs_deleteDirectoryVolume hrun
  · obtain ⟨t₁, t₂, rfl⟩ := List.append_of_mem (mem_proj.mp he)
    have hf := h.follows
    rw [List.map_append, List.map_cons] at hf
    obtain ⟨s₁, s₂, -, hnext, -⟩ := follows_middle hf
    exact absurd hnext (not_next_of_losesRoot hlose)
  · obtain ⟨t₁, t₂, rfl, rfl, h₂⟩ := proj_eq_append hu
    obtain ⟨t₃, t₄, rfl, h₃, h₄⟩ := proj_eq_cons h₂
    refine ⟨t₁ ++ t₃, e, t₄, by simp, h₄, ?_, ?_⟩
    · simpa [h₃] using hq
    · simpa [h₃] using hend

theorem endsDeletion_of_renames (hi : jobs i = .deleteVolume v hv)
    (hrun : Runs ((jobs i).prog mountName) (proj i t) true)
    {t₁ t₂ : List (ι × Sigma (GoOs.Ans (ν := Str)))} (ht : t = t₁ ++ (i, e) :: t₂)
    (he : Renames e) : proj i t₂ = [] ∧ EndsDeletion mountName v (proj i t₁) e := by
  obtain ⟨t₃, e', t₄, rfl, h₄, hq, hend⟩ := exists_endsDeletion h hi hrun
  have hproj := congrArg (proj i) ht
  simp only [proj_append, proj_cons_self, h₄] at hproj
  obtain hnil | ⟨w, y, hw⟩ := List.eq_nil_or_concat (proj i t₂)
  · rw [hnil] at hproj
    obtain ⟨h₁, h₂⟩ := List.append_inj' hproj rfl
    cases h₂
    exact ⟨hnil, h₁ ▸ hend⟩
  · rw [hw, List.concat_eq_append, ← List.cons_append, ← List.append_assoc] at hproj
    obtain ⟨h₁, -⟩ := List.append_inj' hproj rfl
    exact absurd he (hq e (by simp [h₁]))

end

/-- A move to the trash leaves nothing behind where the trash directory is there. -/
theorem EndsDeletion.kind_none {u : List (Sigma (GoOs.Ans (ν := Str)))}
    (hend : EndsDeletion mountName v u e) (hnext : s.Next e s')
    (hout : v.components.head? ≠ some garbagePath)
    (hfound : Renames e → s.kind volumeTrashLoc ≠ none ∨ s.kind v.components = none) :
    s'.kind v.components = none := by
  obtain ⟨k, rfl⟩ | ⟨-, r, rfl, rfl | rfl⟩ := hend
  · obtain ⟨rfl, hk, -⟩ := hnext
    exact hk
  · obtain ⟨-, -, ⟨he, -⟩ | ⟨hpre, rfl, -⟩⟩ := hnext
    · exact absurd (congrArg List.head? he) hout
    · have hne : v.components ≠ [] := fun he => hpre (he ▸ List.nil_prefix)
      have hnew : ¬ volumeTrashLoc ++ [v.trashName mountName] <+: v.components := by
        rintro ⟨rest, hrest⟩
        exact hout (hrest ▸ rfl)
      rw [GoOs.Tree.move_kind_of_not_prefix hne hnew, if_pos List.prefix_rfl]
  · obtain ⟨rfl, ⟨-, hk | hk⟩ | ⟨he, -⟩ | ⟨he, -⟩ | ⟨he, -⟩ | ⟨he, -⟩⟩ := hnext
    · exact hk
    · rw [List.dropLast_concat] at hk
      exact (hfound ⟨_, _, rfl⟩).resolve_left fun hne => hne hk
    all_goals cases he

/-- The directory of a volume whose deletion succeeds is gone where the trash directory was there
for the move, as it is when no purge removes it after the deletion saw it; and only there. -/
theorem deleteVolume_gone
    (h : Interleaves GoOs.Tree.Next (fun i => (jobs i).prog mountName) s t s')
    (hi : jobs i = .deleteVolume v hv) (hrun : Runs ((jobs i).prog mountName) (proj i t) true)
    (hout : v.components.head? ≠ some garbagePath) :
    (FindsTrash i s t s' → s'.kind v.components = none) ∧
    (Undisturbed i t → FindsTrash i s t s') ∧
    ((∃ t₁ e, t = t₁ ++ [(i, e)]) → s'.kind v.components = none → FindsTrash i s t s') := by
  have hcalls := trashCall_of_interleaves h
  refine ⟨fun hfound => ?_, fun hun => ?_, ?_⟩
  · obtain ⟨t₁, e, t₂, rfl, -, -, hend⟩ := exists_endsDeletion h hi hrun
    have hf := h.follows
    rw [List.map_append, List.map_cons] at hf hcalls
    obtain ⟨s₁, s₂, hf₁, hnext, hf₂⟩ := follows_middle hf
    have hgone : s₂.kind v.components = none := by
      refine hend.kind_none hnext hout fun hmoves => ?_
      obtain ⟨k, rfl⟩ | ⟨-, r, rfl, -⟩ := hend
      · obtain ⟨p, q, he⟩ := hmoves
        cases he
      · exact hfound t₁ _ _ r t₂ s₁ s₂ rfl hf₁ hnext hf₂
    exact hf₂.invariant (I := fun s => s.kind v.components = none) (A := TrashCall)
      (fun _ _ _ hs he hn => he.kind_none hn hout hs) hgone fun x hx => hcalls x (by simp [hx])
  · intro t₁ p q r t₂ s₁ s₂ ht hf₁ hnext hf₂
    obtain ⟨-, hend⟩ := endsDeletion_of_renames h hi hrun ht ⟨p, q, rfl⟩
    obtain ⟨k, he⟩ | ⟨⟨x, hx, htell⟩, -⟩ := hend
    · cases he
    · obtain ⟨t₃, t₄, rfl⟩ := List.append_of_mem (mem_proj.mp hx)
      rw [List.map_append, List.map_cons] at hf₁
      obtain ⟨s₃, s₄, -, hnext', hf₄⟩ := follows_middle hf₁
      refine Or.inl (hf₄.invariant (I := fun s => s.kind volumeTrashLoc ≠ none)
        (A := fun e => TrashCall e ∧ ¬ RemovesTrash e)
        (fun _ _ _ hs he hn => he.1.kind_trash hn hs he.2) (htell.kind_trash hnext') ?_)
      intro y hy
      obtain ⟨⟨j, y⟩, hj, rfl⟩ := List.mem_map.mp hy
      refine ⟨hcalls y ?_, hun t₃ x t₄ _ t₂ (by simpa using ht) htell ⟨p, q, rfl⟩ _ hj⟩
      rw [ht]
      simp only [List.map_append, List.map_cons, List.mem_append, List.mem_cons]
      exact Or.inl (Or.inr (Or.inr hy))
  · rintro ⟨t₀, e₀, rfl⟩ hgone t₁ p q r t₂ s₁ s₂ ht hf₁ hnext hf₂
    obtain ⟨hnil, hend⟩ := endsDeletion_of_renames h hi hrun ht ⟨p, q, rfl⟩
    have ht₂ : t₂ = [] := by
      obtain rfl | ⟨w, y, rfl⟩ := List.eq_nil_or_concat t₂
      · rfl
      · rw [List.concat_eq_append, ← List.cons_append, ← List.append_assoc] at ht
        obtain ⟨-, hy⟩ := List.append_inj' ht rfl
        cases hy
        simp at hnil
    subst ht₂
    cases hf₂
    obtain ⟨k, he⟩ | ⟨-, r', he, hr⟩ := hend
    · cases he
    · cases he
      obtain rfl | rfl := hr
      · refine Or.inl ?_
        have hdir := hnext.2.1
        rw [List.dropLast_concat] at hdir
        rw [hdir]
        exact Option.some_ne_none _
      · exact Or.inr (hnext.1 ▸ hgone)

end

def directoryA : Volume where
  id := "dir/v1/fs1/a"
  filesystemName := "fs1"
  innerPath := "a"
  apiClient := none

def treeWithA : GoOs.Tree Str where
  kind q := if q = [] then some .dir else if q = ["a"] then some .dir else none
  kind_root := if_pos rfl

/-- A deletion, and a purge that was started by another one. -/
def deletionAndPurge : Bool → GcJob
  | true => .deleteVolume directoryA rfl
  | false => .purgeLeftovers 0

/-- The purge removes the trash directory right after the deletion made it. -/
def purgedBeforeMove : List (Bool × Sigma (GoOs.Ans (ν := Str))) :=
  [(true, ⟨.stat volumeTrashLoc, Except.error .noent⟩), (true, ⟨.stat [], Except.ok Kind.dir⟩),
    (true, ⟨.mkdir volumeTrashLoc, Except.ok ()⟩),
    (false, ⟨.unlink volumeTrashLoc, Except.error .isDir⟩),
    (false, ⟨.rmdir volumeTrashLoc, Except.ok ()⟩),
    (true, ⟨.stat directoryA.components, Except.ok Kind.dir⟩),
    (true, ⟨.stat (volumeTrashLoc ++ [directoryA.trashName "fs1"]), Except.error .noent⟩),
    (true, ⟨.rename directoryA.components (volumeTrashLoc ++ [directoryA.trashName "fs1"]),
      Except.error .noent⟩)]

theorem runs_purgedBeforeMove : Runs ((deletionAndPurge true).prog "fs1")
    (proj true purgedBeforeMove) true := by
  refine .call _ (.call _ (.call _ ?_))
  exact .call _ (.call _ (.call _ (.ret _)))

theorem follows_purgedBeforeMove :
    Follows GoOs.Tree.Next treeWithA (purgedBeforeMove.map Prod.snd)
      ((treeWithA.add volumeTrashLoc).remove volumeTrashLoc) := by
  refine .cons ⟨rfl, rfl, .inl rfl⟩ (.cons ⟨rfl, rfl⟩ (.cons ⟨rfl, rfl, rfl⟩
    (.cons ⟨rfl, .inr ⟨rfl, rfl⟩⟩ (.cons ⟨rfl, ?_, by decide, rfl⟩ (.cons ⟨rfl, rfl⟩
    (.cons ⟨rfl, rfl, .inl rfl⟩ (.cons ⟨rfl, .inl ⟨rfl, .inr rfl⟩⟩ (.nil _))))))))
  intro c
  simp [GoOs.Tree.add, treeWithA, volumeTrashLoc]

/-- The deletion succeeds, and the volume stays. -/
theorem deleteVolume_stays : ∃ s s' : GoOs.Tree Str, ∃ t : List (Bool × Sigma (GoOs.Ans (ν := Str))),
    Interleaves GoOs.Tree.Next (fun i => (deletionAndPurge i).prog "fs1") s t s' ∧
      Runs ((deletionAndPurge true).prog "fs1") (proj true t) true ∧
      deletionAndPurge true = .deleteVolume directoryA rfl ∧
      s'.kind directoryA.components = some .dir := by
  refine ⟨_, _, purgedBeforeMove, ⟨?_, follows_purgedBeforeMove⟩, runs_purgedBeforeMove, rfl, rfl⟩
  rintro (_ | _)
  · exact .call _ (.call _ (.nil _))
  · exact runs_purgedBeforeMove.trace

/-- The deletion moves its volume, and the purge finds a trash directory that is not empty. -/
def purgedAfterMove : List (Bool × Sigma (GoOs.Ans (ν := Str))) :=
  [(true, ⟨.stat volumeTrashLoc, Except.error .noent⟩), (true, ⟨.stat [], Except.ok Kind.dir⟩),
    (true, ⟨.mkdir volumeTrashLoc, Except.ok ()⟩),
    (true, ⟨.stat directoryA.components, Except.ok Kind.dir⟩),
    (true, ⟨.stat (volumeTrashLoc ++ [directoryA.trashName "fs1"]), Except.error .noent⟩),
    (true, ⟨.rename directoryA.components (volumeTrashLoc ++ [directoryA.trashName "fs1"]),
      Except.ok ()⟩),
    (false, ⟨.unlink volumeTrashLoc, Except.error .isDir⟩),
    (false, ⟨.rmdir volumeTrashLoc, Except.error .notEmpty⟩)]

theorem runs_purgedAfterMove : Runs ((deletionAndPurge true).prog "fs1")
    (proj true purgedAfterMove) true := by
  refine .call _ (.call _ (.call _ ?_))
  exact .call _ (.call _ (.call _ (.ret _)))

theorem deleteVolume_gone_moved : ∃ s s' : GoOs.Tree Str,
    ∃ t : List (Bool × Sigma (GoOs.Ans (ν := Str))),
    Interleaves GoOs.Tree.Next (fun i => (deletionAndPurge i).prog "fs1") s t s' ∧
      s.kind directoryA.components = some .dir ∧ s'.kind directoryA.components = none := by
  have hf : Follows GoOs.Tree.Next treeWithA (purgedAfterMove.map Prod.snd)
      ((treeWithA.add volumeTrashLoc).move directoryA.components
        (volumeTrashLoc ++ [directoryA.trashName "fs1"])) := by
    refine .cons ⟨rfl, rfl, .inl rfl⟩ (.cons ⟨rfl, rfl⟩ (.cons ⟨rfl, rfl, rfl⟩
      (.cons ⟨rfl, rfl⟩ (.cons ⟨rfl, rfl, .inl rfl⟩ (.cons ⟨by decide, rfl, .inr ⟨by decide, rfl,
      .inl rfl⟩⟩ (.cons ⟨rfl, .inr ⟨rfl, rfl⟩⟩ (.cons ⟨rfl, .inr (.inr (.inl ⟨rfl, ?_⟩))⟩
      (.nil _))))))))
    intro he
    cases he (directoryA.trashName "fs1")
  have htrace : ∀ i, Trace ((deletionAndPurge i).prog "fs1") (proj i purgedAfterMove) := by
    rintro (_ | _)
    · exact .call _ (.call _ (.nil _))
    · exact runs_purgedAfterMove.trace
  obtain ⟨hgone, hun, -⟩ := deleteVolume_gone ⟨htrace, hf⟩ rfl runs_purgedAfterMove (by decide)
  refine ⟨_, _, _, ⟨htrace, hf⟩, rfl, hgone (hun ?_)⟩
  intro t₁ e t₂ e' t₃ ht _ _ x hx
  have hx : x ∈ purgedAfterMove := by
    rw [ht]
    simp [hx]
  simp only [purgedAfterMove, List.mem_cons, List.not_mem_nil, or_false] at hx
  rcases hx with rfl | rfl | rfl | rfl | rfl | rfl | rfl | rfl <;> rintro (he | he) <;> cases he

end CsiWekafs
