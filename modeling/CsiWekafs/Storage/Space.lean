import CsiWekafs.Capacity.Reserve
import CsiWekafs.Storage.Existence

namespace CsiWekafs

open Prog

variable {site : Site} {faults : Prop} {s : Storage site} {v : Volume} {config : DriverConfig}

theorem ends_query {r : Request} (hr : ∀ (s : Storage site) data s', s.Serves r data s' → s' = s) :
    (request r).Ends (Storage.Next faults) (fun _ s' => s' = s) s := by
  refine ends_send (I := fun s' => s' = s) rfl ?_ ?_ fun _ _ h => h
  · rintro s₁ data s₂ rfl h
    exact hr _ data s₂ h
  · rintro s₁ data s₂ rfl h
    exact hr _ data s₂ h

theorem ends_getFilesystemFreeSpaceByApi (hv : v.Bound site) :
    v.getFilesystemFreeSpaceByApi.Ends (Storage.Next faults)
      (fun y s' => s' = s ∧ v.Keeps site y.2) s := by
  unfold Volume.getFilesystemFreeSpaceByApi
  split
  · exact holds_pure ⟨rfl, hv.keeps⟩
  · refine Holds.bind (returns_getFilesystemObj hv true).ends ?_
    rintro ⟨r, w⟩ s' ⟨rfl, hw, -⟩
    match r with
    | .error e => exact holds_pure ⟨rfl, hw⟩
    | .ok none => exact holds_pure ⟨rfl, hw⟩
    | .ok (some f) =>
      refine Holds.bind (R := fun _ s₁ => s₁ = s') ?_ ?_
      · refine Holds.bind (ends_query fun _ _ _ h => h) ?_
        rintro r s₁ rfl
        split
        · exact holds_pure rfl
        · split
          · exact holds_pure rfl
          · split
            · exact holds_pure rfl
            · exact holds_pure rfl
      · rintro r s₁ rfl
        split
        · exact holds_pure ⟨rfl, hw⟩
        · exact holds_pure ⟨rfl, hw⟩

theorem ends_getFilesystemFreeSpace (hv : v.Bound site) :
    (v.getFilesystemFreeSpace config).Ends (Storage.Next faults)
      (fun y s' => s' = s ∧ v.Keeps site y.2) s := by
  unfold Volume.getFilesystemFreeSpace
  split
  · exact ends_getFilesystemFreeSpaceByApi hv
  · refine holds_withMount (fun _ _ _ => trivial) hv (fun e _ => ⟨rfl, hv.keeps⟩) ?_
    intro _ w hw _
    refine Holds.bind (ends_op fun r s' h => h) ?_
    rintro r s' rfl
    cases r with
    | error e => exact holds_pure ⟨⟨rfl, hw.unmounted⟩, fun _ _ => ⟨rfl, hw.unmounted⟩⟩
    | ok n => exact holds_pure ⟨⟨rfl, hw.unmounted⟩, fun _ _ => ⟨rfl, hw.unmounted⟩⟩

theorem ends_getFreeSpaceOnStorage (hv : v.Bound site) :
    v.getFreeSpaceOnStorage.Ends (Storage.Next faults)
      (fun y s' => s' = s ∧ v.Keeps site y.2) s := by
  refine Holds.bind (returns_fileSystemExists hv).ends ?_
  rintro ⟨r, w⟩ s' ⟨rfl, hw, -⟩
  cases r with
  | error e => exact holds_pure ⟨rfl, hw⟩
  | ok b =>
    dsimp only
    split
    · exact holds_pure ⟨rfl, hw⟩
    · refine Holds.bind (R := fun _ s₁ => s₁ = s') ?_ ?_
      · refine Holds.bind (ends_query fun _ _ _ h => h) ?_
        rintro r s₁ rfl
        cases r with
        | error e => exact holds_pure rfl
        | ok data => exact holds_pure rfl
      · rintro r s₁ rfl
        cases r with
        | error e => exact holds_pure ⟨rfl, hw⟩
        | ok n => exact holds_pure ⟨rfl, hw⟩

theorem ends_getMaxCapacity (hv : v.Bound site) :
    (v.getMaxCapacity config).Ends (Storage.Next faults)
      (fun y s' => s' = s ∧ v.Keeps site y.2) s := by
  unfold Volume.getMaxCapacity
  split
  · exact ends_getFilesystemFreeSpace hv
  · refine Holds.bind (R := fun y s' => s' = s ∧ v.Keeps site y.2) ?_ ?_
    · refine Holds.bind (returns_getFilesystemObj hv false).ends ?_
      rintro ⟨r, w⟩ s' ⟨rfl, hw, -⟩
      match r with
      | .error e => exact holds_pure ⟨rfl, hw⟩
      | .ok none => exact holds_pure ⟨rfl, hw⟩
      | .ok (some f) => exact holds_pure ⟨rfl, hw⟩
    · rintro ⟨r, w⟩ s' ⟨rfl, hw⟩
      cases r with
      | error e => exact holds_pure ⟨rfl, hw⟩
      | ok size =>
        dsimp only
        split
        · exact holds_pure ⟨rfl, hw⟩
        · refine Holds.bind (ends_getFreeSpaceOnStorage hw.bound) ?_
          rintro ⟨r, x⟩ s₁ ⟨rfl, hx⟩
          cases r with
          | error e => exact holds_pure ⟨rfl, hw.trans hx⟩
          | ok n => exact holds_pure ⟨rfl, hw.trans hx⟩

section

variable {α : Type} [AddCommGroup α] [LinearOrder α]

theorem ends_refreshIfDue {q : Int64 → α} {ct : CapacityTracker α} {driverName : Str} :
    (ct.refreshIfDue q driverName).Ends (Storage.Next faults) (fun _ s' => s' = s) s := by
  refine Holds.bind (ends_op fun r s' h => h) ?_
  rintro now s' rfl
  dsimp only
  split
  · refine Holds.bind (R := fun _ s₁ => s₁ = s') ?_ ?_
    · refine Holds.bind (ends_op fun r s' h => h) ?_
      rintro r s₁ rfl
      cases r with
      | error e => exact holds_pure rfl
      | ok pvs =>
        refine Holds.bind (ends_op fun r s' h => h) ?_
        rintro r s₁ rfl
        exact holds_pure rfl
    · rintro r s₁ rfl
      exact holds_pure rfl
  · exact holds_pure rfl

theorem ends_validateAndReserveCapacity [ToString α] {q : Int64 → α}
    {tracker : Option (CapacityTracker α)} {current target : Int64} (hv : v.Bound site) :
    (validateAndReserveCapacity q config tracker v current target).Ends (Storage.Next faults)
      (fun y s' => s' = s ∧ v.Keeps site y.2.1) s := by
  unfold validateAndReserveCapacity
  split
  · exact holds_pure ⟨rfl, hv.keeps⟩
  · split
    · exact holds_pure ⟨rfl, hv.keeps⟩
    · refine Holds.bind (returns_getFilesystemObj hv true).ends ?_
      rintro ⟨r, w⟩ s' ⟨rfl, hw, -⟩
      match r with
      | .error e => exact holds_pure ⟨rfl, hw⟩
      | .ok none => exact holds_pure ⟨rfl, hw⟩
      | .ok (some f) =>
        refine Holds.bind (R := fun _ s₁ => s₁ = s') ?_ ?_
        · refine Holds.bind ends_refreshIfDue ?_
          rintro ct s₁ rfl
          dsimp only
          split
          · exact holds_pure rfl
          · refine Holds.bind (ends_op fun r s' h => h) ?_
            rintro now s₁ rfl
            exact holds_pure rfl
        · rintro ⟨r, ct⟩ s₁ rfl
          exact holds_pure ⟨rfl, hw⟩

end

end CsiWekafs
