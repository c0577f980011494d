/-
Module: CsiLvm.Proofs.VolumeSource
Purpose: The CSI source of the volume a run of `Provision` returns. Its attributes are the
  driver's, with the provisioner's identity under `provisionerIDKey` only where the driver
  sets nothing there. Its filesystem type is the value of the parameter whose key lowers to
  `fstype` that the loop visits last, or `ext4`; Go visits a map in a new order on every loop,
  so the filesystem type is fixed only when those parameters carry one value.
Trusted boundary: the orders a `range` loop may visit a map in are the permutations of its
  entries.
Main exports: lookup_mergeVolumeAttributes, chooseFSType_cases, chooseFSType_of_no_key,
  chooseFSType_of_unique_key, chooseFSType_of_last, provision_eq_ok
-/
import CsiLvm.Proofs.Volume

namespace CsiLvm

/-!
[SPEC src/unnamed/part_001:269-275, 292-301, 314-320] The attribute loop writes the driver's
attributes over `{provisionerIDKey: p.identity}`; the `fsType` loop overwrites its variable
at every parameter whose key lowers to `fstype`, so the one it visits last wins.
-/

/-! ### The attribute loop -/

/-- The attributes of a provisioned volume, key by key: the driver's value where it sets one,
and otherwise the identity under `provisionerIDKey` and nothing under any other key. -/
theorem lookup_mergeVolumeAttributes (identity : String) (attributes : StringMap)
    (key : String) :
    (mergeVolumeAttributes identity attributes).lookup key =
      (attributes.lookup key).or (if key = provisionerIDKey then some identity else none) := by
  rw [mergeVolumeAttributes, StringMap.lookup_foldl_insert]
  by_cases tagged : key = provisionerIDKey
  · rw [if_pos tagged, tagged, AList.lookup_insert]
  · rw [if_neg tagged, AList.lookup_insert_ne tagged, AList.lookup_empty]

/-! ### The `fsType` loop -/

/-- The `fsType` loop leaves the value of the last parameter it visits whose key lowers to
`fstype`, and the value it started from when it visits none. -/
theorem foldl_fsType_eq_find (parameters : List (Sigma fun _ : String => String))
    (fsType : String) :
    parameters.foldl (fun fsType parameter =>
        if parameter.1.toLower = "fstype" then parameter.2 else fsType) fsType =
      ((parameters.reverse.find? (fun parameter => parameter.1.toLower = "fstype")).map
        (·.2)).getD fsType := by
  induction parameters using List.reverseRecOn with
  | nil => rfl
  | append_singleton visited parameter inductionHypothesis =>
    by_cases lowers : parameter.1.toLower = "fstype" <;> simp [lowers, inductionHypothesis]

/-- What `chooseFSType` returns: for some parameter whose key lowers to `fstype`, its value,
or `ext4` when that is empty; or `ext4` when no key lowers to `fstype`. -/
theorem chooseFSType_cases (parameters : StringMap) :
    (∃ parameter ∈ parameters.entries, parameter.1.toLower = "fstype" ∧
        chooseFSType parameters =
          if parameter.2.length = 0 then defaultFSType else parameter.2) ∨
      ((∀ key ∈ parameters, key.toLower ≠ "fstype") ∧
        chooseFSType parameters = defaultFSType) := by
  unfold chooseFSType
  rw [foldl_fsType_eq_find]
  cases found : parameters.entries.reverse.find?
      (fun parameter => parameter.1.toLower = "fstype") with
  | some parameter =>
    exact .inl ⟨parameter, List.mem_reverse.mp (List.mem_of_find?_eq_some found),
      by simpa using List.find?_some found, rfl⟩
  | none =>
    refine .inr ⟨fun key mem lowers => ?_, rfl⟩
    obtain ⟨value, entry⟩ := List.mem_keys.mp (AList.mem_keys.mp mem)
    exact List.find?_eq_none.mp found _ (List.mem_reverse.mpr entry) (by simpa using lowers)

/-- With no key that lowers to `fstype`, the loop keeps `""` and the volume gets `ext4`. -/
theorem chooseFSType_of_no_key {parameters : StringMap}
    (noKey : ∀ key ∈ parameters, key.toLower ≠ "fstype") :
    chooseFSType parameters = defaultFSType := by
  rcases chooseFSType_cases parameters with ⟨parameter, mem, lowers, -⟩ | ⟨-, chosen⟩
  · exact absurd lowers (noKey _ (AList.mem_keys.mpr (List.mem_keys_of_mem mem)))
  · exact chosen

/-- With one key only that lowers to `fstype`, the volume gets its value, or `ext4` when that
is empty. -/
theorem chooseFSType_of_unique_key {parameters : StringMap} {key value : String}
    (found : parameters.lookup key = some value) (lowers : key.toLower = "fstype")
    (unique : ∀ other ∈ parameters, other.toLower = "fstype" → other = key) :
    chooseFSType parameters = if value.length = 0 then defaultFSType else value := by
  rcases chooseFSType_cases parameters with
    ⟨⟨name, chosenValue⟩, mem, named, chosen⟩ | ⟨noKey, -⟩
  · obtain rfl := unique name (AList.mem_keys.mpr (List.mem_keys_of_mem mem)) named
    obtain rfl : chosenValue = value :=
      Option.some.inj ((Option.mem_def.mp (AList.mem_lookup_iff.mpr mem)).symm.trans found)
    exact chosen
  · exact absurd lowers (noKey key (AList.lookup_isSome.mp (by simp [found])))

/-- The loop ends on the parameter it visits last, when that key lowers to `fstype`. -/
theorem chooseFSType_of_last {parameters : StringMap}
    {visited : List (Sigma fun _ : String => String)} {parameter : Sigma fun _ : String => String}
    (order : parameters.entries = visited ++ [parameter]) (lowers : parameter.1.toLower = "fstype") :
    chooseFSType parameters = if parameter.2.length = 0 then defaultFSType else parameter.2 := by
  simp [chooseFSType, order, lowers]

/-- A loop over a map may visit any of its entries last. -/
theorem StringMap.exists_order_ending_with {parameters : StringMap}
    {parameter : Sigma fun _ : String => String} (mem : parameter ∈ parameters.entries) :
    ∃ reordered : StringMap, reordered.entries.Perm parameters.entries ∧
      reordered.entries = parameters.entries.erase parameter ++ [parameter] := by
  have reorder : (parameters.entries.erase parameter ++ [parameter]).Perm parameters.entries :=
    (List.perm_append_singleton _ _).trans (List.perm_cons_erase mem).symm
  exact ⟨⟨_, (reorder.map Sigma.fst).nodup_iff.mpr parameters.nodupKeys⟩, reorder, rfl⟩

/-! ### The returned volume -/

section Run

variable {p : CsiProvisioner} {store : ObjectStore} {driver : ControllerClient}
  {options : VolumeOptions}

/-- Every volume `Provision` returns is built by `provisionedVolume`, from the run's
preparation and a volume of the driver. -/
theorem provision_eq_ok {pv : PersistentVolume}
    (provisioned : (provision p store driver options).result = .ok pv) :
    ∃ prepared volume, pv = provisionedVolume p options prepared volume := by
  rcases provision_ends p store driver options with ⟨-, never⟩ | ⟨err, failed, -⟩ |
      ⟨prepared, rep, log, -, ran, -⟩
  · exact absurd provisioned (never pv)
  · exact nomatch provisioned.symm.trans failed
  · obtain ⟨volume, -, -, rfl⟩ := finishProvision_eq_ok (ran ▸ provisioned)
    exact ⟨prepared, volume, rfl⟩

/-- The attributes of the volume `Provision` returns after the reply `rep`: the driver's on
every key but `provisionerIDKey`, with no further key, and under `provisionerIDKey` the
driver's value when it sets one, the provisioner's identity otherwise. -/
theorem provisioned_attributes_prefer_driver {pv : PersistentVolume}
    {req : CreateVolumeRequest} {rep : CreateVolumeResponse} {volume : Volume}
    (provisioned : (provision p store driver options).result = .ok pv)
    (created : .createVolume req (.ok rep) ∈ (provision p store driver options).calls)
    (hasVolume : rep.volume = some volume) :
    ∃ csi, pv.csi = some csi ∧
      csi.volumeAttributes.lookup provisionerIDKey =
        some ((volume.attributes.lookup provisionerIDKey).getD p.identity) ∧
      ∀ key, key ≠ provisionerIDKey →
        csi.volumeAttributes.lookup key = volume.attributes.lookup key := by
  obtain ⟨prepared, -, -, -, rfl⟩ := provision_eq_ok_of_created provisioned created hasVolume
  refine ⟨_, rfl, ?_, fun key other => ?_⟩
  · rw [lookup_mergeVolumeAttributes, if_pos rfl]
    cases volume.attributes.lookup provisionerIDKey <;> rfl
  · rw [lookup_mergeVolumeAttributes, if_neg other, Option.or_none]

theorem provisioned_attributes_prefer_driver_sample :
    let attributes : StringMap := (∅ : StringMap).insert "volumeGroup" "lvm"
    let created : CreateVolumeResponse := { volume := some ⟨2 ^ 30, "vol-1", attributes⟩ }
    let run := provision sampleProvisioner emptyStore (constantDriver (.ok created))
      (sampleOptions (2 ^ 30) none)
    ∃ pv req, run.result = .ok pv ∧ .createVolume req (.ok created) ∈ run.calls ∧
      created.volume = some ⟨2 ^ 30, "vol-1", attributes⟩ ∧
      ∃ csi, pv.csi = some csi ∧
        csi.volumeAttributes.lookup provisionerIDKey =
          some ((attributes.lookup provisionerIDKey).getD sampleProvisioner.identity) ∧
        ∀ key, key ≠ provisionerIDKey →
          csi.volumeAttributes.lookup key = attributes.lookup key := by
  intro attributes created run
  obtain ⟨pv, returned⟩ : ∃ pv, run.result = .ok pv := ⟨_, rfl⟩
  obtain ⟨req, member⟩ : ∃ req, .createVolume req (.ok created) ∈ run.calls :=
    ⟨_, List.mem_singleton_self _⟩
  exact ⟨pv, req, returned, member, rfl,
    provisioned_attributes_prefer_driver returned member rfl⟩

/-- A driver that returns an attribute under `provisionerIDKey` replaces the provisioner's
identity in the volume `Provision` returns. -/
theorem provision_driver_replaces_identity :
    let attributes : StringMap := (∅ : StringMap).insert provisionerIDKey "other"
    let created : CreateVolumeResponse := { volume := some ⟨2 ^ 30, "vol-1", attributes⟩ }
    ∃ pv csi, (provision sampleProvisioner emptyStore (constantDriver (.ok created))
        (sampleOptions (2 ^ 30) none)).result = .ok pv ∧ pv.csi = some csi ∧
      csi.volumeAttributes.lookup provisionerIDKey = some "other" ∧
      csi.volumeAttributes.lookup provisionerIDKey ≠ some sampleProvisioner.identity :=
  ⟨_, _, rfl, rfl, by decide, by decide⟩

/-- The filesystem type of the volume `Provision` returns, over every order the `fsType` loop
may visit the parameters in: `ext4` when no key lowers to `fstype`, and the value of the one
key that does when it is not empty. -/
theorem provisioned_fsType_order_independent {pv : PersistentVolume}
    (provisioned : (provision p store driver options).result = .ok pv) :
    ∃ csi, pv.csi = some csi ∧
      ∀ reordered : StringMap, reordered.entries.Perm options.parameters.entries →
        ((∀ key ∈ options.parameters, key.toLower ≠ "fstype") →
            chooseFSType reordered = csi.fsType ∧ csi.fsType = defaultFSType) ∧
        ∀ key value, options.parameters.lookup key = some value → key.toLower = "fstype" →
          (∀ other ∈ options.parameters, other.toLower = "fstype" → other = key) →
          value ≠ "" → chooseFSType reordered = csi.fsType ∧ csi.fsType = value := by
  obtain ⟨prepared, volume, rfl⟩ := provision_eq_ok provisioned
  refine ⟨_, rfl, fun reordered reorder => ⟨fun noKey => ?_, ?_⟩⟩
  · have chosen := chooseFSType_of_no_key noKey
    exact ⟨(chooseFSType_of_no_key fun key mem =>
      noKey key ((AList.mem_of_perm reorder).mp mem)).trans chosen.symm, chosen⟩
  · intro key value found lowers unique nonempty
    have long : value.length ≠ 0 := by simpa using nonempty
    have chosen := chooseFSType_of_unique_key found lowers unique
    have moved := chooseFSType_of_unique_key ((AList.perm_lookup reorder).trans found) lowers
      fun other mem => unique other ((AList.mem_of_perm reorder).mp mem)
    rw [if_neg long] at chosen moved
    exact ⟨moved.trans chosen.symm, chosen⟩

theorem provisioned_fsType_order_independent_sample :
    let parameters : StringMap := (∅ : StringMap).insert "fsType" "xfs"
    let run := provision sampleProvisioner emptyStore
      (constantDriver (.ok { volume := some ⟨2 ^ 30, "vol-1", ∅⟩ }))
      { sampleOptions (2 ^ 30) none with parameters := parameters }
    ∃ pv, run.result = .ok pv ∧ ∃ csi, pv.csi = some csi ∧
      ∀ reordered : StringMap, reordered.entries.Perm parameters.entries →
        ((∀ key ∈ parameters, key.toLower ≠ "fstype") →
            chooseFSType reordered = csi.fsType ∧ csi.fsType = defaultFSType) ∧
        ∀ key value, parameters.lookup key = some value → key.toLower = "fstype" →
          (∀ other ∈ parameters, other.toLower = "fstype" → other = key) →
          value ≠ "" → chooseFSType reordered = csi.fsType ∧ csi.fsType = value := by
  intro parameters run
  obtain ⟨pv, returned⟩ : ∃ pv, run.result = .ok pv := ⟨_, rfl⟩
  exact ⟨pv, returned, provisioned_fsType_order_independent returned⟩

/-- Two orders of one parameter map with the keys `fstype` and `FSType`, which both lower to
`fstype` and carry different values: `Provision` gives the volume the value of the key its
loop visits last, so the two orders give two filesystem types. -/
theorem provision_fsType_depends_on_order :
    let first : StringMap := ((∅ : StringMap).insert "fstype" "xfs").insert "FSType" "ext3"
    let second : StringMap := ((∅ : StringMap).insert "FSType" "ext3").insert "fstype" "xfs"
    let driver := constantDriver (.ok { volume := some ⟨2 ^ 30, "vol-1", ∅⟩ })
    first.entries.Perm second.entries ∧
      ∃ pv csi pv' csi',
        (provision sampleProvisioner emptyStore driver
          { sampleOptions (2 ^ 30) none with parameters := first }).result = .ok pv ∧
        pv.csi = some csi ∧ csi.fsType = "xfs" ∧
        (provision sampleProvisioner emptyStore driver
          { sampleOptions (2 ^ 30) none with parameters := second }).result = .ok pv' ∧
        pv'.csi = some csi' ∧ csi'.fsType = "ext3" := by
  intro first second driver
  have lowered : "fstype".toLower = "fstype" ∧ "FSType".toLower = "fstype" := by
    simp [String.toLower, String.map_eq]
  have chosen : chooseFSType first = "xfs" ∧ chooseFSType second = "ext3" :=
    ⟨(@chooseFSType_of_last first [⟨"FSType", "ext3"⟩] ⟨"fstype", "xfs"⟩ rfl lowered.1).trans rfl,
      (@chooseFSType_of_last second [⟨"fstype", "xfs"⟩] ⟨"FSType", "ext3"⟩ rfl lowered.2).trans
        rfl⟩
  exact ⟨List.Perm.swap _ _ [], _, _, _, _, rfl, rfl, chosen.1, rfl, rfl, chosen.2⟩

end Run

/-- The filesystem types the `fsType` loop can choose for one parameter map, over every order
it may visit the map in: for each parameter whose key lowers to `fstype`, its value, or `ext4`
when that is empty; and `ext4` alone when no key lowers to `fstype`. -/
theorem chooseFSType_over_orders (parameters : StringMap) (fsType : String) :
    (∃ reordered : StringMap, reordered.entries.Perm parameters.entries ∧
        chooseFSType reordered = fsType) ↔
      (∃ parameter ∈ parameters.entries, parameter.1.toLower = "fstype" ∧
          fsType = if parameter.2.length = 0 then defaultFSType else parameter.2) ∨
        ((∀ key ∈ parameters, key.toLower ≠ "fstype") ∧ fsType = defaultFSType) := by
  constructor
  · rintro ⟨reordered, reorder, rfl⟩
    rcases chooseFSType_cases reordered with ⟨parameter, mem, lowers, chosen⟩ | ⟨noKey, chosen⟩
    · exact .inl ⟨parameter, reorder.mem_iff.mp mem, lowers, chosen⟩
    · exact .inr ⟨fun key mem => noKey key ((AList.mem_of_perm reorder).mpr mem), chosen⟩
  · rintro (⟨parameter, mem, lowers, rfl⟩ | ⟨noKey, rfl⟩)
    · obtain ⟨reordered, reorder, order⟩ := StringMap.exists_order_ending_with mem
      exact ⟨reordered, reorder, chooseFSType_of_last order lowers⟩
    · exact ⟨parameters, List.Perm.refl _, chooseFSType_of_no_key noKey⟩

end CsiLvm
