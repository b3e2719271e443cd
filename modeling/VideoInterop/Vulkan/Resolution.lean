import VideoInterop.Vulkan.Capability

/-!
# Resolution

A stream is resolved against the inventory of an importer, with the preference the
inventory was made with.  The policy check after the resolution never fires: the
inventory has no candidate that violates the preference.  What is resolved is
admitted by the import that follows, and finds the pipeline it needs.
-/

namespace VideoInterop.Vulkan

open VideoInterop (Effect)
open VideoInterop.Effect (Preserves)

/-! ## The loop over the candidates -/

section Candidates

variable {request : Nv12ResolveRequest} {capabilities : List Nv12ModifierCapability}
  {capability : Nv12ModifierCapability} {rejections : List String}

/-- The capability satisfies the stream. -/
def Nv12ResolveRequest.Satisfies (request : Nv12ResolveRequest)
    (capability : Nv12ModifierCapability) : Prop :=
  validateNv12ModifierCapability capability request.dimensions request.conversion = .ok ()

theorem firstSatisfying_ok (h : firstSatisfying request capabilities rejections = .ok capability) :
    capability ∈ capabilities ∧ request.Satisfies capability := by
  induction capabilities generalizing rejections with
  | nil => cases h
  | cons candidate rest ih =>
    rw [firstSatisfying] at h
    split at h
    · next hvalid =>
      cases h
      exact ⟨List.mem_cons_self .., hvalid⟩
    · obtain ⟨hmem, hvalid⟩ := ih h
      exact ⟨List.mem_cons_of_mem _ hmem, hvalid⟩

theorem firstSatisfying_error {reasons : List String}
    (h : firstSatisfying request capabilities rejections = .error reasons) :
    ∀ capability ∈ capabilities, ¬request.Satisfies capability := by
  induction capabilities generalizing rejections with
  | nil => simp
  | cons candidate rest ih =>
    rw [firstSatisfying] at h
    split at h
    · cases h
    · next error hinvalid =>
      refine List.forall_mem_cons.mpr ⟨fun hvalid => ?_, ih h⟩
      rw [Nv12ResolveRequest.Satisfies, hinvalid] at hvalid
      cases hvalid

theorem resolveNv12ModifierCapability_ok
    (h : resolveNv12ModifierCapability capabilities request = .ok capability) :
    capability ∈ capabilities ∧ capability.modifier = request.modifier ∧
      request.Satisfies capability := by
  obtain ⟨hmem, hvalid⟩ := firstSatisfying_ok (mapError_ok.mp h)
  obtain ⟨hmem, hmodifier⟩ := List.mem_filter.mp hmem
  exact ⟨hmem, by simpa using hmodifier, hvalid⟩

theorem resolveNv12ModifierCapability_error {error : String}
    (h : resolveNv12ModifierCapability capabilities request = .error error) :
    ∀ capability ∈ capabilities, capability.modifier = request.modifier →
      ¬request.Satisfies capability := by
  obtain ⟨reasons, herror, -⟩ := mapError_error.mp h
  intro capability hmem hmodifier
  exact firstSatisfying_error herror capability
    (List.mem_filter.mpr ⟨hmem, by simpa using hmodifier⟩)

end Candidates

/-! ## The inventory -/

variable {device : DeviceAnswers} {stagingPreference : Nv12StagingPreference}
  {capability : Nv12ModifierCapability} {capabilities : List Nv12ModifierCapability}

/-- The usage of the output planes of a strategy that has some. -/
def Nv12ImportStrategy.planarUsage : Nv12ImportStrategy → Option Flags
  | .linearBufferToYuvPlanes => some stagedNv12OutputUsage
  | .linearBufferToOptimalYuvPlanes | .directImageToOptimalYuvPlanes => some transferNv12OutputUsage
  | _ => none

/-- An extent fits the extents that a device reports of two output planes. -/
structure PlanesFit (device : DeviceAnswers) (usage : Flags) (extent luma chroma : Extent3D) :
    Prop where
  /-- What the device says of the luma plane. -/
  lumaReported : device.optimalImage lumaFormat usage = .ok luma
  /-- What it says of the chroma plane. -/
  chromaReported : device.optimalImage chromaFormat usage = .ok chroma
  /-- Neither plane is too wide. -/
  width : extent.1 ≤ luma.1 ∧ extent.1 ≤ saturatingDouble chroma.1
  /-- Neither plane is too high. -/
  height : extent.2.1 ≤ luma.2.1 ∧ extent.2.1 ≤ saturatingDouble chroma.2.1

/-- What the documentation of the preferences promises: a required output is never
replaced, and the outputs of `preferPlanar` are fallbacks in order. -/
def Nv12StagingPreference.Obeyed (device : DeviceAnswers) (capability : Nv12ModifierCapability) :
    Nv12StagingPreference → Prop
  | .requirePlanar => capability.strategy = .linearBufferToYuvPlanes
  | .requireRgba => capability.strategy = .linearBufferToRgba
  | .preferPlanar =>
    (capability.strategy.output.isSome → ∃ linear ∈ device.modifiers importedNv12Format,
      ∃ error, queryLinearNv12TransferCapability device linear = .error error) ∧
    (capability.strategy = .linearBufferToRgba →
      ∃ error, queryPlanarStagingFormat device computeOutputFeatures = .error error)

/-- What holds of every capability of an inventory. -/
structure Candidate (device : DeviceAnswers) (stagingPreference : Nv12StagingPreference)
    (capability : Nv12ModifierCapability) : Prop where
  /-- It keeps the preference. -/
  obeys : stagingPreference.Obeyed device capability
  /-- It writes planes, or RGBA. -/
  offered : capability.strategy.planarUsage.isSome ∨ capability.strategy = .linearBufferToRgba
  /-- Planes it writes can have its extent. -/
  planes : ∀ usage, capability.strategy.planarUsage = some usage →
    ∃ luma chroma, PlanesFit device usage capability.maxExtent luma chroma

theorem queryOptimalStagingFormatWithUsage_ok {format : Format} {required usage : Flags}
    {output : Flags × Extent3D}
    (h : queryOptimalStagingFormatWithUsage device format required usage = .ok output) :
    device.optimalImage format usage = .ok output.2 := by
  obtain ⟨-, -, h⟩ := bind_ok.mp h
  obtain ⟨extent, hextent, h⟩ := bind_ok.mp h
  cases h
  exact mapError_ok.mp hextent

theorem queryPlanes_ok {required usage : Flags} {output : Flags × Extent3D}
    (h : queryPlanes device required usage = .ok output) :
    ∃ luma chroma, PlanesFit device usage output.2 luma chroma := by
  obtain ⟨luma, hluma, h⟩ := bind_ok.mp h
  obtain ⟨chroma, hchroma, h⟩ := bind_ok.mp h
  cases h
  exact ⟨luma.2, chroma.2, queryOptimalStagingFormatWithUsage_ok hluma,
    queryOptimalStagingFormatWithUsage_ok hchroma, ⟨Std.min_le_left, Std.min_le_right⟩,
    ⟨Std.min_le_left, Std.min_le_right⟩⟩

theorem transfer_candidate {linear : DrmFormatModifierProperties}
    (h : queryLinearNv12TransferCapability device linear = .ok capability) :
    Candidate device .preferPlanar capability := by
  obtain ⟨-, -, h⟩ := bind_ok.mp h
  obtain ⟨external, -, h⟩ := bind_ok.mp h
  obtain ⟨output, houtput, h⟩ := bind_ok.mp h
  cases h
  refine ⟨⟨nofun, nofun⟩, .inl rfl, fun usage husage => ?_⟩
  cases husage
  exact queryPlanes_ok (mapError_ok.mp houtput)

/-- The output of a compute staging is the first that the preference allows. -/
theorem queryComputeOutput_ok {output : Nv12ImportStrategy × Flags × Extent3D}
    (h : queryComputeOutput device stagingPreference = .ok output) :
    (output.1 = .linearBufferToYuvPlanes ∧ stagingPreference ≠ .requireRgba ∧
        ∃ luma chroma, PlanesFit device stagedNv12OutputUsage output.2.2 luma chroma) ∨
      output.1 = .linearBufferToRgba ∧ stagingPreference ≠ .requirePlanar ∧
        (stagingPreference = .preferPlanar →
          ∃ error, queryPlanarStagingFormat device computeOutputFeatures = .error error) := by
  have hmap {x : Except String (Flags × Extent3D)} {strategy : Nv12ImportStrategy}
      (hx : x.map (strategy, ·) = .ok output) : output.1 = strategy ∧ x = .ok output.2 := by
    cases x with
    | error error => cases hx
    | ok y =>
      cases hx
      exact ⟨rfl, rfl⟩
  cases stagingPreference with
  | preferPlanar =>
    simp only [queryComputeOutput] at h
    split at h
    · next planar hplanar =>
      cases h
      exact .inl ⟨rfl, by simp, queryPlanes_ok hplanar⟩
    · next error hplanar => exact .inr ⟨(hmap h).1, by simp, fun _ => ⟨error, hplanar⟩⟩
  | requirePlanar =>
    obtain ⟨hstrategy, houtput⟩ := hmap h
    exact .inl ⟨hstrategy, by simp, queryPlanes_ok (mapError_ok.mp houtput)⟩
  | requireRgba => exact .inr ⟨(hmap h).1, by simp, nofun⟩

theorem compute_candidate {linear : DrmFormatModifierProperties}
    (h : queryLinearNv12ComputeCapability device linear stagingPreference = .ok capability)
    (hlinear : linear ∈ device.modifiers importedNv12Format)
    (htransfer : stagingPreference = .preferPlanar →
      ∃ error, queryLinearNv12TransferCapability device linear = .error error) :
    Candidate device stagingPreference capability := by
  obtain ⟨-, -, h⟩ := bind_ok.mp h
  obtain ⟨external, -, h⟩ := bind_ok.mp h
  obtain ⟨-, -, h⟩ := bind_ok.mp h
  obtain ⟨⟨strategy, output⟩, houtput, h⟩ := bind_ok.mp h
  cases h
  rcases queryComputeOutput_ok houtput with
    ⟨rfl, hpreference, hplanes⟩ | ⟨rfl, hpreference, hplanar⟩
  · refine ⟨?_, .inl rfl, fun usage husage => ?_⟩
    · cases stagingPreference with
      | preferPlanar => exact ⟨fun _ => ⟨linear, hlinear, htransfer rfl⟩, nofun⟩
      | requirePlanar => rfl
      | requireRgba => exact absurd rfl hpreference
    · cases husage
      exact hplanes
  · refine ⟨?_, .inr rfl, nofun⟩
    cases stagingPreference with
    | preferPlanar => exact ⟨fun _ => ⟨linear, hlinear, htransfer rfl⟩, fun _ => hplanar rfl⟩
    | requirePlanar => exact absurd rfl hpreference
    | requireRgba => rfl

theorem direct_candidate {modifier : DrmFormatModifierProperties}
    (h : directImageCandidate device
      (queryTransferPlanarStagingFormat device transferPlaneFeatures).toOption modifier =
        some capability) : Candidate device .preferPlanar capability := by
  obtain ⟨output, houtput, h⟩ := Option.bind_eq_some_iff.mp h
  obtain ⟨luma, chroma, hplanes⟩ := queryPlanes_ok (toOption_eq_some.mp houtput)
  simp only at h
  split at h
  · cases h
  · obtain ⟨⟨external, extent⟩, -, h⟩ := Option.bind_eq_some_iff.mp h
    cases h
    refine ⟨⟨nofun, nofun⟩, .inl rfl, fun usage husage => ?_⟩
    cases husage
    have hwidth : min extent.1 output.2.1 ≤ output.2.1 := Std.min_le_right
    have hheight : min extent.2.1 output.2.2.1 ≤ output.2.2.1 := Std.min_le_right
    exact ⟨luma, chroma, hplanes.lumaReported, hplanes.chromaReported,
      ⟨UInt32.le_trans hwidth hplanes.width.1, UInt32.le_trans hwidth hplanes.width.2⟩,
      ⟨UInt32.le_trans hheight hplanes.height.1, UInt32.le_trans hheight hplanes.height.2⟩⟩

theorem staging_candidate {linear : DrmFormatModifierProperties}
    (hlinear : linear ∈ device.modifiers importedNv12Format)
    (hmem : capability ∈ queryLinearNv12StagingCandidates device linear stagingPreference) :
    Candidate device stagingPreference capability := by
  have hcompute {preference : Nv12StagingPreference}
      (hmem : capability ∈ (queryLinearNv12ComputeCapability device linear
        preference).toOption.toList) :
      queryLinearNv12ComputeCapability device linear preference = .ok capability :=
    toOption_eq_some.mp (Option.mem_toList.mp hmem)
  cases stagingPreference with
  | preferPlanar =>
    simp only [queryLinearNv12StagingCandidates] at hmem
    split at hmem
    · next transfer htransfer =>
      obtain rfl := List.mem_singleton.mp hmem
      exact transfer_candidate htransfer
    · next error htransfer =>
      exact compute_candidate (hcompute hmem) hlinear fun _ => ⟨error, htransfer⟩
  | requirePlanar => exact compute_candidate (hcompute hmem) hlinear nofun
  | requireRgba => exact compute_candidate (hcompute hmem) hlinear nofun

/-- **Every capability of an inventory obeys the preference and fits its planes.** -/
theorem inventory_candidate
    (h : inventoryNv12ModifierCapabilities device stagingPreference = .ok capabilities)
    (hmem : capability ∈ capabilities) : Candidate device stagingPreference capability := by
  obtain ⟨modifiers, hmodifiers, h⟩ := bind_ok.mp h
  cases hmodifiers
  cases h
  rcases List.mem_append.mp hmem with hdirect | hlinear
  · split at hdirect
    · next hpreference =>
      obtain ⟨modifier, -, hcandidate⟩ := List.mem_filterMap.mp hdirect
      rw [hpreference]
      exact direct_candidate hcandidate
    · cases hdirect
  · split at hlinear
    · next linear hfound => exact staging_candidate (List.mem_of_find?_eq_some hfound) hlinear
    · cases hlinear

/-! ## Extents -/

theorem saturatingDouble_half {n chroma : UInt32} (h : n ≤ saturatingDouble chroma) :
    n.toNat / 2 ≤ chroma.toNat := by
  have hn := n.toNat_lt
  rw [UInt32.le_iff_toNat_le] at h
  unfold saturatingDouble at h
  split at h
  · next hfits =>
    have hdouble : (chroma * 2).toNat = chroma.toNat * 2 := by
      rw [UInt32.toNat_mul]
      exact Nat.mod_eq_of_lt hfits
    omega
  · omega

/-- What is admitted fits both planes. -/
theorem PlanesFit.admitted {usage : Flags} {luma chroma : Extent3D} {request : Nv12ResolveRequest}
    (h : PlanesFit device usage capability.maxExtent luma chroma)
    (hsatisfies : request.Satisfies capability) :
    request.dimensions.1 ≤ luma.1 ∧ request.dimensions.2 ≤ luma.2.1 ∧
      request.dimensions.1.toNat / 2 ≤ chroma.1.toNat ∧
        request.dimensions.2.toNat / 2 ≤ chroma.2.1.toNat := by
  obtain ⟨-, -, hsatisfies⟩ := bind_ok.mp hsatisfies
  obtain ⟨_, hlimit, -⟩ := bind_ok.mp hsatisfies
  simp only [refuse_ok, Bool.or_eq_false_iff, decide_eq_false_iff_not, UInt32.not_lt] at hlimit
  exact ⟨UInt32.le_trans hlimit.1 h.width.1, UInt32.le_trans hlimit.2 h.height.1,
    saturatingDouble_half (UInt32.le_trans hlimit.1 h.width.2),
    saturatingDouble_half (UInt32.le_trans hlimit.2 h.height.2)⟩

/-! ## What an importer keeps -/

namespace Importer

/-- The inventory and the pipelines made for it. -/
def negotiated (w : Importer) :
    List Nv12ModifierCapability × Option Nv12ComputePipeline × Option Nv12ComputePipeline :=
  (w.nv12Capabilities, w.nv12RgbaCompute, w.nv12PlanarCompute)

theorem preserves_take {α : Type} {result : Except String α} :
    Preserves negotiated (take result) := by
  cases result with
  | ok a => exact .pure
  | error error => exact .throw

theorem preserves_takeImportId : Preserves negotiated takeImportId := fun _ => rfl

section Nv12

variable {streamIncarnation : UInt64} {dimensions : UInt32 × UInt32} {sourceFd : Int32}
  {layout : Nv12SharedObjectLayout} {conversion : Nv12Conversion} {strategy : Nv12ImportStrategy}
  {calls : Nv12ImportCalls}

theorem preserves_claimCachedSource {topology : Nv12FrameTopology}
    {created : Except String CachedNv12SourceAllocation} :
    Preserves negotiated
      (claimCachedSource streamIncarnation sourceFd topology strategy created calls) := by
  intro w
  rw [exec_claimCachedSource]
  split <;> rfl

theorem preserves_dropSource {lease : Nv12SourceLease} : Preserves negotiated (dropSource lease) :=
  fun _ => rfl

theorem preserves_dropOutput {lease : Nv12OutputLease} : Preserves negotiated (dropOutput lease) :=
  fun _ => rfl

theorem preserves_claimNv12Output {pipeline : Option Nv12ComputePipeline}
    {sourceView : Option BufferView} :
    Preserves negotiated (claimNv12Output dimensions strategy pipeline sourceView calls) := by
  intro w
  rw [exec_claimNv12Output]
  rfl

theorem preserves_fromDirectNv12Source {source : Nv12SourceLease} :
    Preserves negotiated (fromDirectNv12Source dimensions layout source) := by
  unfold fromDirectNv12Source
  split
  · exact preserves_takeImportId.bind fun _ => .pure
  · exact .throw

theorem preserves_createStagedNv12 {pipeline : Option Nv12ComputePipeline} :
    Preserves negotiated (createStagedNv12 streamIncarnation dimensions sourceFd layout conversion
      strategy pipeline calls) :=
  Preserves.get.bind fun _ => preserves_take.bind fun _ => preserves_claimCachedSource.bind fun _ =>
    (Preserves.onFailure preserves_claimNv12Output preserves_dropSource).bind fun _ =>
      (Preserves.onFailure preserves_take
        (preserves_dropOutput.bind fun _ => preserves_dropSource)).bind fun _ =>
          preserves_takeImportId.bind fun _ => .pure

theorem preserves_importImageTransfer :
    Preserves negotiated (importImageTransfer streamIncarnation dimensions sourceFd layout strategy
      calls) :=
  Preserves.get.bind fun _ => preserves_claimCachedSource.bind fun _ =>
    (Preserves.onFailure preserves_claimNv12Output preserves_dropSource).bind fun _ =>
      preserves_takeImportId.bind fun _ => .pure

theorem preserves_importNv12 :
    Preserves negotiated (importNv12 streamIncarnation dimensions sourceFd layout conversion
      strategy calls) := by
  cases strategy with
  | directSampledImage =>
    exact Preserves.get.bind fun _ => preserves_claimCachedSource.bind fun _ =>
      .onFailure preserves_fromDirectNv12Source preserves_dropSource
  | directImageToOptimalYuvPlanes => exact preserves_importImageTransfer
  | linearBufferToOptimalNv12 => exact preserves_createStagedNv12
  | linearBufferToOptimalYuvPlanes => exact preserves_createStagedNv12
  | linearBufferToYuvPlanes =>
    exact Preserves.get.bind fun _ => preserves_take.bind fun _ => preserves_createStagedNv12
  | linearBufferToRgba =>
    exact Preserves.get.bind fun _ => preserves_take.bind fun _ => preserves_createStagedNv12

end Nv12

section Packed

variable {request : PackedImageImport} {strategy : PackedImageImportStrategy}
  {source : PackedSourceLease} {calls : PackedImportCalls}

theorem preserves_claimCachedPackedSource :
    Preserves negotiated (claimCachedPackedSource request strategy calls) := by
  refine Preserves.get.bind fun _ => preserves_take.bind fun _ => preserves_take.bind fun _ => ?_
  intro w
  simp only [Effect.exec_bind, exec_get, exec_modify, exec_take]
  rfl

theorem preserves_importPackedWithStrategy :
    Preserves negotiated (importPackedWithStrategy request strategy calls) := by
  have hdrop (lease : PackedSourceLease) : Preserves negotiated (dropPackedSource lease) :=
    fun _ => rfl
  refine preserves_claimCachedPackedSource.bind fun source => ?_
  cases strategy with
  | directSampledImage =>
    refine Preserves.onFailure ?_ (hdrop source)
    unfold fromDirectPackedSource
    split
    · exact preserves_takeImportId.bind fun _ => .pure
    · exact .throw
  | linearBufferToOptimalBgra =>
    refine Preserves.onFailure ?_ (hdrop source)
    unfold importStagedPacked
    split
    · exact .throw
    · refine Preserves.get.bind fun _ => preserves_take.bind fun _ => ?_
      have hclaim : Preserves negotiated (claimPackedOutput request.dimensions calls) := by
        intro w
        rw [exec_claimPackedOutput]
        rfl
      refine hclaim.bind fun _ => Preserves.onFailure ?_ fun _ => rfl
      exact preserves_take.bind fun _ => preserves_takeImportId.bind fun _ => .pure

end Packed

/-- **No call changes what was negotiated.** -/
theorem preserves_perform (call : ImporterCall) : Preserves negotiated (perform call) := by
  cases call with
  | importNv12SharedObject =>
    exact Preserves.map (Preserves.get.bind fun _ => preserves_take.bind fun _ =>
      preserves_importNv12)
  | importPackedWithStrategy => exact preserves_importPackedWithStrategy.map
  | newBgraScanout =>
    exact Preserves.map (preserves_take.bind fun _ => preserves_take.bind fun _ =>
      preserves_take.bind fun _ => preserves_take.bind fun _ => preserves_take.bind fun _ =>
        preserves_takeImportId.bind fun _ => .pure)
  | evictNv12Stream stream =>
    refine Preserves.bind (fun w => ?_) fun _ => .pure
    simp only [Importer.evictNv12Stream, Effect.exec_bind, exec_get, exec_modify, exec_take]
    rfl
  | evictPackedStream stream =>
    refine Preserves.bind (fun w => ?_) fun _ => .pure
    simp only [Importer.evictPackedStream, Effect.exec_bind, exec_get, exec_modify, exec_take]
    rfl
  | releaseNv12Source step => exact fun _ => rfl
  | releaseNv12Output step => exact fun _ => rfl
  | releasePackedSource step => exact fun _ => rfl
  | releasePackedOutput step => exact fun _ => rfl

theorem negotiated_after (run : Importer × List ImportedDmaBufImage) (call : ImporterCall) :
    (after run call).1.negotiated = run.1.negotiated := by
  have hpart := preserves_perform call run.1
  rw [after]
  split
  · next heq => rw [heq] at hpart; exact hpart
  · next heq => rw [heq] at hpart; exact hpart

theorem negotiated_foldl (history : List ImporterCall) (run : Importer × List ImportedDmaBufImage) :
    (history.foldl after run).1.negotiated = run.1.negotiated := by
  induction history generalizing run with
  | nil => rfl
  | cons call history ih => exact (ih _).trans (negotiated_after run call)

end Importer

/-! ## From resolution to import -/

variable {importer : Importer} {request : Nv12ResolveRequest}

/-- What an import by a resolved capability comes to.  Of its checks only those of the
layout are left, and a compute staging gets a pipeline for its output. -/
structure ImportReady (importer : Importer) (request : Nv12ResolveRequest)
    (capability : Nv12ModifierCapability) : Prop where
  /-- What is left to check is the layout. -/
  admitted : ∀ layout : Nv12SharedObjectLayout, layout.modifier = request.modifier →
    Importer.admitNv12 importer.nv12Capabilities request.dimensions layout request.conversion
      capability = validateNv12SharedLayout request.dimensions layout
  /-- The import runs with the pipeline its output needs. -/
  equipped : ∃ pipeline : Option Nv12ComputePipeline,
    pipeline.map (·.output) = capability.strategy.output ∧
    ∀ streamIncarnation sourceFd (layout : Nv12SharedObjectLayout) calls,
      layout.modifier = request.modifier →
      (Importer.importNv12SharedObject streamIncarnation request.dimensions sourceFd layout
        request.conversion capability calls).exec importer =
      match validateNv12SharedLayout request.dimensions layout, capability.strategy with
      | .error error, _ => (.error error, importer)
      | .ok (), .directImageToOptimalYuvPlanes =>
        (Importer.importImageTransfer streamIncarnation request.dimensions sourceFd layout
          .directImageToOptimalYuvPlanes calls).exec importer
      | .ok (), strategy =>
        (Importer.createStagedNv12 streamIncarnation request.dimensions sourceFd layout
          request.conversion strategy pipeline calls).exec importer

theorem admitNv12_resolved (hmem : capability ∈ importer.nv12Capabilities)
    (hmodifier : capability.modifier = request.modifier) (hsatisfies : request.Satisfies capability)
    {layout : Nv12SharedObjectLayout} (hlayout : layout.modifier = request.modifier) :
    Importer.admitNv12 importer.nv12Capabilities request.dimensions layout request.conversion
      capability = validateNv12SharedLayout request.dimensions layout := by
  have hissued : (importer.nv12Capabilities.any fun admitted =>
      sameNv12Capability admitted capability) = true :=
    List.any_eq_true.mpr ⟨capability, hmem, by simp [sameNv12Capability]⟩
  have hsame : (capability.modifier != layout.modifier) = false := by
    rw [hmodifier, hlayout, bne_self_eq_false]
  have hvalid : validateNv12ModifierCapability capability request.dimensions request.conversion =
      .ok () := hsatisfies
  simp only [Importer.admitNv12, hissued, hsame, hvalid, Bool.not_true, refuse_false, ok_bind]

/-- The pipelines of an importer are those its inventory needs. -/
structure Equipped (importer : Importer) : Prop where
  /-- A pipeline writes RGBA where it is needed. -/
  rgba : ∀ capability ∈ importer.nv12Capabilities, capability.strategy = .linearBufferToRgba →
    ∃ pipeline, importer.nv12RgbaCompute = some pipeline ∧ pipeline.output = .rgba
  /-- A pipeline writes planes where they are needed. -/
  planar : ∀ capability ∈ importer.nv12Capabilities,
    capability.strategy = .linearBufferToYuvPlanes →
      ∃ pipeline, importer.nv12PlanarCompute = some pipeline ∧ pipeline.output = .yuvPlanes

theorem computePipeline_some {strategy : Nv12ImportStrategy} {output : Nv12ComputeOutput}
    {created : Except String Pipeline} {made : Option Nv12ComputePipeline}
    (h : computePipeline capabilities strategy output created = .ok made)
    (hmem : capability ∈ capabilities) (hstrategy : capability.strategy = strategy) :
    ∃ pipeline, made = some pipeline ∧ pipeline.output = output := by
  have houtput := computePipeline_output h
  rw [computePipeline, if_pos (List.any_eq_true.mpr ⟨capability, hmem, by simp [hstrategy]⟩)] at h
  obtain ⟨pipeline, -, h⟩ := bind_ok.mp h
  cases h
  exact ⟨pipeline, rfl, houtput pipeline rfl⟩

variable {handle : Device} {maxTexelBufferElements : UInt32} {limits : VulkanImportPoolLimits}
  {nextImportId : UInt64} {calls : NewCalls}

theorem Equipped.new (h : Importer.new handle maxTexelBufferElements limits nextImportId calls =
    .ok importer) : Equipped importer ∧ calls.inventory = .ok importer.nv12Capabilities := by
  obtain ⟨-, -, h⟩ := bind_ok.mp h
  obtain ⟨capabilities, hinventory, h⟩ := bind_ok.mp h
  obtain ⟨rgba, hrgba, h⟩ := bind_ok.mp h
  obtain ⟨planar, hplanar, h⟩ := bind_ok.mp h
  obtain ⟨packed, -, h⟩ := bind_ok.mp h
  cases h
  exact ⟨⟨fun _ hmem hstrategy => computePipeline_some hrgba hmem hstrategy,
    fun _ hmem hstrategy => computePipeline_some hplanar hmem hstrategy⟩, hinventory⟩

theorem Equipped.congr {importer' : Importer} (h : Equipped importer)
    (hsame : importer'.negotiated = importer.negotiated) : Equipped importer' := by
  simp only [Importer.negotiated, Prod.mk.injEq] at hsame
  obtain ⟨hcapabilities, hrgba, hplanar⟩ := hsame
  exact ⟨by rw [hcapabilities, hrgba]; exact h.rgba, by rw [hcapabilities, hplanar]; exact h.planar⟩

theorem Equipped.ready (h : Equipped importer) (hmem : capability ∈ importer.nv12Capabilities)
    (hoffered : capability.strategy.planarUsage.isSome ∨ capability.strategy = .linearBufferToRgba)
    (hmodifier : capability.modifier = request.modifier)
    (hsatisfies : request.Satisfies capability) :
    ImportReady importer request capability := by
  have hadmit {layout : Nv12SharedObjectLayout} (hlayout : layout.modifier = request.modifier) :=
    admitNv12_resolved hmem hmodifier hsatisfies hlayout
  have hexec (streamIncarnation : UInt64) (sourceFd : Int32) {layout : Nv12SharedObjectLayout}
      (calls : Nv12ImportCalls) (hlayout : layout.modifier = request.modifier) :
      (Importer.importNv12SharedObject streamIncarnation request.dimensions sourceFd layout
        request.conversion capability calls).exec importer =
      match validateNv12SharedLayout request.dimensions layout with
      | .error error => (.error error, importer)
      | .ok () => (Importer.importNv12 streamIncarnation request.dimensions sourceFd layout
          request.conversion capability.strategy calls).exec importer := by
    simp only [Importer.importNv12SharedObject, Effect.exec_bind, Importer.exec_get,
      Importer.exec_take, hadmit hlayout]
    cases validateNv12SharedLayout request.dimensions layout <;> rfl
  refine ⟨fun layout => hadmit, ?_⟩
  cases hstrategy : capability.strategy with
  | directSampledImage => simp [hstrategy, Nv12ImportStrategy.planarUsage] at hoffered
  | linearBufferToOptimalNv12 => simp [hstrategy, Nv12ImportStrategy.planarUsage] at hoffered
  | directImageToOptimalYuvPlanes =>
    refine ⟨none, rfl, fun streamIncarnation sourceFd layout calls hlayout => ?_⟩
    rw [hexec streamIncarnation sourceFd calls hlayout, hstrategy]
    cases validateNv12SharedLayout request.dimensions layout <;> rfl
  | linearBufferToOptimalYuvPlanes =>
    refine ⟨none, rfl, fun streamIncarnation sourceFd layout calls hlayout => ?_⟩
    rw [hexec streamIncarnation sourceFd calls hlayout, hstrategy]
    cases validateNv12SharedLayout request.dimensions layout <;> rfl
  | linearBufferToYuvPlanes =>
    obtain ⟨pipeline, hpipeline, houtput⟩ := h.planar capability hmem hstrategy
    refine ⟨some pipeline, congrArg some houtput,
      fun streamIncarnation sourceFd layout calls hlayout => ?_⟩
    rw [hexec streamIncarnation sourceFd calls hlayout, hstrategy]
    cases validateNv12SharedLayout request.dimensions layout with
    | error error => rfl
    | ok =>
      simp only [Importer.importNv12, Effect.exec_bind, Importer.exec_get, Importer.exec_take,
        hpipeline, orRefuse_some]
  | linearBufferToRgba =>
    obtain ⟨pipeline, hpipeline, houtput⟩ := h.rgba capability hmem hstrategy
    refine ⟨some pipeline, congrArg some houtput,
      fun streamIncarnation sourceFd layout calls hlayout => ?_⟩
    rw [hexec streamIncarnation sourceFd calls hlayout, hstrategy]
    cases validateNv12SharedLayout request.dimensions layout with
    | error error => rfl
    | ok =>
      simp only [Importer.importNv12, Effect.exec_bind, Importer.exec_get, Importer.exec_take,
        hpipeline, orRefuse_some]

/-- What a resolution promises of its capability. -/
structure Resolved (device : DeviceAnswers) (stagingPreference : Nv12StagingPreference)
    (importer : Importer) (request : Nv12ResolveRequest) (capability : Nv12ModifierCapability) :
    Prop where
  /-- It is one of the inventory. -/
  issued : capability ∈ importer.nv12Capabilities
  /-- It is for the modifier of the request. -/
  modifier : capability.modifier = request.modifier
  /-- It does what the request asks. -/
  satisfies : request.Satisfies capability
  /-- It keeps the preference. -/
  obeys : stagingPreference.Obeyed device capability
  /-- An import by it passes the checks. -/
  ready : ImportReady importer request capability
  /-- An even extent has a chroma plane of half its size. -/
  planes : ∀ usage, capability.strategy.planarUsage = some usage → ∃ luma chroma,
    device.optimalImage lumaFormat usage = .ok luma ∧
      device.optimalImage chromaFormat usage = .ok chroma ∧
        request.dimensions.1 ≤ luma.1 ∧ request.dimensions.2 ≤ luma.2.1 ∧
          request.dimensions.1.toNat / 2 ≤ chroma.1.toNat ∧
            request.dimensions.2.toNat / 2 ≤ chroma.2.1.toNat

/-- The policy check never changes the result. -/
theorem resolveNv12_eq {w : PreferringImporter}
    (hpolicy : ∀ capability ∈ w.importer.nv12Capabilities,
      w.stagingPreference.Obeyed device capability) (request : Nv12ResolveRequest) :
    w.resolveNv12 request = resolveNv12ModifierCapability w.importer.nv12Capabilities request := by
  unfold PreferringImporter.resolveNv12
  cases hresolved : resolveNv12ModifierCapability w.importer.nv12Capabilities request with
  | error error => rfl
  | ok capability =>
    have hobeys := hpolicy capability (resolveNv12ModifierCapability_ok hresolved).1
    rw [ok_bind]
    cases hpreference : w.stagingPreference with
    | preferPlanar => rfl
    | requirePlanar =>
      rw [hpreference] at hobeys
      exact if_pos hobeys
    | requireRgba =>
      rw [hpreference] at hobeys
      exact if_pos hobeys

/-- **Resolution is sound and complete over the inventory**, after whatever imports.  The
violation of a staging policy is never reported. -/
theorem nv12_resolution {w : PreferringImporter}
    (h : PreferringImporter.new device handle maxTexelBufferElements limits stagingPreference
      nextImportId calls = .ok w) (history : List ImporterCall) (request : Nv12ResolveRequest) :
    let importer := (history.foldl Importer.after (w.importer, [])).1
    inventoryNv12ModifierCapabilities device stagingPreference = .ok importer.nv12Capabilities ∧
    (∀ capability, PreferringImporter.resolveNv12 { w with importer := importer } request =
      .ok capability → Resolved device stagingPreference importer request capability) ∧
    ∀ error, PreferringImporter.resolveNv12 { w with importer := importer } request =
        .error error →
      resolveNv12ModifierCapability importer.nv12Capabilities request = .error error ∧
        ∀ capability ∈ importer.nv12Capabilities, capability.modifier = request.modifier →
          ¬request.Satisfies capability := by
  obtain ⟨made, hmade, h⟩ := bind_ok.mp h
  cases h
  intro importer
  have hsame : importer.negotiated = made.negotiated := Importer.negotiated_foldl history (made, [])
  obtain ⟨hequipped, hinventory⟩ := Equipped.new hmade
  have hcapabilities : importer.nv12Capabilities = made.nv12Capabilities := congrArg Prod.fst hsame
  replace hinventory : inventoryNv12ModifierCapabilities device stagingPreference =
      .ok importer.nv12Capabilities := hcapabilities ▸ hinventory
  have hcandidate {capability : Nv12ModifierCapability}
      (hmem : capability ∈ importer.nv12Capabilities) :
      Candidate device stagingPreference capability := inventory_candidate hinventory hmem
  have heq := resolveNv12_eq (w := ⟨importer, stagingPreference⟩)
    (fun _ hmem => (hcandidate hmem).obeys) request
  refine ⟨hinventory, fun capability hresolved => ?_, fun error hresolved => ?_⟩
  · rw [heq] at hresolved
    obtain ⟨hmem, hmodifier, hsatisfies⟩ := resolveNv12ModifierCapability_ok hresolved
    have hc := hcandidate hmem
    refine ⟨hmem, hmodifier, hsatisfies, hc.obeys,
      (hequipped.congr hsame).ready hmem hc.offered hmodifier hsatisfies, fun usage husage => ?_⟩
    obtain ⟨luma, chroma, hplanes⟩ := hc.planes usage husage
    exact ⟨luma, chroma, hplanes.lumaReported, hplanes.chromaReported, hplanes.admitted hsatisfies⟩
  · rw [heq] at hresolved
    exact ⟨hresolved, resolveNv12ModifierCapability_error hresolved⟩

/-! ### A sample device -/

/-- A device with one compute queue and one modifier, linear.  Its luma planes may be
8 by 8, its chroma planes 3 by 3. -/
def sampleAnswers : DeviceAnswers where
  queueFamilyIndex := 0
  queueFamilies := [⟨queueCompute, 1⟩]
  modifiers _ := [⟨drmFormatModLinear, 2, 0⟩]
  formatProperties _ := ⟨0xFFFF, featureUniformTexelBuffer⟩
  externalBuffer _ := ⟨externalImportable, handleTypeDmaBuf⟩
  optimalImage format _ := .ok (if format = chromaFormat then (3, 3, 1) else (8, 8, 1))
  modifierImage _ _ _ := .error "ERROR_FORMAT_NOT_SUPPORTED"

/-- An importer of the device that requires planes. -/
def samplePreferring : Except String PreferringImporter :=
  PreferringImporter.new sampleAnswers ⟨0⟩ 64 ⟨1, 1, 1, 1⟩ .requirePlanar 1
    ⟨.ok [], .ok ⟨1, 2⟩, .ok ⟨3, 4⟩, .error "", .ok ⟨5, 6⟩⟩

/-- A linear image of six columns and six rows. -/
def sampleResolveRequest : Nv12ResolveRequest :=
  ⟨drmFormatModLinear, (6, 6), ⟨.bt709, .narrow, .cositedEven, .midpoint⟩⟩

theorem nv12_resolution_sample : ∃ w capability, samplePreferring = .ok w ∧
    w.resolveNv12 sampleResolveRequest = .ok capability ∧ capability.maxExtent = (6, 6, 1) ∧
      Resolved sampleAnswers .requirePlanar w.importer sampleResolveRequest capability := by
  obtain ⟨w, hnew⟩ : ∃ w, samplePreferring = .ok w := ⟨_, rfl⟩
  obtain ⟨capability, hresolved, hextent⟩ : ∃ capability,
      w.resolveNv12 sampleResolveRequest = .ok capability ∧ capability.maxExtent = (6, 6, 1) := by
    cases hnew
    exact ⟨_, rfl, rfl⟩
  exact ⟨w, capability, hnew, hresolved, hextent,
    (nv12_resolution hnew [] sampleResolveRequest).2.1 capability hresolved⟩

end VideoInterop.Vulkan
