import HdfsOperator.Correctness.BuildConfig

/-!
# Configuration overrides

The overrides of the specification give values for keys of files. The common builder reads
only one key of an entry, the name of the file itself, and takes its value as the new text
of the file. So overrides take effect only where they ask for nothing that is not there.
-/

namespace HdfsOperator

open HdfsCluster

/-- The files that are configuration documents. -/
def xmlFileNames : List String :=
  [coreSiteFileName, hdfsSiteFileName, hadoopPolicyFileName, sslClientFileName, sslServerFileName]

/-- The overrides of a role group. -/
def overridesOf : Option OverridesSpec → GoMap (GoMap String)
  | some overrides => overrides.configOverrides
  | none => ∅

/-- The overrides take effect in the documents, and a file without overrides is unchanged. -/
structure OverridesEffective (configs : GoMap String) (overrides : GoMap (GoMap String))
    (data : GoMap String) : Prop where
  documents : ∀ f ∈ xmlFileNames, ∀ content, configs.lookup f = some content →
    ∃ built, data.lookup f = some built ∧ ∀ k, documentValue built k =
      ((overrides.lookup f).bind fun entry => entry.lookup k).or (documentValue content k)
  unchanged : ∀ f content, configs.lookup f = some content → overrides.lookup f = none →
    data.lookup f = some content

/-- The overrides of the documents ask for values that are there already, and no entry has the
name of its file as a key. -/
def OverridesRedundant (configs : GoMap String) (overrides : GoMap (GoMap String)) : Prop :=
  ∀ f ∈ xmlFileNames, ∀ content entry, configs.lookup f = some content →
    overrides.lookup f = some entry → entry.lookup f = none ∧
      ∀ k v, entry.lookup k = some v → documentValue content k = some v

namespace ConfigMapBuilder

/-- The loop over the overrides replaces the files whose entry has the file name as a key. -/
theorem applyOverrides_lookup {l : List (String × GoMap String)} (hl : (l.map Prod.fst).Nodup)
    (data : GoMap String) (f : String) :
    (applyOverrides data l).lookup f =
      ((l.find? fun e => e.1 = f).bind fun e => e.2.lookup f).or (data.lookup f) := by
  induction l generalizing data with
  | nil => simp [applyOverrides]
  | cons e l ih =>
    rw [List.map_cons, List.nodup_cons] at hl
    rw [applyOverrides, List.foldl_cons, ← applyOverrides, ih hl.2]
    by_cases he : e.1 = f
    · -- The name does not come back, so the entry at hand decides.
      have hnone : l.find? (fun e => e.1 = f) = none := by
        rw [List.find?_eq_none]
        intro x hx hxf
        exact hl.1 (List.mem_map.mpr ⟨x, hx, by simpa [he] using hxf⟩)
      subst he
      cases hcontent : e.2.lookup e.1 <;> simp [hnone, hcontent]
    · have hkeep (content : String) : (data.insert e.1 content).lookup f = data.lookup f :=
        AList.lookup_insert_ne (Ne.symm he)
      cases hcontent : e.2.lookup e.1 <;> simp [he, hkeep]

variable {b : ConfigMapBuilder} {o : BuildOrders} {configs data : GoMap String}

/-- An override that has an entry under its own file name replaces the file, and every other one
does nothing. -/
theorem overridden_lookup (hconfigs : b.component.buildConfig = .ok configs)
    (h : b.overridden o = .ok data) (f : String) :
    data.lookup f = (((overridesOf b.overrides).lookup f).bind fun entry => entry.lookup f).or
      (configs.lookup f) := by
  have hcopy : (addConfigs ∅ (configs.range o.configs)).lookup f = configs.lookup f :=
    GoMap.ofList_range_lookup configs o.configs f
  rw [overridden, hconfigs, Go.ok_bind] at h
  -- What the role supplies itself is discarded, so only the loop over the overrides counts.
  cases hoverrides : b.overrides with
  | none =>
    have hdata : data = addConfigs ∅ (configs.range o.configs) := by
      rw [hoverrides] at h
      cases hrole : b.component.getConfigOverrides <;> rw [hrole] at h <;>
        exact (Except.ok.inj h).symm
    rw [hdata]
    exact hcopy
  | some overrides =>
    have hdata : data = applyOverrides (addConfigs ∅ (configs.range o.configs))
        (overrides.configOverrides.range o.overrides) := by
      rw [hoverrides] at h
      cases hrole : b.component.getConfigOverrides <;> rw [hrole] at h <;>
        exact (Except.ok.inj h).symm
    rw [hdata, applyOverrides_lookup (GoMap.range_keys_nodup _ _), hcopy, GoMap.range_find?,
      overridesOf]
    cases overrides.configOverrides.lookup f <;> rfl

/-- The overrides are applied as soon as the role has written its files. -/
theorem overridden_ok (hconfigs : b.component.buildConfig = .ok configs) (o : BuildOrders) :
    ∃ data, b.overridden o = .ok data := by
  rw [overridden, hconfigs, Go.ok_bind]
  cases b.component.getConfigOverrides with
  | none => exact ⟨_, rfl⟩
  | some componentOverrides => exact ⟨_, rfl⟩

/-- The text of every file but the configuration of the log agent. -/
theorem build_lookup {fw : Framework} (hconfigs : b.component.buildConfig = .ok configs)
    (h : b.build fw o = .ok data) {f : String} (hf : f ≠ vectorConfigFileName) :
    data.lookup f = (((overridesOf b.overrides).lookup f).bind fun entry => entry.lookup f).or
      (configs.lookup f) := by
  obtain ⟨files, hfiles, h⟩ := Go.bind_eq_ok.mp h
  rw [← overridden_lookup hconfigs hfiles]
  unfold addVectorConfig at h
  split at h
  · cases h
    rfl
  · obtain ⟨spec, -, h⟩ := Go.bind_eq_ok.mp h
    obtain ⟨enabled, -, h⟩ := Go.bind_eq_ok.mp h
    split at h
    · obtain ⟨vectorConfig, -, h⟩ := Go.bind_eq_ok.mp h
      cases h
      split
      · exact AList.lookup_insert_ne hf
      · rfl
    · cases h
      rfl

end ConfigMapBuilder

/-- No role writes the configuration of the log agent itself. -/
theorem buildConfig_vectorConfig {fw : Framework} {b : RoleGroupBuilder} {o : SiteOrders} {r : Role}
    {configs : GoMap String} (h : b.buildConfig fw o r = .ok configs) :
    configs.lookup vectorConfigFileName = none := by
  obtain ⟨coreSite, hdfsSite, sslClient, sslServer, -, -, -, -, rfl⟩ := buildConfig_eq_ok.mp h
  by_contra hsome
  obtain ⟨content, hcontent⟩ := Option.ne_none_iff_exists'.mp hsome
  have hmem := List.mem_map_of_mem (f := Prod.fst) (GoMap.mem_of_lookup_ofList hcontent)
  rw [configFiles_names] at hmem
  exact (configFileNames_facts r).2 hmem

section Effective

variable {configs data : GoMap String} {overrides : GoMap (GoMap String)}
  (hdata : ∀ f, f ≠ vectorConfigFileName → data.lookup f =
    ((overrides.lookup f).bind fun entry => entry.lookup f).or (configs.lookup f))

private theorem xmlFileNames_ne_vectorConfig : ∀ f ∈ xmlFileNames, f ≠ vectorConfigFileName := by
  decide

include hdata

/-- A file that is replaced cannot have its own text as the value of a property. -/
theorem overridesRedundant_of_effective (h : OverridesEffective configs overrides data) :
    OverridesRedundant configs overrides := by
  intro f hf content entry hcontent hentry
  obtain ⟨built, hbuilt, hvalue⟩ := h.documents f hf content hcontent
  rw [hdata f (xmlFileNames_ne_vectorConfig f hf), hentry, Option.bind_some] at hbuilt
  simp only [hentry, Option.bind_some] at hvalue
  cases hown : entry.lookup f with
  | some own =>
    rw [hown, Option.some_or, Option.some.injEq] at hbuilt
    have hself := hvalue f
    rw [hown, Option.some_or, ← hbuilt] at hself
    exact absurd (length_lt_of_documentValue hself) (Nat.lt_irrefl _)
  | none =>
    rw [hown, Option.none_or, hcontent, Option.some.injEq] at hbuilt
    refine ⟨rfl, fun k v hv => ?_⟩
    have hk := hvalue k
    rwa [hv, Option.some_or, ← hbuilt] at hk

/-- Overrides that say what is generated anyway are effective. -/
theorem overridesEffective_of_redundant (hvector : configs.lookup vectorConfigFileName = none)
    (h : OverridesRedundant configs overrides) : OverridesEffective configs overrides data := by
  refine ⟨fun f hf content hcontent => ?_, fun f content hcontent hnone => ?_⟩
  · refine ⟨content, ?_⟩
    rw [hdata f (xmlFileNames_ne_vectorConfig f hf), hcontent]
    cases hentry : overrides.lookup f with
    | none => exact ⟨rfl, fun _ => rfl⟩
    | some entry =>
      obtain ⟨hown, hvalues⟩ := h f hf content entry hcontent hentry
      refine ⟨by rw [Option.bind_some, hown, Option.none_or], fun k => ?_⟩
      rw [Option.bind_some]
      cases hk : entry.lookup k with
      | none => rfl
      | some v => rw [hvalues k v hk, Option.some_or]
  · have hf : f ≠ vectorConfigFileName := by
      rintro rfl
      rw [hvector] at hcontent
      cases hcontent
    rw [hdata f hf, hnone, Option.bind_none, Option.none_or, hcontent]

end Effective

section Cluster

variable {c : HdfsCluster} {fw : Framework} {o : RunOrders} {r : Role} {g : String}
  {overrides : Option OverridesSpec} {configSpec : Option ConfigSpec} {d : BuildOrders}
  {configs data : GoMap String}

/-- What the ConfigMap of a role group holds, file by file. -/
theorem configMap_lookup (hconfigs : c.buildConfig fw o r g overrides = .ok configs)
    (hdata : c.configMap fw o r g overrides configSpec d = .ok data) {f : String}
    (hf : f ≠ vectorConfigFileName) : data.lookup f =
      (((overridesOf overrides).lookup f).bind fun entry => entry.lookup f).or
        (configs.lookup f) := by
  obtain ⟨info, hinfo, hconfigs⟩ := Go.bind_eq_ok.mp hconfigs
  obtain ⟨info', hinfo', hdata⟩ := Go.bind_eq_ok.mp hdata
  obtain rfl : info = info' := Except.ok.inj (hinfo.symm.trans hinfo')
  exact ConfigMapBuilder.build_lookup (b := newConfigMapBuilder fw (c.builder info r g overrides)
    o.site r configSpec) hconfigs hdata hf

/-- Without settings for the log agent the ConfigMap is built as soon as the files are. -/
theorem configMap_ok (hconfigs : c.buildConfig fw o r g overrides = .ok configs)
    (d : BuildOrders) : ∃ data, c.configMap fw o r g overrides none d = .ok data := by
  obtain ⟨info, hinfo, hconfigs⟩ := Go.bind_eq_ok.mp hconfigs
  obtain ⟨data, hdata⟩ := ConfigMapBuilder.overridden_ok
    (b := newConfigMapBuilder fw (c.builder info r g overrides) o.site r none) hconfigs d
  exact ⟨data, Go.bind_eq_ok.mpr ⟨info, hinfo, Go.bind_eq_ok.mpr ⟨data, hdata, rfl⟩⟩⟩

/-- The overrides of a role group take effect in its ConfigMap exactly when they ask for nothing
that its files do not have already. -/
theorem configMap_overrides_effective_iff
    (hconfigs : c.buildConfig fw o r g overrides = .ok configs)
    (hdata : c.configMap fw o r g overrides configSpec d = .ok data) :
    OverridesEffective configs (overridesOf overrides) data ↔
      OverridesRedundant configs (overridesOf overrides) := by
  have hlookup := fun f hf => configMap_lookup (f := f) hconfigs hdata hf
  obtain ⟨info, -, hbuild⟩ := Go.bind_eq_ok.mp hconfigs
  exact ⟨overridesRedundant_of_effective hlookup,
    overridesEffective_of_redundant hlookup (buildConfig_vectorConfig hbuild)⟩

end Cluster

/-- Overrides that set the address of the coordination service. -/
def quorumOverrides : OverridesSpec :=
  ⟨.ofList [(coreSiteFileName, .ofList [("ha.zookeeper.quorum", "zookeeper:2181")])]⟩

private theorem oneNameNodeGroup_configMap :
    ∃ configs data, oneNameNodeGroup.buildConfig plainFramework .stored .nameNode "default"
        (some quorumOverrides) = .ok configs ∧
      oneNameNodeGroup.configMap plainFramework .stored .nameNode "default" (some quorumOverrides)
        none ⟨.stored, .stored⟩ = .ok data := by
  obtain ⟨configs, hconfigs⟩ := buildConfig_ok (c := oneNameNodeGroup) (g := "default") (n := 2)
    (ofReplicas_replicasSet _ _ _ _) (by decide) (by decide) (by decide) rfl plainFramework .stored
    .nameNode (some quorumOverrides)
  obtain ⟨data, hdata⟩ := configMap_ok hconfigs ⟨.stored, .stored⟩
  exact ⟨configs, data, hconfigs, hdata⟩

theorem configMap_overrides_effective_iff_quorumOverrides :
    ∃ configs data, oneNameNodeGroup.buildConfig plainFramework .stored .nameNode "default"
        (some quorumOverrides) = .ok configs ∧
      oneNameNodeGroup.configMap plainFramework .stored .nameNode "default" (some quorumOverrides)
        none ⟨.stored, .stored⟩ = .ok data ∧
      (OverridesEffective configs quorumOverrides.configOverrides data ↔
        OverridesRedundant configs quorumOverrides.configOverrides) := by
  obtain ⟨configs, data, hconfigs, hdata⟩ := oneNameNodeGroup_configMap
  exact ⟨configs, data, hconfigs, hdata, configMap_overrides_effective_iff hconfigs hdata⟩

/-- The built file still has the generated value. -/
theorem configMap_drops_override :
    ∃ configs data, oneNameNodeGroup.buildConfig plainFramework .stored .nameNode "default"
        (some quorumOverrides) = .ok configs ∧
      oneNameNodeGroup.configMap plainFramework .stored .nameNode "default" (some quorumOverrides)
        none ⟨.stored, .stored⟩ = .ok data ∧
      ((data.lookup coreSiteFileName).bind fun text => documentValue text "ha.zookeeper.quorum") =
        some "$\x7benv.ZOOKEEPER\x7d" ∧
      ¬ OverridesEffective configs quorumOverrides.configOverrides data := by
  obtain ⟨configs, data, hconfigs, hdata⟩ := oneNameNodeGroup_configMap
  have hcore := buildConfig_coreSite hconfigs
  have hbuilt : data.lookup coreSiteFileName = _ :=
    (configMap_lookup hconfigs hdata (by decide)).trans hcore
  have hvalue : documentValue (encode ([defaultFs oneNameNodeGroup.name.val] ++
      coreSiteProperties oneNameNodeGroup)) "ha.zookeeper.quorum" =
        some "$\x7benv.ZOOKEEPER\x7d" := by
    rw [documentValue_encode]
    decide +kernel
  refine ⟨configs, data, hconfigs, hdata, ?_, fun heffective => ?_⟩
  · rw [hbuilt, Option.bind_some, hvalue]
  · obtain ⟨built, hdoc, hall⟩ := heffective.documents coreSiteFileName (by decide) _ hcore
    obtain rfl := Option.some.inj (hbuilt.symm.trans hdoc)
    have hoverride := hall "ha.zookeeper.quorum"
    rw [hvalue] at hoverride
    exact absurd hoverride (by decide)

end HdfsOperator
