import HdfsOperator.Correctness.Overrides
import HdfsOperator.Correctness.Registration
import HdfsOperator.Correctness.Resources

/-!
# The log agent

Two builders decide whether a role group has a log agent: one adds its container to the pods,
the other its configuration to the ConfigMap. Both ask the log settings, and both panic when
these do not say whether the agent is on.
-/

namespace HdfsOperator

/-- The log agent is on. -/
def VectorEnabled (cfg : ConfigSpec) : Prop :=
  ∃ logging, cfg.logging = some logging ∧ logging.enableVectorAgent = some true

/-- The log agent is off, or there are no log settings. -/
def VectorDisabled (cfg : ConfigSpec) : Prop :=
  ∀ logging, cfg.logging = some logging → logging.enableVectorAgent = some false

/-- The log settings do not say whether the agent is on. -/
def VectorUnset (cfg : ConfigSpec) : Prop :=
  ∃ logging, cfg.logging = some logging ∧ logging.enableVectorAgent = none

/-- The three states of the setting. -/
theorem vector_cases (cfg : ConfigSpec) :
    VectorDisabled cfg ∨ VectorEnabled cfg ∨ VectorUnset cfg := by
  cases h : cfg.logging with
  | none => exact .inl fun logging hl => by rw [h] at hl; cases hl
  | some logging =>
    cases he : logging.enableVectorAgent with
    | none => exact .inr (.inr ⟨logging, h, he⟩)
    | some enabled =>
      cases enabled with
      | true => exact .inr (.inl ⟨logging, h, he⟩)
      | false => exact .inl fun l hl => by rw [← Option.some.inj (h.symm.trans hl), he]

section Enable

variable {cfg : ConfigSpec}

/-- The setting is read if it is there. -/
theorem isVectorEnable_of_enabled (h : VectorEnabled cfg) :
    isVectorEnable cfg.logging = .ok true := by
  obtain ⟨logging, hl, he⟩ := h
  rw [hl, isVectorEnable, he, deref_some]

/-- The agent is off if the setting says so, and if there are no settings. -/
theorem isVectorEnable_of_disabled (h : VectorDisabled cfg) :
    isVectorEnable cfg.logging = .ok false := by
  cases hl : cfg.logging with
  | none => rfl
  | some logging => rw [isVectorEnable, h logging hl, deref_some]

/-- A flag that is not set is followed as a pointer. -/
theorem isVectorEnable_of_unset (h : VectorUnset cfg) :
    isVectorEnable cfg.logging = .error (.panic .nilDereference) := by
  obtain ⟨logging, hl, he⟩ := h
  rw [hl, isVectorEnable, he]
  rfl

theorem not_enabled_of_disabled (h : VectorDisabled cfg) : ¬VectorEnabled cfg := by
  rintro ⟨logging, hl, he⟩
  rw [h logging hl] at he
  cases he

end Enable

/-- A pod has the container of the log agent. -/
def PodTemplate.HasVector (t : PodTemplate) : Prop := ∃ k ∈ t.containers, k.name = vectorContainer

namespace StatefulSetBuilder

variable {fw : PodFramework} {b : StatefulSetBuilder} {t t' : PodTemplate}

/-- A template with the container of the log agent. -/
def withVector (fw : PodFramework) (t : PodTemplate) : PodTemplate :=
  { t with
    containers := t.containers ++ [⟨vectorContainer, (getVectorFactory fw).resources⟩]
    volumes := t.volumes ++ (getVectorFactory fw).volumes }

/-- The agent is added if the setting says so. -/
theorem addVectorContainer_eq (fw : PodFramework) (b : StatefulSetBuilder) (t : PodTemplate) :
    b.addVectorContainer fw t = (isVectorEnable b.config.logging >>= fun vectorEnable =>
      if vectorEnable then .ok (withVector fw t) else .ok t) := by
  cases h : b.config.logging with
  | none =>
    rw [ConfigSpec.logging] at h
    rw [addVectorContainer, h]
    rfl
  | some logging =>
    rw [ConfigSpec.logging] at h
    rw [addVectorContainer, h]
    rfl

/-- A template with the agent has it. -/
theorem hasVector_withVector : (withVector fw t).HasVector :=
  ⟨⟨vectorContainer, (getVectorFactory fw).resources⟩, by simp [withVector], rfl⟩

/-- No role has a container with the name of the log agent. -/
theorem not_hasVector_of_componentTemplate {o : RangeOrder} {r : Role}
    (h : b.componentTemplate fw o r = .ok t) : ¬t.HasVector := by
  obtain ⟨initContainers, -, h⟩ := Go.bind_eq_ok.mp h
  obtain ⟨volumes, -, h⟩ := Go.bind_eq_ok.mp h
  obtain ⟨volumeClaimTemplates, -, h⟩ := Go.bind_eq_ok.mp h
  obtain rfl := Except.ok.inj h
  rintro ⟨k, hk, hname⟩
  cases r with
  | nameNode =>
    rcases List.mem_pair.mp hk with rfl | rfl
    · exact absurd hname (by decide : nameNodeContainer ≠ vectorContainer)
    · exact absurd hname (by decide : zkfcContainer ≠ vectorContainer)
  | dataNode =>
    obtain rfl := List.mem_singleton.mp hk
    exact absurd hname (by decide : dataNodeContainer ≠ vectorContainer)
  | journalNode =>
    obtain rfl := List.mem_singleton.mp hk
    exact absurd hname (by decide : journalNodeContainer ≠ vectorContainer)

/-- What the OIDC step adds is the OIDC proxy. -/
theorem makeOidcContainer_name {authentication : AuthenticationSpec} {k : Container}
    (h : b.makeOidcContainer fw authentication = .ok (some k)) : k.name = oidcContainer := by
  unfold makeOidcContainer at h
  split at h
  · cases h
  · cases h
  · split at h
    · cases h
    · rw [← Option.some.inj (Except.ok.inj h)]
      rfl

/-- The OIDC step neither adds nor removes the container of the log agent. -/
theorem hasVector_addOIDCContainer_iff (h : b.addOIDCContainer fw t = .ok t') :
    t'.HasVector ↔ t.HasVector := by
  unfold addOIDCContainer at h
  split at h
  · cases h
    rfl
  · split at h
    · cases h
      rfl
    · obtain ⟨oidc, hoidc, h⟩ := Go.bind_eq_ok.mp h
      obtain rfl := Except.ok.inj h
      constructor
      · rintro ⟨k, hk, hname⟩
        rcases List.mem_append.mp hk with hk | hk
        · exact ⟨k, hk, hname⟩
        · rw [Option.mem_toList] at hk
          rw [Option.mem_def.mp hk] at hoidc
          rw [makeOidcContainer_name hoidc] at hname
          exact absurd hname (by decide)
      · rintro ⟨k, hk, hname⟩
        exact ⟨k, List.mem_append_left _ hk, hname⟩

/-- The pods of a stateful set have the log agent exactly when it is on. -/
theorem build_hasVector_iff {o : RangeOrder} {r : Role} {sts : StatefulSet}
    (h : b.build fw o r = .ok sts) : sts.template.HasVector ↔ VectorEnabled b.config := by
  obtain ⟨component, hcomponent, h⟩ := Go.bind_eq_ok.mp h
  obtain ⟨vector, hvector, h⟩ := Go.bind_eq_ok.mp h
  obtain ⟨oidc, hoidc, h⟩ := Go.bind_eq_ok.mp h
  have hsts : sts.template.HasVector ↔ oidc.HasVector := by
    cases hobject : fw.getObject oidc with
    | error err =>
      rw [hobject] at h
      cases h
    | ok object =>
      rw [hobject] at h
      obtain ⟨serviceAccountName, -, h⟩ := Go.bind_eq_ok.mp h
      obtain rfl := Except.ok.inj h
      exact exists_congr fun k => and_congr_left' (fw.getObject_containers hobject).mem_iff
  rw [hsts, hasVector_addOIDCContainer_iff hoidc]
  rw [addVectorContainer_eq] at hvector
  rcases vector_cases b.config with hd | he | hu
  · rw [isVectorEnable_of_disabled hd] at hvector
    obtain rfl := Except.ok.inj hvector
    exact iff_of_false (not_hasVector_of_componentTemplate hcomponent) (not_enabled_of_disabled hd)
  · rw [isVectorEnable_of_enabled he] at hvector
    obtain rfl := Except.ok.inj hvector
    exact iff_of_true hasVector_withVector he
  · rw [isVectorEnable_of_unset hu] at hvector
    cases hvector

end StatefulSetBuilder

/-- The configuration that the framework writes for the log agent is not empty. -/
def Framework.WritesVectorYaml (fw : Framework) : Prop :=
  ∀ info name text, fw.makeVectorYaml info name = .ok text → text ≠ ""

/-- The overrides have a text of their own for the configuration of the log agent. -/
def OverridesVectorConfig (overrides : Option OverridesSpec) : Prop :=
  (((overridesOf overrides).lookup vectorConfigFileName).bind fun entry =>
    entry.lookup vectorConfigFileName).isSome

namespace ConfigMapBuilder

variable {fw : Framework} {b : ConfigMapBuilder} {cfg : ConfigSpec}

/-- The file of the agent is added if the setting says so. -/
theorem addVectorConfig_eq {spec : RoleGroupConfigSpec} (hcfg : b.roleConfig = some cfg)
    (hspec : cfg.roleGroupConfigSpec = some spec) (fw : Framework) (data : GoMap String) :
    b.addVectorConfig fw data = (isVectorEnable cfg.logging >>= fun isEnabled =>
      if isEnabled then do
        let vectorConfig ← b.buildVectorConfig fw cfg.logging
        return if vectorConfig ≠ "" then data.insert vectorConfigFileName vectorConfig else data
      else return data) := by
  have hlogging : cfg.logging = spec.logging := by rw [ConfigSpec.logging, hspec, Option.bind_some]
  simp only [addVectorConfig, hcfg, hspec, deref_some, Go.ok_bind, hlogging]

/-- Writing the file of the agent does not panic. -/
theorem buildVectorConfig_ne_panic (fw : Framework) (b : ConfigMapBuilder)
    (logging : Option LoggingSpec) (p : Panic) :
    b.buildVectorConfig fw logging ≠ .error (.panic p) := by
  unfold buildVectorConfig
  split
  · simp
  · split
    · simp
    · split
      · split <;> simp
      · simp

/-- When the agent is on, its configuration is the one that the framework writes. -/
theorem buildVectorConfig_of_enabled (h : VectorEnabled cfg) {text : String}
    (htext : b.buildVectorConfig fw cfg.logging = .ok text) :
    fw.makeVectorYaml b.roleGroupInfo b.vectorAggregatorConfigMapName = .ok text := by
  obtain ⟨logging, hl, he⟩ := h
  simp only [buildVectorConfig, hl, Option.bind_some, he] at htext
  split at htext
  · cases htext
  · cases hyaml : fw.makeVectorYaml b.roleGroupInfo b.vectorAggregatorConfigMapName with
    | error err => simp [hyaml] at htext
    | ok s => simpa [hyaml] using htext

/-- The ConfigMap has a configuration for the log agent exactly when the agent is on or the
overrides have one. -/
theorem build_vectorConfig_iff {o : BuildOrders} {configs data : GoMap String}
    {spec : RoleGroupConfigSpec} (hfw : fw.WritesVectorYaml) (hcfg : b.roleConfig = some cfg)
    (hspec : cfg.roleGroupConfigSpec = some spec)
    (hconfigs : b.component.buildConfig = .ok configs)
    (hnone : configs.lookup vectorConfigFileName = none) (h : b.build fw o = .ok data) :
    (data.lookup vectorConfigFileName).isSome ↔
      VectorEnabled cfg ∨ OverridesVectorConfig b.overrides := by
  rw [build] at h
  obtain ⟨files, hfiles, h⟩ := Go.bind_eq_ok.mp h
  have hlookup := overridden_lookup hconfigs hfiles vectorConfigFileName
  rw [hnone, Option.or_none] at hlookup
  rw [addVectorConfig_eq hcfg hspec] at h
  rcases vector_cases cfg with hd | he | hu
  · rw [isVectorEnable_of_disabled hd] at h
    obtain rfl := Except.ok.inj h
    rw [hlookup]
    exact (or_iff_right (not_enabled_of_disabled hd)).symm
  · rw [isVectorEnable_of_enabled he, Go.ok_bind, if_pos rfl] at h
    obtain ⟨text, htext, h⟩ := Go.bind_eq_ok.mp h
    have hne : text ≠ "" := hfw _ _ _ (buildVectorConfig_of_enabled he htext)
    obtain rfl := Except.ok.inj h
    rw [if_pos hne, AList.lookup_insert]
    exact iff_of_true rfl (.inl he)
  · rw [isVectorEnable_of_unset hu] at h
    cases h

end ConfigMapBuilder

/-- The defaults do not change the setting. -/
theorem Completes.vectorEnabled_iff {r : Role} {cfg settings : ConfigSpec}
    (h : Completes r cfg settings) : VectorEnabled settings ↔ VectorEnabled cfg := by
  rw [VectorEnabled, h.logging, VectorEnabled]

/-- The two builders decide alike about the log agent of a role group with the given settings and
overrides, in every cluster and however often the settings were completed, and neither panics. -/
structure VectorAgrees (cfg : ConfigSpec) (overrides : Option OverridesSpec) : Prop where
  containerSafe : ∀ (r : Role) (fw : PodFramework) (b : StatefulSetBuilder) (t : PodTemplate)
    (p : Panic), Completes r cfg b.config → b.addVectorContainer fw t ≠ .error (.panic p)
  configSafe : ∀ (r : Role) (fw : Framework) (b : ConfigMapBuilder) (settings : ConfigSpec)
    (data : GoMap String) (p : Panic), Completes r cfg settings → b.roleConfig = some settings →
      b.addVectorConfig fw data ≠ .error (.panic p)
  unsetContainer : VectorUnset cfg → ∀ (r : Role) (fw : PodFramework) (b : StatefulSetBuilder)
    (t : PodTemplate), Completes r cfg b.config → b.addVectorContainer fw t = .ok t
  unsetConfig : VectorUnset cfg → ∀ (r : Role) (fw : Framework) (b : ConfigMapBuilder)
    (settings : ConfigSpec) (data : GoMap String), Completes r cfg settings →
      b.roleConfig = some settings → b.addVectorConfig fw data = .ok data
  agree : ∀ (r : Role) (c : HdfsCluster) (g : String) (settings : ConfigSpec) (pods : PodFramework)
    (fw : Framework) (wait : RangeOrder) (o : RunOrders) (d : BuildOrders) (sts : StatefulSet)
    (data : GoMap String), Completes r cfg settings → fw.WritesVectorYaml →
      c.statefulSet pods wait r g settings = .ok sts →
      c.configMap fw o r g overrides (some settings) d = .ok data →
        (sts.template.HasVector ↔ (data.lookup vectorConfigFileName).isSome)

/-- What both builders make of settings, when both succeed. -/
theorem vector_of_builds {r : Role} {c : HdfsCluster} {g : String} {pods : PodFramework}
    {fw : Framework} {wait : RangeOrder} {o : RunOrders} {d : BuildOrders} {sts : StatefulSet}
    {data : GoMap String} {cfg settings : ConfigSpec} {overrides : Option OverridesSpec}
    (hc : Completes r cfg settings) (hfw : fw.WritesVectorYaml)
    (hsts : c.statefulSet pods wait r g settings = .ok sts)
    (hdata : c.configMap fw o r g overrides (some settings) d = .ok data) :
    (sts.template.HasVector ↔ VectorEnabled cfg) ∧
      ((data.lookup vectorConfigFileName).isSome ↔
        VectorEnabled cfg ∨ OverridesVectorConfig overrides) := by
  obtain ⟨info, hinfo, hdata⟩ := Go.bind_eq_ok.mp hdata
  obtain ⟨spec, hspec⟩ := hc.roleGroupConfigSpec
  obtain ⟨configs, hconfigs⟩ : ∃ configs,
      (c.builder info r g overrides).buildConfig fw o.site r = .ok configs := by
    obtain ⟨files, hfiles, -⟩ := Go.bind_eq_ok.mp hdata
    obtain ⟨configs, hconfigs, -⟩ := Go.bind_eq_ok.mp hfiles
    exact ⟨configs, hconfigs⟩
  have hconfig := ConfigMapBuilder.build_vectorConfig_iff hfw rfl hspec hconfigs
    (buildConfig_vectorConfig hconfigs) hdata
  rw [hc.vectorEnabled_iff] at hconfig
  exact ⟨(StatefulSetBuilder.build_hasVector_iff hsts).trans hc.vectorEnabled_iff, hconfig⟩

section Safe

variable {r : Role} {cfg settings : ConfigSpec}

/-- The builder of pods panics on log settings that do not mention the agent. -/
theorem addVectorContainer_of_unset (h : VectorUnset cfg) {b : StatefulSetBuilder}
    (hb : Completes r cfg b.config) (fw : PodFramework) (t : PodTemplate) :
    b.addVectorContainer fw t = .error (.panic .nilDereference) := by
  rw [StatefulSetBuilder.addVectorContainer_eq, hb.logging, isVectorEnable_of_unset h]
  rfl

/-- The builder of pods panics on no other log settings. -/
theorem addVectorContainer_ne_panic (h : ¬VectorUnset cfg) {b : StatefulSetBuilder}
    (hb : Completes r cfg b.config) (fw : PodFramework) (t : PodTemplate) (p : Panic) :
    b.addVectorContainer fw t ≠ .error (.panic p) := by
  rw [StatefulSetBuilder.addVectorContainer_eq, hb.logging]
  rcases vector_cases cfg with hd | he | hu
  · rw [isVectorEnable_of_disabled hd]
    simp
  · rw [isVectorEnable_of_enabled he]
    simp
  · exact absurd hu h

/-- The builder of ConfigMaps panics on log settings that do not mention the agent. -/
theorem addVectorConfig_of_unset (h : VectorUnset cfg) (hc : Completes r cfg settings)
    {b : ConfigMapBuilder} (hb : b.roleConfig = some settings) (fw : Framework)
    (data : GoMap String) : b.addVectorConfig fw data = .error (.panic .nilDereference) := by
  obtain ⟨spec, hspec⟩ := hc.roleGroupConfigSpec
  rw [ConfigMapBuilder.addVectorConfig_eq hb hspec, hc.logging, isVectorEnable_of_unset h]
  rfl

/-- The builder of ConfigMaps panics on no other log settings. -/
theorem addVectorConfig_ne_panic (h : ¬VectorUnset cfg) (hc : Completes r cfg settings)
    {b : ConfigMapBuilder} (hb : b.roleConfig = some settings) (fw : Framework)
    (data : GoMap String) (p : Panic) : b.addVectorConfig fw data ≠ .error (.panic p) := by
  obtain ⟨spec, hspec⟩ := hc.roleGroupConfigSpec
  rw [ConfigMapBuilder.addVectorConfig_eq hb hspec, hc.logging]
  intro hpanic
  rcases vector_cases cfg with hd | he | hu
  · rw [isVectorEnable_of_disabled hd] at hpanic
    cases hpanic
  · rw [isVectorEnable_of_enabled he, Go.ok_bind, if_pos rfl] at hpanic
    rcases Go.bind_eq_error.mp hpanic with hbuild | ⟨text, -, hreturn⟩
    · exact ConfigMapBuilder.buildVectorConfig_ne_panic _ _ _ _ hbuild
    · cases hreturn
  · exact h hu

/-- The builder of pods adds nothing for an agent that is off. -/
theorem addVectorContainer_of_disabled (h : VectorDisabled cfg) {b : StatefulSetBuilder}
    (hb : Completes r cfg b.config) (fw : PodFramework) (t : PodTemplate) :
    b.addVectorContainer fw t = .ok t := by
  rw [StatefulSetBuilder.addVectorContainer_eq, hb.logging, isVectorEnable_of_disabled h]
  rfl

/-- The builder of ConfigMaps adds nothing for an agent that is off. -/
theorem addVectorConfig_of_disabled (h : VectorDisabled cfg) (hc : Completes r cfg settings)
    {b : ConfigMapBuilder} (hb : b.roleConfig = some settings) (fw : Framework)
    (data : GoMap String) : b.addVectorConfig fw data = .ok data := by
  obtain ⟨spec, hspec⟩ := hc.roleGroupConfigSpec
  rw [ConfigMapBuilder.addVectorConfig_eq hb hspec, hc.logging, isVectorEnable_of_disabled h]
  rfl

end Safe

/-- A framework that finds no `AuthenticationClass` and sorts containers by name. Its log agent has
a volume of its own for what it has sent. -/
def plainPods : PodFramework where
  parser := Template.render
  newVector := fun configVolume logVolume =>
    { resources := none
      volumeMounts := [⟨configVolume, "/kubedoop/mount/config/vector"⟩,
        ⟨logVolume, "/kubedoop/log/"⟩, ⟨"vector-data", "/kubedoop/vector/var"⟩]
      volumes := [⟨"vector-data", .emptyDir (.mebi 10)⟩] }
  getAuthenticationClass := fun _ _ => .error .notFound
  getObject := fun t =>
    .ok { t with containers := t.containers.mergeSort fun a b => a.name ≤ b.name }
  getObject_containers := fun h => by
    cases h
    exact List.mergeSort_perm _ _

theorem plainFramework_writesVectorYaml : plainFramework.WritesVectorYaml := by
  intro info name text h
  rw [← Except.ok.inj h]
  simp

/-- The claims of NameNode pods are made as soon as there are settings. -/
theorem getVolumeClaimTemplates_ok {b : StatefulSetBuilder} {spec : RoleGroupConfigSpec}
    (hspec : b.config.roleGroupConfigSpec = some spec) :
    ∃ claims, b.getVolumeClaimTemplates .nameNode = .ok claims := by
  have hdata : ∃ claim, b.createDataPvcTemplate .nameNode = .ok claim := by
    simp only [StatefulSetBuilder.createDataPvcTemplate,
      StatefulSetBuilder.createDefaultedDataPvcTemplate, hspec, deref_some, Go.ok_bind]
    cases spec.resources.bind ResourcesSpec.storage with
    | none => exact ⟨_, rfl⟩
    | some storage => exact ⟨_, rfl⟩
  obtain ⟨claim, hclaim⟩ := hdata
  exact ⟨_, Go.bind_eq_ok.mpr ⟨claim, hclaim, rfl⟩⟩

section Small

variable (clusterConfig : ClusterConfigSpec) {cfg : ConfigSpec}

/-- The NameNode group has a pod template. -/
theorem nameNodeGroupWith_componentTemplate (cfg : ConfigSpec) :
    ∃ t, ((nameNodeGroupWith clusterConfig).statefulSetBuilder .nameNode "default"
      (completed .nameNode cfg)).componentTemplate plainPods .stored .nameNode = .ok t := by
  obtain ⟨spec, hspec⟩ := (completes_completed .nameNode cfg).roleGroupConfigSpec
  obtain ⟨claims, hclaims⟩ := getVolumeClaimTemplates_ok
    (b := (nameNodeGroupWith clusterConfig).statefulSetBuilder .nameNode "default"
      (completed .nameNode cfg)) hspec
  exact ⟨_, Go.bind_eq_ok.mpr ⟨_, rfl, Go.bind_eq_ok.mpr ⟨_, rfl, Go.bind_eq_ok.mpr
    ⟨claims, hclaims, rfl⟩⟩⟩⟩

/-- Without security and without the log agent the stateful set of the NameNode group is built. -/
theorem oneNameNodeGroup_statefulSet (h : VectorDisabled cfg) :
    ∃ sts, oneNameNodeGroup.statefulSet plainPods .stored .nameNode "default"
      (completed .nameNode cfg) = .ok sts := by
  obtain ⟨t, ht⟩ := nameNodeGroupWith_componentTemplate {} cfg
  obtain ⟨object, hobject⟩ : ∃ object, plainPods.getObject t = .ok object := ⟨_, rfl⟩
  refine ⟨⟨object, oneNameNodeGroup.name.val ++ "-sa"⟩, Go.bind_eq_ok.mpr ⟨t, ht,
    Go.bind_eq_ok.mpr ⟨t, addVectorContainer_of_disabled h (completes_completed .nameNode cfg) _ _,
      Go.bind_eq_ok.mpr ⟨t, rfl, ?_⟩⟩⟩⟩
  rw [hobject]
  exact Go.bind_eq_ok.mpr ⟨_, createServiceAccountName_eq _, rfl⟩

/-- The overrides leave a ConfigMap for the NameNode group. -/
theorem nameNodeGroupWith_overridden (htls : isTlsEnabled clusterConfig = false)
    (cfg : ConfigSpec) (overrides : Option OverridesSpec) :
    ∃ info data, clusterComponents (nameNodeGroupWith clusterConfig) (RunOrders.stored).populate =
        .ok info ∧
      (newConfigMapBuilder plainFramework
        ((nameNodeGroupWith clusterConfig).builder info .nameNode "default" overrides)
        (RunOrders.stored).site .nameNode (some (completed .nameNode cfg))).overridden
          ⟨.stored, .stored⟩ = .ok data := by
  obtain ⟨configs, hconfigs⟩ := buildConfig_ok (c := nameNodeGroupWith clusterConfig)
    (g := "default") (n := 2) (HdfsCluster.ofReplicas_replicasSet _ _ _ _) rfl (by decide)
    (by decide) htls plainFramework .stored .nameNode overrides
  obtain ⟨info, hinfo, hconfigs⟩ := Go.bind_eq_ok.mp hconfigs
  obtain ⟨data, hdata⟩ := ConfigMapBuilder.overridden_ok (b := newConfigMapBuilder plainFramework
    ((nameNodeGroupWith clusterConfig).builder info .nameNode "default" overrides)
    (RunOrders.stored).site .nameNode (some (completed .nameNode cfg))) hconfigs
    ⟨.stored, .stored⟩
  exact ⟨info, data, hinfo, hdata⟩

/-- Without the log agent the ConfigMap of the NameNode group is built. -/
theorem nameNodeGroupWith_configMap_ok (htls : isTlsEnabled clusterConfig = false)
    (h : VectorDisabled cfg) (overrides : Option OverridesSpec) :
    ∃ data, (nameNodeGroupWith clusterConfig).configMap plainFramework .stored .nameNode "default"
      overrides (some (completed .nameNode cfg)) ⟨.stored, .stored⟩ = .ok data := by
  obtain ⟨info, data, hinfo, hdata⟩ := nameNodeGroupWith_overridden clusterConfig htls cfg overrides
  refine ⟨data, Go.bind_eq_ok.mpr ⟨info, hinfo, ?_⟩⟩
  rw [ConfigMapBuilder.build, hdata, Go.ok_bind]
  exact addVectorConfig_of_disabled h (completes_completed .nameNode cfg) rfl _ _

end Small

/-- The two builders decide alike and do not panic exactly when the log settings say whether the
agent is on, and the overrides bring no configuration for an agent that is not. -/
theorem vectorAgrees_iff (cfg : ConfigSpec) (overrides : Option OverridesSpec) :
    VectorAgrees cfg overrides ↔
      ¬VectorUnset cfg ∧ (OverridesVectorConfig overrides → VectorEnabled cfg) := by
  constructor
  · intro h
    have hset : ¬VectorUnset cfg := by
      intro hu
      exact h.containerSafe .nameNode plainPods
        (oneNameNodeGroup.statefulSetBuilder .nameNode "default" (completed .nameNode cfg))
        ⟨[], [], [], []⟩ _ (completes_completed _ cfg)
        (addVectorContainer_of_unset hu (completes_completed .nameNode cfg) _ _)
    refine ⟨hset, fun hoverrides => ?_⟩
    rcases vector_cases cfg with hd | he | hu
    · obtain ⟨sts, hsts⟩ := oneNameNodeGroup_statefulSet hd
      obtain ⟨data, hdata⟩ := nameNodeGroupWith_configMap_ok {} rfl hd overrides
      have hc := completes_completed .nameNode cfg
      obtain ⟨hpods, hconfig⟩ := vector_of_builds hc plainFramework_writesVectorYaml hsts hdata
      have hagree := h.agree .nameNode oneNameNodeGroup "default" _ plainPods plainFramework .stored
        .stored ⟨.stored, .stored⟩ sts data hc plainFramework_writesVectorYaml hsts hdata
      exact hpods.mp (hagree.mpr (hconfig.mpr (.inr hoverrides)))
    · exact he
    · exact absurd hu hset
  · rintro ⟨hset, hoverrides⟩
    refine ⟨?_, ?_, fun hu => absurd hu hset, fun hu => absurd hu hset, ?_⟩
    · intro r fw b t p hb
      exact addVectorContainer_ne_panic hset hb fw t p
    · intro r fw b settings data p hc hb
      exact addVectorConfig_ne_panic hset hc hb fw data p
    · intro r c g settings pods fw wait o d sts data hc hfw hsts hdata
      obtain ⟨hpods, hconfig⟩ := vector_of_builds hc hfw hsts hdata
      rw [hpods, hconfig]
      exact ⟨.inl, fun h => h.elim id hoverrides⟩

/-- Log settings that do not mention the agent. -/
def quietLogging : ConfigSpec where
  roleGroupConfigSpec := some { logging := some { enableVectorAgent := none } }

/-- Both builders panic on them. -/
theorem quietLogging_panics :
    oneNameNodeGroup.statefulSet plainPods .stored .nameNode "default"
        (completed .nameNode quietLogging) = .error (.panic .nilDereference) ∧
      oneNameNodeGroup.configMap plainFramework .stored .nameNode "default" none
        (some (completed .nameNode quietLogging)) ⟨.stored, .stored⟩ =
          .error (.panic .nilDereference) := by
  have hunset : VectorUnset quietLogging := ⟨_, rfl, rfl⟩
  constructor
  · obtain ⟨t, ht⟩ := nameNodeGroupWith_componentTemplate {} quietLogging
    exact Go.bind_eq_error.mpr (.inr ⟨t, ht, Go.bind_eq_error.mpr
      (.inl (addVectorContainer_of_unset hunset (completes_completed .nameNode _) _ _))⟩)
  · obtain ⟨info, data, hinfo, hdata⟩ := nameNodeGroupWith_overridden {} rfl quietLogging none
    exact Go.bind_eq_error.mpr (.inr ⟨info, hinfo, Go.bind_eq_error.mpr (.inr ⟨data, hdata,
      addVectorConfig_of_unset hunset (completes_completed .nameNode _) rfl _ _⟩)⟩)

end HdfsOperator
