import HdfsOperator.Correctness.Containers
import HdfsOperator.Correctness.Registration

/-!
# Role groups that are built

A role group needs a stateful set, a script for each container and a ConfigMap. The builders read
the settings that the loop over the groups of the role has left, in several steps that can fail or
panic. When the framework and the API server do their part, which steps succeed depends on the
specification and on the order of the loop.
-/

namespace HdfsOperator

/-- Templates are rendered, objects are made, and an `AuthenticationClass` that is there is read. -/
structure PodFramework.Works (pods : PodFramework) : Prop where
  parser : pods.parser.Lawful
  getObject : ∀ t, ∃ t', pods.getObject t = .ok t'
  getAuthenticationClass : ∀ nameSpace name err,
    pods.getAuthenticationClass nameSpace name ≠ .error (.other err)

/-- Documents and configurations of log agents are written. -/
structure Framework.Works (fw : Framework) : Prop where
  marshal : ∀ entries, ∃ text, fw.marshal entries = .ok text
  makeVectorYaml : ∀ info name, ∃ text, fw.makeVectorYaml info name = .ok text

/-- The log settings say whether the agent is on, and an agent that is on has an aggregator. -/
def VectorConfigured (c : HdfsCluster) (cfg : ConfigSpec) : Prop :=
  ¬VectorUnset cfg ∧ (VectorEnabled cfg → c.clusterConfig.vectorAggregatorConfigMapName ≠ "")

/-- The condition on the log settings reads nothing else. -/
theorem VectorConfigured.congr {c : HdfsCluster} {cfg cfg' : ConfigSpec}
    (h : cfg.logging = cfg'.logging) : VectorConfigured c cfg ↔ VectorConfigured c cfg' := by
  simp only [VectorConfigured, VectorUnset, VectorEnabled, h]

/-- Log settings that turn the agent off say so. -/
theorem not_unset_of_disabled {cfg : ConfigSpec} (h : VectorDisabled cfg) : ¬VectorUnset cfg := by
  rintro ⟨logging, hl, hnone⟩
  rw [h logging hl] at hnone
  cases hnone

/-- Log settings that turn the agent on say so. -/
theorem not_unset_of_enabled {cfg : ConfigSpec} (h : VectorEnabled cfg) : ¬VectorUnset cfg := by
  rintro ⟨logging, hl, hnone⟩
  obtain ⟨logging', hl', hon⟩ := h
  rw [hl, Option.some.injEq] at hl'
  rw [← hl', hnone] at hon
  cases hon

namespace HdfsCluster

/-- Everything that a role group needs is built, with the given settings. -/
structure Builds (c : HdfsCluster) (pods : PodFramework) (inputs : ContainerInputs)
    (fw : Framework) (order : RangeOrder) (o : RunOrders) (d : BuildOrders) (r : Role)
    (g : String) (overrides : Option OverridesSpec) (settings : ConfigSpec) : Prop where
  statefulSet : ∃ sts, c.statefulSet pods order r g settings = .ok sts
  containers : ∀ k ∈ roleComponents r, ∃ spec,
    (c.statefulSetBuilder r g settings).containerSpec inputs order k = .ok spec
  configMap : ∃ data, c.configMap fw o r g overrides (some settings) d = .ok data

end HdfsCluster

section Scripts

variable {c : HdfsCluster} {r : Role} {g : String}

/-- A cluster with a NameNode group has the NameNode role. -/
theorem HdfsCluster.nameNode_ne_none (hg : g ∈ (c.groups .nameNode).keys) : c.nameNode ≠ none := by
  intro hnone
  rw [groups_nameNode_of_none hnone] at hg
  exact List.not_mem_nil hg

/-- The replica count of a group of a sized role. -/
theorem HdfsCluster.Sized.statefulSetBuilder_replicas (hsized : c.Sized r)
    (hg : g ∈ (c.groups r).keys) (settings : ConfigSpec) :
    ∃ n : Int32, (c.statefulSetBuilder r g settings).replicas = some n ∧ 0 ≤ n.toInt := by
  obtain ⟨s, hs⟩ := Option.isSome_iff_exists.mp (AList.lookup_isSome.mpr (AList.mem_keys.mpr hg))
  obtain ⟨n, hn, hsize⟩ := hsized g s hs
  refine ⟨n, ?_, hsize⟩
  rw [statefulSetBuilder, hs, Option.bind_some, hn]

/-- The pods that the script of a container lists can be listed. -/
theorem ContainerComponent.ids_ok (hsized : ∀ r, c.Sized r) (hg : g ∈ (c.groups r).keys)
    (hnameNode : c.nameNode ≠ none) {k : ContainerComponent} (hk : k ∈ roleComponents r)
    (settings : ConfigSpec) (order : RangeOrder) :
    ∃ ids, k.ids (c.statefulSetBuilder r g settings) order = .ok ids := by
  cases k with
  | formatNameNode =>
    have hr : r = .nameNode := by
      cases r with
      | nameNode => rfl
      | dataNode => exact absurd hk (by decide)
      | journalNode => exact absurd hk (by decide)
    subst hr
    obtain ⟨n, hn, hsize⟩ := (hsized .nameNode).statefulSetBuilder_replicas hg settings
    exact ⟨_, Go.bind_eq_ok.mpr ⟨n, by rw [hn, deref_some], Go.bind_eq_ok.mpr
      ⟨_, createPodNamesByReplicas_eq_ok.mpr ⟨hsize, rfl⟩, rfl⟩⟩⟩
  | waitForNameNodes => exact ⟨_, nameNodeIds_eq_ok.mpr ⟨hnameNode, hsized .nameNode, rfl⟩⟩
  | nameNode | zkfc | formatZookeeper | dataNode | journalNode | oidc => exact ⟨_, rfl⟩

/-- The scripts of all containers of a role are rendered. -/
theorem containerSpec_ok (hsized : ∀ r, c.Sized r) (hg : g ∈ (c.groups r).keys)
    (hnameNode : c.nameNode ≠ none) {inputs : ContainerInputs} (hinputs : inputs.Lawful)
    (hbrace : '{' ∉ g.toList) (hgroups : ∀ p ∈ c.nameNodePods, '{' ∉ p.group.toList)
    {k : ContainerComponent} (hk : k ∈ roleComponents r) (settings : ConfigSpec)
    (order : RangeOrder) :
    ∃ spec, (c.statefulSetBuilder r g settings).containerSpec inputs order k = .ok spec := by
  obtain ⟨hoidc, -⟩ := roleComponents_facts r k hk
  obtain ⟨ids, hids⟩ := ContainerComponent.ids_ok hsized hg hnameNode hk settings order
  have hargs := ContainerComponent.getArgs_eq order hinputs.parser hinputs.bash
    (b := c.statefulSetBuilder r g settings) hbrace hgroups hoidc
  rw [hids, Go.ok_bind] at hargs
  exact ⟨_, Go.bind_eq_ok.mpr ⟨_, hargs, rfl⟩⟩

end Scripts

section StatefulSet

variable {c : HdfsCluster} {r : Role} {g : String} {pods : PodFramework}

/-- The init containers of a role are built. -/
theorem getInitContainers_ok (hpods : pods.Works) (hsized : ∀ r, c.Sized r)
    (hg : g ∈ (c.groups r).keys) (hnameNode : c.nameNode ≠ none)
    (hgroups : ∀ p ∈ c.nameNodePods, '{' ∉ p.group.toList) (settings : ConfigSpec)
    (order : RangeOrder) :
    ∃ l, (c.statefulSetBuilder r g settings).getInitContainers pods order r = .ok l := by
  cases r with
  | nameNode =>
    -- The container is built as soon as the pods in its script can be listed.
    obtain ⟨ids, hids⟩ := ContainerComponent.ids_ok hsized hg hnameNode
      (k := .formatNameNode) (by decide) settings order
    obtain ⟨n, hn, hids⟩ := Go.bind_eq_ok.mp hids
    obtain ⟨podNames, hpodNames, -⟩ := Go.bind_eq_ok.mp hids
    exact ⟨_, Go.bind_eq_ok.mpr ⟨_, Go.bind_eq_ok.mpr ⟨n, hn, Go.bind_eq_ok.mpr
      ⟨podNames, hpodNames, rfl⟩⟩, rfl⟩⟩
  | dataNode =>
    have hargs := getArgs_eq_waitScript hpods.parser hgroups order
    rw [nameNodeIds_eq_ok.mpr ⟨hnameNode, hsized .nameNode, rfl⟩, Go.ok_bind] at hargs
    exact ⟨_, Go.bind_eq_ok.mpr ⟨_, Go.bind_eq_ok.mpr ⟨_, hargs, rfl⟩, rfl⟩⟩
  | journalNode => exact ⟨_, rfl⟩

/-- DataNodes have a listener class after the defaults were filled in. -/
theorem completed_listenerClass (cfg : ConfigSpec) : (completed .dataNode cfg).listenerClass =
    some (cfg.listenerClass.getD clusterInternal) := by
  have hdefault : (defaultRoleConfig .dataNode).listenerClass = clusterInternal := rfl
  have hne : clusterInternal ≠ "" := by decide
  cases h : cfg.listenerClass with
  | none => simp [completed, RoleNodeConfig.mergeDefaultConfig, h, hdefault, hne]
  | some listenerClass => simp [completed, RoleNodeConfig.mergeDefaultConfig, h]

/-- The volumes of a role are listed. -/
theorem getVolumes_ok (c : HdfsCluster) (r : Role) (g : String) (cfg : ConfigSpec) :
    ∃ l, (c.statefulSetBuilder r g (completed r cfg)).getVolumes r = .ok l := by
  cases r with
  | dataNode =>
    have hclass : deref (completed .dataNode cfg).listenerClass = .ok _ :=
      (congrArg deref (completed_listenerClass cfg)).trans (deref_some _)
    exact ⟨_, Go.bind_eq_ok.mpr ⟨_, Go.bind_eq_ok.mpr ⟨_, hclass, rfl⟩, rfl⟩⟩
  | nameNode | journalNode => exact ⟨_, rfl⟩

/-- Of DataNodes the claim for data is made only when a size is left after the merge; the other
roles have a size to fall back on. -/
theorem createDataPvcTemplate_ok_iff (c : HdfsCluster) (r : Role) (g : String)
    (cfg : ConfigSpec) :
    (∃ claim, (c.statefulSetBuilder r g (completed r cfg)).createDataPvcTemplate r = .ok claim) ↔
      (r = .dataNode → ¬StorageOnly cfg) := by
  have hresources := RoleNodeConfig.mergeDefaultConfig_resources (defaultRoleConfig r) cfg
  by_cases h : StorageOnly cfg
  · have hstorage := mergeResources_storage_of_storageOnly (defaultRoleConfig r) h
    have hspec := RoleNodeConfig.mergeDefaultConfig_roleGroupConfigSpec (defaultRoleConfig r) cfg
    cases r with
    | dataNode =>
      refine iff_of_false ?_ fun hnot => hnot rfl h
      rintro ⟨claim, hclaim⟩
      simp [StatefulSetBuilder.createDataPvcTemplate,
        StatefulSetBuilder.createDataNodeDataPvcTemplate, HdfsCluster.statefulSetBuilder, completed,
        hspec, hstorage, deref] at hclaim
    | nameNode | journalNode =>
      refine iff_of_true ⟨StatefulSetBuilder.dataClaim (.gibi 10), ?_⟩
        fun hr => absurd hr (by decide)
      simp only [StatefulSetBuilder.createDataPvcTemplate,
        StatefulSetBuilder.createDefaultedDataPvcTemplate, HdfsCluster.statefulSetBuilder,
        completed, hspec, hstorage, deref_some, Go.ok_bind, Option.bind_some]
      rfl
  · obtain ⟨cpu, memory, storage, hdefault, -, -⟩ := RoleNodeConfig.defaultRoleConfig_resources r
    have hmerged := mergeResources_storage (defaultRoleConfig r) h
    rw [hdefault] at hmerged
    have hset : ∃ s, ((defaultRoleConfig r).mergeResources cfg.resources).storage = some s := by
      rw [hmerged]
      cases cfg.resources.bind ResourcesSpec.storage with
      | none => exact ⟨storage, rfl⟩
      | some s => exact ⟨s, rfl⟩
    obtain ⟨s, hs⟩ := hset
    exact iff_of_true ⟨_, createDataPvcTemplate_of_storage
      (b := c.statefulSetBuilder r g (completed r cfg)) hresources hs r⟩ fun _ => h

/-- The claims of a role are made when that for data is. -/
theorem getVolumeClaimTemplates_ok_iff (c : HdfsCluster) (r : Role) (g : String)
    (cfg : ConfigSpec) :
    (∃ l, (c.statefulSetBuilder r g (completed r cfg)).getVolumeClaimTemplates r = .ok l) ↔
      (r = .dataNode → ¬StorageOnly cfg) := by
  rw [← createDataPvcTemplate_ok_iff c r g cfg]
  constructor
  · rintro ⟨l, hl⟩
    obtain ⟨claim, hclaim, -⟩ := Go.bind_eq_ok.mp hl
    exact ⟨claim, hclaim⟩
  · rintro ⟨claim, hclaim⟩
    cases r <;> exact ⟨_, Go.bind_eq_ok.mpr ⟨claim, hclaim, rfl⟩⟩

/-- The step for the log agent succeeds when the settings say whether it is on. -/
theorem addVectorContainer_ok_iff (c : HdfsCluster) (r : Role) (g : String) (cfg : ConfigSpec)
    (pods : PodFramework) (t : PodTemplate) :
    (∃ t', (c.statefulSetBuilder r g (completed r cfg)).addVectorContainer pods t = .ok t') ↔
      ¬VectorUnset cfg := by
  constructor
  · rintro ⟨t', ht'⟩ hunset
    rw [addVectorContainer_of_unset hunset (completes_completed r cfg)] at ht'
    cases ht'
  · intro hset
    rw [StatefulSetBuilder.addVectorContainer_eq, HdfsCluster.statefulSetBuilder,
      completed_logging]
    rcases vector_cases cfg with hd | he | hu
    · rw [isVectorEnable_of_disabled hd]
      exact ⟨t, rfl⟩
    · rw [isVectorEnable_of_enabled he]
      exact ⟨_, rfl⟩
    · exact absurd hu hset

/-- The step for the OIDC proxy succeeds. -/
theorem addOIDCContainer_ok (hpods : pods.Works) (b : StatefulSetBuilder) (t : PodTemplate) :
    ∃ t', b.addOIDCContainer pods t = .ok t' := by
  have hmake (authentication : AuthenticationSpec) :
      ∃ oidc, b.makeOidcContainer pods authentication = .ok oidc := by
    unfold StatefulSetBuilder.makeOidcContainer
    split
    · exact ⟨none, rfl⟩
    · next err herr => exact absurd herr (hpods.getAuthenticationClass _ _ err)
    · split
      · exact ⟨none, rfl⟩
      · exact ⟨_, rfl⟩
  unfold StatefulSetBuilder.addOIDCContainer
  split
  · exact ⟨t, rfl⟩
  · next authentication _ =>
    split
    · exact ⟨t, rfl⟩
    · obtain ⟨oidc, hoidc⟩ := hmake authentication
      exact ⟨_, Go.bind_eq_ok.mpr ⟨oidc, hoidc, rfl⟩⟩

/-- In a cluster with NameNodes, a stateful set is built exactly when the settings name a size for
the data volume and say whether the log agent is on. -/
theorem statefulSet_ok_iff (hpods : pods.Works) (hsized : ∀ r, c.Sized r)
    (hg : g ∈ (c.groups r).keys) (hnameNode : c.nameNode ≠ none)
    (hgroups : ∀ p ∈ c.nameNodePods, '{' ∉ p.group.toList) (cfg : ConfigSpec)
    (order : RangeOrder) :
    (∃ sts, c.statefulSet pods order r g (completed r cfg) = .ok sts) ↔
      (r = .dataNode → ¬StorageOnly cfg) ∧ ¬VectorUnset cfg := by
  constructor
  · rintro ⟨sts, hsts⟩
    obtain ⟨component, hcomponent, hsts⟩ := Go.bind_eq_ok.mp hsts
    obtain ⟨vector, hvector, -⟩ := Go.bind_eq_ok.mp hsts
    obtain ⟨_, -, hcomponent⟩ := Go.bind_eq_ok.mp hcomponent
    obtain ⟨_, -, hcomponent⟩ := Go.bind_eq_ok.mp hcomponent
    obtain ⟨claims, hclaims, -⟩ := Go.bind_eq_ok.mp hcomponent
    exact ⟨(getVolumeClaimTemplates_ok_iff c r g cfg).mp ⟨claims, hclaims⟩,
      (addVectorContainer_ok_iff c r g cfg pods component).mp ⟨vector, hvector⟩⟩
  · rintro ⟨hstorage, hset⟩
    obtain ⟨initContainers, hinit⟩ := getInitContainers_ok hpods hsized hg hnameNode hgroups
      (completed r cfg) order
    obtain ⟨volumes, hvolumes⟩ := getVolumes_ok c r g cfg
    obtain ⟨claims, hclaims⟩ := (getVolumeClaimTemplates_ok_iff c r g cfg).mpr hstorage
    have hcomponent : ∃ t, (c.statefulSetBuilder r g (completed r cfg)).componentTemplate pods
        order r = .ok t :=
      ⟨_, Go.bind_eq_ok.mpr ⟨_, hinit, Go.bind_eq_ok.mpr ⟨_, hvolumes, Go.bind_eq_ok.mpr
        ⟨_, hclaims, rfl⟩⟩⟩⟩
    obtain ⟨component, hcomponent⟩ := hcomponent
    obtain ⟨vector, hvector⟩ := (addVectorContainer_ok_iff c r g cfg pods component).mpr hset
    obtain ⟨oidc, hoidc⟩ := addOIDCContainer_ok hpods
      (c.statefulSetBuilder r g (completed r cfg)) vector
    obtain ⟨object, hobject⟩ := hpods.getObject oidc
    refine ⟨⟨object, c.name.val ++ "-sa"⟩, Go.bind_eq_ok.mpr ⟨component, hcomponent,
      Go.bind_eq_ok.mpr ⟨vector, hvector, Go.bind_eq_ok.mpr ⟨oidc, hoidc, ?_⟩⟩⟩⟩
    rw [hobject]
    exact Go.bind_eq_ok.mpr ⟨_, createServiceAccountName_eq c.name, rfl⟩

end StatefulSet

section ConfigMap

variable {c : HdfsCluster} {r : Role} {g : String} {fw : Framework}

/-- The TLS documents are written. -/
theorem makeSslData_ok (hfw : fw.Works) (clusterSpec : ClusterConfigSpec)
    (entries : TlsSpec → List (String × String)) :
    ∃ text, makeSslData fw clusterSpec entries = .ok text := by
  unfold makeSslData
  split
  · next htls =>
    obtain ⟨authentication, tls, hauth, hsome⟩ : ∃ authentication tls,
        clusterSpec.authentication = some authentication ∧ authentication.tls = some tls := by
      simpa [isTlsEnabled, Option.any_eq_true, Option.isSome_iff_exists] using htls
    obtain ⟨text, htext⟩ := hfw.marshal (.ofList (entries tls))
    exact ⟨text, by simp only [hauth, hsome, deref_some, Go.ok_bind, mustMarshal, htext]⟩
  · exact ⟨emptyXmlConfig, rfl⟩

/-- The files of a role group are written exactly when a NameNode group has its name. -/
theorem buildConfig_ok_iff (hfw : fw.Works) (hsized : ∀ r, c.Sized r) (hpercent : '%' ∉ g.toList)
    (o : RunOrders) (r : Role) (overrides : Option OverridesSpec) :
    (∃ configs, c.buildConfig fw o r g overrides = .ok configs) ↔
      g ∈ (c.groups .nameNode).keys := by
  have hset : ∀ r, c.ReplicasSet r := fun r => (hsized r).replicasSet
  constructor
  · rintro ⟨configs, hconfigs⟩
    obtain ⟨info, hinfo, hconfigs⟩ := Go.bind_eq_ok.mp hconfigs
    by_contra hg
    have hnil := (buildConfig_eq_nilDereference_iff
      (clusterComponents_populated hinfo) fw o.site r g overrides).mpr
      ((nameNodeReplicas_eq_none_iff (hset .nameNode)).mpr hg)
    rw [hnil] at hconfigs
    cases hconfigs
  · intro hg
    obtain ⟨n, hn, hsize⟩ := (hsized .nameNode).statefulSetBuilder_replicas hg {}
    obtain ⟨text, hsite⟩ := HdfsCluster.hdfsSite_ok hset hn hsize hpercent o r
    obtain ⟨info, hinfo, hsite⟩ := Go.bind_eq_ok.mp hsite
    rw [← makeHdfsSiteData_overrides overrides] at hsite
    obtain ⟨sslClient, hclient⟩ := makeSslData_ok hfw c.clusterConfig _
    obtain ⟨sslServer, hserver⟩ := makeSslData_ok hfw c.clusterConfig _
    exact ⟨_, Go.bind_eq_ok.mpr ⟨info, hinfo, buildConfig_eq_ok.mpr
      ⟨_, text, sslClient, sslServer, makeCoreSiteData_eq info r g overrides, hsite,
        hclient, hserver, rfl⟩⟩⟩

/-- The step for the log agent succeeds exactly when the settings of the agent are complete. -/
theorem addVectorConfig_ok_iff (hfw : fw.Works) {cfg : ConfigSpec} {b : ConfigMapBuilder}
    (hb : b.roleConfig = some (completed r cfg))
    (hname : b.vectorAggregatorConfigMapName = c.clusterConfig.vectorAggregatorConfigMapName)
    (files : GoMap String) :
    (∃ data, b.addVectorConfig fw files = .ok data) ↔ VectorConfigured c cfg := by
  rcases vector_cases cfg with hd | he | hu
  · exact iff_of_true ⟨files, addVectorConfig_of_disabled hd
      (completes_completed r cfg) hb fw files⟩
      ⟨not_unset_of_disabled hd, fun he => absurd he (not_enabled_of_disabled hd)⟩
  · obtain ⟨spec, hspec⟩ := (completes_completed r cfg).roleGroupConfigSpec
    obtain ⟨text, htext⟩ := hfw.makeVectorYaml b.roleGroupInfo b.vectorAggregatorConfigMapName
    rw [ConfigMapBuilder.addVectorConfig_eq hb hspec, completed_logging,
      isVectorEnable_of_enabled he, Go.ok_bind, if_pos rfl]
    have hbuild : b.buildVectorConfig fw cfg.logging =
        if b.vectorAggregatorConfigMapName = "" then
          .error (.error "vector is enabled but vectorAggregatorConfigMapName is not set")
        else .ok text := by
      obtain ⟨logging, hl, hon⟩ := he
      simp only [ConfigMapBuilder.buildVectorConfig, hl, Option.bind_some, hon, htext, if_true]
    rw [hbuild, hname]
    constructor
    · rintro ⟨data, hdata⟩
      refine ⟨not_unset_of_enabled he, fun _ hempty => ?_⟩
      rw [if_pos hempty] at hdata
      cases hdata
    · rintro ⟨-, hne⟩
      rw [if_neg (hne he)]
      exact ⟨_, rfl⟩
  · refine iff_of_false ?_ fun h => h.1 hu
    rintro ⟨data, hdata⟩
    rw [addVectorConfig_of_unset hu (completes_completed r cfg) hb] at hdata
    cases hdata

/-- A ConfigMap is built exactly when a NameNode group has the name of the role group and the
settings of the log agent are complete. -/
theorem configMap_ok_iff (hfw : fw.Works) (hsized : ∀ r, c.Sized r) (hpercent : '%' ∉ g.toList)
    (o : RunOrders) (d : BuildOrders) (overrides : Option OverridesSpec) (cfg : ConfigSpec) :
    (∃ data, c.configMap fw o r g overrides (some (completed r cfg)) d = .ok data) ↔
      g ∈ (c.groups .nameNode).keys ∧ VectorConfigured c cfg := by
  rw [← buildConfig_ok_iff hfw hsized hpercent o r overrides]
  constructor
  · rintro ⟨data, hdata⟩
    obtain ⟨info, hinfo, hdata⟩ := Go.bind_eq_ok.mp hdata
    rw [ConfigMapBuilder.build] at hdata
    obtain ⟨files, hfiles, hdata⟩ := Go.bind_eq_ok.mp hdata
    obtain ⟨configs, hconfigs, -⟩ := Go.bind_eq_ok.mp hfiles
    exact ⟨⟨configs, Go.bind_eq_ok.mpr ⟨info, hinfo, hconfigs⟩⟩,
      (addVectorConfig_ok_iff hfw rfl rfl files).mp ⟨data, hdata⟩⟩
  · rintro ⟨⟨configs, hconfigs⟩, hvector⟩
    obtain ⟨info, hinfo, hconfigs⟩ := Go.bind_eq_ok.mp hconfigs
    obtain ⟨files, hfiles⟩ := ConfigMapBuilder.overridden_ok
      (b := newConfigMapBuilder fw (c.builder info r g overrides) o.site r
        (some (completed r cfg))) hconfigs d
    obtain ⟨data, hdata⟩ := (addVectorConfig_ok_iff (c := c) (r := r)
      (b := newConfigMapBuilder fw (c.builder info r g overrides) o.site r
        (some (completed r cfg))) hfw rfl rfl files).mpr hvector
    exact ⟨data, Go.bind_eq_ok.mpr ⟨info, hinfo, Go.bind_eq_ok.mpr ⟨files, hfiles, hdata⟩⟩⟩

end ConfigMap

/-- With settings that were completed, a role group is built exactly when a NameNode group has its
name, the settings of the log agent are complete and, for DataNodes, a size was not the only
resource that was set. -/
theorem builds_completed_iff {c : HdfsCluster} {pods : PodFramework} {inputs : ContainerInputs}
    {fw : Framework} {r : Role} {g : String} (hpods : pods.Works) (hinputs : inputs.Lawful)
    (hfw : fw.Works) (hsized : ∀ r, c.Sized r) (hg : g ∈ (c.groups r).keys)
    (hpercent : '%' ∉ g.toList) (hbrace : '{' ∉ g.toList)
    (hgroups : ∀ p ∈ c.nameNodePods, '{' ∉ p.group.toList) (order : RangeOrder) (o : RunOrders)
    (d : BuildOrders) (overrides : Option OverridesSpec) (cfg : ConfigSpec) :
    c.Builds pods inputs fw order o d r g overrides (completed r cfg) ↔
      g ∈ (c.groups .nameNode).keys ∧ VectorConfigured c cfg ∧
        (r = .dataNode → ¬StorageOnly cfg) := by
  constructor
  · intro h
    obtain ⟨hname, hvector⟩ := (configMap_ok_iff hfw hsized hpercent o d overrides cfg).mp
      h.configMap
    have hnameNode := HdfsCluster.nameNode_ne_none hname
    exact ⟨hname, hvector, ((statefulSet_ok_iff hpods hsized hg hnameNode hgroups cfg order).mp
      h.statefulSet).1⟩
  · rintro ⟨hname, hvector, hstorage⟩
    have hnameNode := HdfsCluster.nameNode_ne_none hname
    refine ⟨?_, ?_, ?_⟩
    · exact (statefulSet_ok_iff hpods hsized hg hnameNode hgroups cfg order).mpr
        ⟨hstorage, hvector.1⟩
    · intro k hk
      exact containerSpec_ok hsized hg hnameNode hinputs hbrace hgroups hk (completed r cfg) order
    · exact (configMap_ok_iff hfw hsized hpercent o d overrides cfg).mpr ⟨hname, hvector⟩

/-- After the loop over the groups of its role, a role group is built exactly when a NameNode group
has its name, its log settings are complete and, for DataNodes, completing the settings that the
earlier rounds have left does not drop the size of the data volume. -/
theorem roleGroup_built_iff {c : HdfsCluster} {pods : PodFramework} {inputs : ContainerInputs}
    {fw : Framework} {merge : MergeConfig} {r : Role} {g : String} {spec : RoleSpec}
    {group : RoleGroupSpec} {merged : Option ConfigSpec} (hpods : pods.Works)
    (hinputs : inputs.Lawful) (hfw : fw.Works) (hmerge : merge.Lawful) (hsized : ∀ r, c.Sized r)
    (hspec : c.role r = some spec) (hgroup : spec.roleGroups.lookup g = some group)
    (hmerged : mergeObject merge spec.config group.config = .ok merged)
    (hpercent : '%' ∉ g.toList) (hbrace : '{' ∉ g.toList)
    (hgroups : ∀ p ∈ c.nameNodePods, '{' ∉ p.group.toList) (register order : RangeOrder)
    (o : RunOrders) (d : BuildOrders) (overrides : Option OverridesSpec) :
    (∃ settings, c.registeredConfig merge r register g = .ok settings ∧
        c.Builds pods inputs fw order o d r g overrides settings) ↔
      g ∈ (c.groups .nameNode).keys ∧ VectorConfigured c (merged.getD {}) ∧
        (r = .dataNode →
          ¬DropsSize (spec.earlierRounds register g group) spec.config group.config) := by
  obtain ⟨base, hbase, hregistered⟩ := exists_registeredConfig hmerge hspec hgroup register
  have hg : g ∈ (c.groups r).keys := by
    rw [HdfsCluster.groups, hspec]
    exact AList.mem_keys.mp (AList.lookup_isSome.mp (Option.isSome_iff_exists.mpr ⟨group, hgroup⟩))
  rw [← VectorConfigured.congr (mergeObject_logging hmerge hbase hmerged),
    ← storageOnly_merged_iff hmerge hbase, ← builds_completed_iff hpods hinputs hfw hsized hg
      hpercent hbrace hgroups order o d overrides]
  constructor
  · rintro ⟨settings, hok, hbuilds⟩
    rwa [← Except.ok.inj (hregistered.symm.trans hok)] at hbuilds
  · exact fun hbuilds => ⟨_, hregistered, hbuilds⟩

/-- The framework of the examples builds what it is asked for. -/
theorem plainPods_works : plainPods.Works where
  parser := Template.render_lawful
  getObject := fun _ => ⟨_, rfl⟩
  getAuthenticationClass := fun _ _ _ h => by cases h

theorem plainFramework_works : plainFramework.Works where
  marshal := fun _ => ⟨_, rfl⟩
  makeVectorYaml := fun _ _ => ⟨_, rfl⟩

/-- The settings of a user who removes the CPU and memory parts. -/
def zeroResources : ConfigSpec where
  roleGroupConfigSpec := some
    { resources := some
        { cpu := some { min := { value := 0 }, max := { value := 0 } }
          memory := some { limit := { value := 0 } } } }

/-- DataNodes in the given groups, with such settings for the role. -/
def zeroRole (groups : List (String × Int32)) : RoleSpec :=
  { RoleSpec.ofReplicas groups with config := some zeroResources }

/-- A cluster with such DataNodes. -/
def zeroDataNodes (groups : List (String × Int32)) : HdfsCluster :=
  { HdfsCluster.ofReplicas {} groups groups groups with dataNode := some (zeroRole groups) }

/-- A DataNode group with such settings is built if it is the only one. When there are two, the
second round drops the size that the first one has set, and neither is built. -/
theorem roleGroup_built_iff_zeroDataNodes :
    (∃ settings,
      (zeroDataNodes [("a", 1)]).registeredConfig mergeFields .dataNode .stored "a" =
          .ok settings ∧
        (zeroDataNodes [("a", 1)]).Builds plainPods frameworkInputs plainFramework .stored .stored
          ⟨.stored, .stored⟩ .dataNode "a" none settings) ∧
      ¬∃ settings,
        (zeroDataNodes [("a", 1), ("b", 1)]).registeredConfig mergeFields .dataNode .stored "a" =
            .ok settings ∧
          (zeroDataNodes [("a", 1), ("b", 1)]).Builds plainPods frameworkInputs plainFramework
            .stored .stored ⟨.stored, .stored⟩ .dataNode "a" none settings := by
  have hsized (groups : List (String × Int32)) (h : ∀ e ∈ groups ++ groups ++ groups,
      0 ≤ e.2.toInt) (r : Role) : (zeroDataNodes groups).Sized r := by
    cases r with
    | nameNode => exact HdfsCluster.ofReplicas_sized {} h .nameNode
    | dataNode => exact HdfsCluster.ofReplicas_sized {} h .dataNode
    | journalNode => exact HdfsCluster.ofReplicas_sized {} h .journalNode
  have hmerged (groups : List (String × Int32)) : mergeObject mergeFields (zeroRole groups).config
      (RoleGroupSpec.config {}) = .ok (some zeroResources) := rfl
  have hone := roleGroup_built_iff (c := zeroDataNodes [("a", 1)]) (r := .dataNode) (g := "a")
    plainPods_works frameworkInputs_lawful plainFramework_works mergeFields_lawful
    (hsized _ (by decide)) rfl rfl (hmerged _) (by decide) (by decide) (by decide +kernel) .stored
    .stored .stored ⟨.stored, .stored⟩ none
  have htwo := roleGroup_built_iff (c := zeroDataNodes [("a", 1), ("b", 1)]) (r := .dataNode)
    (g := "a") plainPods_works frameworkInputs_lawful plainFramework_works mergeFields_lawful
    (hsized _ (by decide)) rfl rfl (hmerged _) (by decide) (by decide) (by decide +kernel) .stored
    .stored .stored ⟨.stored, .stored⟩ none
  have hdisabled : VectorDisabled zeroResources := by
    rintro _ ⟨⟩
  refine ⟨hone.mpr ⟨by decide, ⟨not_unset_of_disabled hdisabled,
    fun he => absurd he (not_enabled_of_disabled hdisabled)⟩, fun _ h => ?_⟩, fun h => ?_⟩
  · have hparts : zeroResources.parts = (none, none) := h.1
    exact absurd hparts (by decide)
  · have hcleared : Cleared zeroResources := ⟨by decide, .inr ⟨by decide, by decide⟩⟩
    refine (htwo.mp h).2.2 rfl ⟨hcleared, fun hsizeless => ?_⟩
    obtain ⟨m, hm, hcpu, -⟩ := hsizeless.2.mpr ⟨0, rfl⟩
    cases hm
    cases hcpu

end HdfsOperator
